import Mathlib
import RivetGo.Data.Run
import RivetGo.Data.Utf8

/-!
# HTTP responses

`OnFetch` writes its response through a `responseWriter`. The first `WriteHeader` or
`Write` submits the start of the response, each `Write` its bytes in chunks, and
`finish`, after `OnFetch` has returned, the last chunk. The first error stays with the
writer, and nothing is submitted after it; the worker then submits the error in place
of a response. Native puts the response together under the ID of the request and
resolves the request once.

A submission that native rejects for backpressure is tried again. It ends when native
has accepted the command, or with an error; after an error the command may still be in
the queue, if only the context of the submission has ended, and native sees it then.
The writers of any number of requests share the queue. The calls on one writer exclude
each other. That a panic of the handler was recovered by the handler itself is no event
of its own. `calls` is not in the code: it records the calls that `OnFetch` has made.
-/

namespace RivetGo.Http

open Utf8 (encode decode?)

def maxHTTPChunk : Nat := 2 ^ 20

def maxHTTPResponseBytes : Nat := 16 * 2 ^ 20

def maxHTTPHeaders : Nat := 256

def maxHTTPHeaderBytes : Nat := 2 ^ 20

/-- An `http.Header`: names, which are distinct, with their values. -/
abbrev Header := List (Bytes × List Bytes)

/-- The fields of a response as they cross the boundary. -/
abbrev Fields := List (Bytes × Bytes)

/-- The errors of a writer. -/
inductive Failure where
  | headersTooLarge
  | repeatedHeaderUnsupported
  | headerTooLarge (name : Bytes)
  | contentLengthInvalid (value : Bytes)
  | contentLengthMismatch (written length : Nat)
  | bodyTooLarge
  /-- The error of a submission. -/
  | submission
  deriving DecidableEq

/-! ### The header of a response -/

/-- `strings.EqualFold` compares by simple case folding. -/
def foldCase (c : Char) : Char :=
  if c = '\u017f' then 's' else if c = '\u212a' then 'k' else c.toLower

def equalFold (name : Bytes) (text : String) : Bool :=
  (decode? name).map (fun s => s.toList.map foldCase) = some (text.toList.map foldCase)

/-- `strings.Join` with a comma. -/
def joinValues (values : List Bytes) : Bytes := (values.intersperse (encode ", ")).flatten

def flattenField (field : Bytes × List Bytes) : Except Failure (Bytes × Bytes) :=
  let value := joinValues field.2
  if equalFold field.1 "Set-Cookie" ∧ 1 < field.2.length then .error .repeatedHeaderUnsupported
  else if maxHTTPHeaderBytes < field.1.length ∨ maxHTTPHeaderBytes < value.length then
    .error (.headerTooLarge field.1)
  else .ok (field.1, value)

def flattenHeaders (header : Header) : Except Failure Fields :=
  if maxHTTPHeaders < header.length then .error .headersTooLarge
  else header.mapM flattenField

/-- `Header.Get` with a name in canonical form. -/
def Header.get (header : Header) (name : Bytes) : Bytes := ((header.lookup name).getD []).headD []

def isDigit (b : UInt8) : Bool := 48 ≤ b && b ≤ 57

def parseDigits (digits : Bytes) : Option Nat :=
  if digits ≠ [] ∧ digits.all isDigit then
    some (digits.foldl (fun n d => 10 * n + (d.toNat - 48)) 0)
  else none

/-- `strconv.ParseInt` for base 10 and 64 bits, without its error texts. -/
def parseInt (text : Bytes) : Option Int :=
  let n :=
    match text with
    | 43 :: digits => (parseDigits digits).map Int.ofNat
    | 45 :: digits => (parseDigits digits).map fun n => -Int.ofNat n
    | digits => (parseDigits digits).map Int.ofNat
  n.filter fun n => -(2 ^ 63) ≤ n ∧ n < 2 ^ 63

/-- The length that the header declares, if it does. -/
def contentLength (header : Header) : Except Failure (Option Nat) :=
  let value := header.get (encode "Content-Length")
  if value = [] then .ok none
  else
    match parseInt value with
    | some (.ofNat n) => if maxHTTPResponseBytes < n then .error .bodyTooLarge else .ok (some n)
    | _ => .error (.contentLengthInvalid value)

/-! ### The writer -/

structure Writer where
  header : Header := []
  started : Bool := false
  finished : Bool := false
  err : Option Failure := none
  written : Nat := 0
  length : Option Nat := none
  deriving DecidableEq

/-- What the writer does after the start of the response. -/
inductive Next where
  | leave
  | write (body : Bytes)
  | finish
  deriving DecidableEq

/-- What is being submitted. In `idle` the handler runs. -/
inductive Stage where
  | idle
  | start (status : Nat) (fields : Fields) (next : Next)
  | chunk (body rest : Bytes)
  | finishing
  | failing
  | done
  deriving DecidableEq

/-- A call of `OnFetch`; `setHeader` is a change of the map that `Header` returns. -/
inductive Call where
  | setHeader (header : Header)
  | writeHeader (statusCode : Int)
  | write (body : Bytes)
  deriving DecidableEq

structure Request where
  writer : Writer := {}
  stage : Stage := .idle
  calls : List Call := []
  deriving DecidableEq

namespace Request

/-- The loop of `Write`. -/
def writeChunks (r : Request) (body : Bytes) : Request :=
  if body = [] then { r with stage := .idle }
  else { r with stage := .chunk (body.take maxHTTPChunk) (body.drop maxHTTPChunk) }

def fail (r : Request) (e : Failure) : Request :=
  { r with writer := { r.writer with err := some e }, stage := .idle }

/-- `Write`, once the response has started. -/
def write (r : Request) (body : Bytes) : Request :=
  let w := r.writer
  if w.finished ∨ w.err ≠ none then { r with stage := .idle }
  else if ∃ n ∈ w.length, n < w.written + body.length then
    r.fail (.contentLengthMismatch (w.written + body.length) (w.length.getD 0))
  else if maxHTTPResponseBytes - w.written < body.length then r.fail .bodyTooLarge
  else r.writeChunks body

/-- `finish`, once the response has started. -/
def finish (r : Request) : Request :=
  let w := r.writer
  if w.err ≠ none then { r with writer := { w with finished := true }, stage := .failing }
  else if ∃ n ∈ w.length, w.written ≠ n then
    { r with
      writer := { w with
        finished := true
        err := some (.contentLengthMismatch w.written (w.length.getD 0)) }
      stage := .failing }
  else { r with writer := { w with finished := true }, stage := .finishing }

def goOn (r : Request) : Next → Request
  | .leave => { r with stage := .idle }
  | .write body => r.write body
  | .finish => r.finish

/-- The header cannot be sent. -/
def refuse (r : Request) (e : Failure) : Next → Request :=
  { r with writer := { r.writer with started := true, err := some e } }.goOn

/-- A status code that does not make it panic. -/
def writeHeaderLocked (r : Request) (statusCode : Nat) (next : Next) : Request :=
  let w := r.writer
  if w.started ∨ w.finished ∨ w.err ≠ none then r.goOn next
  else
    match flattenHeaders w.header with
    | .error e => r.refuse e next
    | .ok fields =>
      match contentLength w.header with
      | .error e => r.refuse e next
      | .ok length =>
        { r with
          writer := { w with started := true, length := length }
          stage := .start statusCode fields next }

/-- A call of the handler. A status code out of range makes `WriteHeader` panic before
it changes the writer. -/
def call (r : Request) : Call → Request
  | .setHeader header => { r with writer := { r.writer with header := header } }
  | .writeHeader statusCode =>
    if 100 ≤ statusCode ∧ statusCode ≤ 999 then
      r.writeHeaderLocked statusCode.toNat .leave
    else r
  | .write body =>
    if r.writer.started then r.write body else r.writeHeaderLocked 200 (.write body)

/-- `OnFetch` has returned. -/
def returns (r : Request) : Request :=
  if r.writer.started then r.finish else r.writeHeaderLocked 200 .finish

end Request

/-! ### Native -/

/-- A command for one request. -/
inductive Command where
  | start (status : Nat) (fields : Fields) (body : Bytes) (stream error : Bool)
  | chunk (body : Bytes) (finish : Bool)
  deriving DecidableEq

structure Assembly where
  status : Nat
  fields : Fields
  body : Bytes
  deriving DecidableEq

inductive Resolution where
  | response (a : Assembly)
  | error
  deriving DecidableEq

/-- The tables `correlations` and `http_responses`, and how requests were resolved. -/
structure Native where
  correlations : List Nat := []
  responses : Nat → Option Assembly := fun _ => none
  resolved : List (Nat × Resolution) := []

namespace Native

/-- Resolving takes the request out of the table. -/
def resolve (t : Native) (id : Nat) (r : Resolution) : Native :=
  if id ∈ t.correlations then
    { t with
      correlations := t.correlations.filter (· ≠ id)
      responses := Function.update t.responses id none
      resolved := t.resolved ++ [(id, r)] }
  else t

def startHttpResponse (t : Native) (id status : Nat) (fields : Fields) (body : Bytes)
    (stream error : Bool) : Native :=
  if id ∉ t.correlations then t
  else if error then t.resolve id .error
  else if maxHTTPResponseBytes < body.length then t.resolve id .error
  else if stream then
    match t.responses id with
    | none =>
      { t with responses := Function.update t.responses id (some ⟨status, fields, body⟩) }
    | some _ => t.resolve id .error
  else t.resolve id (.response ⟨status, fields, body⟩)

def appendHttpResponse (t : Native) (id : Nat) (body : Bytes) (finish : Bool) : Native :=
  if id ∉ t.correlations then t
  else
    match t.responses id with
    | none => t.resolve id .error
    | some a =>
      if maxHTTPResponseBytes < a.body.length ∨
          maxHTTPResponseBytes - a.body.length < body.length then
        t.resolve id .error
      else
        let a' := { a with body := a.body ++ body }
        if finish then t.resolve id (.response a')
        else { t with responses := Function.update t.responses id (some a') }

def handle (t : Native) (id : Nat) : Command → Native
  | .start status fields body stream error =>
    t.startHttpResponse id status fields body stream error
  | .chunk body finish => t.appendHttpResponse id body finish

end Native

/-! ### The system -/

/-- How a submission ends. -/
inductive Outcome where
  | accepted
  /-- `delivered` if native sees the command all the same. -/
  | failed (delivered : Bool)
  deriving DecidableEq

structure State where
  requests : Nat → Option Request := fun _ => none
  queue : List (Nat × Command) := []
  native : Native := {}

def initial : State := {}

inductive Action where
  /-- A request comes in under a new ID. -/
  | request (id : Nat)
  | call (id : Nat) (c : Call)
  | returns (id : Nat)
  /-- `OnFetch` panics, or there is an error before it is called. -/
  | fails (id : Nat)
  /-- Native rejects the command for now. -/
  | backpressure (id : Nat)
  | submitted (id : Nat) (o : Outcome)
  /-- Native takes up the next command. -/
  | dispatch
  /-- The request times out, is aborted or is dropped in a shutdown. -/
  | expire (id : Nat)

/-- What is being submitted, with the state of the request after each outcome. -/
def Request.submission (r : Request) : Option (Command × Request × Request) :=
  let failed := { r with writer := { r.writer with err := some .submission } }
  match r.stage with
  | .start status fields next =>
    some (.start status fields [] true false, r.goOn next, failed.goOn next)
  | .chunk body rest =>
    some (.chunk body false,
      { r with writer := { r.writer with written := r.writer.written + body.length } }.writeChunks
        rest,
      { failed with stage := .idle })
  | .finishing =>
    some (.chunk [] true, { r with stage := .done }, { failed with stage := .failing })
  | .failing =>
    some (.start 0 [] [] false true, { r with stage := .done }, { r with stage := .done })
  | .idle | .done => none

def State.setRequest (s : State) (id : Nat) (r : Request) : State :=
  { s with requests := Function.update s.requests id (some r) }

def State.push (s : State) (id : Nat) (c : Command) (delivered : Bool) : State :=
  if delivered then { s with queue := s.queue ++ [(id, c)] } else s

def step (s : State) : Action → Option State
  | .request id =>
    if s.requests id = none then
      some { s.setRequest id {} with
        native := { s.native with correlations := id :: s.native.correlations } }
    else none
  | .call id c => do
      let r ← s.requests id
      if r.stage = .idle then
        some (s.setRequest id ({ r with calls := r.calls ++ [c] }.call c))
      else none
  | .returns id => do
      let r ← s.requests id
      if r.stage = .idle then some (s.setRequest id r.returns) else none
  | .fails id => do
      let r ← s.requests id
      if r.stage = .idle then some (s.setRequest id { r with stage := .failing }) else none
  | .backpressure id => do
      let r ← s.requests id
      if r.submission.isSome then some s else none
  | .submitted id o => do
      let r ← s.requests id
      let sub ← r.submission
      match o with
      | .accepted => some ((s.push id sub.1 true).setRequest id sub.2.1)
      | .failed delivered => some ((s.push id sub.1 delivered).setRequest id sub.2.2)
  | .dispatch =>
    match s.queue with
    | [] => none
    | (id, c) :: queue => some { s with queue := queue, native := s.native.handle id c }
  | .expire id => some { s with native := s.native.resolve id .error }

abbrev Reaches (s : State) : Prop := Run.Reachable step Run.anyAction initial s

end RivetGo.Http

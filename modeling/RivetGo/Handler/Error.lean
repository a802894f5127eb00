import RivetGo.Wire.Command

/-!
# Go errors and their translation

A Go error has a text and may wrap other errors. What `errors.Is` and
`errors.As` find in it depends on the errors it is built from, visited from the
outside in and, where one error wraps several, from left to right. A node
therefore records which sentinel errors it is, which `HandlerError` it can be
taken as and what its `ActionCode` method returns, if it has one.

`actionHandlerError` and `handlerWireError` turn such an error into the
structured error that crosses the boundary.
-/

namespace RivetGo.Handler

open Utf8 (encode)

/-- The sentinel errors that the translation asks for. -/
inductive Sentinel where
  | deadlineExceeded
  | canceled
  | shuttingDown
  | actorAborted
  deriving DecidableEq, Repr

/-- `pump.HandlerError` without its cause, which the error wraps. -/
structure HandlerError where
  code : Bytes
  message : Bytes
  deriving DecidableEq, Repr

/-- One error without the errors it wraps. -/
structure ErrorNode where
  text : Bytes
  is : List Sentinel := []
  handlerError : Option HandlerError := none
  actionCode : Option Bytes := none

/-- An error value. -/
inductive GoError where
  | node (head : ErrorNode) (wraps : List GoError)

namespace GoError

variable {α : Type}

/-- What `err.Error()` returns. -/
def text : GoError → Bytes
  | .node head _ => head.text

mutual

/-- The first answer in an error and what it wraps. -/
def find (f : ErrorNode → Option α) : GoError → Option α
  | .node head wraps => (f head).or (findAny f wraps)

/-- The first answer in a list of errors. -/
def findAny (f : ErrorNode → Option α) : List GoError → Option α
  | [] => none
  | e :: es => (find f e).or (findAny f es)

end

/-- `errors.Is` with a sentinel. -/
def is (target : Sentinel) (err : GoError) : Bool :=
  (err.find fun n => if target ∈ n.is then some () else none).isSome

/-- `errors.As` with a `HandlerError`. -/
def asHandlerError (err : GoError) : Option HandlerError := err.find ErrorNode.handlerError

/-- `errors.As` with the interface of `ActionCode`, and the code it returns. -/
def asActionCode (err : GoError) : Option Bytes := err.find ErrorNode.actionCode

/-- `errors.New`. -/
def new (text : Bytes) : GoError := .node { text := text } []

/-- A `HandlerError` as an error. Its text joins code and message. -/
def ofHandlerError (h : HandlerError) : GoError :=
  .node
    { text := if h.code = [] then h.message else h.code ++ encode ": " ++ h.message
      handlerError := some h } []

@[simp] theorem asHandlerError_ofHandlerError (h : HandlerError) :
    (ofHandlerError h).asHandlerError = some h := rfl

@[simp] theorem asHandlerError_new (text : Bytes) : (new text).asHandlerError = none := rfl

end GoError

/-- `actionHandlerError`: the error a failed action reports. -/
def actionHandlerError (err : GoError) : HandlerError :=
  if err.is .deadlineExceeded then ⟨encode "action_timed_out", err.text⟩
  else if err.is .canceled then ⟨encode "action_canceled", err.text⟩
  else match err.asHandlerError with
    | some h => h
    | none =>
      match err.asActionCode with
      | some code =>
        if code ≠ [] then ⟨code, err.text⟩ else ⟨encode "action_failed", err.text⟩
      | none => ⟨encode "action_failed", err.text⟩

/-- `handlerWireError`: the error any other handler reports. -/
def handlerWireError (operation : Bytes) (err : GoError) : Wire.WireError :=
  match err.asHandlerError with
  | some h => { code := h.code, message := h.message }
  | none =>
    { code := encode "handler_error"
      message := operation ++ encode " failed: " ++ err.text }

/-- The error a recovered panic reports, `shown` being the panic value as
`fmt` prints it. -/
def panicWireError (operation : Bytes) (shown : Bytes) : Wire.WireError :=
  { code := encode "handler_panic", message := operation ++ encode " panicked: " ++ shown }

end RivetGo.Handler

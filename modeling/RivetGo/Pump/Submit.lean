import Mathlib.Data.List.Nodup
import RivetGo.Data.Run
import RivetGo.Pump.Generation

/-!
# Submissions under backpressure

Every command goes through one queue. The submit loop takes what is queued, up
to a limit, encodes it as one batch and hands it to native, which takes the
batch or rejects it with the code `backpressure`. Everyone whose command was in
the batch gets the same answer. What happens then depends on the place that
submitted: HTTP, WebSocket and managed-work submissions are tried again, the
caller of an operation gets the error, and the result of a callback is given up:
the worker reports the error, which ends the pump.
-/

namespace RivetGo.Submit

open Pump (Outcome)

/-- The places of the pump that submit commands. `httpError` is the response
that the worker makes of a failed handler, `http` and `webSocket` are the
submissions of handlers, `hibernate` is the one of the poller, and `operation`
stands for saves, KV, SQLite, queue, schedule and intent calls. -/
inductive Site where
  | actorStartResult
  | actorRunResult
  | actionResult
  | connectionResult
  | alarmHandled
  | wsOpenResult
  | wsMessageAck
  | actorStopResult
  | stopIntent
  | httpError
  | http
  | webSocket
  | managedWorkEnd
  | hibernate
  | operation
  deriving DecidableEq, Repr

/-- What a place does with an error: it reports it, which ends the pump, and the
worker may leave its loop; it tries again; or its caller gets the error. -/
inductive Reaction where
  | report (message : String) (leave : Bool)
  | retry
  | hand
  deriving DecidableEq

def Site.onBackpressure : Site → Reaction
  | .actorStartResult => .report "submit ActorStartResult" true
  | .actorRunResult => .report "submit ActorRunResult" false
  | .actionResult => .report "submit ActionResult" true
  | .connectionResult => .report "submit ConnectionResult" true
  | .alarmHandled => .report "submit AlarmHandled" true
  | .wsOpenResult => .report "submit WsOpenResult" true
  | .wsMessageAck => .report "submit WsMessageAck" true
  | .actorStopResult => .report "submit ActorStopResult" true
  | .stopIntent => .report "submit WebSocket panic StopIntent" false
  | .hibernate => .report "hibernate actor WebSockets" false
  | .httpError => .retry
  | .http => .retry
  | .webSocket => .retry
  | .managedWorkEnd => .retry
  | .operation => .hand

/-- What a place does when its time for retries is over. The end of managed work
has no such limit. -/
def Site.onTimeout : Site → Option Reaction
  | .httpError => some (.report "submit HTTP handler error" true)
  | .http => some .hand
  | .webSocket => some .hand
  | _ => none

/-- The result of a lifecycle callback, an action, a connection, an alarm, a
WebSocket open, or the acknowledgement of a message. -/
def Site.isResult : Site → Bool
  | .actorStartResult => true
  | .actorRunResult => true
  | .actionResult => true
  | .connectionResult => true
  | .alarmHandled => true
  | .wsOpenResult => true
  | .wsMessageAck => true
  | .actorStopResult => true
  | _ => false

/-- Submitted outside the loop of a worker: by the `Run` goroutine, by the poller
or by a call of the SDK. -/
def Site.external : Site → Bool
  | .actorRunResult => true
  | .hibernate => true
  | .http => true
  | .webSocket => true
  | .managedWorkEnd => true
  | .operation => true
  | _ => false

/-- The callbacks of a worker. -/
inductive Callback where
  | start
  | action
  | connection
  | alarm
  | fetch
  | wsOpen
  | wsMessage (canHibernate : Bool)
  | wsClose
  | stop
  deriving DecidableEq

/-- A panic that does not make the worker leave asks core to stop the actor. -/
def requestErrorStop (o : Outcome) : List Site := if o = .panicked then [.stopIntent] else []

/-- What the worker submits after a callback, in order. -/
def Callback.submissions : Callback → Outcome → List Site
  | .start, _ => [.actorStartResult]
  | .action, _ => [.actionResult]
  | .connection, o => .connectionResult :: requestErrorStop o
  | .alarm, o => .alarmHandled :: requestErrorStop o
  | .fetch, o => if o = .ok then [] else [.httpError]
  | .wsOpen, o => .wsOpenResult :: requestErrorStop o
  | .wsMessage canHibernate, o =>
    (if canHibernate then [.wsMessageAck] else []) ++ requestErrorStop o
  | .wsClose, o => requestErrorStop o
  | .stop, _ => [.actorStopResult]

/-- The worker leaves its loop after the callback. -/
def Callback.leaves : Callback → Outcome → Bool
  | .start, o => o ≠ .ok
  | .action, o => o = .panicked
  | .fetch, o => o = .panicked
  | .stop, _ => true
  | _, _ => false

/-- A submission. `worker` is the worker that waits for its result. -/
structure Submission where
  id : Nat
  worker : Option Nat
  site : Site
  deriving DecidableEq

/-- A worker that waits for a submission, with those that follow. -/
structure Busy where
  worker : Nat
  rest : List Site
  leaves : Bool

/-- `retrying` are the submissions that back off, `produced` all that were ever
made, `accepted` those that native has taken, and `failed` is the error that
ends the pump. -/
structure State where
  nextId : Nat
  busy : List Busy
  left : List Nat
  submitQueue : List Submission
  retrying : List Submission
  accepted : List Submission
  produced : List Submission
  failed : Option String

def initial : State :=
  { nextId := 0, busy := [], left := [], submitQueue := [], retrying := [], accepted := []
    produced := [], failed := none }

def maxSubmitBatch : Nat := 1024

def State.enqueueSubmit (s : State) (worker : Option Nat) (site : Site) : State :=
  let x : Submission := ⟨s.nextId, worker, site⟩
  { s with
    nextId := s.nextId + 1
    submitQueue := s.submitQueue ++ [x]
    produced := s.produced ++ [x] }

/-- The worker makes its next submission, or is done with the callback. -/
def State.submitNext (s : State) (b : Busy) : State :=
  match b.rest with
  | [] => { s with left := if b.leaves then b.worker :: s.left else s.left }
  | site :: rest => { s with busy := { b with rest := rest } :: s.busy }.enqueueSubmit b.worker site

/-- The submission that a worker waited for succeeded. -/
def State.proceed (s : State) (worker : Nat) : State :=
  match s.busy.find? (·.worker == worker) with
  | none => s
  | some b => { s with busy := s.busy.filter (·.worker != worker) }.submitNext b

/-- The worker leaves its loop. -/
def State.leave (s : State) (worker : Nat) : State :=
  { s with busy := s.busy.filter (·.worker != worker), left := worker :: s.left }

/-- The first error that is reported ends the pump. -/
def State.reportWorkerError (s : State) (message : String) : State :=
  { s with failed := s.failed.or (some message) }

/-- A submission ends with an error. -/
def State.react (s : State) (x : Submission) : Reaction → State
  | .report message leave =>
    let s := s.reportWorkerError message
    match x.worker with
    | none => s
    | some w => if leave then s.leave w else s.proceed w
  | .retry => { s with retrying := s.retrying ++ [x] }
  | .hand => s

/-- One submission of a batch gets the answer of native. -/
def State.settle (accepted : Bool) (s : State) (x : Submission) : State :=
  if accepted then
    let s := { s with accepted := s.accepted ++ [x] }
    match x.worker with
    | none => s
    | some w => s.proceed w
  else s.react x x.site.onBackpressure

inductive Action where
  | handle (worker : Nat) (callback : Callback) (o : Outcome)
  | call (site : Site)
  | flush (k : Nat) (accepted : Bool)
  | retry (i : Nat)
  | giveUp (i : Nat)

def step (s : State) : Action → Option State
  | .handle w callback o =>
    if s.left.contains w || s.busy.any (·.worker == w) then none
    else some (s.submitNext ⟨w, callback.submissions o, callback.leaves o⟩)
  | .call site => if site.external then some (s.enqueueSubmit none site) else none
  | .flush k accepted =>
    if 0 < k ∧ k ≤ s.submitQueue.length ∧ k ≤ maxSubmitBatch then
      some ((s.submitQueue.take k).foldl (State.settle accepted)
        { s with submitQueue := s.submitQueue.drop k })
    else none
  | .retry i =>
    match s.retrying[i]? with
    | none => none
    | some x =>
      some { s with retrying := s.retrying.eraseIdx i, submitQueue := s.submitQueue ++ [x] }
  | .giveUp i =>
    match s.retrying[i]? with
    | none => none
    | some x =>
      match x.site.onTimeout with
      | none => none
      | some reaction => some ({ s with retrying := s.retrying.eraseIdx i }.react x reaction)

end RivetGo.Submit

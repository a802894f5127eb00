import RivetGo.Handler.Error
import RivetGo.Session.Command

/-!
# Handler outcomes and the commands they become

The actor worker calls a handler for each event, catches its panic, and submits
one command with the outcome. Actions go through the SDK's adapter, which
checks the argument list, the size of the result and the connection state and
saves the actor before the pump sees the outcome; the other handlers go through
a thinner layer. `Invocation.command` is the command that is submitted.
-/

namespace RivetGo.Handler

open Utf8 (encode)
open Session (Identity Correlation)

/-- What a Go function call did. -/
inductive Outcome (α : Type) where
  | returned (value : α)
  | failed (err : GoError)
  | panicked (shown : Bytes)

namespace Outcome

variable {α β : Type}

/-- Go on with the value of a call that returned one. -/
def bind (o : Outcome α) (next : α → Outcome β) : Outcome β :=
  match o with
  | .returned value => next value
  | .failed err => .failed err
  | .panicked shown => .panicked shown

/-- Report a structured error. -/
def fail (code message : Bytes) : Outcome α := .failed (.ofHandlerError ⟨code, message⟩)

end Outcome

/-! ### Actions -/

def maxActionResultBytes : Nat := 2 ^ 20

def maxConnectionStateBytes : Nat := 2 ^ 20

def validateActionResultSize (result : Bytes) : Outcome Bytes :=
  if result.length ≤ maxActionResultBytes then .returned result
  else .fail (encode "action_result_too_large")
    (encode s!"action result exceeds the {maxActionResultBytes}-byte boundary limit")

/-- One call of a typed action: what decoding the argument array and its one
argument gave, an error being its text, and what the handler did. The value of
a handler that returned comes with what marshalling makes of it. -/
structure TypedCall where
  arguments : Except Bytes Nat
  argument : Except Bytes Unit
  handler : Outcome (Except Bytes Bytes)

def invokeTypedAction (call : TypedCall) : Outcome Bytes :=
  match call.arguments with
  | .error shown =>
    .fail (encode "action_decode_failed") (encode "decode action argument array: " ++ shown)
  | .ok count =>
    if count ≠ 1 then
      .fail (encode "action_decode_failed")
        (encode s!"action requires one argument, received {count}")
    else match call.argument with
      | .error shown =>
        .fail (encode "action_decode_failed") (encode "decode action argument: " ++ shown)
      | .ok () =>
        match call.handler with
        | .failed err => .failed (.ofHandlerError (actionHandlerError err))
        | .panicked shown => .panicked shown
        | .returned (.error shown) =>
          .fail (encode "action_encode_failed") (encode "encode action result: " ++ shown)
        | .returned (.ok result) => validateActionResultSize result

/-- One call of a raw action: the bytes of a handler that returned come with
what the CBOR check says of them. -/
structure RawCall where
  handler : Outcome (Bytes × Except Bytes Unit)

def invokeRawAction (call : RawCall) : Outcome Bytes :=
  match call.handler with
  | .failed err => .failed (.ofHandlerError (actionHandlerError err))
  | .panicked shown => .panicked shown
  | .returned (result, valid) =>
    (validateActionResultSize result).bind fun result =>
      match valid with
      | .error shown =>
        .fail (encode "action_encode_failed") (encode "validate raw action result: " ++ shown)
      | .ok () => .returned result

/-- The registered action a call reaches. -/
inductive ActionCall where
  | typed (call : TypedCall)
  | raw (call : RawCall)

def ActionCall.invoke : ActionCall → Outcome Bytes
  | .typed call => invokeTypedAction call
  | .raw call => invokeRawAction call

/-- The size check at the end of `encodeConnectionState`. -/
def encodeConnectionState (encoded : Outcome Bytes) : Outcome Bytes :=
  encoded.bind fun state =>
    if state.length ≤ maxConnectionStateBytes then .returned state
    else .fail (encode "connection_state_too_large")
      (encode s!"connection state exceeds the {maxConnectionStateBytes}-byte boundary limit")

/-- What happened to the save that follows an action or an alarm. -/
inductive SaveOutcome where
  | saved
  | encodeFailed (binary : Bool) (shown : Bytes)
  | persistFailed (shown : Bytes)
  | panicked (shown : Bytes)

/-- The save step of a handler: a failure becomes a structured error. -/
def SaveOutcome.finish {α : Type} (code : Bytes) (value : α) : SaveOutcome → Outcome α
  | .saved => .returned value
  | .encodeFailed true shown => .fail code (encode "encode actor binary state: " ++ shown)
  | .encodeFailed false shown => .fail code (encode "encode actor JSON state: " ++ shown)
  | .persistFailed shown => .fail code (encode "persist actor state: " ++ shown)
  | .panicked shown => .panicked shown

/-- The save is skipped once destruction of the actor has been requested. -/
def finishSaved {α : Type} (code : Bytes) (value : α) : Option SaveOutcome → Outcome α
  | none => .returned value
  | some save => save.finish code value

/-- `pump.ActionResult`. A connection state that is present is not nil. -/
structure ActionResult where
  output : Bytes
  connectionState : Option Bytes

/-- What the adapter finds when an action is called. -/
inductive ActionRun where
  | unregistered
  | inactiveConnection (connId : String)
  | invoked (call : ActionCall) (connectionState : Option (Outcome Bytes))
      (save : Option SaveOutcome)

/-- A state to encode, if there is one. -/
def encodeOptional : Option (Outcome Bytes) → Outcome (Option Bytes)
  | none => .returned none
  | some encoded => (encodeConnectionState encoded).bind fun state => .returned (some state)

/-- `actorAdapter.Action`. There is a connection state to encode when a
connection called. `quote` is how `fmt` prints a string with `%q`. -/
def adapterAction (quote : String → String) (action : String) : ActionRun → Outcome ActionResult
  | .unregistered =>
    .fail (encode "action_not_found") (encode ("action " ++ quote action ++ " is not registered"))
  | .inactiveConnection connId =>
    .fail (encode "connection_not_found")
      (encode ("calling connection " ++ quote connId ++ " is not active"))
  | .invoked call connectionState save =>
    call.invoke.bind fun output =>
      (encodeOptional connectionState).bind fun state =>
        finishSaved (encode "action_state_persist_failed") ⟨output, state⟩ save

/-! ### Invocations by the worker -/

/-- The common end of the pump's `invoke` functions: a returned error and a
recovered panic become structured errors. -/
def settle {α : Type} (operation panicOperation : String) : Outcome α → Except Wire.WireError α
  | .returned value => .ok value
  | .failed err => .error (handlerWireError (encode operation) err)
  | .panicked shown => .error (panicWireError (encode panicOperation) shown)

def invokeStart (quote : String → String) (name : String) :
    Option (Outcome Unit) → Except Wire.WireError Unit
  | none => .error ⟨encode "actor_not_registered",
      encode ("actor type " ++ quote name ++ " is not registered"), none, none⟩
  | some outcome => settle "OnStart" "OnStart" outcome

def invokeStop (outcome : Outcome Unit) : Except Wire.WireError Unit :=
  settle "OnStop" "OnStop" outcome

/-- `actorAdapter.Alarm` and `invokeAlarm`; without a hook the adapter fails. -/
def invokeAlarm (hook : Option (Outcome Unit)) (save : Option SaveOutcome) :
    Except Wire.WireError Unit :=
  settle "OnAlarm" "OnAlarm" <|
    match hook with
    | none => .fail (encode "callback_not_found") (encode "actor has no OnAlarm handler")
    | some outcome =>
      outcome.bind fun _ => finishSaved (encode "alarm_state_persist_failed") () save

def invokeAction (quote : String → String) (action : String) (run : ActionRun) :
    Except Wire.WireError ActionResult :=
  settle ("action " ++ action) ("action " ++ quote action) (adapterAction quote action run)

/-- `actorAdapter.Run` and `invokeRun`: a cancelled or aborted `Run` succeeded. -/
def invokeRun (outcome : Outcome Unit) : Except Wire.WireError Unit :=
  match outcome with
  | .failed err =>
    if err.is .actorAborted ∨ err.is .canceled ∨ err.is .shuttingDown then .ok ()
    else settle "Run" "Run" outcome
  | _ => settle "Run" "Run" outcome

/-- The three events of a connection's life. -/
inductive ConnectionEvent where
  | preflight
  | opened
  | closed
  deriving DecidableEq, Repr

def ConnectionEvent.kind : ConnectionEvent → String
  | .preflight => "connection_preflight"
  | .opened => "connection_open"
  | .closed => "connection_close"

/-- `invokeConnectionLifecycle`; an actor without connection hooks has an empty
connection state. -/
def invokeConnectionLifecycle (event : ConnectionEvent) :
    Option (Outcome Bytes) → Except Wire.WireError Bytes
  | none => .ok []
  | some hook => settle event.kind event.kind (encodeConnectionState hook)

/-- `invokeConnectionState`, for an action whose result carries no state. -/
def invokeConnectionState (tracked : Option (Outcome Bytes)) :
    Except Wire.WireError (Option Bytes) :=
  settle "encode connection state" "encode connection state" (encodeOptional tracked)

def invokeFetch (outcome : Outcome Unit) : Except Wire.WireError Unit :=
  settle "OnFetch" "OnFetch" outcome

def invokeWebSocketOpen (outcome : Outcome Unit) : Except Wire.WireError Unit :=
  settle "OnConnect" "OnConnect" outcome

/-- The error half of a result. -/
def errorOf {α : Type} : Except Wire.WireError α → Option Wire.WireError
  | .ok _ => none
  | .error e => some e

/-- How a stop went: `Run` did not end in time, or the stop hook was called. -/
inductive StopOutcome where
  | runTimedOut
  | stopped (outcome : Outcome Unit)

/-- One handler invocation of the worker, with everything that decides the
command it submits for it. The event values come from native, so they are text
and their required parts are not empty. -/
inductive Invocation where
  | start (name : String) (handler : Option (Outcome Unit)) (hasRun : Bool)
  | run (outcome : Outcome Unit)
  | action (callId : Correlation) (action : String) (run : ActionRun)
      (later : Option (Outcome Bytes))
  | connection (opId : Correlation) (event : ConnectionEvent) (hook : Option (Outcome Bytes))
  | alarm (hook : Option (Outcome Unit)) (save : Option SaveOutcome)
  | fetch (reqId : Correlation) (outcome : Outcome Unit)
  | wsOpen (wsId : { id : String // id ≠ "" }) (outcome : Outcome Unit)
  | stop (outcome : StopOutcome)

/-- The result of an action with the connection state the worker adds to it. -/
def actionOutcome (quote : String → String) (action : String) (run : ActionRun)
    (later : Option (Outcome Bytes)) : Except Wire.WireError ActionResult := do
  let result ← invokeAction quote action run
  match result.connectionState with
  | some _ => return result
  | none => return { result with connectionState := ← invokeConnectionState later }

/-- The error of a stop. -/
def stopError : StopOutcome → Option Wire.WireError
  | .runTimedOut => some ⟨encode "run_shutdown_timeout",
      encode "Run did not stop within 8s", none, none⟩
  | .stopped outcome => errorOf (invokeStop outcome)

/-- The command the worker submits for an invocation. A fetch that succeeded
has already written its response and submits nothing more. -/
def Invocation.command (quote : String → String) (actor : Identity) :
    Invocation → Option Wire.Command
  | .start name handler hasRun =>
    let error := errorOf (invokeStart quote name handler)
    some { kind := .actorStartResult, aid := encode actor.aid, generation := actor.generation,
           ok := error.isNone, run := error.isNone && hasRun, error := error }
  | .run outcome =>
    some { kind := .actorRunResult, aid := encode actor.aid, generation := actor.generation,
           error := errorOf (invokeRun outcome) }
  | .action callId name ran later =>
    match actionOutcome quote name ran later with
    | .ok result =>
      some { kind := .actionResult, callId := callId, output := some result.output,
             connectionState := result.connectionState.map some }
    | .error e => some { kind := .actionResult, callId := callId, error := some e }
  | .connection opId event hook =>
    match invokeConnectionLifecycle event hook with
    | .ok state =>
      some { kind := .connectionResult, operationId := opId,
             connectionState := some (some state) }
    | .error e => some { kind := .connectionResult, operationId := opId, error := some e }
  | .alarm hook save =>
    some { kind := .alarmHandled, aid := encode actor.aid, generation := actor.generation,
           error := errorOf (invokeAlarm hook save) }
  | .fetch reqId outcome =>
    (errorOf (invokeFetch outcome)).map fun e =>
      { kind := .httpResponseStart, requestId := reqId, headers := some [], body := some [],
        error := some e }
  | .wsOpen wsId outcome =>
    let error := errorOf (invokeWebSocketOpen outcome)
    some { kind := .wsOpenResult, wsId := encode wsId, accept := error.isNone, error := error }
  | .stop outcome =>
    some { kind := .actorStopResult, aid := encode actor.aid, generation := actor.generation,
           error := stopError outcome }

end RivetGo.Handler

import RivetGo.Boundary.Accept
import RivetGo.Handler.Result

/-!
# Which handler outcomes native accepts

The command the worker submits carries the handler's error or panic value as a
structured error, and native refuses an error whose code or message is empty or
is not text. Whether the command is accepted is therefore a condition on the
code and text of what the handler produced, which the definitions called
`Presentable` spell out for each step of an invocation. The steps of an action
are taken in order and only the first one that goes wrong is reported, so a
later step counts only when the ones before it return.

The main result is that native accepts the command of an invocation exactly
when the invocation is presentable.
-/

namespace RivetGo.Handler

open Utf8 (encode Valid)
open Session (Identity)

/-! ### Errors and panics -/

/-- A structured error of a handler's own that native takes as it is. -/
def HandlerError.Presentable (h : HandlerError) : Prop :=
  (Valid h.code ∧ h.code ≠ []) ∧ Valid h.message ∧ h.message ≠ []

/-- An error that is not an action's: its own structured error if it carries
one, and otherwise its text, which may be empty. -/
def GoError.Presentable (err : GoError) : Prop :=
  match err.asHandlerError with
  | some h => h.Presentable
  | none => Valid err.text

/-- An error that an action handler returned. Its text becomes the message, so
it must not be empty unless the error carries a structured one. -/
def GoError.ActionPresentable (err : GoError) : Prop :=
  if err.is .deadlineExceeded ∨ err.is .canceled then Valid err.text ∧ err.text ≠ []
  else match err.asHandlerError with
    | some h => h.Presentable
    | none => (Valid err.text ∧ err.text ≠ []) ∧ ∀ code ∈ err.asActionCode, Valid code

/-- An outcome whose error or panic value can be presented. -/
def Outcome.Presentable {α : Type} : Outcome α → Prop
  | .returned _ => True
  | .failed err => err.Presentable
  | .panicked shown => Valid shown

/-- The outcome is a value. -/
def Outcome.Returns {α : Type} : Outcome α → Prop
  | .returned _ => True
  | _ => False

namespace Outcome

variable {α β : Type}

theorem bind_presentable {o : Outcome α} {next : α → Outcome β} :
    (o.bind next).Presentable ↔
      o.Presentable ∧ ∀ value, o = .returned value → (next value).Presentable := by
  cases o <;> simp [bind, Presentable]

theorem bind_eq_returned {o : Outcome α} {next : α → Outcome β} {result : β} :
    o.bind next = .returned result ↔
      ∃ value, o = .returned value ∧ next value = .returned result := by
  cases o <;> simp [bind]

theorem returns_iff {o : Outcome α} : o.Returns ↔ ∃ value, o = .returned value := by
  cases o <;> simp [Returns]

/-- A next step that is presentable or not whatever the value is. -/
theorem bind_presentable_iff {o : Outcome α} {next : α → Outcome β} {p : Prop}
    (h : ∀ value, (next value).Presentable ↔ p) :
    (o.bind next).Presentable ↔ o.Presentable ∧ (o.Returns → p) := by
  rw [bind_presentable, returns_iff, forall_exists_index]
  simp only [h]

/-- A structured error of the SDK's own, with a part of the message that is
printed from elsewhere. -/
theorem fail_presentable {code message : String} {shown : Bytes} (hcode : code ≠ "")
    (hmessage : message ≠ "") :
    (fail (encode code) (encode message ++ shown) : Outcome α).Presentable ↔ Valid shown := by
  simp [fail, Presentable, GoError.Presentable, HandlerError.Presentable, hcode, hmessage]

theorem fail_text_presentable {code message : String} (hcode : code ≠ "")
    (hmessage : message ≠ "") :
    (fail (encode code) (encode message) : Outcome α).Presentable := by
  have h := (@fail_presentable α code message [] hcode hmessage).mpr (Utf8.valid_encode "")
  rwa [List.append_nil] at h

@[simp] theorem not_fail_returns (code message : Bytes) :
    ¬ (fail code message : Outcome α).Returns := id

end Outcome

/-! ### Actions -/

/-- The call of a typed action gets as far as returning a result. -/
def TypedCall.Returns (call : TypedCall) : Prop :=
  call.arguments = .ok 1 ∧ call.argument = .ok () ∧
    ∃ result, call.handler = .returned (.ok result) ∧ result.length ≤ maxActionResultBytes

/-- Whatever stops the call of a typed action can be presented. -/
def TypedCall.Presentable (call : TypedCall) : Prop :=
  match call.arguments with
  | .error shown => Valid shown
  | .ok count =>
    count = 1 →
      match call.argument with
      | .error shown => Valid shown
      | .ok () =>
        match call.handler with
        | .failed err => err.ActionPresentable
        | .panicked shown => Valid shown
        | .returned (.error shown) => Valid shown
        | .returned (.ok _) => True

/-- The call of a raw action gets as far as returning a result. -/
def RawCall.Returns (call : RawCall) : Prop :=
  ∃ result, call.handler = .returned (result, .ok ()) ∧ result.length ≤ maxActionResultBytes

/-- Whatever stops the call of a raw action can be presented. -/
def RawCall.Presentable (call : RawCall) : Prop :=
  match call.handler with
  | .failed err => err.ActionPresentable
  | .panicked shown => Valid shown
  | .returned (result, .error shown) => result.length ≤ maxActionResultBytes → Valid shown
  | .returned (_, .ok ()) => True

def ActionCall.Returns : ActionCall → Prop
  | .typed call => call.Returns
  | .raw call => call.Returns

def ActionCall.Presentable : ActionCall → Prop
  | .typed call => call.Presentable
  | .raw call => call.Presentable

/-- The error an action reports is well formed exactly when the handler's error
can be presented. -/
theorem actionHandlerError_presentable {err : GoError} :
    (actionHandlerError err).Presentable ↔ err.ActionPresentable := by
  unfold actionHandlerError GoError.ActionPresentable HandlerError.Presentable
  by_cases hdeadline : err.is .deadlineExceeded
  · simp [hdeadline]
  by_cases hcanceled : err.is .canceled
  · simp [hdeadline, hcanceled]
  cases err.asHandlerError with
  | some h => simp [hdeadline, hcanceled]
  | none =>
    cases err.asActionCode with
    | none => simp [hdeadline, hcanceled]
    | some code =>
      by_cases hcode : code = []
      · simp [hdeadline, hcanceled, hcode, ← Utf8.encode_empty]
      · simp [hdeadline, hcanceled, hcode]
        tauto

theorem failed_ofHandlerError_presentable {α : Type} {h : HandlerError} :
    (Outcome.failed (.ofHandlerError h) : Outcome α).Presentable ↔ h.Presentable := by
  simp [Outcome.Presentable, GoError.Presentable]

theorem validateActionResultSize_presentable (result : Bytes) :
    (validateActionResultSize result).Presentable := by
  unfold validateActionResultSize
  split
  · trivial
  · exact Outcome.fail_text_presentable (by decide) (by decide)

theorem validateActionResultSize_eq_returned {result output : Bytes} :
    validateActionResultSize result = .returned output ↔
      result = output ∧ result.length ≤ maxActionResultBytes := by
  by_cases hsize : result.length ≤ maxActionResultBytes <;>
    simp [validateActionResultSize, hsize, Outcome.fail]

theorem validateActionResultSize_returns {result : Bytes} :
    (validateActionResultSize result).Returns ↔ result.length ≤ maxActionResultBytes := by
  simp [Outcome.returns_iff, validateActionResultSize_eq_returned]

theorem invokeTypedAction_presentable {call : TypedCall} :
    (invokeTypedAction call).Presentable ↔ call.Presentable := by
  obtain ⟨arguments, argument, handler⟩ := call
  unfold invokeTypedAction TypedCall.Presentable
  cases arguments with
  | error shown => exact Outcome.fail_presentable (by decide) (by decide)
  | ok count =>
    by_cases hcount : count = 1
    · subst hcount
      cases argument with
      | error shown => simpa using Outcome.fail_presentable (by decide) (by decide)
      | ok done =>
        cases handler with
        | failed err =>
          simpa using failed_ofHandlerError_presentable.trans actionHandlerError_presentable
        | panicked shown => simp [Outcome.Presentable]
        | returned value =>
          cases value with
          | error shown => simpa using Outcome.fail_presentable (by decide) (by decide)
          | ok result => simpa using validateActionResultSize_presentable result
    · have hmessage : s!"action requires one argument, received {count}" ≠ "" := by
        simp
      simpa [hcount] using Outcome.fail_text_presentable (by decide) hmessage

theorem invokeTypedAction_returns {call : TypedCall} :
    (invokeTypedAction call).Returns ↔ call.Returns := by
  obtain ⟨arguments, argument, handler⟩ := call
  unfold invokeTypedAction TypedCall.Returns
  cases arguments with
  | error shown => simp
  | ok count =>
    by_cases hcount : count = 1
    · cases argument with
      | error shown => simp [hcount]
      | ok done =>
        cases handler with
        | failed err => simp [hcount, Outcome.Returns]
        | panicked shown => simp [hcount, Outcome.Returns]
        | returned value =>
          cases value with
          | error shown => simp [hcount]
          | ok result => simp [hcount, validateActionResultSize_returns]
    · simp [hcount]

theorem invokeRawAction_presentable {call : RawCall} :
    (invokeRawAction call).Presentable ↔ call.Presentable := by
  obtain ⟨handler⟩ := call
  unfold invokeRawAction RawCall.Presentable
  cases handler with
  | failed err => exact failed_ofHandlerError_presentable.trans actionHandlerError_presentable
  | panicked shown => exact Iff.rfl
  | returned value =>
    obtain ⟨result, valid⟩ := value
    cases valid with
    | error shown =>
      by_cases hsize : result.length ≤ maxActionResultBytes
      · simpa [validateActionResultSize, hsize, Outcome.bind] using
          Outcome.fail_presentable (by decide) (by decide)
      · have hfail := validateActionResultSize_presentable result
        simp only [validateActionResultSize, hsize, if_false] at hfail ⊢
        simpa [hsize, Outcome.bind, Outcome.fail] using hfail
    | ok done =>
      refine iff_of_true (Outcome.bind_presentable.mpr ⟨?_, fun _ _ => trivial⟩) trivial
      exact validateActionResultSize_presentable result

theorem invokeRawAction_returns {call : RawCall} :
    (invokeRawAction call).Returns ↔ call.Returns := by
  obtain ⟨handler⟩ := call
  unfold invokeRawAction RawCall.Returns
  cases handler with
  | failed err => simp [Outcome.Returns]
  | panicked shown => simp [Outcome.Returns]
  | returned value =>
    obtain ⟨result, valid⟩ := value
    cases valid <;>
      simp [Outcome.returns_iff, Outcome.bind_eq_returned, Outcome.fail,
        validateActionResultSize_eq_returned]

theorem ActionCall.invoke_presentable {call : ActionCall} :
    call.invoke.Presentable ↔ call.Presentable := by
  cases call with
  | typed call => exact invokeTypedAction_presentable
  | raw call => exact invokeRawAction_presentable

theorem ActionCall.invoke_returns {call : ActionCall} : call.invoke.Returns ↔ call.Returns := by
  cases call with
  | typed call => exact invokeTypedAction_returns
  | raw call => exact invokeRawAction_returns

/-- A connection state, if there is one to encode, is encoded and small enough. -/
def StateReturns : Option (Outcome Bytes) → Prop
  | none => True
  | some encoded => ∃ state, encoded = .returned state ∧ state.length ≤ maxConnectionStateBytes

/-- Whatever stops the encoding of a connection state can be presented. -/
def StatePresentable : Option (Outcome Bytes) → Prop
  | none => True
  | some encoded => encoded.Presentable

theorem encodeConnectionState_presentable {encoded : Outcome Bytes} :
    (encodeConnectionState encoded).Presentable ↔ encoded.Presentable := by
  refine Outcome.bind_presentable.trans (and_iff_left ?_)
  intro state _
  split
  · trivial
  · exact Outcome.fail_text_presentable (by decide) (by decide)

theorem encodeOptional_presentable {state : Option (Outcome Bytes)} :
    (encodeOptional state).Presentable ↔ StatePresentable state := by
  cases state with
  | none => exact Iff.rfl
  | some encoded =>
    refine Outcome.bind_presentable.trans ?_
    rw [encodeConnectionState_presentable]
    exact and_iff_left fun _ _ => trivial

theorem encodeConnectionState_eq_returned {encoded : Outcome Bytes} {state : Bytes} :
    encodeConnectionState encoded = .returned state ↔
      encoded = .returned state ∧ state.length ≤ maxConnectionStateBytes := by
  rw [encodeConnectionState, Outcome.bind_eq_returned]
  constructor
  · rintro ⟨value, hvalue, h⟩
    split at h
    case isTrue hsize =>
      obtain rfl := Outcome.returned.inj h
      exact ⟨hvalue, hsize⟩
    case isFalse => cases h
  · rintro ⟨hvalue, hsize⟩
    exact ⟨state, hvalue, if_pos hsize⟩

theorem encodeOptional_returns {state : Option (Outcome Bytes)} :
    (encodeOptional state).Returns ↔ StateReturns state := by
  cases state with
  | none => exact Iff.rfl
  | some encoded =>
    simp [Outcome.returns_iff, encodeOptional, Outcome.bind_eq_returned,
      encodeConnectionState_eq_returned, StateReturns]

/-- Whatever stops a save can be presented. -/
def SaveOutcome.Presentable : SaveOutcome → Prop
  | .saved => True
  | .encodeFailed _ shown => Valid shown
  | .persistFailed shown => Valid shown
  | .panicked shown => Valid shown

theorem SaveOutcome.finish_presentable {α : Type} {code : String} {value : α}
    (hcode : code ≠ "") {save : SaveOutcome} :
    (save.finish (encode code) value).Presentable ↔ save.Presentable := by
  cases save with
  | saved => exact Iff.rfl
  | encodeFailed binary shown =>
    cases binary <;> exact Outcome.fail_presentable hcode (by decide)
  | persistFailed shown => exact Outcome.fail_presentable hcode (by decide)
  | panicked shown => exact Iff.rfl

theorem finishSaved_presentable {α : Type} {code : String} {value : α} (hcode : code ≠ "")
    {save : Option SaveOutcome} :
    (finishSaved (encode code) value save).Presentable ↔ ∀ s ∈ save, s.Presentable := by
  cases save with
  | none => simp [finishSaved, Outcome.Presentable]
  | some save => simp [finishSaved, SaveOutcome.finish_presentable hcode]

/-- Whatever stops an action before its result can be presented. -/
def ActionRun.Presentable : ActionRun → Prop
  | .unregistered => True
  | .inactiveConnection _ => True
  | .invoked call state save =>
    call.Presentable ∧ (call.Returns → StatePresentable state ∧
      (StateReturns state → ∀ s ∈ save, s.Presentable))

/-- The adapter returns a result that carries no connection state. -/
def ActionRun.ReturnsStateless : ActionRun → Prop
  | .invoked call none save => call.Returns ∧ ∀ s ∈ save, s = .saved
  | _ => False

theorem adapterAction_presentable {quote : String → String} {action : String} {run : ActionRun} :
    (adapterAction quote action run).Presentable ↔ run.Presentable := by
  cases run with
  | unregistered | inactiveConnection connId =>
    exact iff_of_true (Outcome.fail_text_presentable (by decide) (by simp)) trivial
  | invoked call state save =>
    rw [ActionRun.Presentable, ← ActionCall.invoke_presentable, ← ActionCall.invoke_returns,
      ← encodeOptional_presentable, ← encodeOptional_returns]
    refine Outcome.bind_presentable_iff fun output => Outcome.bind_presentable_iff fun state => ?_
    exact finishSaved_presentable (by decide)

theorem ActionCall.invoke_returned {call : ActionCall} {output : Bytes}
    (h : call.invoke = .returned output) : output.length ≤ maxActionResultBytes := by
  cases call with
  | typed call =>
    simp only [ActionCall.invoke, invokeTypedAction] at h
    split at h
    · cases h
    split at h
    · cases h
    split at h
    · cases h
    split at h
    · cases h
    · cases h
    · cases h
    · obtain ⟨rfl, hsize⟩ := validateActionResultSize_eq_returned.mp h
      exact hsize
  | raw call =>
    simp only [ActionCall.invoke, invokeRawAction] at h
    split at h
    · cases h
    · cases h
    · obtain ⟨value, hvalue, h⟩ := Outcome.bind_eq_returned.mp h
      obtain ⟨rfl, hsize⟩ := validateActionResultSize_eq_returned.mp hvalue
      split at h
      · cases h
      · obtain rfl := Outcome.returned.inj h
        exact hsize

/-- A connection state that the adapter returns is within its limit. -/
theorem encodeOptional_returned {encoded : Option (Outcome Bytes)} {state : Option Bytes}
    (h : encodeOptional encoded = .returned state) :
    (∀ s ∈ state, s.length ≤ maxConnectionStateBytes) ∧ (state = none ↔ encoded = none) := by
  cases encoded with
  | none =>
    cases h
    simp
  | some encoded =>
    obtain ⟨value, hvalue, h⟩ := Outcome.bind_eq_returned.mp h
    obtain rfl := Outcome.returned.inj h
    simpa using (encodeConnectionState_eq_returned.mp hvalue).2

theorem finishSaved_returned {α : Type} {code : Bytes} {value result : α}
    {save : Option SaveOutcome} (h : finishSaved code value save = .returned result) :
    result = value ∧ ∀ s ∈ save, s = .saved := by
  rcases save with _ | ⟨_ | ⟨binary, shown⟩ | shown | shown⟩
  · cases h
    simp
  · cases h
    simp
  · cases binary <;> cases h
  · cases h
  · cases h

/-- The sizes of an action result that the adapter returns, and where a result
without a connection state comes from. -/
theorem adapterAction_returned {quote : String → String} {action : String} {run : ActionRun}
    {result : ActionResult} (h : adapterAction quote action run = .returned result) :
    result.output.length ≤ maxActionResultBytes ∧
      (∀ s ∈ result.connectionState, s.length ≤ maxConnectionStateBytes) ∧
      (result.connectionState = none ↔ run.ReturnsStateless) := by
  cases run with
  | unregistered => cases h
  | inactiveConnection connId => cases h
  | invoked call state save =>
    obtain ⟨output, hcall, h⟩ := Outcome.bind_eq_returned.mp h
    obtain ⟨encoded, hstate, h⟩ := Outcome.bind_eq_returned.mp h
    obtain ⟨rfl, hsaved⟩ := finishSaved_returned h
    obtain ⟨hsize, hnone⟩ := encodeOptional_returned hstate
    refine ⟨ActionCall.invoke_returned hcall, hsize, ?_⟩
    have hreturns : call.Returns :=
      ActionCall.invoke_returns.mp (Outcome.returns_iff.mpr ⟨output, hcall⟩)
    cases state with
    | none => exact iff_of_true (hnone.mpr rfl) ⟨hreturns, hsaved⟩
    | some state => simpa [ActionRun.ReturnsStateless] using hnone

/-! ### The structured error of an outcome -/

theorem handlerWireError_wellFormed {operation : String} {err : GoError} :
    (handlerWireError (encode operation) err).WellFormed ↔ err.Presentable := by
  unfold handlerWireError GoError.Presentable
  cases err.asHandlerError with
  | some h => exact Iff.rfl
  | none =>
    have hmessage : encode operation ++ encode " failed: " ++ err.text =
        encode (operation ++ " failed: ") ++ err.text := by
      rw [Utf8.encode_append]
    simp [Wire.WireError.WellFormed, hmessage]

theorem panicWireError_wellFormed {operation : String} {shown : Bytes} :
    (panicWireError (encode operation) shown).WellFormed ↔ Valid shown := by
  have hmessage : encode operation ++ encode " panicked: " ++ shown =
      encode (operation ++ " panicked: ") ++ shown := by
    rw [Utf8.encode_append]
  simp [panicWireError, Wire.WireError.WellFormed, hmessage]

/-- An outcome is reported by a well-formed error exactly when it can be
presented. -/
theorem settle_wellFormed {α : Type} {operation panicOperation : String} {o : Outcome α} :
    (∀ e ∈ errorOf (settle operation panicOperation o), e.WellFormed) ↔ o.Presentable := by
  cases o with
  | returned value => simp [settle, errorOf, Outcome.Presentable]
  | failed err => simp [settle, errorOf, Outcome.Presentable, handlerWireError_wellFormed]
  | panicked shown => simp [settle, errorOf, Outcome.Presentable, panicWireError_wellFormed]

/-! ### Acceptance of the result commands -/

theorem forall_mem_some {α : Type} {p : α → Prop} {x : α} :
    (∀ y ∈ some x, p y) ↔ p x := by
  simp

section Accepted

variable {cbor : Native.Ciborium} {aid : String} {generation : UInt64}
  {error : Option Wire.WireError}

/-- A command that native builds from its error field alone, and whose checks
come to those of the error, is accepted exactly when the error is well formed. -/
theorem accepted_of_error {c : Wire.Command} (build : Option Native.WireError → Native.Command)
    (hreceived : c.received =
      (receivedOptional Wire.WireError.received error).bind fun e => some (build e))
    (hvalid : ∀ d, d.isSome = error.isSome →
      (Native.validateCommand cbor (build d) = .ok () ↔ Native.requireWireError d = .ok ())) :
    Accepted cbor c ↔ ∀ e ∈ error, e.WellFormed := by
  rw [← received_requireWireError]
  constructor
  · rintro ⟨d, hd, hok⟩
    rw [hreceived, Option.bind_eq_some_iff] at hd
    obtain ⟨e, he, hbuild⟩ := hd
    obtain rfl := Option.some.inj hbuild
    have hsome : e.isSome = error.isSome := by
      cases error with
      | none =>
        cases he
        rfl
      | some w =>
        obtain ⟨d, -, rfl⟩ := Option.map_eq_some_iff.mp he
        rfl
    exact ⟨e, he, (hvalid e hsome).mp hok, hsome⟩
  · rintro ⟨e, he, hok, hsome⟩
    exact ⟨build e, by rw [hreceived, he]; rfl, (hvalid e hsome).mpr hok⟩

theorem accepted_actorStartResult {hasRun : Bool} (haid : aid ≠ "") :
    Accepted cbor
        { kind := .actorStartResult, aid := encode aid, generation := generation,
          ok := error.isNone, run := error.isNone && hasRun, error := error } ↔
      ∀ e ∈ error, e.WellFormed := by
  refine accepted_of_error
    (.actorStartResult aid generation error.isNone (error.isNone && hasRun)) ?_ ?_
  · simp [Wire.Command.received, Wire.Command.received.error]
  · intro d hd
    cases error <;> simp_all [Native.validateCommand, Native.requireAid]

theorem accepted_actorRunResult (haid : aid ≠ "") :
    Accepted cbor
        { kind := .actorRunResult, aid := encode aid, generation := generation,
          error := error } ↔
      ∀ e ∈ error, e.WellFormed :=
  accepted_of_error (.actorRunResult aid generation)
    (by simp [Wire.Command.received, Wire.Command.received.error])
    fun _ _ => (Native.validateCommand_handled (by simp)).trans (and_iff_right haid)

theorem accepted_actorStopResult (haid : aid ≠ "") :
    Accepted cbor
        { kind := .actorStopResult, aid := encode aid, generation := generation,
          error := error } ↔
      ∀ e ∈ error, e.WellFormed :=
  accepted_of_error (.actorStopResult aid generation)
    (by simp [Wire.Command.received, Wire.Command.received.error])
    fun _ _ => (Native.validateCommand_handled (by simp)).trans (and_iff_right haid)

theorem accepted_alarmHandled (haid : aid ≠ "") :
    Accepted cbor
        { kind := .alarmHandled, aid := encode aid, generation := generation,
          error := error } ↔
      ∀ e ∈ error, e.WellFormed :=
  accepted_of_error (.alarmHandled aid generation)
    (by simp [Wire.Command.received, Wire.Command.received.error])
    fun _ _ => (Native.validateCommand_handled (by simp)).trans (and_iff_right haid)

theorem accepted_wsOpenResult {wsId : String} (hws : wsId ≠ "") :
    Accepted cbor
        { kind := .wsOpenResult, wsId := encode wsId, accept := error.isNone,
          error := error } ↔
      ∀ e ∈ error, e.WellFormed := by
  refine accepted_of_error (.wsOpenResult wsId error.isNone) ?_ ?_
  · simp [Wire.Command.received, Wire.Command.received.error]
  · intro d hd
    cases error <;> simp_all [Native.validateCommand, Native.requireWsId]

theorem accepted_httpError {reqId : UInt64} (hreq : reqId ≠ 0) {e : Wire.WireError} :
    Accepted cbor
        { kind := .httpResponseStart, requestId := reqId, headers := some [], body := some [],
          error := some e } ↔
      e.WellFormed := by
  refine (accepted_of_error (.httpResponseStart reqId 0 [] [] false) ?_ ?_).trans
    forall_mem_some
  · simp [Wire.Command.received, Wire.Command.received.error, Wire.Command.received.headers]
  · rintro d hd
    simp_all [Native.validateCommand, Native.requireCorrelation]

theorem accepted_actionError {callId : UInt64} (hcall : callId ≠ 0) {e : Wire.WireError} :
    Accepted cbor { kind := .actionResult, callId := callId, error := some e } ↔
      e.WellFormed := by
  refine (accepted_of_error (.actionResult callId none none) ?_ ?_).trans
    forall_mem_some
  · simp [Wire.Command.received, Wire.Command.received.error]
  · rintro d hd
    obtain ⟨w, rfl⟩ := Option.isSome_iff_exists.mp hd
    simp_all [Native.validateCommand, Native.requireCorrelation, Native.requireConnectionState]

theorem accepted_connectionError {opId : UInt64} (hop : opId ≠ 0) {e : Wire.WireError} :
    Accepted cbor { kind := .connectionResult, operationId := opId, error := some e } ↔
      e.WellFormed := by
  refine (accepted_of_error (.connectionResult opId none) ?_ ?_).trans
    forall_mem_some
  · simp [Wire.Command.received, Wire.Command.received.error]
  · rintro d hd
    obtain ⟨w, rfl⟩ := Option.isSome_iff_exists.mp hd
    simp_all [Native.validateCommand, Native.requireCorrelation, Native.requireConnectionState]

/-- A result crosses the boundary as it is. -/
theorem received_actionOutput {callId : UInt64} {result : ActionResult} :
    Wire.Command.received
      { kind := .actionResult, callId := callId, output := some result.output,
        connectionState := result.connectionState.map some } =
      some (.actionResult callId (some result.output) result.connectionState none) := by
  cases result.connectionState <;>
    simp [Wire.Command.received, Wire.Command.received.error, receivedOptional]

theorem accepted_actionOutput {callId : UInt64} (hcall : callId ≠ 0) {result : ActionResult} :
    Accepted cbor
        { kind := .actionResult, callId := callId, output := some result.output,
          connectionState := result.connectionState.map some } ↔
      result.output.length ≤ maxActionResultBytes ∧
        ∀ s ∈ result.connectionState, s.length ≤ maxConnectionStateBytes := by
  have hvalid : Native.validateCommand cbor
      (.actionResult callId (some result.output) result.connectionState none) = .ok () ↔
      result.output.length ≤ Native.maxBodyChunk ∧
        ∀ s ∈ result.connectionState, s.length ≤ Native.maxBodyChunk := by
    simp [Native.validateCommand, Native.requireCorrelation, Native.requireWireError,
      Native.requireConnectionState, hcall]
  rw [Accepted, received_actionOutput]
  constructor
  · rintro ⟨d, hd, hok⟩
    cases hd
    exact hvalid.mp hok
  · intro h
    exact ⟨_, rfl, hvalid.mpr h⟩

theorem accepted_connectionState {opId : UInt64} (hop : opId ≠ 0) {state : Bytes}
    (hstate : state.length ≤ maxConnectionStateBytes) :
    Accepted cbor
      { kind := .connectionResult, operationId := opId,
        connectionState := some (some state) } := by
  refine ⟨.connectionResult opId (some state) none, rfl, ?_⟩
  have hstate' : state.length ≤ Native.maxBodyChunk := hstate
  simp [Native.validateCommand, Native.requireCorrelation, Native.requireWireError,
    Native.requireConnectionState, hop, hstate']

end Accepted

/-! ### Invocations -/

/-- Whatever goes wrong in an invocation can be presented. A `Run` that was
cancelled or aborted did not go wrong. -/
def Invocation.Presentable : Invocation → Prop
  | .start _ handler _ => ∀ o ∈ handler, o.Presentable
  | .run (.failed err) =>
    err.is .actorAborted ∨ err.is .canceled ∨ err.is .shuttingDown ∨ err.Presentable
  | .run outcome => outcome.Presentable
  | .action _ _ ran later => ran.Presentable ∧ (ran.ReturnsStateless → StatePresentable later)
  | .connection _ _ hook => StatePresentable hook
  | .alarm hook save => ∀ o ∈ hook, o.Presentable ∧ (o.Returns → ∀ s ∈ save, s.Presentable)
  | .fetch _ outcome => outcome.Presentable
  | .wsOpen _ outcome => outcome.Presentable
  | .stop .runTimedOut => True
  | .stop (.stopped outcome) => outcome.Presentable

theorem invokeStart_wellFormed {quote : String → String} {name : String}
    {handler : Option (Outcome Unit)} :
    (∀ e ∈ errorOf (invokeStart quote name handler), e.WellFormed) ↔
      ∀ o ∈ handler, o.Presentable := by
  cases handler with
  | none => simp [invokeStart, errorOf, Wire.WireError.WellFormed]
  | some outcome => simpa [invokeStart] using settle_wellFormed

theorem invokeRun_wellFormed {outcome : Outcome Unit} :
    (∀ e ∈ errorOf (invokeRun outcome), e.WellFormed) ↔
      (Invocation.run outcome).Presentable := by
  cases outcome with
  | returned value => exact @settle_wellFormed Unit "Run" "Run" (.returned value)
  | panicked shown => exact @settle_wellFormed Unit "Run" "Run" (.panicked shown)
  | failed err =>
    unfold invokeRun Invocation.Presentable
    by_cases h : err.is .actorAborted ∨ err.is .canceled ∨ err.is .shuttingDown
    · simp only [h, if_true]
      refine iff_of_true (by simp [errorOf]) ?_
      tauto
    · simp only [h, if_false]
      refine settle_wellFormed.trans ?_
      simp only [Outcome.Presentable]
      tauto

theorem invokeAlarm_wellFormed {hook : Option (Outcome Unit)} {save : Option SaveOutcome} :
    (∀ e ∈ errorOf (invokeAlarm hook save), e.WellFormed) ↔
      ∀ o ∈ hook, o.Presentable ∧ (o.Returns → ∀ s ∈ save, s.Presentable) := by
  refine settle_wellFormed.trans ?_
  cases hook with
  | none =>
    refine iff_of_true (Outcome.fail_text_presentable (by decide) (by decide)) ?_
    simp
  | some outcome =>
    refine (Outcome.bind_presentable_iff fun _ => finishSaved_presentable (by decide)).trans ?_
    simp

theorem adapterAction_returns_of_stateless {quote : String → String} {action : String}
    {run : ActionRun} (h : run.ReturnsStateless) : (adapterAction quote action run).Returns := by
  cases run with
  | unregistered => exact h.elim
  | inactiveConnection connId => exact h.elim
  | invoked call state save =>
    cases state with
    | some state => exact h.elim
    | none =>
      obtain ⟨hcall, hsaved⟩ := h
      obtain ⟨output, houtput⟩ := Outcome.returns_iff.mp (ActionCall.invoke_returns.mpr hcall)
      cases save with
      | none => simp [adapterAction, houtput, Outcome.bind, encodeOptional, finishSaved,
          Outcome.Returns]
      | some save =>
        obtain rfl := hsaved save rfl
        simp [adapterAction, houtput, Outcome.bind, encodeOptional, finishSaved,
          SaveOutcome.finish, Outcome.Returns]

/-- An action result of permitted size, or a well-formed error. -/
def ActionSettled : Except Wire.WireError ActionResult → Prop
  | .ok result =>
    result.output.length ≤ maxActionResultBytes ∧
      ∀ s ∈ result.connectionState, s.length ≤ maxConnectionStateBytes
  | .error e => e.WellFormed

theorem invokeConnectionState_ok {later : Option (Outcome Bytes)} {state : Option Bytes}
    (h : invokeConnectionState later = .ok state) :
    (∀ s ∈ state, s.length ≤ maxConnectionStateBytes) ∧ StatePresentable later := by
  unfold invokeConnectionState at h
  cases hlater : encodeOptional later with
  | failed err => simp [hlater, settle] at h
  | panicked shown => simp [hlater, settle] at h
  | returned value =>
    simp only [hlater, settle, Except.ok.injEq] at h
    subst h
    refine ⟨(encodeOptional_returned hlater).1, ?_⟩
    rw [← encodeOptional_presentable, hlater]
    trivial

theorem invokeConnectionState_error {later : Option (Outcome Bytes)} {e : Wire.WireError}
    (h : invokeConnectionState later = .error e) : e.WellFormed ↔ StatePresentable later := by
  rw [← encodeOptional_presentable, ← @settle_wellFormed _ "encode connection state"
    "encode connection state"]
  change _ ↔ ∀ e' ∈ errorOf (invokeConnectionState later), _
  simp [h, errorOf]

/-- The outcome of an action, with the connection state the worker adds, is
settled exactly when nothing in it is unpresentable. -/
theorem actionOutcome_settled {quote : String → String} {action : String} {run : ActionRun}
    {later : Option (Outcome Bytes)} :
    ActionSettled (actionOutcome quote action run later) ↔
      run.Presentable ∧ (run.ReturnsStateless → StatePresentable later) := by
  have hrun : (adapterAction quote action run).Presentable ↔ run.Presentable :=
    adapterAction_presentable
  have hreturns : run.ReturnsStateless → (adapterAction quote action run).Returns :=
    adapterAction_returns_of_stateless
  cases hadapter : adapterAction quote action run with
  | failed err =>
    rw [hadapter] at hrun hreturns
    have herror : actionOutcome quote action run later =
        .error (handlerWireError (encode ("action " ++ action)) err) := by
      simp [actionOutcome, invokeAction, hadapter, settle, bind, Except.bind]
    rw [herror, ← hrun]
    exact handlerWireError_wellFormed.trans (iff_self_and.mpr fun _ h => (hreturns h).elim)
  | panicked shown =>
    rw [hadapter] at hrun hreturns
    have herror : actionOutcome quote action run later =
        .error (panicWireError (encode ("action " ++ quote action)) shown) := by
      simp [actionOutcome, invokeAction, hadapter, settle, bind, Except.bind]
    rw [herror, ← hrun]
    exact panicWireError_wellFormed.trans (iff_self_and.mpr fun _ h => (hreturns h).elim)
  | returned result =>
    obtain ⟨houtput, hsize, hstateless⟩ := adapterAction_returned hadapter
    have hpresentable : run.Presentable := by
      rw [← hrun, hadapter]
      trivial
    cases hstate : result.connectionState with
    | some state =>
      have hok : actionOutcome quote action run later = .ok result := by
        simp [actionOutcome, invokeAction, hadapter, settle, bind, Except.bind, hstate,
          pure, Except.pure]
      rw [hok]
      refine iff_of_true ⟨houtput, hsize⟩ ⟨hpresentable, fun h => ?_⟩
      simp [hstateless.mpr h] at hstate
    | none =>
      cases hlater : invokeConnectionState later with
      | error e =>
        have herror : actionOutcome quote action run later = .error e := by
          simp [actionOutcome, invokeAction, hadapter, settle, bind, Except.bind, hstate,
            hlater]
        rw [herror]
        refine (invokeConnectionState_error hlater).trans ?_
        simp [hpresentable, hstateless.mp hstate]
      | ok state =>
        obtain ⟨hstateSize, hpresent⟩ := invokeConnectionState_ok hlater
        have hok : actionOutcome quote action run later =
            .ok { result with connectionState := state } := by
          simp [actionOutcome, invokeAction, hadapter, settle, bind, Except.bind, hstate,
            hlater, pure, Except.pure]
        rw [hok]
        exact iff_of_true ⟨houtput, hstateSize⟩ ⟨hpresentable, fun _ => hpresent⟩

/-- The command that the worker submits for an invocation, on its own. -/
theorem accepted_iff_presentable (cbor : Native.Ciborium) (quote : String → String)
    (actor : Identity) (invocation : Invocation) :
    (∀ c ∈ invocation.command quote actor, Accepted cbor c) ↔ invocation.Presentable := by
  cases invocation with
  | start name handler hasRun =>
    exact forall_mem_some.trans
      ((accepted_actorStartResult actor.aid_ne).trans invokeStart_wellFormed)
  | run outcome =>
    exact forall_mem_some.trans
      ((accepted_actorRunResult actor.aid_ne).trans invokeRun_wellFormed)
  | action callId name ran later =>
    rw [Invocation.Presentable, ← @actionOutcome_settled quote name]
    simp only [Invocation.command]
    cases actionOutcome quote name ran later with
    | error e => exact forall_mem_some.trans (accepted_actionError callId.2)
    | ok result => exact forall_mem_some.trans (accepted_actionOutput callId.2)
  | connection opId event hook =>
    simp only [Invocation.command, Invocation.Presentable]
    cases hook with
    | none =>
      refine iff_of_true (forall_mem_some.mpr ?_) trivial
      exact accepted_connectionState opId.2 (by decide)
    | some hook =>
      simp only [invokeConnectionLifecycle, StatePresentable]
      rw [← encodeConnectionState_presentable, ← @settle_wellFormed _ event.kind event.kind]
      cases hstate : encodeConnectionState hook with
      | returned state =>
        refine iff_of_true (forall_mem_some.mpr ?_) (by simp [settle, errorOf])
        exact accepted_connectionState opId.2 (encodeConnectionState_eq_returned.mp hstate).2
      | failed err | panicked shown =>
        exact forall_mem_some.trans
          ((accepted_connectionError opId.2).trans forall_mem_some.symm)
  | alarm hook save =>
    exact forall_mem_some.trans
      ((accepted_alarmHandled actor.aid_ne).trans invokeAlarm_wellFormed)
  | fetch reqId outcome =>
    refine Iff.trans ?_ (@settle_wellFormed _ "OnFetch" "OnFetch" outcome)
    simp only [Invocation.command, invokeFetch]
    cases errorOf (settle "OnFetch" "OnFetch" outcome) with
    | none => simp
    | some e =>
      exact forall_mem_some.trans ((accepted_httpError reqId.2).trans forall_mem_some.symm)
  | wsOpen wsId outcome =>
    exact forall_mem_some.trans ((accepted_wsOpenResult wsId.2).trans settle_wellFormed)
  | stop outcome =>
    refine forall_mem_some.trans ((accepted_actorStopResult actor.aid_ne).trans ?_)
    cases outcome with
    | runTimedOut =>
      refine iff_of_true ?_ trivial
      simp [stopError, Wire.WireError.WellFormed]
    | stopped outcome => exact settle_wellFormed

/-- Native accepts the command exactly when whatever went wrong can be presented. An
outcome that cannot takes the other commands of its batch with it, and any other
leaves their acceptance as it was. -/
theorem command_accepted_iff_presentable (cbor : Native.Ciborium) (quote : String → String)
    (actor : Identity) (invocation : Invocation) :
    ((∀ c ∈ invocation.command quote actor, Accepted cbor c) ↔ invocation.Presentable) ∧
    ∀ c ∈ invocation.command quote actor, ∀ before after : List Wire.Command,
      (BatchAccepted cbor (before ++ c :: after) ↔
        invocation.Presentable ∧ BatchAccepted cbor (before ++ after)) := by
  have haccepted := accepted_iff_presentable cbor quote actor invocation
  refine ⟨haccepted, fun c hc before after => ?_⟩
  have hone : Accepted cbor c ↔ invocation.Presentable := by
    rw [← haccepted, Option.mem_def.mp hc]
    exact forall_mem_some.symm
  simp only [batchAccepted_iff, List.forall_mem_append, List.forall_mem_cons, hone]
  exact and_left_comm

/-- An action handler that returns `errors.New("")` is answered by a command
that native refuses: its message is empty. -/
theorem action_empty_error_not_accepted :
    ¬ ∀ c ∈ (Invocation.action ⟨1, by decide⟩ "ping"
        (.invoked (.raw ⟨.failed (.new [])⟩) none none) none).command id ⟨"actor", 1, by decide⟩,
      Accepted ⟨fun _ => .error "", fun _ => .error ""⟩ c := by
  intro h
  have hwell := (accepted_actionError (by decide)).mp (h _ rfl)
  exact hwell.2.2 rfl

end RivetGo.Handler

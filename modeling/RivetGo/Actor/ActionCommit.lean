import Mathlib
import RivetGo.Data.Run
import RivetGo.Handler.Presentable
import RivetGo.Native.Emit

/-!
# Whether an action is committed

An action call crosses the boundary twice. `request_action` names the calling connection if it is
an ActorConnect connection, the adapter runs the action, encodes the state of the connection and
saves the actor, the worker submits the result, and `request_action` checks that there is a
connection state exactly if it has named a connection.

The loop of the actor waits for the result of a call before it takes the next event of core, so
the tables of connections change in between only by what does not go through the loop: a WebSocket
that closes, and what other actors do to the table of ActorConnect ids that all actors share.
-/

namespace RivetGo.ActionCommit

open Handler Native
open Utf8 (encode)

/-! ## One call -/

/-- What the code that a call reaches does. `later` is a second encoding of the connection state,
for a result that has none. No save is made if the destruction of the actor was requested. -/
structure Behaviour where
  registered : Bool
  call : ActionCall
  encoded : Outcome Bytes
  save : Option SaveOutcome
  later : Outcome Bytes

/-- Whether a connection that the adapter knows is an ActorConnect connection. -/
abbrev GoConnections := String → Option Bool

def actionRun (connections : GoConnections) (connId : Option String) (b : Behaviour) : ActionRun :=
  if b.registered then
    match connId with
    | none => .invoked b.call none b.save
    | some id => match connections id with
      | none => .inactiveConnection id
      | some true => .invoked b.call (some b.encoded) b.save
      | some false => .invoked b.call none b.save
  else .unregistered

/-- `actorAdapter.ConnectionState`, for a call that named a connection. -/
def laterState (connections : GoConnections) (connId : Option String) (b : Behaviour) :
    Option (Outcome Bytes) :=
  connId.bind fun id => match connections id with
    | some true => some b.later
    | _ => none

/-- What the adapter does, in order. -/
inductive Effect where
  | invoke
  | encodeState
  | save (outcome : SaveOutcome)

def saveEffects : Option SaveOutcome → List Effect
  -- A state that cannot be encoded does not get to `Save` of the session.
  | none | some (.encodeFailed _ _) => []
  | some outcome => [.save outcome]

def adapterEffects : ActionRun → List Effect
  | .unregistered | .inactiveConnection _ => []
  | .invoked call connectionState save =>
    .invoke :: match call.invoke with
      | .returned _ =>
        .encodeState :: match encodeOptional connectionState with
          | .returned _ => saveEffects save
          | _ => []
      | _ => []

/-- The automatic save of the action was submitted and has succeeded. -/
def Saved (run : ActionRun) : Prop := Effect.save .saved ∈ adapterEffects run

/-- How the correlation of a call ends. -/
inductive Settlement where
  /-- By the `ActionResult`. -/
  | resolved
  /-- At once, as the event queue is closed. -/
  | unsent
  | timeout
  /-- The runner has drained the correlations. -/
  | shutdown
  | senderDropped

/-- `request_action` after the payload was decoded. `known` is the table of connections of the
generation. -/
def settleAction (known : String → Bool) (connId : Option String) :
    Option Bytes → Option Bytes → Option WireError → Except WireError Bytes
  | some output, connectionState, none => match connId, connectionState with
    | some id, some _ =>
      if known id then .ok output
      else .error (.new "connection_not_found"
        "calling connection closed before action state persisted")
    | some _, none =>
      .error (.new "action_result_invalid"
        "connected action result is missing connection state")
    | none, none => .ok output
    | none, some _ =>
      .error (.new "action_result_invalid"
        "stateless action result contains connection state")
  | none, none, some error => .error error
  | _, _, _ =>
    .error (.new "action_result_invalid"
      "action result must contain exactly one of output or error")

/-! ## The tables and the calls of a generation -/

structure Handled where
  run : ActionRun
  later : Option (Outcome Bytes)

structure Pending where
  callId : CorrelationId
  action : String
  connId : Option String
  handled : Option Handled := none

/-- What core was told about a call. -/
structure Report where
  action : String
  connId : Option String
  handled : Option Handled
  result : Except WireError Bytes

structure State where
  actorConnectIds : List String
  /-- The connections of the generation on the native side. -/
  connections : List String
  go : GoConnections
  /-- The connections that core has open. -/
  live : List String
  pending : Option Pending := none
  reports : List Report := []

/-- The generation starts with the hibernated connections; those of ActorConnect are restored. -/
def start (actorConnectIds hibernated : List String) : State :=
  { actorConnectIds := actorConnectIds
    connections := hibernated.filter (· ∈ actorConnectIds)
    go := fun id => if id ∈ hibernated ∧ id ∈ actorConnectIds then some true else none
    live := hibernated }

inductive OpenResult where
  | accepted
  /-- `OnActorConnect` or the encoding of its state fails. -/
  | refused
  /-- Go has accepted it, and the result does not reach native. -/
  | lost

inductive Action where
  | connectionOpen (id : String) (result : OpenResult)
  /-- `handled` says whether the event has reached the adapter. -/
  | connectionClosed (id : String) (handled : Bool)
  | wsOpen (id : String) (accepted : Bool)
  | wsClose (id : String)
  /-- Another actor adds an id to the table of ActorConnect ids. -/
  | foreignOpen (id : String)
  /-- Another generation, or another actor, removes ids from it. -/
  | foreignClose (kept : String → Bool)
  | call (callId : CorrelationId) (action : String) (args : Bytes) (conn : Option String)
  /-- The adapter and the worker handle it. -/
  | handle (b : Behaviour)
  /-- `request_action` returns. -/
  | settle (how : Settlement)

/-- An ActorConnect connection opens, first in the adapter. -/
def State.connectionOpen (s : State) (id : String) : OpenResult → State
  | .accepted =>
    if s.go id = none then
      { s with
        go := Function.update s.go id (some true)
        actorConnectIds := id :: s.actorConnectIds
        connections := id :: s.connections
        live := id :: s.live }
    else s
  | .refused => s
  | .lost =>
    if s.go id = none then { s with go := Function.update s.go id (some true) } else s

def State.connectionClosed (s : State) (id : String) (handled : Bool) : State :=
  let s' := { s with live := s.live.filter (· ≠ id) }
  if id ∈ s.actorConnectIds then
    { s' with
      connections := s.connections.filter (· ≠ id)
      go := if handled then Function.update s.go id none else s.go
      actorConnectIds := s.actorConnectIds.filter (· ≠ id) }
  else s'

/-- A raw WebSocket opens. A connection of its id is used if there is one, and is gone if
`OnConnect` refuses it. -/
def State.wsOpen (s : State) (id : String) (accepted : Bool) : State :=
  { s with
    go := Function.update s.go id (if accepted then some ((s.go id).getD false) else none) }

section
variable (cbor : Ciborium) (quote : String → String) (identity : ActorIdentity)

def actionResult (p : Pending) (h : Handled) : Option Wire.Command :=
  (Invocation.action p.callId p.action h.run h.later).command quote
    ⟨identity.aid, identity.generation, identity.aid_ne⟩

/-- What `request_action` makes of it, if native takes it. -/
def resolve (s : State) (p : Pending) (h : Handled) : Option (Except WireError Bytes) :=
  match (actionResult quote identity p h).bind Wire.Command.received with
  | some (.actionResult callId output connectionState error) =>
    match validateCommand cbor (.actionResult callId output connectionState error) with
    | .ok () =>
      some (settleAction (fun id => id ∈ s.connections) p.connId output connectionState error)
    | .error _ => none
  | _ => none

/-- What `request_action` returns. -/
def settled (s : State) (p : Pending) : Settlement → Option (Except WireError Bytes)
  | .resolved => p.handled.bind (resolve cbor quote identity s p)
  | .unsent =>
    if p.handled.isNone then some (.error (.new "runner_stopped" "Go event queue is closed"))
    else none
  | .timeout =>
    some (.error (.new "action_timed_out"
      "Go handler did not complete before the core dispatch deadline"))
  | .shutdown =>
    some (.error (.new "runner_stopped" "runner stopped while the Go handler was active"))
  | .senderDropped =>
    some (.error (.new "runner_stopped" "action correlation sender dropped"))

def step (s : State) : Action → Option State
  | .connectionOpen id result =>
    if s.pending.isNone then some (s.connectionOpen id result) else none
  | .connectionClosed id handled =>
    if s.pending.isNone then some (s.connectionClosed id handled) else none
  | .wsOpen id accepted => if s.pending.isNone then some (s.wsOpen id accepted) else none
  | .wsClose id => some { s with go := Function.update s.go id none }
  | .foreignOpen id => some { s with actorConnectIds := id :: s.actorConnectIds }
  | .foreignClose kept => some { s with actorConnectIds := s.actorConnectIds.filter kept }
  | .call callId action args conn =>
    if s.pending.isNone then
      match requestAction identity callId action args conn (fun id => id ∈ s.actorConnectIds) with
      | .ok (.actionCall _ _ _ _ _ _ connId) =>
        some { s with pending := some ⟨callId, action, connId, none⟩ }
      | _ => some s
    else none
  | .handle b => match s.pending with
    | some ⟨callId, action, connId, none⟩ =>
      some { s with
        pending := some ⟨callId, action, connId,
          some ⟨actionRun s.go connId b, laterState s.go connId b⟩⟩ }
    | _ => none
  | .settle how => s.pending.bind fun p => (settled cbor quote identity s p how).map fun result =>
    { s with pending := none, reports := ⟨p.action, p.connId, p.handled, result⟩ :: s.reports }

end

/-! ## The property -/

/-- The connection state of the caller, if there is one to encode, was encoded. -/
def StateEncoded : ActionRun → Prop
  | .unregistered | .inactiveConnection _ => False
  | .invoked _ connectionState _ => ∃ state, encodeOptional connectionState = .returned state

/-- What core is told agrees with what was saved. -/
structure Report.Agrees (quote : String → String) (r : Report) : Prop where
  failed : ∀ error, r.result = .error error → ∀ h, r.handled = some h → ¬ Saved h.run
  /-- The state of the connection is encoded before the save. -/
  encodedFirst : ∀ h, r.handled = some h → ∀ outcome, .save outcome ∈ adapterEffects h.run →
    StateEncoded h.run
  /-- If the action succeeds, its result has a connection state exactly if the call named a
  connection. -/
  sent : ∀ h result, r.handled = some h →
    actionOutcome quote r.action h.run h.later = .ok result →
    (result.connectionState.isSome ↔ r.connId.isSome)
  succeeded : ∀ output, r.result = .ok output → ∃ h result, r.handled = some h ∧
    actionOutcome quote r.action h.run h.later = .ok result

/-- A raw WebSocket has an id that no ActorConnect connection has, and so has a connection of
another actor; actions are called from connections that are open; and the correlation of a call
is resolved by its result, unless the call cannot be sent. -/
def Orderly (s : State) : Action → Prop
  | .wsOpen id _ => id ∉ s.actorConnectIds
  | .foreignOpen id => s.go id = none ∧ id ∉ s.live
  | .call _ _ _ conn => ∀ id, conn = some id → id ∈ s.live
  | .settle how => how = .resolved ∨ how = .unsent
  | _ => True

/-! ## The adapter -/

theorem stateEncoded_of_save {run : ActionRun} {outcome : SaveOutcome}
    (h : .save outcome ∈ adapterEffects run) : StateEncoded run := by
  cases run with
  | unregistered => exact absurd h List.not_mem_nil
  | inactiveConnection id => exact absurd h List.not_mem_nil
  | invoked call connectionState save =>
    simp only [adapterEffects, List.mem_cons, reduceCtorEq, false_or] at h
    split at h
    case h_1 =>
      simp only [List.mem_cons, reduceCtorEq, false_or] at h
      split at h
      case h_1 state hstate => exact ⟨state, hstate⟩
      case h_2 => exact absurd h List.not_mem_nil
    case h_2 => exact absurd h List.not_mem_nil

theorem eq_of_mem_saveEffects {save : Option SaveOutcome} {outcome : SaveOutcome}
    (h : .save outcome ∈ saveEffects save) : save = some outcome := by
  cases save with
  | none => exact absurd h List.not_mem_nil
  | some save =>
    cases save <;> simp only [saveEffects, List.mem_singleton, List.not_mem_nil,
      Effect.save.injEq] at h
    all_goals rw [h]

theorem adapterAction_of_saved {run : ActionRun} (h : Saved run) (quote : String → String)
    (action : String) : ∃ result, adapterAction quote action run = .returned result := by
  cases run with
  | unregistered => exact absurd h List.not_mem_nil
  | inactiveConnection id => exact absurd h List.not_mem_nil
  | invoked call connectionState save =>
    simp only [Saved, adapterEffects, List.mem_cons, reduceCtorEq, false_or] at h
    split at h
    case h_1 output houtput =>
      simp only [List.mem_cons, reduceCtorEq, false_or] at h
      split at h
      case h_1 state hstate =>
        refine ⟨⟨output, state⟩, ?_⟩
        rw [adapterAction, houtput, eq_of_mem_saveEffects h]
        simp only [Outcome.bind, hstate, finishSaved, SaveOutcome.finish]
      case h_2 => exact absurd h List.not_mem_nil
    case h_2 => exact absurd h List.not_mem_nil

/-- The result has a connection state if there was one to encode. -/
theorem isSome_of_adapterAction {quote : String → String} {action : String} {call : ActionCall}
    {connectionState : Option (Outcome Bytes)} {save : Option SaveOutcome} {result : ActionResult}
    (h : adapterAction quote action (.invoked call connectionState save) = .returned result) :
    result.connectionState.isSome ↔ connectionState.isSome := by
  obtain ⟨output, -, h⟩ := Outcome.bind_eq_returned.mp h
  obtain ⟨state, hstate, h⟩ := Outcome.bind_eq_returned.mp h
  obtain ⟨rfl, -⟩ := finishSaved_returned h
  rw [Option.isSome_iff_ne_none, Option.isSome_iff_ne_none]
  exact (encodeOptional_returned hstate).2.not

/-- The adapter has handled the call with a table in which the caller is not a raw WebSocket. -/
def Handled.Fits (connId : Option String) (h : Handled) : Prop :=
  ∃ g b, h = ⟨actionRun g connId b, laterState g connId b⟩ ∧
    ∀ id, connId = some id → g id ≠ some false

theorem Handled.Fits.isSome_iff {connId : Option String} {h : Handled} (hfits : h.Fits connId)
    {quote : String → String} {action : String} {result : ActionResult}
    (hreturned : adapterAction quote action h.run = .returned result) :
    result.connectionState.isSome ↔ connId.isSome := by
  obtain ⟨g, b, rfl, hraw⟩ := hfits
  simp only [actionRun] at hreturned
  split_ifs at hreturned
  · cases connId with
    | none => exact isSome_of_adapterAction hreturned
    | some id =>
      cases hid : g id with
      | none =>
        simp only [hid] at hreturned
        cases hreturned
      | some actorConnect =>
        cases actorConnect with
        | true =>
          simp only [hid] at hreturned
          exact isSome_of_adapterAction hreturned
        | false => exact absurd hid (hraw id rfl)
  · cases hreturned

/-- There is no second encoding: a result without a state is one that no connection called for. -/
theorem Handled.Fits.actionOutcome_eq {connId : Option String} {h : Handled}
    (hfits : h.Fits connId) {quote : String → String} {action : String} {result : ActionResult}
    (hreturned : adapterAction quote action h.run = .returned result) :
    actionOutcome quote action h.run h.later = .ok result := by
  have hstate := hfits.isSome_iff hreturned
  have hinvoked : invokeAction quote action h.run = .ok result := by
    rw [invokeAction, hreturned, settle]
  obtain ⟨output, state⟩ := result
  cases state with
  | some state =>
    simp only [actionOutcome, hinvoked, bind, Except.bind]
    rfl
  | none =>
    obtain ⟨g, b, rfl, -⟩ := hfits
    obtain rfl : connId = none := by simpa using hstate
    simp only [actionOutcome, hinvoked, bind, Except.bind]
    rfl

/-! ## The result at `request_action` -/

section
variable {cbor : Ciborium} {quote : String → String} {identity : ActorIdentity} {s s' : State}
  {p : Pending} {h : Handled}

/-- A result fits the call if it has a state exactly when a connection called. -/
theorem settleAction_eq_ok {known : String → Bool} {connId : Option String} {output : Bytes}
    {connectionState : Option Bytes} (hstate : connectionState.isSome ↔ connId.isSome)
    (hknown : ∀ id, connId = some id → known id = true) :
    settleAction known connId (some output) connectionState none = .ok output := by
  cases connId with
  | none =>
    cases connectionState with
    | none => rfl
    | some state => exact absurd (hstate.mp rfl) Bool.noConfusion
  | some id =>
    cases connectionState with
    | none => exact absurd (hstate.mpr rfl) Bool.noConfusion
    | some state => exact if_pos (hknown id rfl)

/-- A result of the worker comes from a result of the adapter. -/
theorem adapterAction_of_ok {action : String} {run : ActionRun} {later : Option (Outcome Bytes)}
    {result : ActionResult} (hresult : actionOutcome quote action run later = .ok result) :
    ∃ first, adapterAction quote action run = .returned first := by
  cases hadapter : adapterAction quote action run with
  | returned first => exact ⟨first, rfl⟩
  | failed err | panicked shown =>
    simp only [actionOutcome, invokeAction, hadapter, settle, bind, Except.bind] at hresult
    cases hresult

/-- Every result of the worker is within the limits of native. -/
theorem actionOutcome_sizes {action : String} {run : ActionRun} {later : Option (Outcome Bytes)}
    {result : ActionResult} (hresult : actionOutcome quote action run later = .ok result) :
    result.output.length ≤ maxActionResultBytes ∧
      ∀ state ∈ result.connectionState, state.length ≤ maxConnectionStateBytes := by
  obtain ⟨first, hadapter⟩ := adapterAction_of_ok hresult
  obtain ⟨houtput, hsize, -⟩ := adapterAction_returned hadapter
  simp only [actionOutcome, invokeAction, hadapter, settle, bind, Except.bind] at hresult
  split at hresult
  case h_1 =>
    obtain rfl := Except.ok.inj hresult
    exact ⟨houtput, hsize⟩
  case h_2 =>
    cases hlater : invokeConnectionState later with
    | error e =>
      rw [hlater] at hresult
      cases hresult
    | ok state =>
      rw [hlater] at hresult
      obtain rfl := Except.ok.inj hresult
      exact ⟨houtput, (invokeConnectionState_ok hlater).1⟩

/-- A result that the worker has is one that `request_action` gets. -/
theorem resolve_of_ok {result : ActionResult}
    (hresult : actionOutcome quote p.action h.run h.later = .ok result) :
    resolve cbor quote identity s p h = some (settleAction (fun id => id ∈ s.connections) p.connId
      (some result.output) result.connectionState none) := by
  have hcommand : actionResult quote identity p h =
      some { kind := .actionResult, callId := p.callId, output := some result.output,
             connectionState := result.connectionState.map some } := by
    simp only [actionResult, Invocation.command, hresult]
  have hvalid : validateCommand cbor
      (.actionResult p.callId (some result.output) result.connectionState none) = .ok () := by
    obtain ⟨d, hd, hok⟩ := (accepted_actionOutput p.callId.2).mpr (actionOutcome_sizes hresult)
    obtain rfl := Option.some.inj (received_actionOutput.symm.trans hd)
    exact hok
  simp only [resolve, hcommand, Option.bind_some, received_actionOutput, hvalid]

/-- If `request_action` succeeds, the worker had a result. -/
theorem actionOutcome_of_resolve {out : Bytes}
    (hok : resolve cbor quote identity s p h = some (.ok out)) :
    ∃ result, actionOutcome quote p.action h.run h.later = .ok result := by
  cases hresult : actionOutcome quote p.action h.run h.later with
  | ok result => exact ⟨result, rfl⟩
  | error e =>
    exfalso
    have hcommand : actionResult quote identity p h =
        some { kind := .actionResult, callId := p.callId, error := some e } := by
      simp only [actionResult, Invocation.command, hresult]
    cases he : e.received with
    | none =>
      simp [resolve, hcommand, Wire.Command.received, Wire.Command.received.error,
        receivedOptional, he] at hok
    | some d =>
      have hreceived : Wire.Command.received
          { kind := .actionResult, callId := p.callId, error := some e } =
          some (.actionResult p.callId none none (some d)) := by
        simp [Wire.Command.received, Wire.Command.received.error, receivedOptional, he]
      simp only [resolve, hcommand, Option.bind_some, hreceived] at hok
      split at hok
      case h_1 => exact absurd (Option.some.inj hok) (fun herror => by cases herror)
      case h_2 => exact absurd hok.symm (Option.some_ne_none _)

/-! ## What a run keeps -/

structure Inv (quote : String → String) (s : State) : Prop where
  raw : ∀ id ∈ s.actorConnectIds, s.go id ≠ some false
  opened : ∀ id ∈ s.actorConnectIds, id ∈ s.live → id ∈ s.connections
  /-- The caller of the call that is under way is known to native, and no raw WebSocket. -/
  named : ∀ p, s.pending = some p → ∀ id, p.connId = some id →
    id ∈ s.connections ∧ s.go id ≠ some false
  handled : ∀ p, s.pending = some p → ∀ h, p.handled = some h → h.Fits p.connId
  agrees : ∀ r ∈ s.reports, r.Agrees quote

theorem Inv.start (actorConnectIds hibernated : List String) :
    Inv quote (start actorConnectIds hibernated) where
  raw id _ := by
    simp only [ActionCommit.start]
    split_ifs <;> exact fun h => by cases h
  opened id hid hlive := List.mem_filter.mpr ⟨hlive, decide_eq_true hid⟩
  named _ hp := absurd hp.symm (Option.some_ne_none _)
  handled _ hp := absurd hp.symm (Option.some_ne_none _)
  agrees _ hr := absurd hr List.not_mem_nil

/-- The tables change while no call is under way. -/
theorem Inv.tables (hI : Inv quote s) (hidle : s.pending.isNone = true)
    (hpending : s'.pending = s.pending) (hreports : s'.reports = s.reports)
    (hraw : ∀ id ∈ s'.actorConnectIds, s'.go id ≠ some false)
    (hopened : ∀ id ∈ s'.actorConnectIds, id ∈ s'.live → id ∈ s'.connections) : Inv quote s' := by
  have hnone : s'.pending = none := hpending.trans (Option.isNone_iff_eq_none.mp hidle)
  refine ⟨hraw, hopened, fun p hp => ?_, fun p hp => ?_, hreports ▸ hI.agrees⟩
  · exact absurd (hnone.symm.trans hp).symm (Option.some_ne_none p)
  · exact absurd (hnone.symm.trans hp).symm (Option.some_ne_none p)

/-- A connection that is no raw WebSocket is entered, or one is removed. -/
theorem update_ne_raw {go : GoConnections} {id j : String} {kind : Option Bool}
    (hkind : kind ≠ some false) (hj : go j ≠ some false) :
    Function.update go id kind j ≠ some false := by
  rw [Function.update_apply]
  split_ifs
  · exact hkind
  · exact hj

theorem Inv.connectionOpen (hI : Inv quote s) (hidle : s.pending.isNone = true) (id : String)
    (result : OpenResult) : Inv quote (s.connectionOpen id result) := by
  have hgo : ∀ j, s.go j ≠ some false → Function.update s.go id (some true) j ≠ some false :=
    fun _ => update_ne_raw fun h => by cases h
  cases result with
  | refused => exact hI
  | lost =>
    rw [State.connectionOpen]
    split_ifs
    · exact hI.tables hidle rfl rfl (fun j hj => hgo j (hI.raw j hj)) hI.opened
    · exact hI
  | accepted =>
    rw [State.connectionOpen]
    split_ifs
    · refine hI.tables hidle rfl rfl (fun j hj => ?_) fun j hj hlive => ?_
      · obtain rfl | hj := List.mem_cons.mp hj
        · exact fun h => by cases (Function.update_self j (some true) s.go).symm.trans h
        · exact hgo j (hI.raw j hj)
      · by_cases hjid : j = id
        · exact hjid ▸ List.mem_cons_self
        · exact List.mem_cons_of_mem _ (hI.opened j ((List.mem_cons.mp hj).resolve_left hjid)
            ((List.mem_cons.mp hlive).resolve_left hjid))
    · exact hI

theorem Inv.connectionClosed (hI : Inv quote s) (hidle : s.pending.isNone = true) (id : String)
    (handled : Bool) : Inv quote (s.connectionClosed id handled) := by
  rw [State.connectionClosed]
  by_cases hid : id ∈ s.actorConnectIds
  · rw [if_pos hid]
    refine hI.tables hidle rfl rfl (fun j hj => ?_) fun j hj hlive => ?_
    · have hmem := List.mem_of_mem_filter hj
      cases handled with
      | true => exact update_ne_raw (fun h => by cases h) (hI.raw j hmem)
      | false => exact hI.raw j hmem
    · obtain ⟨hj, hne⟩ := List.mem_filter.mp hj
      obtain ⟨hlive, -⟩ := List.mem_filter.mp hlive
      exact List.mem_filter.mpr ⟨hI.opened j hj hlive, hne⟩
  · rw [if_neg hid]
    refine hI.tables hidle rfl rfl hI.raw fun j hj hlive => ?_
    exact hI.opened j hj (List.mem_of_mem_filter hlive)

theorem Inv.wsOpen (hI : Inv quote s) (hidle : s.pending.isNone = true) {id : String}
    (hid : id ∉ s.actorConnectIds) (accepted : Bool) : Inv quote (s.wsOpen id accepted) := by
  refine hI.tables hidle rfl rfl (fun j hj => ?_) hI.opened
  have hne : j ≠ id := fun hjid => hid (hjid ▸ hj)
  exact fun h => hI.raw j hj ((Function.update_of_ne hne _ _).symm.trans h)

theorem Inv.wsClose (hI : Inv quote s) (id : String) :
    Inv quote { s with go := Function.update s.go id none } := by
  have hgo : ∀ j, s.go j ≠ some false → Function.update s.go id none j ≠ some false :=
    fun _ => update_ne_raw fun h => by cases h
  refine ⟨fun j hj => hgo j (hI.raw j hj), hI.opened, fun p hp j hj => ?_, hI.handled, hI.agrees⟩
  obtain ⟨hknown, hraw⟩ := hI.named p hp j hj
  exact ⟨hknown, hgo j hraw⟩

/-- `request_action` names the caller only if it is in the table of ActorConnect ids. -/
theorem requestAction_connId {callId : CorrelationId} {action : String} {args : Bytes}
    {conn : Option String} {known : String → Bool} {aid name : String} {gen id : UInt64}
    {timeout : UInt32} {payload : Bytes} {connId : Option String}
    (hsent : requestAction identity callId action args conn known =
      .ok (.actionCall aid gen id name timeout payload connId)) : connId = conn.filter known := by
  rw [requestAction] at hsent
  split_ifs at hsent
  exact (Event.actionCall.inj (Except.ok.inj hsent)).2.2.2.2.2.2.symm

theorem Inv.call (hI : Inv quote s) {callId : CorrelationId} {action : String} {args : Bytes}
    {conn : Option String} (ha : Orderly s (.call callId action args conn))
    (hs : step cbor quote identity s (.call callId action args conn) = some s') :
    Inv quote s' := by
  obtain ⟨hidle, hs⟩ := Option.ite_none_right_eq_some.mp hs
  split at hs
  case h_1 connId hsent =>
    obtain rfl := Option.some.inj hs
    refine ⟨hI.raw, hI.opened, fun p hp id hid => ?_, fun p hp h hh => ?_, hI.agrees⟩
    · obtain rfl := Option.some.inj hp
      have hid : connId = some id := hid
      rw [requestAction_connId hsent, Option.filter_eq_some_iff] at hid
      have hknown := of_decide_eq_true hid.2
      exact ⟨hI.opened id hknown (ha id hid.1), hI.raw id hknown⟩
    · obtain rfl := Option.some.inj hp
      exact absurd hh.symm (Option.some_ne_none h)
  case h_2 =>
    obtain rfl := Option.some.inj hs
    exact hI

theorem Inv.handle (hI : Inv quote s) {b : Behaviour}
    (hs : step cbor quote identity s (.handle b) = some s') : Inv quote s' := by
  rw [step] at hs
  split at hs
  case h_1 callId action connId hpending =>
    obtain rfl := Option.some.inj hs
    have hnamed := hI.named _ hpending
    refine ⟨hI.raw, hI.opened, fun p hp => ?_, fun p hp h hh => ?_, hI.agrees⟩
    · obtain rfl := Option.some.inj hp
      exact hnamed
    · obtain rfl := Option.some.inj hp
      obtain rfl := Option.some.inj hh
      exact ⟨s.go, b, rfl, fun id hid => (hnamed id hid).2⟩
  case h_2 => exact absurd hs.symm (Option.some_ne_none _)

/-- A call that its result settles is reported as it was saved. -/
theorem Inv.agrees_resolved (hI : Inv quote s) (hp : s.pending = some p) (hh : p.handled = some h)
    {result : Except WireError Bytes} (hresult : resolve cbor quote identity s p h = some result) :
    Report.Agrees quote ⟨p.action, p.connId, p.handled, result⟩ where
  failed error herror h' hh' hsaved := by
    obtain rfl : h = h' := Option.some.inj (hh.symm.trans hh')
    have hfits := hI.handled p hp h hh
    obtain ⟨outcome, hreturned⟩ := adapterAction_of_saved hsaved quote p.action
    rw [resolve_of_ok (hfits.actionOutcome_eq hreturned), settleAction_eq_ok
      (hfits.isSome_iff hreturned) fun id hid =>
        decide_eq_true (hI.named p hp id hid).1] at hresult
    obtain rfl := Option.some.inj hresult
    cases herror
  encodedFirst h' _ _ hsave := stateEncoded_of_save hsave
  sent h' outcome hh' houtcome := by
    have hfits := hI.handled p hp h' hh'
    obtain ⟨first, hreturned⟩ := adapterAction_of_ok houtcome
    obtain rfl := Except.ok.inj ((hfits.actionOutcome_eq hreturned).symm.trans houtcome)
    exact hfits.isSome_iff hreturned
  succeeded output hok := by
    have hok : result = .ok output := hok
    subst hok
    obtain ⟨outcome, houtcome⟩ := actionOutcome_of_resolve hresult
    exact ⟨h, outcome, hh, houtcome⟩

/-- A call that was not sent is reported as failed, and nobody has handled it. -/
theorem agrees_unsent (p : Pending) (hp : p.handled.isNone = true) (error : WireError) :
    Report.Agrees quote ⟨p.action, p.connId, p.handled, .error error⟩ := by
  have hnone : ∀ h, p.handled ≠ some h := fun h hh => by simp [hh] at hp
  exact ⟨fun _ _ h hh => absurd hh (hnone h), fun h hh => absurd hh (hnone h),
    fun h _ hh => absurd hh (hnone h), nofun⟩

theorem Inv.settle (hI : Inv quote s) {how : Settlement} (ha : Orderly s (.settle how))
    (hs : step cbor quote identity s (.settle how) = some s') : Inv quote s' := by
  obtain ⟨p, hp, hs⟩ := Option.bind_eq_some_iff.mp hs
  obtain ⟨result, hsettled, rfl⟩ := Option.map_eq_some_iff.mp hs
  refine ⟨hI.raw, hI.opened, fun _ hp' => absurd hp'.symm (Option.some_ne_none _),
    fun _ hp' => absurd hp'.symm (Option.some_ne_none _), fun r hr => ?_⟩
  obtain rfl | hr := List.mem_cons.mp hr
  · obtain rfl | rfl : how = .resolved ∨ how = .unsent := ha
    · obtain ⟨h, hh, hresult⟩ := Option.bind_eq_some_iff.mp hsettled
      exact hI.agrees_resolved hp hh hresult
    · obtain ⟨hnone, rfl⟩ := Run.guard_eq_some.mp hsettled
      exact agrees_unsent p hnone _
  · exact hI.agrees r hr

theorem Inv.step {a : Action} (hI : Inv quote s) (ha : Orderly s a)
    (hs : step cbor quote identity s a = some s') : Inv quote s' := by
  cases a with
  | connectionOpen id result =>
    obtain ⟨hidle, hs⟩ := Option.ite_none_right_eq_some.mp hs
    exact Option.some.inj hs ▸ hI.connectionOpen hidle id result
  | connectionClosed id handled =>
    obtain ⟨hidle, hs⟩ := Option.ite_none_right_eq_some.mp hs
    exact Option.some.inj hs ▸ hI.connectionClosed hidle id handled
  | wsOpen id accepted =>
    obtain ⟨hidle, hs⟩ := Option.ite_none_right_eq_some.mp hs
    exact Option.some.inj hs ▸ hI.wsOpen hidle ha accepted
  | wsClose id => exact Option.some.inj hs ▸ hI.wsClose id
  | foreignOpen id =>
    obtain rfl := Option.some.inj hs
    obtain ⟨hgo, hlive⟩ : s.go id = none ∧ id ∉ s.live := ha
    refine ⟨fun j hj => ?_, fun j hj hl => ?_, hI.named, hI.handled, hI.agrees⟩
    · obtain rfl | hj := List.mem_cons.mp hj
      · exact fun h => by cases hgo.symm.trans h
      · exact hI.raw j hj
    · exact hI.opened j ((List.mem_cons.mp hj).resolve_left fun hjid => hlive (hjid ▸ hl)) hl
  | foreignClose kept =>
    obtain rfl := Option.some.inj hs
    exact ⟨fun j hj => hI.raw j (List.mem_of_mem_filter hj),
      fun j hj => hI.opened j (List.mem_of_mem_filter hj), hI.named, hI.handled, hI.agrees⟩
  | call callId action args conn => exact hI.call ha hs
  | handle b => exact hI.handle hs
  | settle how => exact hI.settle ha hs

/-- In every orderly run, a call is reported as failed only if its state was not saved, the state
of the caller is encoded before the save, and the result of an action that succeeds has one
exactly if the call named a connection. -/
theorem action_commit_agrees {actorConnectIds hibernated : List String}
    (hrun : Run.Reachable (step cbor quote identity) Orderly (start actorConnectIds hibernated) s) :
    ∀ r ∈ s.reports, r.Agrees quote :=
  (hrun.invariant (P := Inv quote) (Inv.start actorConnectIds hibernated)
    fun _ _ _ hI ha hs => hI.step ha hs).agrees

end

/-! ## Runs -/

theorem counter_aid_ne : "counter" ≠ "" := by decide

theorem counter_aid_le : "counter".utf8ByteSize ≤ 2 ^ 20 := by decide

def counter : ActorIdentity := ⟨"counter", 1, counter_aid_ne, counter_aid_le⟩

/-- A CBOR library that is not used: no event is broadcast. -/
def unusedCbor : Ciborium := ⟨fun _ => .error "", fun _ => .error ""⟩

theorem firstCall_ne : (1 : UInt64) ≠ 0 := by decide

def firstCall : CorrelationId := ⟨1, firstCall_ne⟩

/-- The action returns, both states can be encoded, and the actor is saved. -/
def savedCall : Behaviour :=
  { registered := true
    call := .raw ⟨.returned ([0xf6], .ok ())⟩
    encoded := .returned [0xf6]
    save := some .saved
    later := .returned [0xf6] }

def runCounter : State → List Action → Option State := Run.run (step unusedCbor id counter)

/-- A connection opens and calls an action. -/
def openAndCall : List Action :=
  [.connectionOpen "c" .accepted, .call firstCall "increment" [0x80] (some "c"), .handle savedCall,
    .settle .resolved]

theorem openAndCall_agrees : ∃ s, runCounter (start [] []) openAndCall = some s ∧
    (∃ r, s.reports = [r] ∧ r.connId = some "c" ∧ r.result = .ok [0xf6]) ∧
    ∀ r ∈ s.reports, r.Agrees id := by
  have hallowed : Run.Allowed (step unusedCbor id counter) Orderly (start [] []) openAndCall :=
    ⟨trivial, fun _ h => Option.some.inj h ▸ List.mem_cons_self, trivial, .inl rfl, trivial⟩
  exact ⟨_, rfl, ⟨_, rfl, rfl, rfl⟩, action_commit_agrees (Run.Reachable.init.run hallowed rfl)⟩

/-- Core is told that a call has failed whose save has succeeded. -/
def SavedReportedFailed (s : State) (error : WireError) : Prop :=
  ∃ r ∈ s.reports, r.result = .error error ∧ ∃ h, r.handled = some h ∧ Saved h.run

/-- The runner stops before the result of a call that was saved. -/
def stoppedAfterSave : List Action :=
  [.call firstCall "increment" [0x80] none, .handle savedCall, .settle .shutdown]

/-- The WebSocket of an ActorConnect connection closes, and a raw one with its id opens. -/
def reusedId : List Action :=
  [.connectionOpen "c" .accepted, .wsClose "c", .wsOpen "c" true,
    .call firstCall "increment" [0x80] (some "c"), .handle savedCall, .settle .resolved]

/-- An action is called from a connection that native never got, with an id of another actor. -/
def lostOpen : List Action :=
  [.connectionOpen "c" .lost, .call firstCall "increment" [0x80] (some "c"), .handle savedCall,
    .settle .resolved]

theorem saved_reported_failed :
    (∃ s, runCounter (start [] []) stoppedAfterSave = some s ∧ SavedReportedFailed s
      (.new "runner_stopped" "runner stopped while the Go handler was active")) ∧
    (∃ s, runCounter (start [] []) reusedId = some s ∧ SavedReportedFailed s
      (.new "action_result_invalid" "connected action result is missing connection state")) ∧
    ∃ s, runCounter (start ["c"] []) lostOpen = some s ∧ SavedReportedFailed s
      (.new "connection_not_found" "calling connection closed before action state persisted") := by
  have hwithout : Saved (.invoked savedCall.call none (some .saved)) :=
    List.mem_cons_of_mem _ (List.mem_cons_of_mem _ List.mem_cons_self)
  have hwith : Saved (.invoked savedCall.call (some savedCall.encoded) (some .saved)) :=
    List.mem_cons_of_mem _ (List.mem_cons_of_mem _ List.mem_cons_self)
  exact ⟨⟨_, rfl, _, List.mem_cons_self, rfl, _, rfl, hwithout⟩,
    ⟨_, rfl, _, List.mem_cons_self, rfl, _, rfl, hwithout⟩,
    ⟨_, rfl, _, List.mem_cons_self, rfl, _, rfl, hwith⟩⟩

end RivetGo.ActionCommit

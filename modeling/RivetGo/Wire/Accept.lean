import RivetGo.Wire.Event

/-!
# What the checks on an event come to

One lemma per kind of event, for the kinds that carry what a client or the
storage of an actor chose. The messages of the checks are gone, and with them
the way that `fmt` quotes a string.
-/

namespace RivetGo.Wire

open Utf8 (Valid)

variable {quote : Bytes → String} {e : Event}

/-- The error of an event, if it has one, has a code and a message. -/
def Event.ErrorComplete (e : Event) : Prop := ∀ err ∈ e.error, err.code ≠ [] ∧ err.message ≠ []

theorem validateEvent_eq_ok :
    validateEvent quote e = .ok () ↔ validateKind quote e = .ok () ∧ e.ErrorComplete := by
  rw [validateEvent]
  simp only [Check.seq_eq_ok, Check.require_eq_ok, Event.ErrorComplete]

/-- The checks on a connection. -/
structure Connection.WellFormed (c : Connection) : Prop where
  id : c.id ≠ [] ∧ c.id.length ≤ maxEventBytes
  parameters : len c.parameters ≤ maxEventBytes
  state : len c.state ≤ maxEventBytes
  path : c.path.length ≤ maxEventBytes
  headers : c.headers.length ≤ 256
  header : ∀ h ∈ c.headers, h.1.length ≤ maxEventBytes ∧ h.2.length ≤ maxEventBytes

theorem validateConnection_eq_ok {c : Connection} :
    validateConnection c = .ok () ↔ c.WellFormed := by
  rw [validateConnection]
  simp only [↓Check.seq_eq_ok, Check.require_eq_ok]
  constructor
  · rintro ⟨hid, hparameters, hstate, hpath, hheaders, hheader⟩
    exact ⟨hid, hparameters, hstate, hpath, hheaders, hheader⟩
  · rintro ⟨hid, hparameters, hstate, hpath, hheaders, hheader⟩
    exact ⟨hid, hparameters, hstate, hpath, hheaders, hheader⟩

theorem validateConnectionEvent_eq_ok {c : Connection} (h : e.connection = some c) :
    validateConnectionEvent e = .ok () ↔
      (e.aid ≠ [] ∧ e.operationID ≠ 0) ∧ c.WellFormed ∧ c.actorConnect = true := by
  rw [validateConnectionEvent]
  simp only [↓Check.seq_eq_ok, Check.require_eq_ok, Check.forM_eq_ok, Check.mapError_eq_ok, h,
    Option.toList_some, List.mem_singleton, forall_eq, Option.isSome_some, and_true,
    validateConnection_eq_ok, Option.mem_def, Option.some.injEq, forall_eq']

theorem validateEvent_connection {c : Connection}
    (hkind : e.kind = .connectionPreflight ∨ e.kind = .connectionOpen ∨ e.kind = .connectionClose)
    (herror : e.error = none) (h : e.connection = some c) :
    validateEvent quote e = .ok () ↔
      (e.aid ≠ [] ∧ e.operationID ≠ 0) ∧ c.WellFormed ∧ c.actorConnect = true := by
  rw [validateEvent_eq_ok, validateKind, ← validateConnectionEvent_eq_ok h]
  obtain hkind | hkind | hkind := hkind <;> simp [hkind, Event.ErrorComplete, herror]

theorem validateEvent_wsClose (hkind : e.kind = .wsClose) (herror : e.error = none) :
    validateEvent quote e = .ok () ↔
      e.wsID ≠ [] ∧ e.closeCode.all validWebSocketCloseCode = true ∧
        e.reason.length ≤ 123 ∧ Valid e.reason := by
  rw [validateEvent_eq_ok, validateKind, hkind]
  simp only [↓Check.seq_eq_ok, Check.require_eq_ok, Event.ErrorComplete, herror, Option.mem_def,
    reduceCtorEq, false_implies, implies_true, and_true]

theorem validateEvent_wsOpen (hkind : e.kind = .wsOpen) (herror : e.error = none) :
    validateEvent quote e = .ok () ↔
      (e.aid ≠ [] ∧ e.wsID ≠ [] ∧ e.path ≠ []) ∧ e.headers.length ≤ 256 ∧
        (e.resumed = false ∨ e.canHibernate = true) := by
  rw [validateEvent_eq_ok, validateKind, hkind]
  simp only [↓Check.seq_eq_ok, Check.require_eq_ok, Event.ErrorComplete, herror, Option.mem_def,
    reduceCtorEq, false_implies, implies_true, and_true]

theorem validateEvent_httpRequest (hkind : e.kind = .httpRequest) (herror : e.error = none) :
    validateEvent quote e = .ok () ↔
      (e.aid ≠ [] ∧ e.requestID ≠ 0 ∧ e.method ≠ [] ∧ e.path ≠ []) ∧ e.headers.length ≤ 256 := by
  rw [validateEvent_eq_ok, validateKind, hkind]
  simp only [↓Check.seq_eq_ok, Check.require_eq_ok, Event.ErrorComplete, herror, Option.mem_def,
    reduceCtorEq, false_implies, implies_true, and_true]

theorem validateEvent_httpRequestChunk (hkind : e.kind = .httpRequestChunk)
    (herror : e.error = none) :
    validateEvent quote e = .ok () ↔
      e.requestID ≠ 0 ∧ (len e.body ≠ 0 ∨ e.finish = true) := by
  rw [validateEvent_eq_ok, validateKind, hkind]
  simp only [Check.require_eq_ok, Event.ErrorComplete, herror, Option.mem_def, reduceCtorEq,
    false_implies, implies_true, and_true]

theorem validateEvent_actionCall (hkind : e.kind = .actionCall) (herror : e.error = none) :
    validateEvent quote e = .ok () ↔
      e.aid ≠ [] ∧ e.callID ≠ 0 ∧ e.action ≠ [] ∧ e.actionTimeoutMS ≠ 0 := by
  rw [validateEvent_eq_ok, validateKind, hkind]
  simp only [Check.require_eq_ok, Event.ErrorComplete, herror, Option.mem_def, reduceCtorEq,
    false_implies, implies_true, and_true]

theorem validateQueueMessage_eq_ok {m : QueueMessage} :
    validateQueueMessage m = .ok () ↔
      (m.id ≠ 0 ∧ m.name ≠ []) ∧ m.name.length ≤ maxEventBytes ∧ len m.body ≤ maxEventBytes := by
  rw [validateQueueMessage]
  simp only [Check.seq_eq_ok, Check.require_eq_ok]

/-- The result of a queue operation that failed. -/
theorem validateEvent_queueError {err : WireError} (hkind : e.kind = .actorQueueResult)
    (herror : e.error = some err) :
    validateEvent quote e = .ok () ↔
      (e.operationID ≠ 0 ∧ e.queueMessage.isNone ∧ e.queueResponse.isNone) ∧
        err.code ≠ [] ∧ err.message ≠ [] := by
  rw [validateEvent_eq_ok, validateKind, hkind]
  simp only [Check.mapError_eq_ok, validateQueueResult, ↓Check.seq_eq_ok, Check.require_eq_ok,
    Event.ErrorComplete, herror, Option.isSome_some, ↓reduceIte, Option.mem_def,
    Option.some.injEq, forall_eq']

/-- The result of a queue operation that succeeded. -/
theorem validateEvent_queueResult (hkind : e.kind = .actorQueueResult) (herror : e.error = none) :
    validateEvent quote e = .ok () ↔
      e.operationID ≠ 0 ∧ validateQueuePayload quote e = .ok () ∧
        (∀ m ∈ e.queueMessage, (m.id ≠ 0 ∧ m.name ≠ []) ∧
          m.name.length ≤ maxEventBytes ∧ len m.body ≤ maxEventBytes) ∧
        ∀ r ∈ e.queueResponse, len r ≤ maxEventBytes := by
  rw [validateEvent_eq_ok, validateKind, hkind]
  simp only [Check.mapError_eq_ok, validateQueueResult, ↓Check.seq_eq_ok, Check.require_eq_ok,
    Event.ErrorComplete, herror, Option.isSome_none, Bool.false_eq_true, ↓reduceIte,
    Option.mem_def, reduceCtorEq, false_implies, implies_true, and_true, Check.forM_eq_ok,
    Option.mem_toList, validateQueueMessage_eq_ok]

/-- The result of a schedule operation that failed. -/
theorem validateEvent_scheduleError {err : WireError} (hkind : e.kind = .actorScheduleResult)
    (herror : e.error = some err) :
    validateEvent quote e = .ok () ↔
      (e.operationID ≠ 0 ∧ e.scheduleID = [] ∧ e.cancelled = none ∧ e.schedules.length = 0) ∧
        err.code ≠ [] ∧ err.message ≠ [] := by
  rw [validateEvent_eq_ok, validateKind, hkind]
  simp only [Check.mapError_eq_ok, validateScheduleResult, ↓Check.seq_eq_ok, Check.require_eq_ok,
    Event.ErrorComplete, herror, Option.isSome_some, ↓reduceIte, Option.mem_def,
    Option.some.injEq, forall_eq']

/-- The result of a schedule operation that succeeded. -/
theorem validateEvent_scheduleResult (hkind : e.kind = .actorScheduleResult)
    (herror : e.error = none) :
    validateEvent quote e = .ok () ↔
      e.operationID ≠ 0 ∧ validateSchedulePayload quote e = .ok () ∧
        ∀ s ∈ e.schedules, (s.id ≠ [] ∧ s.action ≠ []) ∧ len s.args ≤ maxEventBytes := by
  have hall : forM e.schedules.zipIdx validateSchedule = .ok () ↔
      ∀ s ∈ e.schedules, (s.id ≠ [] ∧ s.action ≠ []) ∧ len s.args ≤ maxEventBytes := by
    apply Check.forM_zipIdx_eq_ok
    intro s
    rw [validateSchedule]
    simp only [Check.seq_eq_ok, Check.require_eq_ok]
  rw [validateEvent_eq_ok, validateKind, hkind]
  simp only [Check.mapError_eq_ok, validateScheduleResult, ↓Check.seq_eq_ok, Check.require_eq_ok,
    Event.ErrorComplete, herror, Option.isSome_none, Bool.false_eq_true, ↓reduceIte,
    Option.mem_def, reduceCtorEq, false_implies, implies_true, and_true, hall]

end RivetGo.Wire

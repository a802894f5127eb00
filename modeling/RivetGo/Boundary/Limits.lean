import RivetGo.Boundary.Poll
import RivetGo.Native.Emit
import RivetGo.Wire.Accept

/-!
# Which events Go accepts

For the events of requests and of the results of operations, what acceptance by
Go comes to in terms of what native put into them. Go accepts any header map,
body and argument that the proxy lets through; what is left are limits on texts
and payloads that only Go checks.
-/

namespace RivetGo.Native

open MessagePack (Value record)
open Utf8 (encode)
open Wire (omitEmpty pointer slice maxBlobBytes maxArrayEntries)

variable {quote : Bytes → String}

/-! ### Limits of Go -/

/-- A text of at most a mebibyte. -/
def Small (s : String) : Prop := s.utf8ByteSize ≤ 2 ^ 20

/-- A text that is not empty and at most a mebibyte. -/
def Named (s : String) : Prop := s ≠ "" ∧ Small s

instance (s : String) : Decidable (Small s) := inferInstanceAs (Decidable (_ ≤ _))

instance (s : String) : Decidable (Named s) := inferInstanceAs (Decidable (_ ∧ _))

/-- An error whose code and message are neither empty nor too large. -/
def WireError.Presentable (e : WireError) : Prop := Named e.code ∧ Named e.message

instance (e : WireError) : Decidable e.Presentable := inferInstanceAs (Decidable (_ ∧ _))

theorem utf8_within {s : String} : (utf8 s).Within maxBlobBytes maxArrayEntries ↔ Small s :=
  Iff.rfl

theorem stringMap_within {m : StringMap} :
    m.toValue.Within maxBlobBytes maxArrayEntries ↔
      m.entries.length ≤ maxArrayEntries ∧ ∀ h ∈ m.entries, Small h.1 ∧ Small h.2 := by
  rw [StringMap.toValue, Value.map_within, List.length_map, List.forall_mem_map]
  rfl

theorem record_within_of_names {fields : List (String × Value)}
    (hnames : ∀ f ∈ fields, (encode f.1).length ≤ 32) (hlength : fields.length ≤ 16) :
    (record fields).Within maxBlobBytes maxArrayEntries ↔
      ∀ f ∈ fields, f.2.Within maxBlobBytes maxArrayEntries :=
  Value.record_within (fun f hf => (hnames f hf).trans (by decide)) (hlength.trans (by decide))

theorem wireError_within {e : WireError} :
    e.toValue.Within maxBlobBytes maxArrayEntries ↔ Small e.code ∧ Small e.message := by
  rw [WireError.toValue, record_within_of_names]
  · simp only [List.forall_mem_append, List.forall_mem_cons, omitEmpty_forall, utf8_within]
    simp
  · simp only [List.forall_mem_append, List.forall_mem_cons, omitEmpty_forall]
    exact ⟨⟨⟨by decide, by decide, by simp⟩, fun _ _ => by decide⟩, fun _ _ => by decide⟩
  · rcases e with ⟨c, m, _ | _, _ | _⟩ <;> simp [omitEmpty]

theorem connection_within {c : Connection} :
    c.toValue.Within maxBlobBytes maxArrayEntries ↔
      Small c.id ∧ c.parameters.length ≤ 2 ^ 20 ∧ c.state.length ≤ 2 ^ 20 ∧ Small c.path ∧
        c.headers.entries.length ≤ maxArrayEntries ∧
        ∀ h ∈ c.headers.entries, Small h.1 ∧ Small h.2 := by
  rw [Connection.toValue, record_within_of_names]
  · simp only [List.forall_mem_cons, utf8_within, stringMap_within, Value.bin_within,
      Value.bool_within]
    simp [maxBlobBytes]
  · simp only [List.forall_mem_cons]
    decide
  · simp

theorem queueMessage_within {m : QueueMessage} :
    m.toValue.Within maxBlobBytes maxArrayEntries ↔ Small m.name ∧ m.body.length ≤ 2 ^ 20 := by
  rw [QueueMessage.toValue, record_within_of_names]
  · simp only [List.forall_mem_cons, utf8_within, Value.bin_within]
    simp [maxBlobBytes]
  · simp only [List.forall_mem_cons]
    decide
  · simp

theorem scheduledEvent_within {e : ScheduledEvent} :
    e.toValue.Within maxBlobBytes maxArrayEntries ↔
      Small e.id ∧ Small e.action ∧ e.args.length ≤ 2 ^ 20 := by
  rw [ScheduledEvent.toValue, record_within_of_names]
  · simp only [List.forall_mem_cons, utf8_within, Value.bin_within]
    simp [maxBlobBytes]
  · simp only [List.forall_mem_cons]
    decide
  · simp

theorem acceptable_iff {e : Event} :
    e.Acceptable quote ↔
      (∀ f ∈ e.fields.2, f.2.Within maxBlobBytes maxArrayEntries) ∧
        Wire.validateEvent quote e.received = .ok () :=
  ⟨fun h => ⟨h.within, h.valid⟩, fun h => ⟨h.1, h.2⟩⟩

theorem pointer_within {α : Type} {write : α → Value} {x : Option α} :
    (pointer write x).Within maxBlobBytes maxArrayEntries ↔
      ∀ y ∈ x, (write y).Within maxBlobBytes maxArrayEntries := by
  cases x <;> simp [pointer]

theorem encode_ne_nil_iff {s : String} : encode s ≠ [] ↔ s ≠ "" := by simp

/-! ### Events of requests -/

section Requests

variable {identity : ActorIdentity} {id : CorrelationId}

theorem wsClose_acceptable {wsId : String} {code : Option UInt16} {reason : Option String} :
    (Event.wsClose wsId code reason).Acceptable quote ↔
      Named wsId ∧ code.all Wire.validWebSocketCloseCode = true ∧
        ∀ r ∈ reason, r.utf8ByteSize ≤ 123 := by
  have hreason : ((optionalText reason).length ≤ 123 ∧ Utf8.Valid (optionalText reason)) ↔
      ∀ r ∈ reason, r.utf8ByteSize ≤ 123 := by
    cases reason with
    | none => exact ⟨fun _ => by simp, fun _ => ⟨by decide, Utf8.valid_encode ""⟩⟩
    | some r => simp [optionalText, Utf8.length_encode]
  rw [acceptable_iff, Wire.validateEvent_wsClose rfl rfl]
  simp only [Event.fields, Event.received, List.forall_mem_cons, utf8_within, pointer_within,
    Value.int_within, hreason, encode_ne_nil_iff, List.not_mem_nil, false_implies, implies_true,
    and_true, true_and, Named]
  constructor
  · rintro ⟨⟨hsmall, -⟩, hne, hcode, hreason⟩
    exact ⟨⟨hne, hsmall⟩, hcode, hreason⟩
  · rintro ⟨⟨hne, hsmall⟩, hcode, hreason⟩
    exact ⟨⟨hsmall, fun r hr => (hreason r hr).trans (by decide)⟩, hne, hcode, hreason⟩

/-- Headers that pass the checks of the proxy. -/
def StringMap.Checked (headers : StringMap) : Prop :=
  headers.entries.length ≤ maxHttpHeaders ∧ ∀ h ∈ headers.entries, Small h.1 ∧ Small h.2

theorem checkHeaders_eq_ok {tooMany tooLarge : WireError} {headers : StringMap} :
    checkHeaders tooMany tooLarge headers = .ok () ↔ headers.Checked := by
  rw [checkHeaders, StringMap.Checked]
  split_ifs with hmany hlarge
  · simp only [false_iff, not_and]
    exact fun h => absurd h (not_le_of_gt hmany)
  · simp only [false_iff, not_and]
    intro _ hall
    obtain ⟨h, hmem, hh⟩ := List.any_eq_true.mp hlarge
    have hsmall := hall h hmem
    simp only [Bool.or_eq_true, decide_eq_true_eq] at hh
    exact hh.elim (not_lt_of_ge hsmall.1) (not_lt_of_ge hsmall.2)
  · simp only [true_iff]
    refine ⟨le_of_not_gt hmany, fun h hmem => ?_⟩
    have hh := mt (fun hh => List.any_eq_true.mpr ⟨h, hmem, hh⟩) hlarge
    simp only [Bool.or_eq_true, decide_eq_true_eq, not_or, not_lt] at hh
    exact hh

theorem StringMap.Checked.within {headers : StringMap} (h : headers.Checked) :
    headers.toValue.Within maxBlobBytes maxArrayEntries :=
  stringMap_within.mpr ⟨h.1.trans (by decide), h.2⟩

theorem StringMap.Checked.length_received {headers : StringMap} (h : headers.Checked) :
    headers.received.length ≤ 256 := by
  rw [StringMap.received, List.length_map]
  exact h.1

theorem httpRequest_acceptable {method path : String} {headers : StringMap} {body : Bytes}
    {stream : Bool} (hheaders : headers.Checked) (hbody : body.length ≤ maxBodyChunk) :
    (Event.httpRequest identity.aid identity.generation id method path headers body
      stream).Acceptable quote ↔ Named method ∧ Named path := by
  rw [acceptable_iff, Wire.validateEvent_httpRequest rfl rfl]
  simp only [Event.fields, Event.received, List.forall_mem_cons, utf8_within, Value.int_within,
    Value.bin_within, Value.bool_within, encode_ne_nil_iff, List.not_mem_nil, false_implies,
    implies_true, and_true, true_and, Named, hheaders.within, hheaders.length_received]
  have haid := identity.aid_le
  have hne := identity.aid_ne
  have hid := id.2
  have hb : body.length ≤ maxBlobBytes := hbody
  simp only [Small] at *
  tauto

theorem httpRequestChunk_acceptable {body : Bytes} {finish : Bool} (hne : body ≠ [])
    (hbody : body.length ≤ maxBodyChunk) :
    (Event.httpRequestChunk id body finish).Acceptable quote := by
  rw [acceptable_iff, Wire.validateEvent_httpRequestChunk rfl rfl]
  have hb : body.length ≤ maxBlobBytes := hbody
  simp [Event.fields, Event.received, hb, id.2, Wire.len, hne]

theorem wsOpen_acceptable {wsId path : String} {headers : StringMap} {canHibernate resumed : Bool}
    (hheaders : headers.Checked) :
    (Event.wsOpen identity.aid identity.generation wsId path headers canHibernate
      resumed).Acceptable quote ↔
        Named wsId ∧ Named path ∧ (resumed = true → canHibernate = true) := by
  rw [acceptable_iff, Wire.validateEvent_wsOpen rfl rfl]
  simp only [Event.fields, Event.received, List.forall_mem_cons, utf8_within, Value.int_within,
    Value.bool_within, encode_ne_nil_iff, List.not_mem_nil, false_implies,
    implies_true, and_true, true_and, Named, hheaders.within, hheaders.length_received]
  have haid : Small identity.aid := identity.aid_le
  have hne := identity.aid_ne
  have hresumed : (resumed = false ∨ canHibernate = true) ↔
      (resumed = true → canHibernate = true) := by
    cases resumed <;> simp
  rw [hresumed]
  tauto

theorem actionCall_acceptable {action : String} {args : Bytes} {connId : Option String}
    (hargs : args.length ≤ maxBodyChunk) :
    (Event.actionCall identity.aid identity.generation id action actionResultTimeoutMs args
      connId).Acceptable quote ↔ Named action ∧ ∀ c ∈ connId, Small c := by
  rw [acceptable_iff, Wire.validateEvent_actionCall rfl rfl]
  simp only [Event.fields, Event.received, List.forall_mem_cons, utf8_within, Value.int_within,
    Value.bin_within, pointer_within, encode_ne_nil_iff, List.not_mem_nil, false_implies,
    implies_true, and_true, true_and, Named]
  have haid : Small identity.aid := identity.aid_le
  have hne := identity.aid_ne
  have hid := id.2
  have hb : args.length ≤ maxBlobBytes := hargs
  have htimeout : actionResultTimeoutMs ≠ 0 := by decide
  tauto

/-- A connection as `request_connection` writes it. -/
theorem connection_wellFormed {c : Connection} :
    c.received.WellFormed ↔ Named c.id ∧ c.parameters.length ≤ 2 ^ 20 ∧ c.state.length ≤ 2 ^ 20 ∧
      Small c.path ∧ c.headers.Checked := by
  have hheader : (∀ h ∈ c.received.headers,
      h.1.length ≤ Wire.maxEventBytes ∧ h.2.length ≤ Wire.maxEventBytes) ↔
        ∀ h ∈ c.headers.entries, Small h.1 ∧ Small h.2 := by
    rw [Connection.received, StringMap.received, List.forall_mem_map]
    rfl
  have hlength : c.received.headers.length = c.headers.entries.length := List.length_map _
  constructor
  · rintro ⟨hid, hparameters, hstate, hpath, hcount, hall⟩
    exact ⟨⟨encode_ne_nil_iff.mp hid.1, hid.2⟩, hparameters, hstate, hpath, hlength ▸ hcount,
      hheader.mp hall⟩
  · rintro ⟨hid, hparameters, hstate, hpath, hcount, hall⟩
    exact ⟨⟨encode_ne_nil_iff.mpr hid.1, hid.2⟩, hparameters, hstate, hpath, hlength ▸ hcount,
      hheader.mpr hall⟩

/-- The limits of Go on a connection. -/
def Connection.WithinGoLimits (c : Connection) : Prop :=
  Named c.id ∧ c.parameters.length ≤ 2 ^ 20 ∧ c.state.length ≤ 2 ^ 20 ∧ Small c.path ∧
    c.headers.Checked

theorem Connection.WithinGoLimits.within {c : Connection} (h : c.WithinGoLimits) :
    c.toValue.Within maxBlobBytes maxArrayEntries := by
  obtain ⟨hid, hparameters, hstate, hpath, hheaders⟩ := h
  exact connection_within.mpr ⟨hid.2, hparameters, hstate, hpath, hheaders.1.trans (by decide),
    hheaders.2⟩

theorem connectionEvent_acceptable {e : Event} {c : Connection}
    (he : e = .connectionPreflight identity.aid identity.generation id c ∨
      e = .connectionOpen identity.aid identity.generation id c ∨
      e = .connectionClose identity.aid identity.generation id c)
    (hconnect : c.actorConnect = true) : e.Acceptable quote ↔ c.WithinGoLimits := by
  have haid : Small identity.aid := identity.aid_le
  have hne := encode_ne_nil_iff.mpr identity.aid_ne
  have hvalid : Wire.validateEvent quote e.received = .ok () ↔ c.WithinGoLimits := by
    obtain rfl | rfl | rfl := he
    · rw [Wire.validateEvent_connection (.inl rfl) rfl rfl, connection_wellFormed]
      exact ⟨fun h => h.2.1, fun h => ⟨⟨hne, id.2⟩, h, hconnect⟩⟩
    · rw [Wire.validateEvent_connection (.inr (.inl rfl)) rfl rfl, connection_wellFormed]
      exact ⟨fun h => h.2.1, fun h => ⟨⟨hne, id.2⟩, h, hconnect⟩⟩
    · rw [Wire.validateEvent_connection (.inr (.inr rfl)) rfl rfl, connection_wellFormed]
      exact ⟨fun h => h.2.1, fun h => ⟨⟨hne, id.2⟩, h, hconnect⟩⟩
  rw [acceptable_iff, hvalid]
  refine and_iff_right_of_imp fun hlimits => ?_
  have hwithin := hlimits.within
  obtain rfl | rfl | rfl := he <;>
    simp [Event.fields, utf8_within, haid, hwithin]

end Requests

/-! ### Results of operations -/

section Results

variable {op : Operation} {admission : Admission} {operation : String}

theorem wireErrorField_within {error : WireError} :
    (∀ f ∈ omitEmpty "error" WireError.toValue (some error),
      f.2.Within maxBlobBytes maxArrayEntries) ↔ Small error.code ∧ Small error.message := by
  rw [omitEmpty_forall]
  simp only [Option.mem_def, Option.some.injEq, forall_eq', wireError_within]

theorem queueWireError_acceptable {error : WireError} (hop : Small operation) :
    (emitQueueWireError op operation error).Acceptable quote ↔ error.Presentable := by
  rw [acceptable_iff, emitQueueWireError, Wire.validateEvent_queueError rfl rfl]
  simp only [Event.fields, List.forall_mem_append, List.forall_mem_cons, wireErrorField_within,
    utf8_within, Value.int_within, hop, omitEmpty_forall, Option.mem_def, reduceCtorEq,
    false_implies, implies_true, List.not_mem_nil, and_true, true_and]
  simp only [Event.received, WireError.received, encode_ne_nil_iff, WireError.Presentable, Named,
    Option.map_none, Option.isNone_none, and_true, op.opId.2, ne_eq, not_false_eq_true, true_and]
  tauto

/-- The limits of Go on a message of the queue. -/
def QueueMessage.WithinGoLimits (m : QueueMessage) : Prop :=
  m.id ≠ 0 ∧ Named m.name ∧ m.body.length ≤ 2 ^ 20

theorem queueMessage_valid {m : QueueMessage} :
    ((m.received.id ≠ 0 ∧ m.received.name ≠ []) ∧
      m.received.name.length ≤ Wire.maxEventBytes ∧ Wire.len m.received.body ≤ Wire.maxEventBytes) ↔
      m.WithinGoLimits := by
  simp only [QueueMessage.received, encode_ne_nil_iff, QueueMessage.WithinGoLimits, Named,
    and_assoc]
  rfl

theorem queueResult_acceptable {message : Option QueueMessage} {response : Option Bytes}
    (hop : Small operation)
    (hpayload : Wire.validateQueuePayload quote
      (emitQueueResult op operation message response).received = .ok ()) :
    (emitQueueResult op operation message response).Acceptable quote ↔
      (∀ m ∈ message, m.WithinGoLimits) ∧ ∀ r ∈ response, r.length ≤ 2 ^ 20 := by
  have hmessage : (∀ m ∈ message.map QueueMessage.received, (m.id ≠ 0 ∧ m.name ≠ []) ∧
      m.name.length ≤ Wire.maxEventBytes ∧ Wire.len m.body ≤ Wire.maxEventBytes) ↔
        ∀ m ∈ message, m.WithinGoLimits := by
    cases message with
    | none => simp
    | some m => simpa using queueMessage_valid
  have hresponse : (∀ r ∈ response.map some, Wire.len r ≤ Wire.maxEventBytes) ↔
      ∀ r ∈ response, r.length ≤ 2 ^ 20 := by
    cases response with
    | none => simp
    | some r => simp [Wire.len, Wire.maxEventBytes]
  rw [acceptable_iff, Wire.validateEvent_queueResult rfl rfl, hpayload]
  simp only [emitQueueResult, Event.fields, Event.received, List.forall_mem_append,
    List.forall_mem_cons, utf8_within, Value.int_within, hop, omitEmpty_forall,
    queueMessage_within, Value.bin_within, hmessage, hresponse, Option.not_mem_none,
    false_implies, implies_true, List.not_mem_nil, and_true, true_and]
  rw [and_iff_right op.opId.2]
  refine and_iff_right_of_imp fun hlimits => ⟨fun m hm => ?_, hlimits.2⟩
  have hm := hlimits.1 m hm
  exact ⟨hm.2.1.2, hm.2.2⟩

theorem scheduleWireError_acceptable {error : WireError} (hop : Small operation) :
    (emitScheduleWireError op operation error).Acceptable quote ↔ error.Presentable := by
  rw [acceptable_iff, emitScheduleWireError, Wire.validateEvent_scheduleError rfl rfl]
  simp only [Event.fields, List.forall_mem_append, List.forall_mem_cons, wireErrorField_within,
    utf8_within, Value.int_within, hop, omitEmpty_forall, skipEmpty_forall, Option.mem_def,
    reduceCtorEq, false_implies, implies_true, List.not_mem_nil, and_true, true_and, ne_eq,
    not_true_eq_false]
  simp only [Event.received, WireError.received, encode_ne_nil_iff, WireError.Presentable, Named,
    optionalText, Option.elim_none, List.map_nil, List.length_nil, and_true, op.opId.2, ne_eq,
    not_false_eq_true, true_and]
  tauto

theorem scheduleCreate_acceptable {scheduleId : String} :
    (emitScheduleCreate op scheduleId).Acceptable quote ↔ Named scheduleId := by
  have hpayload : Wire.validateSchedulePayload quote (emitScheduleCreate op scheduleId).received =
      .ok () ↔ scheduleId ≠ "" := by
    simp [Wire.validateSchedulePayload, emitScheduleCreate, Event.received, optionalText,
      Wire.ScheduleOperation.ofTag?]
  rw [acceptable_iff, Wire.validateEvent_scheduleResult rfl rfl, hpayload]
  have hop : Small "create" := by decide
  simp only [emitScheduleCreate, Event.fields, Event.received, List.forall_mem_append,
    List.forall_mem_cons, utf8_within, Value.int_within, hop, omitEmpty_forall, skipEmpty_forall,
    Option.mem_def, Option.some.injEq, forall_eq', reduceCtorEq, false_implies, implies_true,
    List.not_mem_nil, and_true, true_and, op.opId.2, ne_eq, not_false_eq_true, List.map_nil,
    not_true_eq_false, Named]
  tauto

theorem scheduleCancel_acceptable {cancelled : Bool} :
    (emitScheduleCancel op cancelled).Acceptable quote := by
  have hpayload : Wire.validateSchedulePayload quote (emitScheduleCancel op cancelled).received =
      .ok () := by
    simp [Wire.validateSchedulePayload, emitScheduleCancel, Event.received, optionalText,
      Wire.ScheduleOperation.ofTag?]
  rw [acceptable_iff, Wire.validateEvent_scheduleResult rfl rfl, hpayload]
  have hop : Small "cancel" := by decide
  simp only [emitScheduleCancel, Event.fields, Event.received, List.forall_mem_append,
    List.forall_mem_cons, utf8_within, Value.int_within, Value.bool_within, hop, omitEmpty_forall,
    skipEmpty_forall, Option.mem_def, reduceCtorEq, false_implies, implies_true, List.not_mem_nil,
    and_true, op.opId.2, ne_eq, not_false_eq_true, List.map_nil, not_true_eq_false]

/-- Schedules of which none lacks an ID or an action. -/
def SchedulesNamed (schedules : List ScheduledEvent) : Prop :=
  ∀ s ∈ schedules, s.id ≠ "" ∧ s.action ≠ ""

theorem schedulesTooLarge_eq_false {schedules : List ScheduledEvent} :
    schedulesTooLarge schedules = false ↔
      schedules.length ≤ 1000 ∧
        (∀ s ∈ schedules, Small s.id ∧ Small s.action ∧ s.args.length ≤ 2 ^ 20) ∧
        (schedules.map ScheduledEvent.size).sum ≤ maxSqliteResultBytes := by
  simp [schedulesTooLarge, Small, maxBodyChunk, and_assoc]

theorem scheduleEvents_acceptable {schedules : List ScheduledEvent} (hop : Small operation)
    (hpayload : Wire.validateSchedulePayload quote
      (Event.actorScheduleResult op.opId operation none none schedules none).received = .ok ()) :
    (emitScheduleEvents op operation schedules).Acceptable quote ↔
      (schedulesTooLarge schedules = false → SchedulesNamed schedules) := by
  cases hlarge : schedulesTooLarge schedules with
  | true =>
    rw [emitScheduleEvents, hlarge, if_pos rfl, scheduleWireError_acceptable hop]
    have herror : (WireError.new "schedule_result_too_large"
        "schedule result exceeds the boundary response limit").Presentable := by decide
    simp [herror]
  | false =>
    obtain ⟨hlength, hsmall, -⟩ := schedulesTooLarge_eq_false.mp hlarge
    rw [emitScheduleEvents, hlarge, if_neg (by simp), acceptable_iff,
      Wire.validateEvent_scheduleResult rfl rfl, hpayload]
    have hwithin : ∀ f ∈ (Event.actorScheduleResult op.opId operation none none schedules
        none).fields.2, f.2.Within maxBlobBytes maxArrayEntries := by
      simp only [Event.fields, List.forall_mem_append, List.forall_mem_cons, utf8_within,
        Value.int_within, hop, omitEmpty_forall, skipEmpty_forall, Option.not_mem_none,
        false_implies, implies_true, List.not_mem_nil, and_true, true_and]
      intro _
      rw [Value.array_within, List.length_map, List.forall_mem_map]
      exact ⟨hlength.trans (by decide), fun s hs => scheduledEvent_within.mpr (hsmall s hs)⟩
    have hnamed : (∀ s ∈ schedules.map ScheduledEvent.received,
        (s.id ≠ [] ∧ s.action ≠ []) ∧ Wire.len s.args ≤ Wire.maxEventBytes) ↔
          SchedulesNamed schedules := by
      rw [List.forall_mem_map]
      refine forall₂_congr fun s hs => ?_
      simp only [ScheduledEvent.received, encode_ne_nil_iff]
      exact and_iff_left (hsmall s hs).2.2
    rw [and_iff_right hwithin]
    exact ⟨fun h _ => hnamed.mp h.2.2, fun h => ⟨op.opId.2, rfl, hnamed.mpr (h rfl)⟩⟩

end Results

end RivetGo.Native

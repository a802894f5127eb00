import RivetGo.Native.Event
import RivetGo.Wire.Event

/-!
# From a native event to a Go event

`Event.received` is the Go record of an event that native wrote: absent fields
keep their zero value, and everything else is carried over. A batch that native
wrote is accepted by Go exactly when it is within the limits of the scanner and
each of its events passes the checks, and then Go has exactly the events that
native sent.
-/

namespace RivetGo.Native

open MessagePack (Value record)
open Utf8 (encode)
open Wire (omitEmpty pointer slice readStruct_record)

/-! ### What Go gets -/

def StringMap.received (m : StringMap) : List (Bytes × Bytes) :=
  m.entries.map fun kv => (encode kv.1, encode kv.2)

def Connection.received (c : Connection) : Wire.Connection :=
  { id := encode c.id, parameters := some c.parameters, state := some c.state,
    path := encode c.path, headers := c.headers.received, canHibernate := c.canHibernate,
    resumed := c.resumed, actorConnect := c.actorConnect }

def DrainReport.received (r : DrainReport) : Wire.DrainReport :=
  { graceful := r.graceful, elapsedMS := r.elapsedMs, actorsStopped := r.actorsStopped,
    actorsRemaining := r.actorsRemaining }

def WireError.received (e : WireError) : Wire.WireError :=
  { code := encode e.code, message := encode e.message, sqliteCode := e.sqliteCode,
    statementIndex := e.statementIndex }

def KvEntry.received (e : KvEntry) : Wire.KVEntry := { key := some e.key, value := some e.value }

def ScheduledEvent.received (e : ScheduledEvent) : Wire.ScheduledEvent :=
  { id := encode e.id, action := encode e.action, args := some e.args, runAt := e.runAt }

def QueueMessage.received (m : QueueMessage) : Wire.QueueMessage :=
  { id := m.id, name := encode m.name, body := some m.body, createdAt := m.createdAt,
    completable := m.completable }

def SqliteValue.received : SqliteValue → Wire.SQLiteValue
  | .null => { kind := "null" }
  | .integer n => { kind := "integer", integer := some n }
  | .real bits => { kind := "real", bits := some bits }
  | .text s => { kind := "text", text := some (encode s) }
  | .blob b => { kind := "blob", blob := some (some b) }

/-- The text of an optional string, empty if there is none. -/
def optionalText (s : Option String) : Bytes := s.elim [] encode

def Event.received : Event → Wire.Event
  | .runnerConnected runnerId metadata =>
    { kind := .runnerConnected, runnerID := encode runnerId, metadata := metadata.received }
  | .runnerDisconnected reason => { kind := .runnerDisconnected, reason := encode reason }
  | .runnerStopped drainReport =>
    { kind := .runnerStopped, drainReport := some drainReport.received }
  | .actorStart aid gen name key createTs input persistedState sqliteSocketPath connections =>
    { kind := .actorStart, aid := encode aid, generation := gen, name := encode name,
      key := encode key, createTS := createTs, input := some input,
      persistedState := persistedState, sqliteSocketPath := optionalText sqliteSocketPath,
      connections := connections.map Connection.received }
  | .actorStop aid gen reason =>
    { kind := .actorStop, aid := encode aid, generation := gen, reason := encode reason }
  | .actorAlarm aid gen alarmTs =>
    { kind := .actorAlarm, aid := encode aid, generation := gen, alarmTS := alarmTs }
  | .actorIntentResult opId error =>
    { kind := .actorIntentResult, operationID := opId, error := error.map WireError.received }
  | .actorScheduleResult opId operation scheduleId cancelled schedules error =>
    { kind := .actorScheduleResult, operationID := opId, scheduleOperation := encode operation,
      scheduleID := optionalText scheduleId, cancelled := cancelled,
      schedules := schedules.map ScheduledEvent.received,
      error := error.map WireError.received }
  | .actorQueueResult opId queueOperation message response error =>
    { kind := .actorQueueResult, operationID := opId, queueOperation := encode queueOperation,
      queueMessage := message.map QueueMessage.received, queueResponse := response.map some,
      error := error.map WireError.received }
  | .connectionPreflight aid gen opId connection =>
    { kind := .connectionPreflight, aid := encode aid, generation := gen, operationID := opId,
      connection := some connection.received }
  | .connectionOpen aid gen opId connection =>
    { kind := .connectionOpen, aid := encode aid, generation := gen, operationID := opId,
      connection := some connection.received }
  | .connectionClose aid gen opId connection =>
    { kind := .connectionClose, aid := encode aid, generation := gen, operationID := opId,
      connection := some connection.received }
  | .actionCall aid gen callId action timeoutMs args connId =>
    { kind := .actionCall, aid := encode aid, generation := gen, callID := callId,
      action := encode action, actionTimeoutMS := timeoutMs, args := some args,
      connID := connId.map encode }
  | .httpRequest aid gen reqId method path headers body stream =>
    { kind := .httpRequest, aid := encode aid, generation := gen, requestID := reqId,
      method := encode method, path := encode path, headers := headers.received,
      body := some body, stream := stream }
  | .httpRequestChunk reqId body finish =>
    { kind := .httpRequestChunk, requestID := reqId, body := some body, finish := finish }
  | .httpRequestAbort reqId => { kind := .httpRequestAbort, requestID := reqId }
  | .wsOpen aid gen wsId path headers canHibernate resumed =>
    { kind := .wsOpen, aid := encode aid, generation := gen, wsID := encode wsId,
      path := encode path, headers := headers.received, canHibernate := canHibernate,
      resumed := resumed }
  | .wsMessage wsId data binary msgIndex =>
    { kind := .wsMessage, wsID := encode wsId, data := some data, binary := binary,
      messageIndex := msgIndex }
  | .wsClose wsId code reason =>
    { kind := .wsClose, wsID := encode wsId, closeCode := code, reason := optionalText reason }
  | .kvResult kvId value entries error =>
    { kind := .kvResult, kvID := kvId, value := value,
      entries := entries.map KvEntry.received, error := error.map WireError.received }
  | .statePersisted aid gen stateVersion error =>
    { kind := .statePersisted, aid := encode aid, generation := gen,
      stateVersion := stateVersion, error := error.map WireError.received }
  | .sqliteResult requestId chunkIndex done columns values rowsAffected lastInsertId error =>
    { kind := .sqliteResult, sqliteRequestID := requestId, chunkIndex := chunkIndex,
      done := done, columns := columns.map encode,
      sqliteValues := values.map SqliteValue.received,
      rowsAffected := rowsAffected, lastInsertID := lastInsertId,
      error := error.map WireError.received }

/-! ### The codecs agree with it -/

@[simp] theorem readString_utf8 (s : String) : Wire.readString (utf8 s) = some (encode s) := rfl

@[simp] theorem readBytes_slice (b : Option Bytes) : Wire.readBytes (slice b) = some b := by
  cases b <;> rfl

/-- A text that is absent is read as an empty one. -/
@[simp] theorem readString_pointer (s : Option String) :
    Wire.readString (pointer utf8 s) = some (optionalText s) := by
  cases s <;> rfl

@[simp] theorem readMap_toValue (m : StringMap) : Wire.readMap m.toValue = some m.received := by
  rw [StringMap.toValue, Wire.readMap, StringMap.received]
  exact Wire.mapM_map_eq_some (fun kv => by simp) m.entries

/-- A pointer is read back, provided a present value is never written as nil. -/
theorem readPointer_pointer {α β : Type} {write : α → Value} {read : Value → Option β} {f : α → β}
    (hne : ∀ x, write x ≠ .nil) (h : ∀ x, read (write x) = some (f x)) (x : Option α) :
    Wire.readPointer read (pointer write x) = some (x.map f) := by
  cases x with
  | none => rfl
  | some x =>
    have hread := h x
    have hwrite := hne x
    revert hread hwrite
    cases hx : write x <;> intro hread hwrite <;>
      first
      | exact absurd rfl hwrite
      | simp [pointer, Wire.readPointer, hx, hread]

theorem readPointer_record {β : Type} {read : Value → Option β} {b : β}
    {fields : List (String × Value)} (h : read (record fields) = some b) :
    Wire.readPointer read (record fields) = some (some b) := by
  simp [record, Wire.readPointer] at h ⊢
  exact h

@[simp] theorem readConnection (c : Connection) :
    Wire.Connection.read c.toValue = some c.received := by
  simp [Wire.Connection.read, Connection.toValue, readStruct_record, Wire.Connection.setField,
    Connection.received]

@[simp] theorem readDrainReport (r : DrainReport) :
    Wire.DrainReport.read r.toValue = some r.received := by
  simp [Wire.DrainReport.read, DrainReport.toValue, readStruct_record, Wire.DrainReport.setField,
    DrainReport.received]

@[simp] theorem readWireError (e : WireError) :
    Wire.WireError.read e.toValue = some e.received := by
  obtain ⟨code, message, sqliteCode, statementIndex⟩ := e
  cases sqliteCode <;> cases statementIndex <;>
    simp [Wire.WireError.read, WireError.toValue, readStruct_record, Wire.WireError.setField,
      WireError.received, omitEmpty, Wire.readPointer]

@[simp] theorem readKvEntry (e : KvEntry) : Wire.KVEntry.read e.toValue = some e.received := by
  simp [Wire.KVEntry.read, KvEntry.toValue, readStruct_record, Wire.KVEntry.setField,
    KvEntry.received]

@[simp] theorem readScheduledEvent (e : ScheduledEvent) :
    Wire.ScheduledEvent.read e.toValue = some e.received := by
  simp [Wire.ScheduledEvent.read, ScheduledEvent.toValue, readStruct_record,
    Wire.ScheduledEvent.setField, ScheduledEvent.received]

@[simp] theorem readQueueMessage (m : QueueMessage) :
    Wire.QueueMessage.read m.toValue = some m.received := by
  simp [Wire.QueueMessage.read, QueueMessage.toValue, readStruct_record,
    Wire.QueueMessage.setField, QueueMessage.received]

@[simp] theorem readSqliteValue (v : SqliteValue) :
    Wire.SQLiteValue.read v.toValue = some v.received := by
  cases v <;>
    simp [Wire.SQLiteValue.read, SqliteValue.toValue, readStruct_record,
      Wire.SQLiteValue.setField, SqliteValue.received, Wire.readPointer, utf8]

@[simp] theorem readPointer_wireError (e : WireError) :
    Wire.readPointer Wire.WireError.read e.toValue = some (some e.received) :=
  readPointer_record (readWireError e)

@[simp] theorem readPointer_queueMessage (m : QueueMessage) :
    Wire.readPointer Wire.QueueMessage.read m.toValue = some (some m.received) :=
  readPointer_record (readQueueMessage m)

@[simp] theorem readPointer_connection (c : Connection) :
    Wire.readPointer Wire.Connection.read c.toValue = some (some c.received) :=
  readPointer_record (readConnection c)

@[simp] theorem readPointer_drainReport (r : DrainReport) :
    Wire.readPointer Wire.DrainReport.read r.toValue = some (some r.received) :=
  readPointer_record (readDrainReport r)

/-! ### Fields that may be left out -/

/-- The step that decodes one entry of an event. -/
def setEntry (e : Wire.Event) (f : String × Value) : Option Wire.Event := e.setField f.1 f.2

/-- A field that is left out when there is nothing to write. -/
theorem foldlM_omitEmpty {α : Type} {name : String} {field : Wire.EventField} {write : α → Value}
    {e e' : Wire.Event} {x : Option α} (hname : Wire.EventField.ofName? name = some field)
    (hnone : x = none → e' = e) (hsome : ∀ y, x = some y → e.set (write y) field = some e') :
    (omitEmpty name write x).foldlM setEntry e = some e' := by
  cases x with
  | none => simp [omitEmpty, hnone rfl]
  | some y => simp [omitEmpty, setEntry, Wire.Event.setField_eq hname, hsome y rfl]

/-- A list that is left out when it is empty. -/
theorem foldlM_skipEmpty {α : Type} {name : String} {field : Wire.EventField} {write : α → Value}
    {e e' : Wire.Event} {xs : List α} (hname : Wire.EventField.ofName? name = some field)
    (hnil : xs = [] → e' = e) (hset : e.set (.array (xs.map write)) field = some e') :
    (skipEmpty name write xs).foldlM setEntry e = some e' := by
  cases xs with
  | nil => simp [skipEmpty, hnil rfl]
  | cons x xs => simpa [skipEmpty, setEntry, Wire.Event.setField_eq hname] using hset

section Optional

variable {e : Wire.Event}

theorem set_error (h : e.error = none) (error : Option WireError) :
    (omitEmpty "error" WireError.toValue error).foldlM setEntry e =
      some { e with error := error.map WireError.received } := by
  refine foldlM_omitEmpty rfl ?_ ?_
  · rintro rfl
    rw [Option.map_none, ← h]
  · rintro x rfl
    simp [Wire.Event.set]

theorem set_sqliteSocketPath (h : e.sqliteSocketPath = []) (path : Option String) :
    (omitEmpty "sqlite_socket_path" utf8 path).foldlM setEntry e =
      some { e with sqliteSocketPath := optionalText path } := by
  refine foldlM_omitEmpty rfl ?_ ?_
  · rintro rfl
    rw [optionalText, Option.elim_none, ← h]
  · rintro x rfl
    simp [Wire.Event.set, optionalText]

theorem set_scheduleID (h : e.scheduleID = []) (id : Option String) :
    (omitEmpty "schedule_id" utf8 id).foldlM setEntry e =
      some { e with scheduleID := optionalText id } := by
  refine foldlM_omitEmpty rfl ?_ ?_
  · rintro rfl
    rw [optionalText, Option.elim_none, ← h]
  · rintro x rfl
    simp [Wire.Event.set, optionalText]

theorem set_cancelled (h : e.cancelled = none) (cancelled : Option Bool) :
    (omitEmpty "cancelled" .bool cancelled).foldlM setEntry e =
      some { e with cancelled := cancelled } := by
  refine foldlM_omitEmpty rfl ?_ ?_
  · rintro rfl
    rw [← h]
  · rintro x rfl
    simp [Wire.Event.set, Wire.readPointer]

theorem set_queueMessage (h : e.queueMessage = none) (message : Option QueueMessage) :
    (omitEmpty "message" QueueMessage.toValue message).foldlM setEntry e =
      some { e with queueMessage := message.map QueueMessage.received } := by
  refine foldlM_omitEmpty rfl ?_ ?_
  · rintro rfl
    rw [Option.map_none, ← h]
  · rintro x rfl
    simp [Wire.Event.set]

theorem set_queueResponse (h : e.queueResponse = none) (response : Option Bytes) :
    (omitEmpty "response" .bin response).foldlM setEntry e =
      some { e with queueResponse := response.map some } := by
  refine foldlM_omitEmpty rfl ?_ ?_
  · rintro rfl
    rw [Option.map_none, ← h]
  · rintro x rfl
    simp [Wire.Event.set, Wire.readPointer]

theorem set_value (h : e.value = none) (value : Option Bytes) :
    (omitEmpty "value" .bin value).foldlM setEntry e = some { e with value := value } := by
  refine foldlM_omitEmpty rfl ?_ ?_
  · rintro rfl
    rw [← h]
  · rintro x rfl
    simp [Wire.Event.set]

theorem set_connections (h : e.connections = []) (connections : List Connection) :
    (skipEmpty "connections" Connection.toValue connections).foldlM setEntry e =
      some { e with connections := connections.map Connection.received } := by
  refine foldlM_skipEmpty rfl ?_ ?_
  · rintro rfl
    rw [List.map_nil, ← h]
  · simp [Wire.Event.set, Wire.mapM_map_eq_some readConnection]

theorem set_schedules (h : e.schedules = []) (schedules : List ScheduledEvent) :
    (skipEmpty "schedules" ScheduledEvent.toValue schedules).foldlM setEntry e =
      some { e with schedules := schedules.map ScheduledEvent.received } := by
  refine foldlM_skipEmpty rfl ?_ ?_
  · rintro rfl
    rw [List.map_nil, ← h]
  · simp [Wire.Event.set, Wire.mapM_map_eq_some readScheduledEvent]

theorem set_entries (h : e.entries = []) (entries : List KvEntry) :
    (skipEmpty "entries" KvEntry.toValue entries).foldlM setEntry e =
      some { e with entries := entries.map KvEntry.received } := by
  refine foldlM_skipEmpty rfl ?_ ?_
  · rintro rfl
    rw [List.map_nil, ← h]
  · simp [Wire.Event.set, Wire.mapM_map_eq_some readKvEntry]

theorem set_columns (h : e.columns = []) (columns : List String) :
    (skipEmpty "columns" utf8 columns).foldlM setEntry e =
      some { e with columns := columns.map encode } := by
  refine foldlM_skipEmpty rfl ?_ ?_
  · rintro rfl
    rw [List.map_nil, ← h]
  · simp [Wire.Event.set, Wire.mapM_map_eq_some readString_utf8]

theorem set_values (h : e.sqliteValues = []) (values : List SqliteValue) :
    (skipEmpty "values" SqliteValue.toValue values).foldlM setEntry e =
      some { e with sqliteValues := values.map SqliteValue.received } := by
  refine foldlM_skipEmpty rfl ?_ ?_
  · rintro rfl
    rw [List.map_nil, ← h]
  · simp [Wire.Event.set, Wire.mapM_map_eq_some readSqliteValue]

end Optional

theorem received_kind_mem_known (e : Event) : e.received.kind ∈ Wire.EventKind.known := by
  cases e <;> simp [Event.received, Wire.EventKind.known]

theorem tag_received_kind (e : Event) : e.received.kind.tag = encode e.fields.1 := by
  cases e <;> rfl

/-- The kind is decoded first, then the fields are set one after another. -/
theorem read_toValue_event (e : Event) :
    Wire.Event.read e.toValue = e.fields.2.foldlM setEntry { kind := e.received.kind } := by
  have hkind : Wire.EventKind.ofTag (encode e.fields.1) = e.received.kind := by
    rw [← tag_received_kind]
    exact Wire.EventKind.ofTag_tag (received_kind_mem_known e)
  rw [Wire.Event.read, Event.toValue, readStruct_record, List.foldlM_cons, ← hkind,
    Wire.Event.setField_eq (show Wire.EventField.ofName? "kind" = some .kind from rfl)]
  rfl

/-- Go reads an event as `Event.received` says. -/
theorem readEvent (e : Event) : Wire.Event.read e.toValue = some e.received := by
  have hnames := Wire.EventField.ofName?_table
  simp only [Wire.EventField.table, List.forall_mem_cons, List.not_mem_nil, false_implies,
    implies_true, and_true] at hnames
  rw [read_toValue_event]
  -- A present string or number is never written as nil.
  have hutf8 : ∀ s, utf8 s ≠ .nil := fun s => by simp [utf8]
  have hu16 : ∀ n : UInt16, Value.int n.toNat ≠ .nil := fun n => by simp
  have hi64 : ∀ n : Int64, Value.int n.toInt ≠ .nil := fun n => by simp
  cases e with
  | actorStart aid gen name key createTs input persistedState sqliteSocketPath connections =>
    simp [Event.fields, Event.received, setEntry, Wire.Event.setField, hnames, Wire.Event.set,
      set_sqliteSocketPath, set_connections]
  | actorIntentResult opId error | statePersisted aid gen stateVersion error =>
    simp [Event.fields, Event.received, setEntry, Wire.Event.setField, hnames, Wire.Event.set,
      set_error]
  | actorScheduleResult opId operation scheduleId cancelled schedules error =>
    simp [Event.fields, Event.received, setEntry, Wire.Event.setField, hnames, Wire.Event.set,
      set_error, set_scheduleID, set_cancelled, set_schedules]
  | actorQueueResult opId queueOperation message response error =>
    simp [Event.fields, Event.received, setEntry, Wire.Event.setField, hnames, Wire.Event.set,
      set_error, set_queueMessage, set_queueResponse]
  | actionCall aid gen callId action timeoutMs args connId =>
    simp [Event.fields, Event.received, setEntry, Wire.Event.setField, hnames, Wire.Event.set,
      readPointer_pointer hutf8 readString_utf8]
  | wsClose wsId code reason =>
    simp [Event.fields, Event.received, setEntry, Wire.Event.setField, hnames, Wire.Event.set,
      readPointer_pointer hu16 Wire.readUint16_int]
  | kvResult kvId value entries error =>
    simp [Event.fields, Event.received, setEntry, Wire.Event.setField, hnames, Wire.Event.set,
      set_error, set_value, set_entries]
  | sqliteResult requestId chunkIndex done columns values rowsAffected lastInsertId error =>
    simp [Event.fields, Event.received, setEntry, Wire.Event.setField, hnames, Wire.Event.set,
      set_error, set_columns, set_values, readPointer_pointer hi64 Wire.readInt64_int]
  | _ =>
    simp [Event.fields, Event.received, setEntry, Wire.Event.setField, hnames, Wire.Event.set]

end RivetGo.Native

import RivetGo.Wire.Command
import RivetGo.Wire.Scan
import RivetGo.Wire.Struct

/-!
# Events as Go reads them

`Event` is the union that Go decodes every event into: fields that the kind of
the event does not use stay zero. `decodeEventBatch` scans the bytes, decodes
them and checks every event; the error of the first event that fails is the
error of the whole batch. `quote` is how `fmt` prints a string with `%q`.
-/

namespace RivetGo.Wire

open Check (require)
open MessagePack (Value)
open Utf8 (Valid)

/-- The kinds of events, and whatever else the wire may carry as a kind. -/
inductive EventKind where
  | runnerConnected | runnerDisconnected | runnerStopped
  | actorStart | actorStop | actorAlarm | actorIntentResult | actorScheduleResult
  | actorQueueResult
  | connectionPreflight | connectionOpen | connectionClose
  | actionCall | httpRequest | httpRequestChunk | httpRequestAbort
  | wsOpen | wsMessage | wsClose
  | kvResult | statePersisted | sqliteResult
  | other (name : Bytes)
  deriving DecidableEq

/-- The name of a kind, as the checks print it. -/
def EventKind.text : EventKind → String
  | .runnerConnected => "runner_connected"
  | .runnerDisconnected => "runner_disconnected"
  | .runnerStopped => "runner_stopped"
  | .actorStart => "actor_start"
  | .actorStop => "actor_stop"
  | .actorAlarm => "actor_alarm"
  | .actorIntentResult => "actor_intent_result"
  | .actorScheduleResult => "actor_schedule_result"
  | .actorQueueResult => "actor_queue_result"
  | .connectionPreflight => "connection_preflight"
  | .connectionOpen => "connection_open"
  | .connectionClose => "connection_close"
  | .actionCall => "action_call"
  | .httpRequest => "http_request"
  | .httpRequestChunk => "http_request_chunk"
  | .httpRequestAbort => "http_request_abort"
  | .wsOpen => "ws_open"
  | .wsMessage => "ws_message"
  | .wsClose => "ws_close"
  | .kvResult => "kv_result"
  | .statePersisted => "state_persisted"
  | .sqliteResult => "sqlite_result"
  | .other _ => ""

/-- The kind on the wire. -/
def EventKind.tag : EventKind → Bytes
  | .other name => name
  | kind => Utf8.encode kind.text

/-- The kinds that have a constant of their own. -/
def EventKind.known : List EventKind :=
  [.runnerConnected, .runnerDisconnected, .runnerStopped, .actorStart, .actorStop, .actorAlarm,
    .actorIntentResult, .actorScheduleResult, .actorQueueResult, .connectionPreflight,
    .connectionOpen, .connectionClose, .actionCall, .httpRequest, .httpRequestChunk,
    .httpRequestAbort, .wsOpen, .wsMessage, .wsClose, .kvResult, .statePersisted, .sqliteResult]

def EventKind.ofTag (tag : Bytes) : EventKind :=
  (known.find? fun kind => kind.tag = tag).getD (.other tag)

theorem EventKind.ofTag_tag {kind : EventKind} (h : kind ∈ known) : ofTag kind.tag = kind := by
  revert kind
  decide +kernel

/-- A connection as native saw it last. -/
structure Connection where
  id : Bytes := []
  parameters : Option Bytes := none
  state : Option Bytes := none
  path : Bytes := []
  headers : List (Bytes × Bytes) := []
  canHibernate : Bool := false
  resumed : Bool := false
  actorConnect : Bool := false

structure DrainReport where
  graceful : Bool := false
  elapsedMS : UInt64 := 0
  actorsStopped : UInt32 := 0
  actorsRemaining : UInt32 := 0

structure KVEntry where
  key : Option Bytes := none
  value : Option Bytes := none
  deriving DecidableEq

structure ScheduledEvent where
  id : Bytes := []
  action : Bytes := []
  args : Option Bytes := none
  runAt : Int64 := 0

structure QueueMessage where
  id : UInt64 := 0
  name : Bytes := []
  body : Option Bytes := none
  createdAt : Int64 := 0
  completable : Bool := false

/-- The event record. Its default is the Go zero value. -/
structure Event where
  kind : EventKind := .other []
  runnerID : Bytes := []
  metadata : List (Bytes × Bytes) := []
  reason : Bytes := []
  drainReport : Option DrainReport := none
  aid : Bytes := []
  generation : UInt64 := 0
  name : Bytes := []
  key : Bytes := []
  createTS : Int64 := 0
  input : Option Bytes := none
  persistedState : Option Bytes := none
  sqliteSocketPath : Bytes := []
  connections : List Connection := []
  kvID : UInt64 := 0
  value : Option Bytes := none
  entries : List KVEntry := []
  stateVersion : UInt64 := 0
  error : Option WireError := none
  callID : UInt64 := 0
  action : Bytes := []
  actionTimeoutMS : UInt32 := 0
  args : Option Bytes := none
  connID : Option Bytes := none
  connection : Option Connection := none
  requestID : UInt64 := 0
  method : Bytes := []
  path : Bytes := []
  headers : List (Bytes × Bytes) := []
  body : Option Bytes := none
  stream : Bool := false
  finish : Bool := false
  wsID : Bytes := []
  canHibernate : Bool := false
  resumed : Bool := false
  data : Option Bytes := none
  binary : Bool := false
  messageIndex : UInt16 := 0
  closeCode : Option UInt16 := none
  alarmTS : Int64 := 0
  operationID : UInt64 := 0
  scheduleOperation : Bytes := []
  scheduleID : Bytes := []
  cancelled : Option Bool := none
  schedules : List ScheduledEvent := []
  queueOperation : Bytes := []
  queueMessage : Option QueueMessage := none
  queueResponse : Option (Option Bytes) := none
  sqliteValues : List SQLiteValue := []
  columns : List Bytes := []
  rowsAffected : Int64 := 0
  lastInsertID : Option Int64 := none
  chunkIndex : UInt32 := 0
  done : Bool := false
  sqliteRequestID : UInt64 := 0

structure EventBatch where
  seq : UInt64 := 0
  events : List Event := []

/-! ### Decoding -/

def Connection.setField (c : Connection) (name : String) (v : Value) : Option Connection :=
  match name with
  | "id" => do return { c with id := ← readString v }
  | "parameters" => do return { c with parameters := ← readBytes v }
  | "state" => do return { c with state := ← readBytes v }
  | "path" => do return { c with path := ← readString v }
  | "headers" => do return { c with headers := ← readMap v }
  | "can_hibernate" => do return { c with canHibernate := ← readBool v }
  | "resumed" => do return { c with resumed := ← readBool v }
  | "actor_connect" => do return { c with actorConnect := ← readBool v }
  | _ => some c

def DrainReport.setField (r : DrainReport) (name : String) (v : Value) : Option DrainReport :=
  match name with
  | "graceful" => do return { r with graceful := ← readBool v }
  | "elapsed_ms" => do return { r with elapsedMS := ← readUint64 v }
  | "actors_stopped" => do return { r with actorsStopped := ← readUint32 v }
  | "actors_remaining" => do return { r with actorsRemaining := ← readUint32 v }
  | _ => some r

def WireError.setField (e : WireError) (name : String) (v : Value) : Option WireError :=
  match name with
  | "code" => do return { e with code := ← readString v }
  | "message" => do return { e with message := ← readString v }
  | "sqlite_code" => do return { e with sqliteCode := ← readPointer readInt32 v }
  | "statement_index" => do return { e with statementIndex := ← readPointer readUint32 v }
  | _ => some e

def KVEntry.setField (e : KVEntry) (name : String) (v : Value) : Option KVEntry :=
  match name with
  | "key" => do return { e with key := ← readBytes v }
  | "value" => do return { e with value := ← readBytes v }
  | _ => some e

def ScheduledEvent.setField (e : ScheduledEvent) (name : String) (v : Value) :
    Option ScheduledEvent :=
  match name with
  | "id" => do return { e with id := ← readString v }
  | "action" => do return { e with action := ← readString v }
  | "args" => do return { e with args := ← readBytes v }
  | "run_at" => do return { e with runAt := ← readInt64 v }
  | _ => some e

def QueueMessage.setField (m : QueueMessage) (name : String) (v : Value) : Option QueueMessage :=
  match name with
  | "id" => do return { m with id := ← readUint64 v }
  | "name" => do return { m with name := ← readString v }
  | "body" => do return { m with body := ← readBytes v }
  | "created_at" => do return { m with createdAt := ← readInt64 v }
  | "completable" => do return { m with completable := ← readBool v }
  | _ => some m

/-- A kind that is no text is a kind that nothing knows. -/
def SQLiteValue.setField (x : SQLiteValue) (name : String) (v : Value) : Option SQLiteValue :=
  match name with
  | "kind" => do return { x with kind := (Utf8.decode? (← readString v)).getD "" }
  | "integer" => do return { x with integer := ← readPointer readInt64 v }
  | "bits" => do return { x with bits := ← readPointer readUint64 v }
  | "text" => do return { x with text := ← readPointer readString v }
  | "blob" => do return { x with blob := ← readPointer readBytes v }
  | _ => some x

def Connection.read : Value → Option Connection := readStruct {} Connection.setField

def DrainReport.read : Value → Option DrainReport := readStruct {} DrainReport.setField

def WireError.read : Value → Option WireError := readStruct ⟨[], [], none, none⟩ WireError.setField

def KVEntry.read : Value → Option KVEntry := readStruct {} KVEntry.setField

def ScheduledEvent.read : Value → Option ScheduledEvent := readStruct {} ScheduledEvent.setField

def QueueMessage.read : Value → Option QueueMessage := readStruct {} QueueMessage.setField

def SQLiteValue.read : Value → Option SQLiteValue :=
  readStruct ⟨"", none, none, none, none⟩ SQLiteValue.setField

/-- The fields of an event. -/
inductive EventField where
  | kind | runnerID | metadata | reason | drainReport | aid | generation | name | key | createTS
  | input | persistedState | sqliteSocketPath | connections | kvID | value | entries
  | stateVersion | error | callID | action | actionTimeoutMS | args | connID | connection
  | requestID | method | path | headers | body | stream | finish | wsID | canHibernate | resumed
  | data | binary | messageIndex | closeCode | alarmTS | operationID | scheduleOperation
  | scheduleID | cancelled | schedules | queueOperation | queueMessage | queueResponse
  | sqliteValues | columns | rowsAffected | lastInsertID | chunkIndex | done | sqliteRequestID
  deriving DecidableEq

/-- The names of the fields on the wire. -/
def EventField.table : List (String × EventField) :=
  [("kind", .kind), ("runner_id", .runnerID), ("metadata", .metadata), ("reason", .reason),
    ("drain_report", .drainReport), ("aid", .aid), ("gen", .generation), ("name", .name),
    ("key", .key), ("create_ts", .createTS), ("input", .input),
    ("persisted_state", .persistedState), ("sqlite_socket_path", .sqliteSocketPath),
    ("connections", .connections), ("kv_id", .kvID), ("value", .value), ("entries", .entries),
    ("state_version", .stateVersion), ("error", .error), ("call_id", .callID),
    ("action", .action), ("timeout_ms", .actionTimeoutMS), ("args", .args), ("conn_id", .connID),
    ("connection", .connection), ("req_id", .requestID), ("method", .method), ("path", .path),
    ("headers", .headers), ("body", .body), ("stream", .stream), ("finish", .finish),
    ("ws_id", .wsID), ("can_hibernate", .canHibernate), ("resumed", .resumed), ("data", .data),
    ("binary", .binary), ("msg_index", .messageIndex), ("code", .closeCode),
    ("alarm_ts", .alarmTS), ("op_id", .operationID), ("operation", .scheduleOperation),
    ("schedule_id", .scheduleID), ("cancelled", .cancelled), ("schedules", .schedules),
    ("queue_operation", .queueOperation), ("message", .queueMessage),
    ("response", .queueResponse), ("values", .sqliteValues), ("columns", .columns),
    ("rows_affected", .rowsAffected), ("last_insert_id", .lastInsertID),
    ("chunk_index", .chunkIndex), ("done", .done), ("request_id", .sqliteRequestID)]

def EventField.ofName? (name : String) : Option EventField := table.lookup name

/-- No name stands for two fields. -/
theorem EventField.ofName?_table : ∀ p ∈ table, ofName? p.1 = some p.2 := by
  decide +kernel

/-- Set one field. -/
def Event.set (e : Event) (v : Value) : EventField → Option Event
  | .kind => do return { e with kind := EventKind.ofTag (← readString v) }
  | .runnerID => do return { e with runnerID := ← readString v }
  | .metadata => do return { e with metadata := ← readMap v }
  | .reason => do return { e with reason := ← readString v }
  | .drainReport => do return { e with drainReport := ← readPointer DrainReport.read v }
  | .aid => do return { e with aid := ← readString v }
  | .generation => do return { e with generation := ← readUint64 v }
  | .name => do return { e with name := ← readString v }
  | .key => do return { e with key := ← readString v }
  | .createTS => do return { e with createTS := ← readInt64 v }
  | .input => do return { e with input := ← readBytes v }
  | .persistedState => do return { e with persistedState := ← readBytes v }
  | .sqliteSocketPath => do return { e with sqliteSocketPath := ← readString v }
  | .connections => do return { e with connections := ← readSlice Connection.read v }
  | .kvID => do return { e with kvID := ← readUint64 v }
  | .value => do return { e with value := ← readBytes v }
  | .entries => do return { e with entries := ← readSlice KVEntry.read v }
  | .stateVersion => do return { e with stateVersion := ← readUint64 v }
  | .error => do return { e with error := ← readPointer WireError.read v }
  | .callID => do return { e with callID := ← readUint64 v }
  | .action => do return { e with action := ← readString v }
  | .actionTimeoutMS => do return { e with actionTimeoutMS := ← readUint32 v }
  | .args => do return { e with args := ← readBytes v }
  | .connID => do return { e with connID := ← readPointer readString v }
  | .connection => do return { e with connection := ← readPointer Connection.read v }
  | .requestID => do return { e with requestID := ← readUint64 v }
  | .method => do return { e with method := ← readString v }
  | .path => do return { e with path := ← readString v }
  | .headers => do return { e with headers := ← readMap v }
  | .body => do return { e with body := ← readBytes v }
  | .stream => do return { e with stream := ← readBool v }
  | .finish => do return { e with finish := ← readBool v }
  | .wsID => do return { e with wsID := ← readString v }
  | .canHibernate => do return { e with canHibernate := ← readBool v }
  | .resumed => do return { e with resumed := ← readBool v }
  | .data => do return { e with data := ← readBytes v }
  | .binary => do return { e with binary := ← readBool v }
  | .messageIndex => do return { e with messageIndex := ← readUint16 v }
  | .closeCode => do return { e with closeCode := ← readPointer readUint16 v }
  | .alarmTS => do return { e with alarmTS := ← readInt64 v }
  | .operationID => do return { e with operationID := ← readUint64 v }
  | .scheduleOperation => do return { e with scheduleOperation := ← readString v }
  | .scheduleID => do return { e with scheduleID := ← readString v }
  | .cancelled => do return { e with cancelled := ← readPointer readBool v }
  | .schedules => do return { e with schedules := ← readSlice ScheduledEvent.read v }
  | .queueOperation => do return { e with queueOperation := ← readString v }
  | .queueMessage => do return { e with queueMessage := ← readPointer QueueMessage.read v }
  | .queueResponse => do return { e with queueResponse := ← readPointer readBytes v }
  | .sqliteValues => do return { e with sqliteValues := ← readSlice SQLiteValue.read v }
  | .columns => do return { e with columns := ← readSlice readString v }
  | .rowsAffected => do return { e with rowsAffected := ← readInt64 v }
  | .lastInsertID => do return { e with lastInsertID := ← readPointer readInt64 v }
  | .chunkIndex => do return { e with chunkIndex := ← readUint32 v }
  | .done => do return { e with done := ← readBool v }
  | .sqliteRequestID => do return { e with sqliteRequestID := ← readUint64 v }

def Event.setField (e : Event) (name : String) (v : Value) : Option Event :=
  match EventField.ofName? name with
  | some field => e.set v field
  | none => some e

theorem Event.setField_eq {name : String} {field : EventField}
    (h : EventField.ofName? name = some field) (e : Event) (v : Value) :
    e.setField name v = e.set v field := by
  rw [setField, h]

def Event.read : Value → Option Event := readStruct {} Event.setField

def EventBatch.setField (b : EventBatch) (name : String) (v : Value) : Option EventBatch :=
  match name with
  | "seq" => do return { b with seq := ← readUint64 v }
  | "events" => do return { b with events := ← readSlice Event.read v }
  | _ => some b

def EventBatch.read : Value → Option EventBatch := readStruct {} EventBatch.setField

/-! ### Checks -/

/-- The largest name or value of an event. -/
def maxEventBytes : Nat := 2 ^ 20

/-- The number of bytes of a slice; nil has none. -/
def len (b : Option Bytes) : Nat := (b.getD []).length

def validateConnection (c : Connection) : Check := do
  require (c.id ≠ [] ∧ c.id.length ≤ maxEventBytes)
    "connection ID must be non-empty and at most one MiB"
  require (len c.parameters ≤ maxEventBytes) "connection parameters exceed the one MiB limit"
  require (len c.state ≤ maxEventBytes) "connection state exceeds the one MiB limit"
  require (c.path.length ≤ maxEventBytes) "connection request path exceeds the one MiB limit"
  require (c.headers.length ≤ 256) "connection exceeds the 256-header schema limit"
  require (∀ h ∈ c.headers, h.1.length ≤ maxEventBytes ∧ h.2.length ≤ maxEventBytes)
    "connection header name or value exceeds the one MiB limit"

/-- One schedule of a result. -/
def validateSchedule (s : ScheduledEvent × Nat) : Check := do
  require (s.1.id ≠ [] ∧ s.1.action ≠ []) s!"schedule {s.2} requires id and action"
  require (len s.1.args ≤ maxEventBytes) s!"schedule {s.2} args exceed the one MiB limit"

/-- The operations a schedule result can be of. -/
inductive ScheduleOperation where
  | create | cancel | get | list
  deriving DecidableEq

def ScheduleOperation.ofTag? (tag : Bytes) : Option ScheduleOperation :=
  if tag = Utf8.encode "create" then some .create
  else if tag = Utf8.encode "cancel" then some .cancel
  else if tag = Utf8.encode "get" then some .get
  else if tag = Utf8.encode "list" then some .list
  else none

/-- The payload that the result of a successful operation may carry. -/
def validateSchedulePayload (quote : Bytes → String) (e : Event) : Check :=
  match ScheduleOperation.ofTag? e.scheduleOperation with
  | some .create => require (e.scheduleID ≠ [] ∧ e.cancelled = none ∧ e.schedules.length = 0)
      "create result requires only schedule_id"
  | some .cancel =>
    require (e.scheduleID = [] ∧ e.cancelled ≠ none ∧ e.schedules.length = 0)
      "cancel result requires only cancelled"
  | some .get => require (e.scheduleID = [] ∧ e.cancelled = none ∧ e.schedules.length ≤ 1)
      "get result requires at most one schedule"
  | some .list => require (e.scheduleID = [] ∧ e.cancelled = none)
      "list result contains an invalid payload"
  | none => .error ("unknown operation " ++ quote e.scheduleOperation)

def validateScheduleResult (quote : Bytes → String) (e : Event) : Check := do
  require (e.operationID ≠ 0) "invalid op_id"
  if e.error.isSome then
    require (e.scheduleID = [] ∧ e.cancelled = none ∧ e.schedules.length = 0)
      "error result contains a success payload"
  else
    validateSchedulePayload quote e
    forM e.schedules.zipIdx validateSchedule

/-- The operations a queue result can be of. -/
inductive QueueOperation where
  | send | enqueueWait | next | complete | retry
  deriving DecidableEq

def QueueOperation.ofTag? (tag : Bytes) : Option QueueOperation :=
  if tag = Utf8.encode "send" then some .send
  else if tag = Utf8.encode "enqueue_wait" then some .enqueueWait
  else if tag = Utf8.encode "next" then some .next
  else if tag = Utf8.encode "complete" then some .complete
  else if tag = Utf8.encode "retry" then some .retry
  else none

/-- The payload that the result of a successful operation may carry. -/
def validateQueuePayload (quote : Bytes → String) (e : Event) : Check :=
  match QueueOperation.ofTag? e.queueOperation with
  | some .send => require (e.queueMessage.isSome ∧ e.queueResponse.isNone)
      "send result requires only a message"
  | some .enqueueWait => require (e.queueMessage.isNone)
      "enqueue_wait result must not contain a message"
  | some .next => require (e.queueResponse.isNone) "next result must not contain a response"
  | some .complete => require (e.queueMessage.isNone ∧ e.queueResponse.isNone)
      "complete result must not contain a payload"
  | some .retry => require (e.queueMessage.isNone ∧ e.queueResponse.isNone)
      "retry result must not contain a payload"
  | none => .error ("unknown operation " ++ quote e.queueOperation)

def validateQueueMessage (m : QueueMessage) : Check := do
  require (m.id ≠ 0 ∧ m.name ≠ []) "queue message requires id and name"
  require (m.name.length ≤ maxEventBytes ∧ len m.body ≤ maxEventBytes)
    "queue message exceeds the one MiB boundary limit"

def validateQueueResult (quote : Bytes → String) (e : Event) : Check := do
  require (e.operationID ≠ 0) "invalid op_id"
  if e.error.isSome then
    require (e.queueMessage.isNone ∧ e.queueResponse.isNone)
      "error result contains a success payload"
  else
    validateQueuePayload quote e
    forM e.queueMessage.toList validateQueueMessage
    require (∀ r ∈ e.queueResponse, len r ≤ maxEventBytes)
      "queue response exceeds the one MiB boundary limit"

/-- How many of the payloads of a value are set. -/
def SQLiteValue.payloads (v : SQLiteValue) : Nat :=
  v.integer.toList.length + v.bits.toList.length + v.text.toList.length + v.blob.toList.length

/-- A value has the payload of its kind and no other. -/
def validateSQLiteKind (quote : Bytes → String) (v : SQLiteValue) : Check :=
  if v.kind = "null" then require (v.payloads = 0) "null has a payload"
  else if v.kind = "integer" then
    require (v.integer.isSome ∧ v.payloads = 1) "integer requires exactly one integer payload"
  else if v.kind = "real" then
    require (v.bits.isSome ∧ v.payloads = 1) "real requires exactly one bits payload"
  else if v.kind = "text" then
    require (v.text.isSome ∧ v.payloads = 1) "text requires exactly one text payload"
  else if v.kind = "blob" then
    require (v.blob.isSome ∧ v.payloads = 1) "blob requires exactly one blob payload"
  else .error ("unknown SQLite value kind " ++ quote (Utf8.encode v.kind))

def validateSQLiteValue (quote : Bytes → String) (v : SQLiteValue) : Check := do
  require (∀ t ∈ v.text, t.length ≤ maxEventBytes) "text exceeds the one MiB value limit"
  require (∀ b ∈ v.blob, len b ≤ maxEventBytes) "blob exceeds the one MiB value limit"
  validateSQLiteKind quote v

def validWebSocketCloseCode (code : UInt16) : Bool :=
  (1000 ≤ code && code ≤ 1003) || (1007 ≤ code && code ≤ 1014) || (3000 ≤ code && code ≤ 4999)

/-- A connection that was restored at the start of an actor. -/
def validateRestored (c : Connection × Nat) : Check := do
  (validateConnection c.1).mapError
    (s!"actor_start restored connection {c.2}: " ++ ·)
  require (c.1.actorConnect = true ∧ c.1.resumed = true ∧ c.1.canHibernate = true)
    (s!"actor_start restored connection {c.2} is not a resumed hibernatable " ++
      "ActorConnect connection")

/-- The checks on an event of a connection hook. -/
def validateConnectionEvent (e : Event) : Check := do
  require (e.aid ≠ [] ∧ e.operationID ≠ 0 ∧ e.connection.isSome)
    (e.kind.text ++ " event requires aid, op_id, and connection")
  forM e.connection.toList fun c =>
    (validateConnection c).mapError ((e.kind.text ++ " event: ") ++ ·)
  require (∀ c ∈ e.connection, c.actorConnect = true)
    (e.kind.text ++ " event does not contain an ActorConnect connection")

/-- The switch of `validateEvent`. -/
def validateKind (quote : Bytes → String) (e : Event) : Check :=
  match e.kind with
  | .runnerConnected => require (e.runnerID ≠ []) "runner_connected event has empty runner_id"
  | .runnerDisconnected => require (e.reason ≠ []) "runner_disconnected event has empty reason"
  | .runnerStopped =>
    require (e.drainReport.isSome = true) "runner_stopped event has no drain_report"
  | .actorStart => do
      require (e.aid ≠ [] ∧ e.name ≠ []) "actor_start event requires aid and name"
      require (e.sqliteSocketPath = [] ∨ e.sqliteSocketPath.head? = some 0x2f)
        "actor_start event has a non-absolute SQLite socket path"
      require (e.connections.length ≤ 1024)
        "actor_start event exceeds the 1,024 restored-connection limit"
      forM e.connections.zipIdx validateRestored
  | .actorStop => do
      require (e.aid ≠ [] ∧ e.reason ≠ []) "actor_stop event requires aid and reason"
      require (e.reason = Utf8.encode "sleep" ∨ e.reason = Utf8.encode "stop" ∨
          e.reason = Utf8.encode "destroy")
        ("actor_stop event has unsupported reason " ++ quote e.reason)
  | .actorAlarm => require (e.aid ≠ []) "actor_alarm event has empty aid"
  | .actorIntentResult =>
    require (e.operationID ≠ 0) "actor_intent_result event has invalid op_id"
  | .actorScheduleResult =>
    (validateScheduleResult quote e).mapError ("actor_schedule_result event: " ++ ·)
  | .actorQueueResult =>
    (validateQueueResult quote e).mapError ("actor_queue_result event: " ++ ·)
  | .connectionPreflight => validateConnectionEvent e
  | .connectionOpen => validateConnectionEvent e
  | .connectionClose => validateConnectionEvent e
  | .actionCall =>
    require (e.aid ≠ [] ∧ e.callID ≠ 0 ∧ e.action ≠ [] ∧ e.actionTimeoutMS ≠ 0)
      "action_call event requires aid, call_id, action, and timeout_ms"
  | .httpRequest => do
      require (e.aid ≠ [] ∧ e.requestID ≠ 0 ∧ e.method ≠ [] ∧ e.path ≠ [])
        "http_request event requires aid, req_id, method, and path"
      require (e.headers.length ≤ 256) "http_request event exceeds the 256-header schema limit"
  | .httpRequestChunk =>
    require (e.requestID ≠ 0 ∧ (len e.body ≠ 0 ∨ e.finish = true))
      "http_request_chunk event requires req_id and body or finish"
  | .httpRequestAbort =>
    require (e.requestID ≠ 0) "http_request_abort event has invalid req_id"
  | .wsOpen => do
      require (e.aid ≠ [] ∧ e.wsID ≠ [] ∧ e.path ≠ [])
        "ws_open event requires aid, ws_id, and path"
      require (e.headers.length ≤ 256) "ws_open event exceeds the 256-header schema limit"
      require (e.resumed = false ∨ e.canHibernate = true)
        "ws_open resumed event is not hibernatable"
  | .wsMessage => do
      require (e.wsID ≠ []) "ws_message event has empty ws_id"
      require (len e.data ≤ 2 ^ 20) "ws_message event exceeds the one MiB message limit"
      require (e.binary = true ∨ Valid (e.data.getD []))
        "ws_message text data is not valid UTF-8"
  | .wsClose => do
      require (e.wsID ≠ []) "ws_close event has empty ws_id"
      require (e.closeCode.all validWebSocketCloseCode = true)
        s!"ws_close event has invalid close code {e.closeCode.getD 0}"
      require (e.reason.length ≤ 123 ∧ Valid e.reason)
        "ws_close event has an invalid close reason"
  | .kvResult => require (e.kvID ≠ 0) "kv_result event has invalid kv_id"
  | .statePersisted => require (e.aid ≠ []) "state_persisted event has empty aid"
  | .sqliteResult => do
      require (e.sqliteRequestID ≠ 0) "sqlite_result event has invalid request_id"
      require (e.error = none ∨ e.done = true ∧ e.columns.length = 0 ∧ e.sqliteValues.length = 0)
        "sqlite_result error event must be terminal and contain no rows"
      forM e.sqliteValues.zipIdx fun v =>
        (validateSQLiteValue quote v.1).mapError (s!"sqlite_result value {v.2}: " ++ ·)
  | .other name => .error ("unknown event kind " ++ quote name)

def validateEvent (quote : Bytes → String) (e : Event) : Check := do
  validateKind quote e
  require (∀ err ∈ e.error, err.code ≠ [] ∧ err.message ≠ [])
    (e.kind.text ++ " event has incomplete structured error")

/-- `DecodeEventBatch`. The text of the decoder's own errors is left out. -/
def decodeEventBatch (quote : Bytes → String) (data : Bytes) : Except String EventBatch := do
  (validateShape data).mapError ("decode EventBatch: " ++ ·)
  match (MessagePack.decode data).bind EventBatch.read with
  | none => .error "decode EventBatch"
  | some batch => do
      forM batch.events.zipIdx fun e =>
        (validateEvent quote e.1).mapError (s!"event {e.2}: " ++ ·)
      return batch

/-- Every event of a batch is checked. -/
theorem decodeEventBatch_eq_ok {quote : Bytes → String} {data : Bytes} {batch : EventBatch} :
    decodeEventBatch quote data = .ok batch ↔
      validateShape data = .ok () ∧
        (MessagePack.decode data).bind EventBatch.read = some batch ∧
        ∀ e ∈ batch.events, validateEvent quote e = .ok () := by
  rw [decodeEventBatch]
  simp only [↓Check.seq_eq_ok, Check.mapError_eq_ok]
  refine and_congr_right fun _ => ?_
  cases (MessagePack.decode data).bind EventBatch.read with
  | none => simp
  | some b =>
    have hall : (forM b.events.zipIdx fun e =>
        (validateEvent quote e.1).mapError (s!"event {e.2}: " ++ ·)) = .ok () ↔
          ∀ e ∈ b.events, validateEvent quote e = .ok () :=
      Check.forM_zipIdx_eq_ok fun e => Check.mapError_eq_ok
    simp only [Check.seq_eq_ok, hall, Check.pure_eq_ok, Option.some.injEq]
    constructor
    · rintro ⟨hvalid, rfl⟩
      exact ⟨rfl, hvalid⟩
    · rintro ⟨rfl, hvalid⟩
      exact ⟨hvalid, rfl⟩

end RivetGo.Wire

import RivetGo.Native.Command

/-!
# Events as native writes them

The events of the runner and their MessagePack records. The kind comes first,
as for every internally tagged union. An optional field is written as nil unless
it is skipped when it is absent, and a skipped list is one that is empty. A
`BTreeMap` is the list of its entries.
-/

namespace RivetGo.Native

open MessagePack (Value record)
open Wire (omitEmpty pointer slice)

/-- A `BTreeMap<String, String>`: its keys are distinct. -/
structure StringMap where
  entries : List (String × String)
  distinct : (entries.map Prod.fst).Nodup

structure Connection where
  id : String
  parameters : Bytes
  state : Bytes
  path : String
  headers : StringMap
  canHibernate : Bool
  resumed : Bool
  actorConnect : Bool

structure DrainReport where
  graceful : Bool
  elapsedMs : UInt64
  actorsStopped : UInt32
  actorsRemaining : UInt32

structure KvEntry where
  key : Bytes
  value : Bytes

structure ScheduledEvent where
  id : String
  action : String
  args : Bytes
  runAt : Int64

structure QueueMessage where
  id : UInt64
  name : String
  body : Bytes
  createdAt : Int64
  completable : Bool

/-- An event of the runner. -/
inductive Event where
  | runnerConnected (runnerId : String) (metadata : StringMap)
  | runnerDisconnected (reason : String)
  | runnerStopped (drainReport : DrainReport)
  | actorStart (aid : String) (gen : UInt64) (name key : String) (createTs : Int64)
      (input : Bytes) (persistedState : Option Bytes) (sqliteSocketPath : Option String)
      (connections : List Connection)
  | actorStop (aid : String) (gen : UInt64) (reason : String)
  | actorAlarm (aid : String) (gen : UInt64) (alarmTs : Int64)
  | actorIntentResult (opId : UInt64) (error : Option WireError)
  | actorScheduleResult (opId : UInt64) (operation : String) (scheduleId : Option String)
      (cancelled : Option Bool) (schedules : List ScheduledEvent) (error : Option WireError)
  | actorQueueResult (opId : UInt64) (queueOperation : String) (message : Option QueueMessage)
      (response : Option Bytes) (error : Option WireError)
  | connectionPreflight (aid : String) (gen opId : UInt64) (connection : Connection)
  | connectionOpen (aid : String) (gen opId : UInt64) (connection : Connection)
  | connectionClose (aid : String) (gen opId : UInt64) (connection : Connection)
  | actionCall (aid : String) (gen callId : UInt64) (action : String) (timeoutMs : UInt32)
      (args : Bytes) (connId : Option String)
  | httpRequest (aid : String) (gen reqId : UInt64) (method path : String) (headers : StringMap)
      (body : Bytes) (stream : Bool)
  | httpRequestChunk (reqId : UInt64) (body : Bytes) (finish : Bool)
  | httpRequestAbort (reqId : UInt64)
  | wsOpen (aid : String) (gen : UInt64) (wsId path : String) (headers : StringMap)
      (canHibernate resumed : Bool)
  | wsMessage (wsId : String) (data : Bytes) (binary : Bool) (msgIndex : UInt16)
  | wsClose (wsId : String) (code : Option UInt16) (reason : Option String)
  | kvResult (kvId : UInt64) (value : Option Bytes) (entries : List KvEntry)
      (error : Option WireError)
  | statePersisted (aid : String) (gen stateVersion : UInt64) (error : Option WireError)
  | sqliteResult (requestId : UInt64) (chunkIndex : UInt32) (done : Bool) (columns : List String)
      (values : List SqliteValue) (rowsAffected : Int64) (lastInsertId : Option Int64)
      (error : Option WireError)

/-! ### Encoding -/

/-- A string on the wire. -/
def utf8 (s : String) : Value := .str (Utf8.encode s)

def StringMap.toValue (m : StringMap) : Value :=
  .map (m.entries.map fun kv => (utf8 kv.1, utf8 kv.2))

/-- A list that is skipped when it is empty. -/
def skipEmpty {α : Type} (name : String) (write : α → Value) : List α → List (String × Value)
  | [] => []
  | xs => [(name, .array (xs.map write))]

def Connection.toValue (c : Connection) : Value :=
  record [("id", utf8 c.id), ("parameters", .bin c.parameters), ("state", .bin c.state),
    ("path", utf8 c.path), ("headers", c.headers.toValue),
    ("can_hibernate", .bool c.canHibernate), ("resumed", .bool c.resumed),
    ("actor_connect", .bool c.actorConnect)]

def DrainReport.toValue (r : DrainReport) : Value :=
  record [("graceful", .bool r.graceful), ("elapsed_ms", .int r.elapsedMs.toNat),
    ("actors_stopped", .int r.actorsStopped.toNat),
    ("actors_remaining", .int r.actorsRemaining.toNat)]

def WireError.toValue (e : WireError) : Value :=
  record ([("code", utf8 e.code), ("message", utf8 e.message)] ++
    omitEmpty "sqlite_code" (fun n => .int n.toInt) e.sqliteCode ++
    omitEmpty "statement_index" (fun n => .int n.toNat) e.statementIndex)

def KvEntry.toValue (e : KvEntry) : Value := record [("key", .bin e.key), ("value", .bin e.value)]

def ScheduledEvent.toValue (e : ScheduledEvent) : Value :=
  record [("id", utf8 e.id), ("action", utf8 e.action), ("args", .bin e.args),
    ("run_at", .int e.runAt.toInt)]

def QueueMessage.toValue (m : QueueMessage) : Value :=
  record [("id", .int m.id.toNat), ("name", utf8 m.name), ("body", .bin m.body),
    ("created_at", .int m.createdAt.toInt), ("completable", .bool m.completable)]

def SqliteValue.toValue : SqliteValue → Value
  | .null => record [("kind", utf8 "null")]
  | .integer n => record [("kind", utf8 "integer"), ("integer", .int n.toInt)]
  | .real bits => record [("kind", utf8 "real"), ("bits", .int bits.toNat)]
  | .text s => record [("kind", utf8 "text"), ("text", utf8 s)]
  | .blob b => record [("kind", utf8 "blob"), ("blob", .bin b)]

/-- The tag of an event and the fields that are written after it. -/
def Event.fields : Event → String × List (String × Value)
  | .runnerConnected runnerId metadata =>
    ("runner_connected", [("runner_id", utf8 runnerId), ("metadata", metadata.toValue)])
  | .runnerDisconnected reason => ("runner_disconnected", [("reason", utf8 reason)])
  | .runnerStopped drainReport => ("runner_stopped", [("drain_report", drainReport.toValue)])
  | .actorStart aid gen name key createTs input persistedState sqliteSocketPath connections =>
    ("actor_start",
      [("aid", utf8 aid), ("gen", .int gen.toNat), ("name", utf8 name), ("key", utf8 key),
        ("create_ts", .int createTs.toInt), ("input", .bin input),
        ("persisted_state", slice persistedState)] ++
      omitEmpty "sqlite_socket_path" utf8 sqliteSocketPath ++
      skipEmpty "connections" Connection.toValue connections)
  | .actorStop aid gen reason =>
    ("actor_stop", [("aid", utf8 aid), ("gen", .int gen.toNat), ("reason", utf8 reason)])
  | .actorAlarm aid gen alarmTs =>
    ("actor_alarm",
      [("aid", utf8 aid), ("gen", .int gen.toNat), ("alarm_ts", .int alarmTs.toInt)])
  | .actorIntentResult opId error =>
    ("actor_intent_result",
      [("op_id", .int opId.toNat)] ++ omitEmpty "error" WireError.toValue error)
  | .actorScheduleResult opId operation scheduleId cancelled schedules error =>
    ("actor_schedule_result",
      [("op_id", .int opId.toNat), ("operation", utf8 operation)] ++
      omitEmpty "schedule_id" utf8 scheduleId ++ omitEmpty "cancelled" .bool cancelled ++
      skipEmpty "schedules" ScheduledEvent.toValue schedules ++
      omitEmpty "error" WireError.toValue error)
  | .actorQueueResult opId queueOperation message response error =>
    ("actor_queue_result",
      [("op_id", .int opId.toNat), ("queue_operation", utf8 queueOperation)] ++
      omitEmpty "message" QueueMessage.toValue message ++ omitEmpty "response" .bin response ++
      omitEmpty "error" WireError.toValue error)
  | .connectionPreflight aid gen opId connection =>
    ("connection_preflight",
      [("aid", utf8 aid), ("gen", .int gen.toNat), ("op_id", .int opId.toNat),
        ("connection", connection.toValue)])
  | .connectionOpen aid gen opId connection =>
    ("connection_open",
      [("aid", utf8 aid), ("gen", .int gen.toNat), ("op_id", .int opId.toNat),
        ("connection", connection.toValue)])
  | .connectionClose aid gen opId connection =>
    ("connection_close",
      [("aid", utf8 aid), ("gen", .int gen.toNat), ("op_id", .int opId.toNat),
        ("connection", connection.toValue)])
  | .actionCall aid gen callId action timeoutMs args connId =>
    ("action_call",
      [("aid", utf8 aid), ("gen", .int gen.toNat), ("call_id", .int callId.toNat),
        ("action", utf8 action), ("timeout_ms", .int timeoutMs.toNat), ("args", .bin args),
        ("conn_id", pointer utf8 connId)])
  | .httpRequest aid gen reqId method path headers body stream =>
    ("http_request",
      [("aid", utf8 aid), ("gen", .int gen.toNat), ("req_id", .int reqId.toNat),
        ("method", utf8 method), ("path", utf8 path), ("headers", headers.toValue),
        ("body", .bin body), ("stream", .bool stream)])
  | .httpRequestChunk reqId body finish =>
    ("http_request_chunk",
      [("req_id", .int reqId.toNat), ("body", .bin body), ("finish", .bool finish)])
  | .httpRequestAbort reqId => ("http_request_abort", [("req_id", .int reqId.toNat)])
  | .wsOpen aid gen wsId path headers canHibernate resumed =>
    ("ws_open",
      [("aid", utf8 aid), ("gen", .int gen.toNat), ("ws_id", utf8 wsId), ("path", utf8 path),
        ("headers", headers.toValue), ("can_hibernate", .bool canHibernate),
        ("resumed", .bool resumed)])
  | .wsMessage wsId data binary msgIndex =>
    ("ws_message",
      [("ws_id", utf8 wsId), ("data", .bin data), ("binary", .bool binary),
        ("msg_index", .int msgIndex.toNat)])
  | .wsClose wsId code reason =>
    ("ws_close",
      [("ws_id", utf8 wsId), ("code", pointer (fun n => .int n.toNat) code),
        ("reason", pointer utf8 reason)])
  | .kvResult kvId value entries error =>
    ("kv_result",
      [("kv_id", .int kvId.toNat)] ++ omitEmpty "value" .bin value ++
      skipEmpty "entries" KvEntry.toValue entries ++ omitEmpty "error" WireError.toValue error)
  | .statePersisted aid gen stateVersion error =>
    ("state_persisted",
      [("aid", utf8 aid), ("gen", .int gen.toNat), ("state_version", .int stateVersion.toNat)] ++
      omitEmpty "error" WireError.toValue error)
  | .sqliteResult requestId chunkIndex done columns values rowsAffected lastInsertId error =>
    ("sqlite_result",
      [("request_id", .int requestId.toNat), ("chunk_index", .int chunkIndex.toNat),
        ("done", .bool done)] ++
      skipEmpty "columns" utf8 columns ++ skipEmpty "values" SqliteValue.toValue values ++
      [("rows_affected", .int rowsAffected.toInt),
        ("last_insert_id", pointer (fun n => .int n.toInt) lastInsertId)] ++
      omitEmpty "error" WireError.toValue error)

def Event.toValue (e : Event) : Value := record (("kind", utf8 e.fields.1) :: e.fields.2)

/-- The batch of a poll. -/
def eventBatchValue (seq : UInt64) (events : List Event) : Value :=
  record [("seq", .int seq.toNat), ("events", .array (events.map Event.toValue))]

/-- The bytes that `rk_runner_poll` returns. -/
def encodeEventBatch (seq : UInt64) (events : List Event) : Bytes :=
  (eventBatchValue seq events).encode

end RivetGo.Native

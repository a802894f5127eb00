import RivetGo.Wire.Command

/-!
# Commands as native reads them

The Rust side has one variant for each kind of command, carrying the fields of
that kind only. A command is read from a MessagePack map by its `kind` tag;
fields of other kinds are ignored, and an unknown tag gives `unknown`. Rust
strings are valid text, so a field whose bytes are not UTF-8 is refused. A byte
field has to be a byte array, and nil is refused unless the field is optional.
-/

namespace RivetGo.Native

open MessagePack (Value)
open MessagePack.Value
open RivetGo.Wire (CommandKind)

/-- A structured error. -/
structure WireError where
  code : String
  message : String
  sqliteCode : Option Int32 := none
  statementIndex : Option UInt32 := none
  deriving DecidableEq, Repr

/-- One SQLite value; a real is its bit pattern. -/
inductive SqliteValue where
  | null
  | integer (n : Int64)
  | real (bits : UInt64)
  | text (s : String)
  | blob (b : Bytes)
  deriving DecidableEq, Repr

/-- The tags of the SQLite values. -/
inductive SqliteKind where
  | null
  | integer
  | real
  | text
  | blob
  deriving DecidableEq, Repr

/-- The kind a tag stands for. -/
def SqliteKind.ofTag? : String → Option SqliteKind
  | "null" => some .null
  | "integer" => some .integer
  | "real" => some .real
  | "text" => some .text
  | "blob" => some .blob
  | _ => none

/-- A decoded command. -/
inductive Command where
  | actorStartResult (aid : String) (gen : UInt64) (ok run : Bool) (error : Option WireError)
  | actorStopResult (aid : String) (gen : UInt64) (error : Option WireError)
  | actorRunResult (aid : String) (gen : UInt64) (error : Option WireError)
  | alarmHandled (aid : String) (gen : UInt64) (error : Option WireError)
  | actionResult (callId : UInt64) (output connectionState : Option Bytes)
      (error : Option WireError)
  | connectionResult (opId : UInt64) (connectionState : Option Bytes) (error : Option WireError)
  | httpResponseStart (reqId : UInt64) (status : UInt16) (headers : List (String × String))
      (body : Bytes) (stream : Bool) (error : Option WireError)
  | httpResponseChunk (reqId : UInt64) (body : Bytes) (finish : Bool)
  | wsOpenResult (wsId : String) (accept : Bool) (error : Option WireError)
  | wsMessageAck (wsId : String) (msgIndex : UInt16)
  | wsSend (wsId : String) (data : Bytes) (binary : Bool)
  | wsCloseCmd (wsId : String) (code : Option UInt16) (reason : Option String) (hibernate : Bool)
  | broadcast (aid : String) (gen : UInt64) (event : String) (payload : Bytes)
      (excludeConn : Option String)
  | stopIntent (aid : String)
  | setAlarm (opId : UInt64) (aid : String) (gen : UInt64) (alarmTs : Option Int64)
  | sleepIntent (opId : UInt64) (aid : String) (gen : UInt64)
  | destroyIntent (opId : UInt64) (aid : String) (gen : UInt64)
  | scheduleAfter (opId : UInt64) (aid : String) (gen delayMs : UInt64) (action : String)
      (scheduleArgs : Bytes)
  | scheduleAt (opId : UInt64) (aid : String) (gen : UInt64) (runAt : Int64) (action : String)
      (scheduleArgs : Bytes)
  | scheduleCancel (opId : UInt64) (aid : String) (gen : UInt64) (scheduleId : String)
  | scheduleGet (opId : UInt64) (aid : String) (gen : UInt64) (scheduleId : String)
  | scheduleList (opId : UInt64) (aid : String) (gen : UInt64)
  | queueSend (opId : UInt64) (aid : String) (gen : UInt64) (name : String) (body : Bytes)
  | queueEnqueueWait (opId : UInt64) (aid : String) (gen : UInt64) (name : String) (body : Bytes)
      (queueTimeoutMs : Option UInt64)
  | queueNext (opId : UInt64) (aid : String) (gen : UInt64) (names : List String)
      (queueTimeoutMs : Option UInt64) (completable : Bool)
  | queueComplete (opId : UInt64) (aid : String) (gen messageId : UInt64)
      (response : Option Bytes)
  | queueRetry (opId : UInt64) (aid : String) (gen messageId : UInt64)
  | queueCancel (aid : String) (gen targetOpId : UInt64)
  | managedWorkBegin (opId : UInt64) (aid : String) (gen workId : UInt64) (workKind : String)
  | managedWorkEnd (aid : String) (gen workId : UInt64)
  | saveState (aid : String) (gen : UInt64) (state : Bytes)
  | kvGet (kvId : UInt64) (aid : String) (gen : UInt64) (key : Bytes)
  | kvList (kvId : UInt64) (aid : String) (gen : UInt64) (keyPrefix : Bytes) (reverse : Bool)
      (limit : Option UInt32)
  | kvPut (kvId : UInt64) (aid : String) (gen : UInt64) (key value : Bytes)
  | kvDelete (kvId : UInt64) (aid : String) (gen : UInt64) (key : Bytes)
  | sqliteExec (requestId : UInt64) (aid : String) (gen : UInt64) (sql : String)
      (args : List SqliteValue) (leaseKey : Option String) (deadlineMs : UInt32)
  | sqliteQuery (requestId : UInt64) (aid : String) (gen : UInt64) (sql : String)
      (args : List SqliteValue) (leaseKey : Option String) (deadlineMs : UInt32)
  | sqliteBegin (requestId : UInt64) (aid : String) (gen : UInt64) (leaseKey : String)
      (timeoutMs : UInt64) (deadlineMs : UInt32)
  | sqliteCommit (requestId : UInt64) (aid : String) (gen : UInt64) (leaseKey : String)
      (deadlineMs : UInt32)
  | sqliteRollback (requestId : UInt64) (aid : String) (gen : UInt64) (leaseKey : String)
      (deadlineMs : UInt32)
  | unknown

/-! ### Reading a command -/

def WireError.read (v : Value) : Option WireError := do
  return {
    code := ← v.required text? "code"
    message := ← v.required text? "message"
    sqliteCode := ← v.defaulted (nullable int32?) none "sqlite_code"
    statementIndex := ← v.defaulted (nullable uint32?) none "statement_index" }

def SqliteValue.read (v : Value) : Option SqliteValue := do
  match SqliteKind.ofTag? (← v.required text? "kind") with
  | some .null => return .null
  | some .integer => return .integer (← v.required int64? "integer")
  | some .real => return .real (← v.required uint64? "bits")
  | some .text => return .text (← v.required text? "text")
  | some .blob => return .blob (← v.required bin? "blob")
  | none => none

namespace Command

/-- Read the fields that belong to a kind. -/
def readFields (v : Value) : CommandKind → Option Command
  | .actorStartResult => do
      return .actorStartResult (← aid) (← gen) (← v.required bool? "ok")
        (← v.defaulted bool? false "run") (← error)
  | .actorStopResult => do return .actorStopResult (← aid) (← gen) (← error)
  | .actorRunResult => do return .actorRunResult (← aid) (← gen) (← error)
  | .alarmHandled => do return .alarmHandled (← aid) (← gen) (← error)
  | .actionResult => do
      return .actionResult (← v.required uint64? "call_id")
        (← v.defaulted (nullable bin?) none "output")
        (← v.defaulted (nullable bin?) none "connection_state") (← error)
  | .connectionResult => do
      return .connectionResult (← opId)
        (← v.defaulted (nullable bin?) none "connection_state") (← error)
  | .httpResponseStart => do
      return .httpResponseStart (← v.required uint64? "req_id") (← v.required uint16? "status")
        (← v.defaulted (dict? text? text?) [] "headers") (← v.defaulted bin? [] "body")
        (← v.defaulted bool? false "stream") (← error)
  | .httpResponseChunk => do
      return .httpResponseChunk (← v.required uint64? "req_id") (← v.required bin? "body")
        (← v.required bool? "finish")
  | .wsOpenResult => do
      return .wsOpenResult (← wsId) (← v.required bool? "accept") (← error)
  | .wsMessageAck => do return .wsMessageAck (← wsId) (← v.required uint16? "msg_index")
  | .wsSend => do
      return .wsSend (← wsId) (← v.required bin? "data") (← v.required bool? "binary")
  | .wsClose => do
      return .wsCloseCmd (← wsId) (← v.defaulted (nullable uint16?) none "code")
        (← v.defaulted (nullable text?) none "reason") (← v.defaulted bool? false "hibernate")
  | .broadcast => do
      return .broadcast (← aid) (← gen) (← v.required text? "event")
        (← v.required bin? "payload") (← v.defaulted (nullable text?) none "exclude_conn")
  | .stopIntent => do return .stopIntent (← aid)
  | .setAlarm => do
      return .setAlarm (← opId) (← aid) (← gen)
        (← v.defaulted (nullable int64?) none "alarm_ts")
  | .sleepIntent => do return .sleepIntent (← opId) (← aid) (← gen)
  | .destroyIntent => do return .destroyIntent (← opId) (← aid) (← gen)
  | .scheduleAfter => do
      return .scheduleAfter (← opId) (← aid) (← gen) (← v.required uint64? "delay_ms")
        (← v.required text? "action") (← v.required bin? "schedule_args")
  | .scheduleAt => do
      return .scheduleAt (← opId) (← aid) (← gen) (← v.required int64? "run_at")
        (← v.required text? "action") (← v.required bin? "schedule_args")
  | .scheduleCancel => do
      return .scheduleCancel (← opId) (← aid) (← gen) (← v.required text? "schedule_id")
  | .scheduleGet => do
      return .scheduleGet (← opId) (← aid) (← gen) (← v.required text? "schedule_id")
  | .scheduleList => do return .scheduleList (← opId) (← aid) (← gen)
  | .queueSend => do
      return .queueSend (← opId) (← aid) (← gen) (← v.required text? "name")
        (← v.required bin? "body")
  | .queueEnqueueWait => do
      return .queueEnqueueWait (← opId) (← aid) (← gen) (← v.required text? "name")
        (← v.required bin? "body") (← queueTimeoutMs)
  | .queueNext => do
      return .queueNext (← opId) (← aid) (← gen) (← v.defaulted (list? text?) [] "names")
        (← queueTimeoutMs) (← v.required bool? "completable")
  | .queueComplete => do
      return .queueComplete (← opId) (← aid) (← gen) (← v.required uint64? "message_id")
        (← v.defaulted (nullable bin?) none "response")
  | .queueRetry => do
      return .queueRetry (← opId) (← aid) (← gen) (← v.required uint64? "message_id")
  | .queueCancel => do
      return .queueCancel (← aid) (← gen) (← v.required uint64? "target_op_id")
  | .managedWorkBegin => do
      return .managedWorkBegin (← opId) (← aid) (← gen) (← v.required uint64? "work_id")
        (← v.required text? "work_kind")
  | .managedWorkEnd => do
      return .managedWorkEnd (← aid) (← gen) (← v.required uint64? "work_id")
  | .saveState => do return .saveState (← aid) (← gen) (← v.required bin? "state")
  | .kvGet => do return .kvGet (← kvId) (← aid) (← gen) (← v.required bin? "key")
  | .kvList => do
      return .kvList (← kvId) (← aid) (← gen) (← v.required bin? "prefix")
        (← v.defaulted bool? false "reverse") (← v.defaulted (nullable uint32?) none "limit")
  | .kvPut => do
      return .kvPut (← kvId) (← aid) (← gen) (← v.required bin? "key")
        (← v.required bin? "value")
  | .kvDelete => do return .kvDelete (← kvId) (← aid) (← gen) (← v.required bin? "key")
  | .sqliteExec => do
      return .sqliteExec (← requestId) (← aid) (← gen) (← v.required text? "sql")
        (← v.defaulted (list? SqliteValue.read) [] "args")
        (← v.defaulted (nullable text?) none "lease_key") (← deadlineMs)
  | .sqliteQuery => do
      return .sqliteQuery (← requestId) (← aid) (← gen) (← v.required text? "sql")
        (← v.defaulted (list? SqliteValue.read) [] "args")
        (← v.defaulted (nullable text?) none "lease_key") (← deadlineMs)
  | .sqliteBegin => do
      return .sqliteBegin (← requestId) (← aid) (← gen) (← v.required text? "lease_key")
        (← v.required uint64? "timeout_ms") (← deadlineMs)
  | .sqliteCommit => do
      return .sqliteCommit (← requestId) (← aid) (← gen) (← v.required text? "lease_key")
        (← deadlineMs)
  | .sqliteRollback => do
      return .sqliteRollback (← requestId) (← aid) (← gen) (← v.required text? "lease_key")
        (← deadlineMs)
where
  aid := v.required text? "aid"
  gen := v.defaulted uint64? 0 "gen"
  error := v.defaulted (nullable WireError.read) none "error"
  opId := v.required uint64? "op_id"
  wsId := v.required text? "ws_id"
  kvId := v.required uint64? "kv_id"
  requestId := v.required uint64? "request_id"
  deadlineMs := v.required uint32? "deadline_ms"
  queueTimeoutMs := v.defaulted (nullable uint64?) none "queue_timeout_ms"

/-- Read one command from its map. -/
def read (v : Value) : Option Command := do
  match CommandKind.ofTag? (← v.required text? "kind") with
  | some kind => readFields v kind
  | none => return .unknown

end Command

/-- `CommandBatch::decode`. -/
def decodeCommandBatch (bytes : Bytes) : Option (List Command) := do
  let v ← MessagePack.decode bytes
  v.required (list? Command.read) "commands"

end RivetGo.Native

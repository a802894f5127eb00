import RivetGo.Data.MessagePack.Record

/-!
# Commands as Go writes them

The Go side of the boundary has one `Command` record for every kind of command.
All its fields are encoded, whatever the kind, and the native side reads those
that belong to the kind. Go strings are byte strings, and a Go byte slice is
nil or a byte string: `none` is the nil slice, `some []` the empty one, and the
two are encoded differently.
-/

namespace RivetGo.Wire

open MessagePack (Value record)

/-- The kinds of command. -/
inductive CommandKind where
  | actorStartResult | actorStopResult | actorRunResult | alarmHandled
  | actionResult | connectionResult | httpResponseStart | httpResponseChunk
  | wsOpenResult | wsMessageAck | wsSend | wsClose | broadcast
  | stopIntent | setAlarm | sleepIntent | destroyIntent
  | scheduleAfter | scheduleAt | scheduleCancel | scheduleGet | scheduleList
  | queueSend | queueEnqueueWait | queueNext | queueComplete | queueRetry | queueCancel
  | managedWorkBegin | managedWorkEnd | saveState
  | kvGet | kvList | kvPut | kvDelete
  | sqliteExec | sqliteQuery | sqliteBegin | sqliteCommit | sqliteRollback
  deriving DecidableEq, Repr

namespace CommandKind

/-- The tag that stands for a kind on the wire. -/
def tag : CommandKind → String
  | .actorStartResult => "actor_start_result"
  | .actorStopResult => "actor_stop_result"
  | .actorRunResult => "actor_run_result"
  | .alarmHandled => "alarm_handled"
  | .actionResult => "action_result"
  | .connectionResult => "connection_result"
  | .httpResponseStart => "http_response_start"
  | .httpResponseChunk => "http_response_chunk"
  | .wsOpenResult => "ws_open_result"
  | .wsMessageAck => "ws_message_ack"
  | .wsSend => "ws_send"
  | .wsClose => "ws_close_cmd"
  | .broadcast => "broadcast"
  | .stopIntent => "stop_intent"
  | .setAlarm => "set_alarm"
  | .sleepIntent => "sleep_intent"
  | .destroyIntent => "destroy_intent"
  | .scheduleAfter => "schedule_after"
  | .scheduleAt => "schedule_at"
  | .scheduleCancel => "schedule_cancel"
  | .scheduleGet => "schedule_get"
  | .scheduleList => "schedule_list"
  | .queueSend => "queue_send"
  | .queueEnqueueWait => "queue_enqueue_wait"
  | .queueNext => "queue_next"
  | .queueComplete => "queue_complete"
  | .queueRetry => "queue_retry"
  | .queueCancel => "queue_cancel"
  | .managedWorkBegin => "managed_work_begin"
  | .managedWorkEnd => "managed_work_end"
  | .saveState => "save_state"
  | .kvGet => "kv_get"
  | .kvList => "kv_list"
  | .kvPut => "kv_put"
  | .kvDelete => "kv_delete"
  | .sqliteExec => "sqlite_exec"
  | .sqliteQuery => "sqlite_query"
  | .sqliteBegin => "sqlite_begin"
  | .sqliteCommit => "sqlite_commit"
  | .sqliteRollback => "sqlite_rollback"

/-- Every kind, in the order of the source. -/
def all : List CommandKind :=
  [.actorStartResult, .actorStopResult, .actorRunResult, .alarmHandled, .actionResult,
    .connectionResult, .httpResponseStart, .httpResponseChunk, .wsOpenResult, .wsMessageAck,
    .wsSend, .wsClose, .broadcast, .stopIntent, .setAlarm, .sleepIntent, .destroyIntent,
    .scheduleAfter, .scheduleAt, .scheduleCancel, .scheduleGet, .scheduleList, .queueSend,
    .queueEnqueueWait, .queueNext, .queueComplete, .queueRetry, .queueCancel, .managedWorkBegin,
    .managedWorkEnd, .saveState, .kvGet, .kvList, .kvPut, .kvDelete, .sqliteExec, .sqliteQuery,
    .sqliteBegin, .sqliteCommit, .sqliteRollback]

/-- The kind a tag stands for. -/
def ofTag? (t : String) : Option CommandKind := all.find? (·.tag == t)

@[simp] theorem ofTag?_tag (k : CommandKind) : ofTag? k.tag = some k := by
  cases k <;> decide +kernel

end CommandKind

/-- A structured error. The two SQLite fields are left out when absent. -/
structure WireError where
  code : Bytes
  message : Bytes
  sqliteCode : Option Int32 := none
  statementIndex : Option UInt32 := none
  deriving DecidableEq, Repr

/-- One SQLite value. The kind says which of the other fields carries it. -/
structure SQLiteValue where
  kind : String
  integer : Option Int64 := none
  bits : Option UInt64 := none
  text : Option Bytes := none
  blob : Option (Option Bytes) := none
  deriving DecidableEq, Repr

/-- The command record. Its default is the Go zero value but for the kind. -/
structure Command where
  kind : CommandKind
  aid : Bytes := []
  generation : UInt64 := 0
  ok : Bool := false
  run : Bool := false
  error : Option WireError := none
  state : Option Bytes := none
  kvId : UInt64 := 0
  key : Option Bytes := none
  keyPrefix : Option Bytes := none
  reverse : Bool := false
  limit : Option UInt32 := none
  value : Option Bytes := none
  callId : UInt64 := 0
  output : Option Bytes := none
  connectionState : Option (Option Bytes) := none
  requestId : UInt64 := 0
  status : UInt16 := 0
  headers : Option (List (Bytes × Bytes)) := none
  body : Option Bytes := none
  stream : Bool := false
  finish : Bool := false
  wsId : Bytes := []
  accept : Bool := false
  data : Option Bytes := none
  binary : Bool := false
  messageIndex : UInt16 := 0
  closeCode : Option UInt16 := none
  closeReason : Option Bytes := none
  hibernate : Bool := false
  event : Bytes := []
  payload : Option Bytes := none
  excludeConn : Option Bytes := none
  alarmTS : Option Int64 := none
  operationId : UInt64 := 0
  action : Bytes := []
  name : Bytes := []
  scheduleArgs : Option Bytes := none
  scheduleId : Bytes := []
  delayMS : UInt64 := 0
  runAt : Int64 := 0
  sqliteRequestId : UInt64 := 0
  sql : Bytes := []
  sqlArgs : Option (List SQLiteValue) := none
  leaseKey : Option Bytes := none
  deadlineMS : UInt32 := 0
  timeoutMS : UInt64 := 0
  queueTimeoutMS : Option UInt64 := none
  names : Option (List Bytes) := none
  completable : Bool := false
  messageId : UInt64 := 0
  response : Option (Option Bytes) := none
  targetOperation : UInt64 := 0
  workId : UInt64 := 0
  workKind : Bytes := []

/-! ### Encoding -/

/-- A pointer: nil, or what it points to. -/
def pointer {α : Type} (write : α → Value) : Option α → Value
  | none => .nil
  | some x => write x

/-- A byte slice: nil, or a byte array. -/
def slice : Option Bytes → Value := pointer .bin

/-- A field that is left out when its pointer is nil. -/
def omitEmpty {α : Type} (name : String) (write : α → Value) : Option α → List (String × Value)
  | none => []
  | some x => [(name, write x)]

def WireError.toValue (e : WireError) : Value :=
  record (("code", .str e.code) :: ("message", .str e.message) ::
    (omitEmpty "sqlite_code" (fun n => .int n.toInt) e.sqliteCode ++
      omitEmpty "statement_index" (fun n => .int n.toNat) e.statementIndex))

def SQLiteValue.toValue (v : SQLiteValue) : Value :=
  record (("kind", .str (Utf8.encode v.kind)) ::
    (omitEmpty "integer" (fun n => .int n.toInt) v.integer ++
      omitEmpty "bits" (fun n => .int n.toNat) v.bits ++
      omitEmpty "text" .str v.text ++
      omitEmpty "blob" slice v.blob))

/-- The fields of a command in the order in which they are encoded. -/
def Command.fields (c : Command) : List (String × Value) :=
  [("kind", .str (Utf8.encode c.kind.tag)),
    ("aid", .str c.aid),
    ("gen", .int c.generation.toNat),
    ("ok", .bool c.ok),
    ("run", .bool c.run),
    ("error", pointer WireError.toValue c.error),
    ("state", slice c.state),
    ("kv_id", .int c.kvId.toNat),
    ("key", slice c.key),
    ("prefix", slice c.keyPrefix),
    ("reverse", .bool c.reverse),
    ("limit", pointer (fun n => .int n.toNat) c.limit),
    ("value", slice c.value),
    ("call_id", .int c.callId.toNat),
    ("output", slice c.output),
    ("connection_state", pointer slice c.connectionState),
    ("req_id", .int c.requestId.toNat),
    ("status", .int c.status.toNat),
    ("headers", pointer (fun hs => .map (hs.map fun h => (.str h.1, .str h.2))) c.headers),
    ("body", slice c.body),
    ("stream", .bool c.stream),
    ("finish", .bool c.finish),
    ("ws_id", .str c.wsId),
    ("accept", .bool c.accept),
    ("data", slice c.data),
    ("binary", .bool c.binary),
    ("msg_index", .int c.messageIndex.toNat),
    ("code", pointer (fun n => .int n.toNat) c.closeCode),
    ("reason", pointer .str c.closeReason),
    ("hibernate", .bool c.hibernate),
    ("event", .str c.event),
    ("payload", slice c.payload),
    ("exclude_conn", pointer .str c.excludeConn),
    ("alarm_ts", pointer (fun n => .int n.toInt) c.alarmTS),
    ("op_id", .int c.operationId.toNat),
    ("action", .str c.action),
    ("name", .str c.name),
    ("schedule_args", slice c.scheduleArgs),
    ("schedule_id", .str c.scheduleId),
    ("delay_ms", .int c.delayMS.toNat),
    ("run_at", .int c.runAt.toInt),
    ("request_id", .int c.sqliteRequestId.toNat),
    ("sql", .str c.sql),
    ("args", pointer (fun vs => .array (vs.map SQLiteValue.toValue)) c.sqlArgs),
    ("lease_key", pointer .str c.leaseKey),
    ("deadline_ms", .int c.deadlineMS.toNat),
    ("timeout_ms", .int c.timeoutMS.toNat),
    ("queue_timeout_ms", pointer (fun n => .int n.toNat) c.queueTimeoutMS),
    ("names", pointer (fun ns => .array (ns.map .str)) c.names),
    ("completable", .bool c.completable),
    ("message_id", .int c.messageId.toNat),
    ("response", pointer slice c.response),
    ("target_op_id", .int c.targetOperation.toNat),
    ("work_id", .int c.workId.toNat),
    ("work_kind", .str c.workKind)]

def Command.toValue (c : Command) : Value := record c.fields

theorem Command.fieldName_length (c : Command) :
    ∀ f ∈ c.fields, (Utf8.encode f.1).length < 2 ^ 32 := by
  simp only [Command.fields, List.forall_mem_cons, List.not_mem_nil, false_implies,
    implies_true, and_true]
  decide

/-- A command can be encoded when each of its fields can. -/
theorem Command.toValue_fits {c : Command} (h : ∀ f ∈ c.fields, f.2.Fits) : c.toValue.Fits :=
  Value.record_fits (by simp [Command.fields]) c.fieldName_length h

theorem pointer_fits {α : Type} {write : α → Value} {x : Option α} :
    (pointer write x).Fits ↔ ∀ y ∈ x, (write y).Fits := by
  cases x <;> simp [pointer]

theorem slice_fits {b : Option Bytes} : (slice b).Fits ↔ ∀ x ∈ b, x.length < 2 ^ 32 :=
  pointer_fits

/-- The texts of a command. -/
def Command.texts (c : Command) : List Bytes :=
  [c.aid, c.wsId, c.event, c.action, c.name, c.scheduleId, c.sql, c.workKind] ++
    c.closeReason.toList ++ c.excludeConn.toList ++ c.leaseKey.toList

/-- The byte slices of a command. -/
def Command.slices (c : Command) : List (Option Bytes) :=
  [c.state, c.key, c.keyPrefix, c.value, c.output, c.connectionState.join, c.body, c.data,
    c.payload, c.scheduleArgs, c.response.join]

/-- A command without structured fields can be encoded when its texts and byte
slices are not too long. -/
theorem Command.toValue_fits_of_small {c : Command}
    (herror : c.error = none) (hheaders : c.headers = none) (hargs : c.sqlArgs = none)
    (hnames : c.names = none) (htexts : ∀ t ∈ c.texts, t.length < 2 ^ 32)
    (hslices : ∀ s ∈ c.slices, ∀ b ∈ s, b.length < 2 ^ 32) : c.toValue.Fits := by
  have htag : (Utf8.encode c.kind.tag).length < 2 ^ 32 := by
    cases c.kind <;> decide
  simp only [Command.texts, List.forall_mem_append, List.forall_mem_cons, Option.mem_toList,
    List.not_mem_nil, false_implies, implies_true, and_true] at htexts
  simp only [Command.slices, List.forall_mem_cons, Option.mem_def, Option.join_eq_some_iff,
    List.not_mem_nil, false_implies, implies_true, and_true] at hslices
  apply Command.toValue_fits
  simp only [Command.fields, List.forall_mem_cons, pointer_fits, slice_fits, Value.str_fits,
    Value.bool_fits, Value.uint64_fits, Value.uint32_fits, Value.uint16_fits, Value.int64_fits,
    herror, hheaders, hargs, hnames, Option.mem_def, reduceCtorEq, List.not_mem_nil,
    false_implies, implies_true, and_true, true_and]
  grind

/-- The batch envelope. -/
def batchValue (commands : List Command) : Value :=
  record [("commands", .array (commands.map Command.toValue))]

theorem batchValue_fits {commands : List Command} (hlength : commands.length < 2 ^ 32)
    (h : ∀ c ∈ commands, c.toValue.Fits) : (batchValue commands).Fits := by
  refine Value.record_fits (by simp) (by simp only [List.forall_mem_singleton]; decide) ?_
  rw [List.forall_mem_singleton, Value.array_fits, List.length_map, List.forall_mem_map]
  exact ⟨hlength, h⟩

/-- The bytes that `rk_runner_submit` is given. -/
def encodeCommandBatch (commands : List Command) : Bytes := (batchValue commands).encode

end RivetGo.Wire

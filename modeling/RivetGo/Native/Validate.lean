import RivetGo.Data.Check
import RivetGo.Native.Command

/-!
# Validation of decoded commands

`validateCommand` is the body of the loop of `CommandBatch::validate`: what each
kind of command has to satisfy before native executes it. A batch is validated
as a whole, so that one command that fails rejects the commands next to it.

CBOR is read and written by a library. The two operations that validation uses
are the fields of `Ciborium`, and everything below holds whatever they do.
-/

namespace RivetGo.Native

open Check (require)

/-- A CBOR data item. -/
inductive CborValue where
  | integer (n : Int)
  | bytes (b : Bytes)
  | float (bits : UInt64)
  | text (s : String)
  | bool (b : Bool)
  | null
  | tag (n : UInt64) (v : CborValue)
  | array (vs : List CborValue)
  | map (kvs : List (CborValue × CborValue))

/-- An argument list is a CBOR array. -/
def CborValue.isArray : CborValue → Bool
  | .array _ => true
  | _ => false

/-- The CBOR library: reading one data item from the front of some bytes, and
writing one. Both report an error as text. -/
structure Ciborium where
  fromReader : Bytes → Except String CborValue
  intoWriter : CborValue → Except String Bytes

/-- The largest body, name or value that crosses the boundary in one piece. -/
def maxBodyChunk : Nat := 2 ^ 20

def maxKvListEntries : UInt32 := 1024

def maxHttpHeaders : Nat := 256

/-- The frame that carries a broadcast event to an actor connection. -/
def actorConnectEventFrame (name : String) (args : CborValue) : CborValue :=
  .map [(.text "body", .map [(.text "tag", .text "Event"),
    (.text "val", .map [(.text "name", .text name), (.text "args", args)])])]

/-- `encode_actor_connect_event_frame`. -/
def encodeActorConnectEventFrame (cbor : Ciborium) (name : String) (args : Bytes) :
    Except String Bytes := do
  let args ← (cbor.fromReader args).mapError ("broadcast payload must be CBOR: " ++ ·)
  require (args.isArray = true) "broadcast payload must be a CBOR argument array"
  let frame ← (cbor.intoWriter (actorConnectEventFrame name args)).mapError
    ("encode broadcast event frame: " ++ ·)
  require (frame.length ≤ maxBodyChunk)
    s!"broadcast event frame exceeds boundary maximum {maxBodyChunk} bytes"
  return frame

/-! ### Checks shared by several kinds -/

def requireAid (aid : String) : Check :=
  require (aid ≠ "") "actor command aid must not be empty"

def requireWsId (wsId : String) : Check :=
  require (wsId ≠ "") "WebSocket command ws_id must not be empty"

def requireCorrelation (kind : String) (id : UInt64) : Check :=
  require (id ≠ 0) (kind ++ " correlation ID must be greater than zero")

def requireWireError (error : Option WireError) : Check :=
  require (∀ e ∈ error, e.code ≠ "" ∧ e.message ≠ "")
    "structured errors require non-empty code and message"

def requireConnectionState (state : Option Bytes) : Check :=
  require (∀ b ∈ state, b.length ≤ maxBodyChunk)
    s!"connection state exceeds boundary maximum {maxBodyChunk} bytes"

def requireQueueOperation (opId : UInt64) (aid : String) : Check := do
  requireAid aid
  requireCorrelation "queue" opId

def requireQueueName (name : String) : Check :=
  require (Utf8.blank name = false ∧ name.utf8ByteSize ≤ maxBodyChunk)
    "queue name must be non-empty and at most one MiB"

def requireSqliteRequest (requestId : UInt64) (aid : String) (deadlineMs : UInt32) :
    Check := do
  requireAid aid
  requireCorrelation "sqlite" requestId
  require (deadlineMs ≠ 0) "sqlite request deadline_ms must be greater than zero"

def requireScheduleOperation (opId : UInt64) (aid : String) : Check := do
  requireAid aid
  requireCorrelation "schedule" opId

/-- The size check that text and blob arguments have to pass. -/
def requireSqliteValue : SqliteValue → Check
  | .text s => require (s.utf8ByteSize ≤ maxBodyChunk)
      s!"sqlite text value exceeds boundary maximum {maxBodyChunk} bytes"
  | .blob b => require (b.length ≤ maxBodyChunk)
      s!"sqlite blob value exceeds boundary maximum {maxBodyChunk} bytes"
  | _ => .ok ()

def requireSql (sql : String) (args : List SqliteValue) : Check := do
  require (Utf8.blank sql = false) "sqlite SQL must not be empty"
  require (sql.utf8ByteSize ≤ maxBodyChunk)
    s!"sqlite SQL exceeds boundary maximum {maxBodyChunk} bytes"
  require (args.length ≤ 1024) "sqlite args exceed boundary maximum 1024"
  args.forM requireSqliteValue

def requireLease (leaseKey : String) : Check := do
  require (leaseKey ≠ "") "sqlite lease_key must not be empty"
  require (leaseKey.utf8ByteSize ≤ 256) "sqlite lease_key exceeds boundary maximum 256 bytes"

def requireOptionalLease : Option String → Check
  | none => .ok ()
  | some leaseKey => requireLease leaseKey

def requireWsData (kind : String) (data : Bytes) (binary : Bool) (maximum : Nat) :
    Check := do
  require (data.length ≤ maximum) s!"{kind} data exceeds boundary maximum {maximum} bytes"
  require (binary = true ∨ Utf8.Valid data) (kind ++ " text data must be valid UTF-8")

def validCloseCode (code : UInt16) : Bool :=
  (1000 ≤ code && code ≤ 1003) || (1007 ≤ code && code ≤ 1014) || (3000 ≤ code && code ≤ 4999)

def requireKv (kvId : UInt64) (aid : String) : Check := do
  requireAid aid
  require (kvId ≠ 0) "KV command kv_id must be greater than zero"

/-- The checks on a request to schedule an action. -/
def requireScheduledAction (cbor : Ciborium) (opId : UInt64) (aid action : String)
    (scheduleArgs : Bytes) : Check := do
  requireScheduleOperation opId aid
  require (Utf8.blank action = false) "scheduled action must not be empty"
  require (action ≠ "__rivet_go_alarm") "scheduled action name is reserved"
  require (action.utf8ByteSize ≤ maxBodyChunk ∧ scheduleArgs.length ≤ maxBodyChunk)
    s!"scheduled action and args must not exceed {maxBodyChunk} bytes"
  let args ← (cbor.fromReader scheduleArgs).mapError ("scheduled args must be CBOR: " ++ ·)
  require (args.isArray = true) "scheduled args must be a CBOR argument array"

/-- The checks on a reference to a schedule. -/
def requireScheduleId (opId : UInt64) (aid scheduleId : String) : Check := do
  requireScheduleOperation opId aid
  require (scheduleId ≠ "" ∧ scheduleId.utf8ByteSize ≤ maxBodyChunk)
    "schedule_id must be non-empty and at most one MiB"

/-- The checks on a message to be queued. -/
def requireQueueBody (opId : UInt64) (aid name : String) (body : Bytes) : Check := do
  requireQueueOperation opId aid
  requireQueueName name
  require (body.length ≤ maxBodyChunk) s!"queue body exceeds boundary maximum {maxBodyChunk} bytes"

/-- The checks on a change to the actor's own lifecycle. -/
def requireActorIntent (opId : UInt64) (aid : String) : Check := do
  requireAid aid
  require (opId ≠ 0) "actor intent op_id must not be zero"

/-- The checks on a statement. -/
def requireSqliteStatement (requestId : UInt64) (aid sql : String) (args : List SqliteValue)
    (leaseKey : Option String) (deadlineMs : UInt32) : Check := do
  requireSqliteRequest requestId aid deadlineMs
  requireSql sql args
  requireOptionalLease leaseKey

/-! ### One command, and a batch -/

/-- What validation asks of one command. -/
def validateCommand (cbor : Ciborium) : Command → Check
  | .actorStartResult aid _ ok run error => do
      requireAid aid
      require (ok ≠ error.isSome)
        "actor_start_result must contain exactly one of ok=true or error"
      require (ok = true ∨ run = false) "actor_start_result cannot start Run after startup failure"
      requireWireError error
  | .actorStopResult aid _ error => do
      requireAid aid
      requireWireError error
  | .actorRunResult aid _ error => do
      requireAid aid
      requireWireError error
  | .alarmHandled aid _ error => do
      requireAid aid
      requireWireError error
  | .saveState aid _ _ => requireAid aid
  | .actionResult callId output connectionState error => do
      requireCorrelation "action_result" callId
      require (output.isSome ≠ error.isSome)
        "action_result must contain exactly one of output or error"
      require (error = none ∨ connectionState = none)
        "action_result error must not contain connection state"
      requireWireError error
      require (∀ b ∈ output, b.length ≤ maxBodyChunk)
        s!"action_result output exceeds boundary maximum {maxBodyChunk} bytes"
      requireConnectionState connectionState
  | .connectionResult opId connectionState error => do
      requireCorrelation "connection_result" opId
      require (connectionState.isSome ≠ error.isSome)
        "connection_result must contain exactly one of state or error"
      requireConnectionState connectionState
      requireWireError error
  | .httpResponseStart reqId status headers body _ error => do
      requireCorrelation "http_response_start" reqId
      requireWireError error
      require (error.isSome = true ∨ 100 ≤ status ∧ status ≤ 999)
        "http_response_start status must be between 100 and 999"
      require (headers.length ≤ maxHttpHeaders)
        s!"http_response_start headers exceed boundary maximum {maxHttpHeaders}"
      require (∀ h ∈ headers, h.1.utf8ByteSize ≤ maxBodyChunk ∧ h.2.utf8ByteSize ≤ maxBodyChunk)
        s!"http_response_start header exceeds boundary maximum {maxBodyChunk} bytes"
      require (body.length ≤ maxBodyChunk)
        s!"http_response_start body exceeds boundary maximum {maxBodyChunk} bytes"
  | .httpResponseChunk reqId body finish => do
      requireCorrelation "http_response_chunk" reqId
      require (body.length ≤ maxBodyChunk)
        s!"http_response_chunk body exceeds boundary maximum {maxBodyChunk} bytes"
      require (body ≠ [] ∨ finish = true)
        "http_response_chunk must contain body bytes or finish=true"
  | .wsOpenResult wsId accept error => do
      requireWsId wsId
      require (accept ≠ error.isSome)
        "ws_open_result must contain exactly one of accept=true or error"
      requireWireError error
  | .wsMessageAck wsId _ => requireWsId wsId
  | .wsSend wsId data binary => do
      requireWsId wsId
      requireWsData "ws_send" data binary maxBodyChunk
  | .wsCloseCmd wsId code reason _ => do
      requireWsId wsId
      require (code.all validCloseCode = true) "ws_close_cmd contains an invalid close code"
      require (∀ r ∈ reason, r.utf8ByteSize ≤ 123)
        "ws_close_cmd reason exceeds the WebSocket 123-byte limit"
  | .broadcast aid _ event payload excludeConn => do
      requireAid aid
      require (Utf8.blank event = false) "broadcast event must not be empty"
      require (payload.length ≤ maxBodyChunk)
        s!"broadcast payload exceeds boundary maximum {maxBodyChunk} bytes"
      discard <| encodeActorConnectEventFrame cbor event payload
      require (∀ c ∈ excludeConn, c ≠ "") "broadcast exclude_conn must not be empty"
  | .stopIntent aid => requireAid aid
  | .setAlarm opId aid _ _ => requireActorIntent opId aid
  | .sleepIntent opId aid _ => requireActorIntent opId aid
  | .destroyIntent opId aid _ => requireActorIntent opId aid
  | .scheduleAfter opId aid _ _ action args => requireScheduledAction cbor opId aid action args
  | .scheduleAt opId aid _ _ action args => requireScheduledAction cbor opId aid action args
  | .scheduleCancel opId aid _ scheduleId => requireScheduleId opId aid scheduleId
  | .scheduleGet opId aid _ scheduleId => requireScheduleId opId aid scheduleId
  | .scheduleList opId aid _ => requireScheduleOperation opId aid
  | .queueSend opId aid _ name body => requireQueueBody opId aid name body
  | .queueEnqueueWait opId aid _ name body _ => requireQueueBody opId aid name body
  | .queueNext opId aid _ names _ _ => do
      requireQueueOperation opId aid
      require (names.length ≤ 1024) "queue next names exceed boundary maximum 1024"
      names.forM requireQueueName
  | .queueComplete opId aid _ messageId response => do
      requireQueueOperation opId aid
      require (messageId ≠ 0) "queue complete message_id must not be zero"
      require (∀ b ∈ response, b.length ≤ maxBodyChunk)
        s!"queue response exceeds boundary maximum {maxBodyChunk} bytes"
  | .queueRetry opId aid _ messageId => do
      requireQueueOperation opId aid
      require (messageId ≠ 0) "queue retry message_id must not be zero"
  | .queueCancel aid _ targetOpId => do
      requireAid aid
      requireCorrelation "queue cancel" targetOpId
  | .managedWorkBegin opId aid _ workId workKind => do
      requireCorrelation "managed work" opId
      requireAid aid
      require (workId ≠ 0) "managed work ID must not be zero"
      require (workKind = "wait_until" ∨ workKind = "keep_awake") "managed work kind is invalid"
  | .managedWorkEnd aid _ workId => do
      requireAid aid
      require (workId ≠ 0) "managed work ID must not be zero"
  | .kvGet kvId aid _ _ => requireKv kvId aid
  | .kvPut kvId aid _ _ _ => requireKv kvId aid
  | .kvDelete kvId aid _ _ => requireKv kvId aid
  | .kvList kvId aid _ _ _ limit => do
      requireKv kvId aid
      require (limit.all (· ≤ maxKvListEntries) = true)
        s!"kv_list limit exceeds boundary maximum {maxKvListEntries}"
  | .sqliteExec requestId aid _ sql args leaseKey deadlineMs =>
    requireSqliteStatement requestId aid sql args leaseKey deadlineMs
  | .sqliteQuery requestId aid _ sql args leaseKey deadlineMs =>
    requireSqliteStatement requestId aid sql args leaseKey deadlineMs
  | .sqliteBegin requestId aid _ leaseKey timeoutMs deadlineMs => do
      requireSqliteRequest requestId aid deadlineMs
      requireLease leaseKey
      require (timeoutMs ≠ 0) "sqlite_begin timeout_ms must be greater than zero"
  | .sqliteCommit requestId aid _ leaseKey deadlineMs => do
      requireSqliteRequest requestId aid deadlineMs
      requireLease leaseKey
  | .sqliteRollback requestId aid _ leaseKey deadlineMs => do
      requireSqliteRequest requestId aid deadlineMs
      requireLease leaseKey
  | .unknown => .error "unknown command"

/-- The results of a stop, a run and an alarm are checked alike. -/
theorem validateCommand_handled {cbor : Ciborium} {aid : String} {generation : UInt64}
    {error : Option WireError} {build : String → UInt64 → Option WireError → Command}
    (hbuild : build ∈ [Command.actorStopResult, .actorRunResult, .alarmHandled]) :
    validateCommand cbor (build aid generation error) = .ok () ↔
      aid ≠ "" ∧ requireWireError error = .ok () := by
  simp only [List.mem_cons, List.not_mem_nil, or_false] at hbuild
  obtain rfl | rfl | rfl := hbuild <;> simp [validateCommand, requireAid]

/-- `CommandBatch::validate`. -/
def validate (cbor : Ciborium) (commands : List Command) : Check :=
  commands.forM (validateCommand cbor)

end RivetGo.Native

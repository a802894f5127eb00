import RivetGo.Data.Chunk
import RivetGo.Native.Event
import RivetGo.Native.Validate

/-!
# What the actor proxy sends

The places of the actor proxy that turn a request of a client, or the result of
an operation of core, into events. A request that the proxy refuses is answered
with an error and sends nothing. The results of core are arguments here:
whatever core returns may be sent.
-/

namespace RivetGo.Native

/-- A correlation number: the table never hands out zero. -/
abbrev CorrelationId := { id : UInt64 // id ≠ 0 }

theorem firstId_ne_zero : (1 : UInt64) ≠ 0 := by decide

/-- A generation of an actor whose start event Go accepted: its ID is not empty
and within the limit of the scanner. -/
structure ActorIdentity where
  aid : String
  generation : UInt64
  aid_ne : aid ≠ ""
  aid_le : aid.utf8ByteSize ≤ 2 ^ 20

/-- A request of a client. -/
structure Request where
  method : String
  path : String
  headers : StringMap
  body : Bytes

/-- What the proxy reads of a connection of core. -/
structure ConnHandle where
  id : String
  params : Bytes
  state : Bytes
  isHibernatable : Bool

def WireError.new (code message : String) : WireError := { code := code, message := message }

/-! ### Connections -/

/-- The path without its query is `/connect`. -/
def isActorConnectRequest (request : Option Request) : Bool :=
  request.any fun r => r.path.toList.takeWhile (· ≠ '?') = "/connect".toList

inductive ConnectionEventKind where
  | preflight | opened | closed
  deriving DecidableEq

def noHeaders : StringMap := ⟨[], List.nodup_nil⟩

/-- The event of `request_connection`. `known` says whether the connection is in
the table of ActorConnect connections. -/
def requestConnection (identity : ActorIdentity) (conn : ConnHandle) (request : Option Request)
    (known : Bool) (opId : CorrelationId) (kind : ConnectionEventKind) : Event :=
  let connection : Connection :=
    { id := conn.id, parameters := conn.params, state := conn.state,
      path := request.elim "" Request.path, headers := request.elim noHeaders Request.headers,
      canHibernate := conn.isHibernatable, resumed := false,
      actorConnect := isActorConnectRequest request || known }
  match kind with
  | .preflight => .connectionPreflight identity.aid identity.generation opId connection
  | .opened => .connectionOpen identity.aid identity.generation opId connection
  | .closed => .connectionClose identity.aid identity.generation opId connection

/-- A connection that core reports, as the loop of the actor takes it. -/
inductive ConnectionReport where
  | preflight (conn : ConnHandle) (request : Option Request)
  | opened (conn : ConnHandle) (request : Option Request)
  | closed (conn : ConnHandle)

/-- Only ActorConnect connections reach Go. A connection that closes comes
without its request. -/
def ConnectionReport.events (identity : ActorIdentity) (known : Bool) (opId : CorrelationId) :
    ConnectionReport → List Event
  | .preflight conn request =>
    if isActorConnectRequest request then
      [requestConnection identity conn request known opId .preflight]
    else []
  | .opened conn request =>
    if isActorConnectRequest request then
      [requestConnection identity conn request known opId .opened]
    else []
  | .closed conn =>
    if known then [requestConnection identity conn none known opId .closed] else []

/-! ### Requests -/

/-- The two checks on headers, with the error of each. -/
def checkHeaders (tooMany tooLarge : WireError) (headers : StringMap) : Except WireError Unit :=
  if headers.entries.length > maxHttpHeaders then .error tooMany
  else if headers.entries.any fun h =>
      h.1.utf8ByteSize > maxBodyChunk || h.2.utf8ByteSize > maxBodyChunk then
    .error tooLarge
  else .ok ()

/-- The events of a body that did not fit into its request. -/
def httpRequestChunks (reqId : CorrelationId) (remaining : Bytes) : List Event :=
  let count := (remaining.length + maxBodyChunk - 1) / maxBodyChunk
  (Chunk.chunks maxBodyChunk remaining).zipIdx.map fun chunk =>
    .httpRequestChunk reqId chunk.1 (chunk.2 + 1 == count)

/-- The events of `request_http`. -/
def requestHttp (identity : ActorIdentity) (reqId : CorrelationId) (request : Request) :
    Except WireError (List Event) := do
  checkHeaders
    (.new "http_request_headers_too_large" s!"HTTP request has more than {maxHttpHeaders} headers")
    (.new "http_request_header_too_large"
      s!"HTTP request header exceeds the {maxBodyChunk}-byte boundary maximum")
    request.headers
  let firstLen := min request.body.length maxBodyChunk
  let stream := decide (firstLen < request.body.length)
  return .httpRequest identity.aid identity.generation reqId request.method request.path
      request.headers (request.body.take firstLen) stream ::
    httpRequestChunks reqId (request.body.drop firstLen)

/-- The event of `request_ws_open`. `restoring` says whether the connection was
hibernated with this actor. -/
def requestWsOpen (identity : ActorIdentity) (conn : ConnHandle) (request : Option Request)
    (restoring : Bool) : Except WireError Event := do
  let path := request.elim "/" Request.path
  let headers := request.elim noHeaders Request.headers
  checkHeaders
    (.new "ws_open_headers_too_large" s!"WebSocket open has more than {maxHttpHeaders} headers")
    (.new "ws_open_header_too_large"
      s!"WebSocket header exceeds the {maxBodyChunk}-byte boundary maximum")
    headers
  return .wsOpen identity.aid identity.generation conn.id path headers conn.isHibernatable restoring

def actionResultTimeoutMs : UInt32 := 60000

/-- The event of `request_action`. The connection is named only if it is in the
table of ActorConnect connections. -/
def requestAction (identity : ActorIdentity) (callId : CorrelationId) (action : String)
    (args : Bytes) (connId : Option String) (known : String → Bool) : Except WireError Event :=
  if args.length > maxBodyChunk then
    .error (.new "action_args_too_large"
      s!"action arguments exceed the {maxBodyChunk}-byte boundary maximum")
  else
    .ok (.actionCall identity.aid identity.generation callId action actionResultTimeoutMs args
      (connId.filter known))

/-- The event of `websocket_closed` for a WebSocket in the table. -/
def websocketClosed (wsId : String) (code : Option UInt16) (reason : Option String) : Event :=
  .wsClose wsId code reason

/-! ### Results of the queue -/

/-- A queue or schedule operation with its generation. -/
structure Operation where
  opId : CorrelationId
  aid : String
  generation : UInt64

/-- Whether the generation is active and takes operations. -/
inductive Admission where
  | stale | stopping | admitted
  deriving DecidableEq

/-- The error of an operation that is not admitted. -/
def Operation.refusal (op : Operation) : Admission → Option WireError
  | .stale => some (.new "actor_generation_stale"
      s!"actor {op.aid} generation {op.generation} is not active")
  | .stopping => some (.new "actor_stopping"
      s!"actor {op.aid} generation {op.generation} is stopping")
  | .admitted => none

/-- The code and the message of an error of core. -/
structure CoreError where
  code : String
  message : String

def CoreError.toWireError (e : CoreError) : WireError := .new e.code e.message

def emitQueueResult (op : Operation) (operation : String) (message : Option QueueMessage)
    (response : Option Bytes) : Event :=
  .actorQueueResult op.opId operation message response none

def emitQueueWireError (op : Operation) (operation : String) (error : WireError) : Event :=
  .actorQueueResult op.opId operation none none (some error)

/-- The result of an operation once it is settled, unless it is not admitted. -/
def settleQueue {α : Type} (op : Operation) (admission : Admission) (operation : String)
    (result : Except WireError α) (settled : α → Event) : Event :=
  match op.refusal admission with
  | some error => emitQueueWireError op operation error
  | none =>
    match result with
    | .ok a => settled a
    | .error error => emitQueueWireError op operation error

def dispatchQueueSend (op : Operation) (admission : Admission)
    (result : Except CoreError QueueMessage) : Event :=
  settleQueue op admission "send" (result.mapError CoreError.toWireError) fun message =>
    emitQueueResult op "send" (some message) none

def dispatchQueueEnqueueWait (op : Operation) (admission : Admission)
    (result : Except CoreError (Option Bytes)) : Event :=
  settleQueue op admission "enqueue_wait" (result.mapError CoreError.toWireError) fun response =>
    emitQueueResult op "enqueue_wait" none response

def dispatchQueueNext (op : Operation) (admission : Admission)
    (result : Except CoreError (Option QueueMessage)) : Event :=
  settleQueue op admission "next" (result.mapError CoreError.toWireError) fun message =>
    emitQueueResult op "next" message none

/-- The error for a message that is not in the table of retained messages. -/
def queueMessageUnavailable (messageId : UInt64) (pending : String) : WireError :=
  .new "queue_message_unavailable" s!"queue message {messageId} is not pending {pending}"

/-- `retained` says whether the message was kept for its completion. -/
def dispatchQueueComplete (op : Operation) (admission : Admission) (messageId : UInt64)
    (retained : Bool) (result : Except CoreError Unit) : Event :=
  settleQueue op admission "complete"
    (if retained then result.mapError CoreError.toWireError
      else .error (queueMessageUnavailable messageId "completion"))
    fun _ => emitQueueResult op "complete" none none

def dispatchQueueRetry (op : Operation) (admission : Admission) (messageId : UInt64)
    (retained : Bool) : Event :=
  settleQueue op admission "retry"
    (if retained then .ok () else .error (queueMessageUnavailable messageId "retry"))
    fun _ => emitQueueResult op "retry" none none

/-! ### Results of schedules -/

def internalAlarmAction : String := "__rivet_go_alarm"

def maxSqliteResultBytes : Nat := 32 * 1024 * 1024

def emitScheduleCreate (op : Operation) (scheduleId : String) : Event :=
  .actorScheduleResult op.opId "create" (some scheduleId) none [] none

def emitScheduleCancel (op : Operation) (cancelled : Bool) : Event :=
  .actorScheduleResult op.opId "cancel" none (some cancelled) [] none

def emitScheduleWireError (op : Operation) (operation : String) (error : WireError) : Event :=
  .actorScheduleResult op.opId operation none none [] (some error)

def ScheduledEvent.size (e : ScheduledEvent) : Nat :=
  e.id.utf8ByteSize + e.action.utf8ByteSize + e.args.length

/-- Too many schedules, a value that is too large, or too many bytes. -/
def schedulesTooLarge (schedules : List ScheduledEvent) : Bool :=
  schedules.length > 1000 ||
    (schedules.any fun e => e.id.utf8ByteSize > maxBodyChunk ||
      e.action.utf8ByteSize > maxBodyChunk || e.args.length > maxBodyChunk) ||
    (schedules.map ScheduledEvent.size).sum > maxSqliteResultBytes

def emitScheduleEvents (op : Operation) (operation : String) (schedules : List ScheduledEvent) :
    Event :=
  if schedulesTooLarge schedules then
    emitScheduleWireError op operation (.new "schedule_result_too_large"
      "schedule result exceeds the boundary response limit")
  else .actorScheduleResult op.opId operation none none schedules none

/-- The same for schedules; an operation that is not admitted has no name. -/
def settleSchedule {α : Type} (op : Operation) (admission : Admission) (operation : String)
    (result : Except CoreError α) (settled : α → Event) : Event :=
  match op.refusal admission with
  | some error => emitScheduleWireError op "operation" error
  | none =>
    match result with
    | .ok a => settled a
    | .error error => emitScheduleWireError op operation error.toWireError

/-- The result of `dispatch_schedule_after`, and of `dispatch_schedule_at`. -/
def dispatchScheduleCreate (op : Operation) (admission : Admission)
    (result : Except CoreError String) : Event :=
  settleSchedule op admission "create" result (emitScheduleCreate op)

def dispatchScheduleCancel (op : Operation) (admission : Admission)
    (result : Except CoreError Bool) : Event :=
  settleSchedule op admission "cancel" result (emitScheduleCancel op)

/-- Schedules that the actor made: not those of its alarm. -/
def visibleSchedules (events : List ScheduledEvent) : List ScheduledEvent :=
  events.filter fun e => e.action ≠ internalAlarmAction

def dispatchScheduleGet (op : Operation) (admission : Admission)
    (result : Except CoreError (Option ScheduledEvent)) : Event :=
  settleSchedule op admission "get" result fun event =>
    emitScheduleEvents op "get" (visibleSchedules event.toList)

def dispatchScheduleList (op : Operation) (admission : Admission)
    (result : Except CoreError (List ScheduledEvent)) : Event :=
  settleSchedule op admission "list" result fun events =>
    emitScheduleEvents op "list" (visibleSchedules events)

end RivetGo.Native

import RivetGo.Wire.Command

/-!
# Commands of an actor session

The methods of `ActorSession` turn their arguments into commands. They copy
every byte slice on the way, and the copy decides whether an empty slice stays
empty or becomes nil: `append([]byte(nil), b...)` makes nil of it, while
`cloneBytesOrEmpty` never does. An identifier that the pump allocates for a
request is never zero.
-/

namespace RivetGo.Session

open Utf8 (encode)
open Wire (Command SQLiteValue)

/-- One generation of one actor, as the start event named it. -/
structure Identity where
  aid : String
  generation : UInt64
  aid_ne : aid ≠ ""

/-- A correlation number, allocated by the pump or chosen by native. -/
abbrev Correlation := { id : UInt64 // id ≠ 0 }

/-! ### Copies of byte slices -/

/-- `append([]byte(nil), data...)`: an empty slice becomes nil. -/
def appendNil : Option Bytes → Option Bytes
  | some (b :: bs) => some (b :: bs)
  | _ => none

/-- `cloneBytes`: nil stays nil. -/
def cloneBytes (data : Option Bytes) : Option Bytes := data

/-- `cloneBytesOrEmpty`: nil becomes the empty slice. -/
def cloneBytesOrEmpty (data : Option Bytes) : Option Bytes :=
  match data with
  | none => some []
  | some _ => cloneBytes data

/-- The bytes of a slice; nil has none. -/
def content (data : Option Bytes) : Bytes := data.getD []

@[simp] theorem content_some (data : Bytes) : content (some data) = data := rfl

@[simp] theorem cloneBytesOrEmpty_eq (data : Option Bytes) :
    cloneBytesOrEmpty data = some (content data) := by
  cases data <;> rfl

theorem appendNil_eq (data : Option Bytes) :
    appendNil data = if content data = [] then none else some (content data) := by
  rcases data with _ | _ | ⟨b, bs⟩ <;> simp [appendNil, content]

/-! ### Durations -/

/-- `durationMilliseconds`: whole milliseconds, rounded up, of a duration in
nanoseconds. -/
def durationMilliseconds (duration : Int64) : UInt64 :=
  if duration ≤ 0 then 0 else UInt64.ofNat ((duration.toInt.toNat + 999999) / 1000000)

theorem durationMilliseconds_ne_zero {duration : Int64} (h : 0 < duration) :
    durationMilliseconds duration ≠ 0 := by
  have hpos : 0 < duration.toInt := by simpa using Int64.lt_iff_toInt_lt.mp h
  have hlt : duration.toInt < 2 ^ 63 := duration.toInt_lt
  have hle : ¬ duration ≤ 0 := by
    rw [Int64.le_iff_toInt_le]
    simpa using hpos
  rw [durationMilliseconds, if_neg hle]
  intro hzero
  have hnat := congrArg UInt64.toNat hzero
  rw [UInt64.toNat_ofNat_of_lt' (by
    show _ < 2 ^ 64
    omega)] at hnat
  change (duration.toInt.toNat + 999999) / 1000000 = 0 at hnat
  omega

/-- `durationMillis64` computes the same. -/
def durationMillis64 : Int64 → UInt64 := durationMilliseconds

def defaultSQLiteTimeout : Int64 := 65000000000

/-- `sqliteDeadlineMillis`: what is left until the deadline, capped to 32 bits.
There is nothing to send once it has passed. -/
def sqliteDeadlineMillis (remaining : Option Int64) : Option UInt32 :=
  let timeout := remaining.getD defaultSQLiteTimeout
  if timeout ≤ 0 then none
  else some (UInt32.ofNat (min ((timeout.toInt.toNat + 999999) / 1000000) (2 ^ 32 - 1)))

theorem sqliteDeadlineMillis_ne_zero {remaining : Option Int64} {deadline : UInt32}
    (h : sqliteDeadlineMillis remaining = some deadline) : deadline ≠ 0 := by
  simp only [sqliteDeadlineMillis] at h
  split at h
  · cases h
  · rename_i hle
    rw [Int64.le_iff_toInt_le] at hle
    have hpos : 0 < (remaining.getD defaultSQLiteTimeout).toInt := by simpa using hle
    cases h
    intro hzero
    have hnat := congrArg UInt32.toNat hzero
    rw [UInt32.toNat_ofNat_of_lt' (by
      show _ < 2 ^ 32
      omega)] at hnat
    change min (((remaining.getD defaultSQLiteTimeout).toInt.toNat + 999999) / 1000000)
      (2 ^ 32 - 1) = 0 at hnat
    omega

/-! ### State and key-value storage -/

def maxHTTPChunk : Nat := 2 ^ 20

def maxWSMessage : Nat := 2 ^ 20

/-- The command of `Save`. -/
def save (actor : Identity) (state : Option Bytes) : Command :=
  { kind := .saveState, aid := encode actor.aid, generation := actor.generation,
    state := appendNil state }

/-- `kv` completes a key-value command. -/
def kv (actor : Identity) (kvId : Correlation) (command : Command) : Command :=
  { command with kvId := kvId, aid := encode actor.aid, generation := actor.generation }

def kvGet (actor : Identity) (kvId : Correlation) (key : Option Bytes) : Command :=
  kv actor kvId { kind := .kvGet, key := appendNil key }

def kvList (actor : Identity) (kvId : Correlation) (keyPrefix : Option Bytes) (reverse : Bool)
    (limit : Option UInt32) : Command :=
  kv actor kvId
    { kind := .kvList, keyPrefix := appendNil keyPrefix, reverse := reverse, limit := limit }

def kvPut (actor : Identity) (kvId : Correlation) (key value : Option Bytes) : Command :=
  kv actor kvId { kind := .kvPut, key := appendNil key, value := appendNil value }

def kvDelete (actor : Identity) (kvId : Correlation) (key : Option Bytes) : Command :=
  kv actor kvId { kind := .kvDelete, key := appendNil key }

/-! ### Queue and schedule -/

/-- `submitActorOperation` completes a command that waits for its result. -/
def actorOperation (actor : Identity) (opId : Correlation) (command : Command) : Command :=
  { command with operationId := opId, aid := encode actor.aid, generation := actor.generation }

def queueSend (actor : Identity) (opId : Correlation) (name : Bytes) (body : Option Bytes) :
    Command :=
  actorOperation actor opId { kind := .queueSend, name := name, body := cloneBytesOrEmpty body }

def queueEnqueueWait (actor : Identity) (opId : Correlation) (name : Bytes)
    (body : Option Bytes) (timeout : Option Int64) : Command :=
  actorOperation actor opId
    { kind := .queueEnqueueWait, name := name, body := cloneBytesOrEmpty body,
      queueTimeoutMS := timeout.map durationMilliseconds }

/-- The name filter is copied by `append([]string(nil), names...)`. -/
def queueNext (actor : Identity) (opId : Correlation) (names : List Bytes)
    (timeout : Option Int64) (completable : Bool) : Command :=
  actorOperation actor opId
    { kind := .queueNext, names := if names = [] then none else some names,
      queueTimeoutMS := timeout.map durationMilliseconds, completable := completable }

def queueComplete (actor : Identity) (opId : Correlation) (messageId : UInt64)
    (response : Option (Option Bytes)) : Command :=
  actorOperation actor opId
    { kind := .queueComplete, messageId := messageId,
      response := response.map cloneBytesOrEmpty }

def scheduleAfter (actor : Identity) (opId : Correlation) (delay : Int64) (action : Bytes)
    (args : Option Bytes) : Command :=
  actorOperation actor opId
    { kind := .scheduleAfter, delayMS := durationMilliseconds delay, action := action,
      scheduleArgs := cloneBytesOrEmpty args }

def scheduleAt (actor : Identity) (opId : Correlation) (runAt : Int64) (action : Bytes)
    (args : Option Bytes) : Command :=
  actorOperation actor opId
    { kind := .scheduleAt, runAt := runAt, action := action,
      scheduleArgs := cloneBytesOrEmpty args }

def cancelSchedule (actor : Identity) (opId : Correlation) (scheduleId : Bytes) : Command :=
  actorOperation actor opId { kind := .scheduleCancel, scheduleId := scheduleId }

def getSchedule (actor : Identity) (opId : Correlation) (scheduleId : Bytes) : Command :=
  actorOperation actor opId { kind := .scheduleGet, scheduleId := scheduleId }

/-! ### WebSocket, broadcast and HTTP -/

def sendWebSocket (wsId : Bytes) (data : Option Bytes) (binary : Bool) : Except String Command :=
  if wsId = [] then .error "WebSocket ID is empty"
  else if maxWSMessage < (content data).length then
    .error s!"WebSocket message is {(content data).length} bytes, maximum is {maxWSMessage}"
  else .ok { kind := .wsSend, wsId := wsId, data := cloneBytesOrEmpty data, binary := binary }

theorem sendWebSocket_eq_ok {wsId : Bytes} {data : Option Bytes} {binary : Bool}
    {command : Command} :
    sendWebSocket wsId data binary = .ok command ↔
      wsId ≠ [] ∧ (content data).length ≤ maxWSMessage ∧
        { kind := .wsSend, wsId := wsId, data := some (content data), binary := binary } =
          command := by
  unfold sendWebSocket
  split_ifs with hempty hsize
  · simp [hempty]
  · simp [hempty, Nat.not_le.mpr hsize]
  · simp [hempty, Nat.not_lt.mp hsize]

def closeWebSocket (wsId : Bytes) (code : UInt16) (reason : Bytes) : Except String Command :=
  if wsId = [] then .error "WebSocket ID is empty"
  else .ok { kind := .wsClose, wsId := wsId, closeCode := some code, closeReason := some reason }

theorem closeWebSocket_eq_ok {wsId reason : Bytes} {code : UInt16} {command : Command} :
    closeWebSocket wsId code reason = .ok command ↔
      wsId ≠ [] ∧
        { kind := .wsClose, wsId := wsId, closeCode := some code, closeReason := some reason } =
          command := by
  unfold closeWebSocket
  split_ifs with hempty <;> simp [hempty]

def broadcast (actor : Identity) (event : Bytes) (payload : Option Bytes)
    (excludeConn : Option Bytes) : Except String Command :=
  if event = [] then .error "broadcast event is empty"
  else if maxWSMessage < (content payload).length then
    .error s!"broadcast payload is {(content payload).length} bytes, maximum is {maxWSMessage}"
  else .ok
    { kind := .broadcast, aid := encode actor.aid, generation := actor.generation, event := event,
      payload := cloneBytesOrEmpty payload, excludeConn := excludeConn }

theorem broadcast_eq_ok {actor : Identity} {event : Bytes} {payload excludeConn : Option Bytes}
    {command : Command} :
    broadcast actor event payload excludeConn = .ok command ↔
      event ≠ [] ∧ (content payload).length ≤ maxWSMessage ∧
        { kind := .broadcast, aid := encode actor.aid, generation := actor.generation,
          event := event, payload := some (content payload), excludeConn := excludeConn } =
          command := by
  unfold broadcast
  split_ifs with hempty hsize
  · simp [hempty]
  · simp [hempty, Nat.not_le.mpr hsize]
  · simp [hempty, Nat.not_lt.mp hsize]

def writeHTTPResponseChunk (reqId : UInt64) (body : Option Bytes) (finish : Bool) :
    Except String Command :=
  if maxHTTPChunk < (content body).length then
    .error s!"HTTP response chunk is {(content body).length} bytes, maximum is {maxHTTPChunk}"
  else .ok
    { kind := .httpResponseChunk, requestId := reqId, body := cloneBytesOrEmpty body,
      finish := finish }

theorem writeHTTPResponseChunk_eq_ok {reqId : UInt64} {body : Option Bytes} {finish : Bool}
    {command : Command} :
    writeHTTPResponseChunk reqId body finish = .ok command ↔
      (content body).length ≤ maxHTTPChunk ∧
        { kind := .httpResponseChunk, requestId := reqId, body := some (content body),
          finish := finish } = command := by
  unfold writeHTTPResponseChunk
  split_ifs with hsize
  · simp [Nat.not_le.mpr hsize]
  · simp [Nat.not_lt.mp hsize]

/-! ### SQLite -/

/-- `sqlite` completes a SQLite command. It is not built once the deadline of
the caller has passed. -/
def sqlite (actor : Identity) (requestId : Correlation) (remaining : Option Int64)
    (command : Command) : Except String Command :=
  match sqliteDeadlineMillis remaining with
  | none => .error "context deadline exceeded"
  | some deadline => .ok
      { command with
        sqliteRequestId := requestId, aid := encode actor.aid, generation := actor.generation,
        deadlineMS := deadline }

theorem sqlite_eq_ok {actor : Identity} {requestId : Correlation} {remaining : Option Int64}
    {command completed : Command} :
    sqlite actor requestId remaining command = .ok completed ↔
      ∃ deadline, sqliteDeadlineMillis remaining = some deadline ∧
        { command with
          sqliteRequestId := requestId, aid := encode actor.aid, generation := actor.generation,
          deadlineMS := deadline } = completed := by
  unfold sqlite
  cases sqliteDeadlineMillis remaining <;> simp

def sqliteExec (actor : Identity) (requestId : Correlation) (remaining : Option Int64)
    (sql : Bytes) (args : List SQLiteValue) (leaseKey : Option Bytes) : Except String Command :=
  sqlite actor requestId remaining
    { kind := .sqliteExec, sql := sql, sqlArgs := some args, leaseKey := leaseKey }

def sqliteQuery (actor : Identity) (requestId : Correlation) (remaining : Option Int64)
    (sql : Bytes) (args : List SQLiteValue) (leaseKey : Option Bytes) : Except String Command :=
  sqlite actor requestId remaining
    { kind := .sqliteQuery, sql := sql, sqlArgs := some args, leaseKey := leaseKey }

def sqliteBegin (actor : Identity) (requestId : Correlation) (remaining : Option Int64)
    (leaseKey : Bytes) (timeout : Int64) : Except String Command :=
  sqlite actor requestId remaining
    { kind := .sqliteBegin, leaseKey := some leaseKey, timeoutMS := durationMillis64 timeout }

def sqliteCommit (actor : Identity) (requestId : Correlation) (remaining : Option Int64)
    (leaseKey : Bytes) : Except String Command :=
  sqlite actor requestId remaining { kind := .sqliteCommit, leaseKey := some leaseKey }

def sqliteRollback (actor : Identity) (requestId : Correlation) (remaining : Option Int64)
    (leaseKey : Bytes) : Except String Command :=
  sqlite actor requestId remaining { kind := .sqliteRollback, leaseKey := some leaseKey }

end RivetGo.Session

import RivetGo.Data.Check
import RivetGo.Session.Command

/-!
# Calls of the public SDK

A call of the SDK checks its arguments and hands them to the actor session,
which builds the command. `Call.command` gives that command, or the text of the
error when an argument is refused. CBOR values are encoded by a library: a call
carries the bytes or the error that the library returned for the value given.
What the checks say about a missing session, an ended context or a closed
connection does not depend on the arguments and is left out.
-/

namespace RivetGo.Sdk

open Utf8 (encode Valid blankBytes)
open Check (require)
open Session (Identity Correlation content)
open Wire (Command SQLiteValue)

/-! ### SQLite arguments -/

def maxSQLiteSQLBytes : Nat := 2 ^ 20

def maxSQLiteArguments : Nat := 1024

def maxSQLiteValueBytes : Nat := 2 ^ 20

/-- The text of a `SQLiteError`. -/
def sqliteError (code message : String) : String := code ++ ": " ++ message

def validateSQLiteSQL (sql : Bytes) : Check := do
  require (sql ≠ []) (sqliteError "sqlite_sql_empty" "SQL must not be empty")
  require (sql.length ≤ maxSQLiteSQLBytes)
    (sqliteError "sqlite_sql_too_large" "SQL exceeds the 1 MiB limit")
  require (Valid sql) (sqliteError "sqlite_sql_invalid_utf8" "SQL must be valid UTF-8")

/-- An argument by its Go type; a float is its bit pattern. -/
inductive SqlArg where
  | null
  | int64 (n : Int64)
  | float64 (bits : UInt64)
  | text (s : Bytes)
  | bytes (b : Option Bytes)
  | unsupported (goType : String)

/-- One step of the loop of `encodeSQLiteArgs`. -/
def encodeSQLiteArg (arg : SqlArg) (index : Nat) : Except String SQLiteValue :=
  match arg with
  | .null => .ok { kind := "null" }
  | .int64 n => .ok { kind := "integer", integer := some n }
  | .float64 bits => .ok { kind := "real", bits := some bits }
  | .text s => do
      require (s.length ≤ maxSQLiteValueBytes) (sqliteError "sqlite_argument_too_large"
        s!"argument {index} exceeds the 1 MiB value limit")
      require (Valid s) (sqliteError "sqlite_argument_invalid_utf8"
        s!"argument {index} text must be valid UTF-8")
      return { kind := "text", text := some s }
  | .bytes b => do
      require ((content b).length ≤ maxSQLiteValueBytes) (sqliteError "sqlite_argument_too_large"
        s!"argument {index} exceeds the 1 MiB value limit")
      return { kind := "blob", blob := some (some (content b)) }
  | .unsupported goType => .error (sqliteError "sqlite_argument_type"
      (s!"argument {index} has unsupported Go type {goType}; " ++
        "use nil, int64, float64, string, or []byte"))

def encodeSQLiteArgs (args : List SqlArg) : Except String (List SQLiteValue) := do
  require (args.length ≤ maxSQLiteArguments)
    (sqliteError "sqlite_too_many_arguments" "SQLite arguments exceed the 1024-value limit")
  args.zipIdx.mapM fun arg => encodeSQLiteArg arg.1 arg.2

/-- A lower-case hexadecimal digit. -/
def hexDigit (n : Nat) : Char := Nat.digitChar (n % 16)

/-- `fmt.Sprintf("go-%016x", n)`: the lease key of the `n`th transaction. -/
def leaseKey (n : UInt64) : String :=
  String.ofList ("go-".toList ++ (List.range 16).reverse.map fun i => hexDigit (n.toNat / 16 ^ i))

def defaultSQLiteLeaseTimeout : Int64 := 60000000000

/-! ### Names and values of the other operations -/

def maxWebSocketMessage : Nat := 2 ^ 20

def maxQueuePayload : Nat := 2 ^ 20

def maxQueueNames : Nat := 1024

def maxScheduledArgs : Nat := 2 ^ 20

def internalAlarmAction : String := "__rivet_go_alarm"

/-- The action names of a registered actor: registration refuses blank names
and the name of the internal alarm action. -/
structure RegisteredActions where
  names : List Bytes
  notBlank : ∀ name ∈ names, blankBytes name = false
  notReserved : encode internalAlarmAction ∉ names

/-- The identifier of a live WebSocket connection, as native named it. -/
abbrev ConnectionId := { id : String // id ≠ "" }

def validCloseCode (code : UInt16) : Bool :=
  (1000 ≤ code && code ≤ 1003) || (1007 ≤ code && code ≤ 1014) || (3000 ≤ code && code ≤ 4999)

def validateQueueName (name : Bytes) : Check := do
  require (blankBytes name = false) "queue name must not be empty"
  require (name.length ≤ maxQueuePayload)
    s!"queue name is {name.length} bytes, maximum is {maxQueuePayload}"

def errQueueMessageTooLarge : String := "queue message is too large"

/-- An encoded queue body or response has to be small enough. -/
def queuePayload (encoding what : String) (encoded : Except String Bytes) :
    Except String Bytes := do
  let encoded ← encoded.mapError (encoding ++ ": " ++ ·)
  require (encoded.length ≤ maxQueuePayload)
    (what ++ s!" is {encoded.length} bytes, maximum is {maxQueuePayload}: " ++
      errQueueMessageTooLarge)
  return encoded

/-- `encodeQueueValue`; `quote` is how `fmt` prints a string with `%q`. -/
def encodeQueueValue (quote : Bytes → String) (name : Bytes) (body : Except String Bytes) :
    Except String Bytes := do
  validateQueueName name
  queuePayload ("encode queue " ++ quote name ++ " body") ("queue " ++ quote name ++ " body") body

/-- `normalizeQueueNames`: every name is checked and the first of equal names
is kept. -/
def normalizeQueueNames (names : List Bytes) : Except String (List Bytes) := do
  require (names.length ≤ maxQueueNames)
    s!"queue name filter contains {names.length} names, maximum is {maxQueueNames}"
  forM names validateQueueName
  return names.reverse.dedup.reverse

/-- The argument list of a scheduled action. -/
def encodeScheduled (quote : Bytes → String) (actions : RegisteredActions) (action : Bytes)
    (args : Except String Bytes) : Except String Bytes := do
  require (action ≠ []) "scheduled action is empty"
  require (action ∈ actions.names) ("scheduled action " ++ quote action ++ " is not registered")
  let args ← args.mapError (("encode scheduled action " ++ quote action ++ " argument: ") ++ ·)
  require (args.length ≤ maxScheduledArgs)
    ("scheduled action " ++ quote action ++
      s!" arguments are {args.length} bytes, maximum is {maxScheduledArgs}")
  return args

/-- A call of one of the SDK's operations. A statement of a transaction has the
number of the transaction, and a call that ends with a context has what is left
of its deadline when it checks. -/
inductive Call where
  | exec (tx : Option UInt64) (sql : Bytes) (args : List SqlArg)
  | query (tx : Option UInt64) (sql : Bytes) (args : List SqlArg)
  | begin (tx : UInt64) (left : Option Int64)
  | commit (tx : UInt64)
  | rollback (tx : UInt64)
  | kvGet (key : Option Bytes)
  | kvList (keyPrefix : Option Bytes) (reverse : Bool) (limit : UInt32)
  | kvPut (key value : Option Bytes)
  | kvDelete (key : Option Bytes)
  | broadcast (event : Bytes) (payload : Except String Bytes) (exclude : Option ConnectionId)
  | send (connection : ConnectionId) (data : Option Bytes) (binary : Bool)
  | close (connection : ConnectionId) (code : UInt16) (reason : Bytes)
  | queueSend (name : Bytes) (body : Except String Bytes)
  | queueSendRaw (name : Bytes) (body : Option Bytes) (valid : Except String Unit)
  | queueSendAndWait (name : Bytes) (body : Except String Bytes) (timeout : Int64)
  | queueNext (names : List Bytes) (timeout : Int64) (completable immediate : Bool)
  | queueComplete (messageId : UInt64) (response : List (Except String Bytes))
  | scheduleAfter (delay : Int64) (action : Bytes) (args : Except String Bytes)
  | scheduleAt (runAt : Int64) (action : Bytes) (args : Except String Bytes)
  | scheduleCancel (id : Bytes)
  | scheduleGet (id : Bytes)

/-- A timeout of zero stands for none. -/
def timeoutOf (timeout : Int64) : Option Int64 := if timeout = 0 then none else some timeout

/-- What the pump adds to a call: the actor, a fresh correlation number, and
what is left of the caller's deadline when the command is built. -/
structure Site where
  actor : Identity
  id : Correlation
  remaining : Option Int64
  actions : RegisteredActions
  quote : Bytes → String

/-- The command of a call, or the error for an argument that is refused. -/
def Call.command (site : Site) : Call → Except String Command
  | .exec tx sql args => do
      validateSQLiteSQL sql
      let values ← encodeSQLiteArgs args
      Session.sqliteExec site.actor site.id site.remaining sql values
        (tx.map fun n => encode (leaseKey n))
  | .query tx sql args => do
      validateSQLiteSQL sql
      let values ← encodeSQLiteArgs args
      Session.sqliteQuery site.actor site.id site.remaining sql values
        (tx.map fun n => encode (leaseKey n))
  | .begin tx left => do
      let timeout := left.getD defaultSQLiteLeaseTimeout
      require (0 < timeout) "context deadline exceeded"
      Session.sqliteBegin site.actor site.id site.remaining (encode (leaseKey tx)) timeout
  | .commit tx => Session.sqliteCommit site.actor site.id site.remaining (encode (leaseKey tx))
  | .rollback tx =>
    Session.sqliteRollback site.actor site.id site.remaining (encode (leaseKey tx))
  | .kvGet key => return Session.kvGet site.actor site.id (Session.appendNil key)
  | .kvList keyPrefix reverse limit =>
    return Session.kvList site.actor site.id (Session.appendNil keyPrefix) reverse
      (if limit = 0 then none else some limit)
  | .kvPut key value =>
    return Session.kvPut site.actor site.id (Session.appendNil key) (Session.appendNil value)
  | .kvDelete key => return Session.kvDelete site.actor site.id (Session.appendNil key)
  | .broadcast event payload exclude => do
      require (blankBytes event = false) "broadcast event must not be empty"
      let encoded ← payload.mapError ("encode broadcast payload: " ++ ·)
      require (encoded.length ≤ maxWebSocketMessage)
        s!"broadcast payload is {encoded.length} bytes, maximum is {maxWebSocketMessage}"
      Session.broadcast site.actor event (some encoded) (exclude.map fun id => encode id.1)
  | .send connection data binary => do
      require ((content data).length ≤ maxWebSocketMessage)
        s!"WebSocket message is {(content data).length} bytes, maximum is {maxWebSocketMessage}"
      require (binary = true ∨ Valid (content data)) "WebSocket text data must be valid UTF-8"
      Session.sendWebSocket (encode connection) data binary
  | .close connection code reason => do
      require (validCloseCode code = true) s!"invalid WebSocket close code {code}"
      require (Valid reason) "WebSocket close reason must be valid UTF-8"
      require (reason.length ≤ 123) "WebSocket close reason exceeds 123 bytes"
      Session.closeWebSocket (encode connection) code reason
  | .queueSend name body => do
      let encoded ← encodeQueueValue site.quote name body
      return Session.queueSend site.actor site.id name (some encoded)
  | .queueSendRaw name body valid => do
      validateQueueName name
      let body ← queuePayload ("queue " ++ site.quote name ++ " body is not valid CBOR")
        ("queue " ++ site.quote name ++ " body") (valid.map fun _ => content body)
      return Session.queueSend site.actor site.id name (some body)
  | .queueSendAndWait name body timeout => do
      let encoded ← encodeQueueValue site.quote name body
      require (0 ≤ timeout) "queue wait timeout is negative"
      return Session.queueEnqueueWait site.actor site.id name (some encoded) (timeoutOf timeout)
  | .queueNext names timeout completable immediate => do
      require (0 ≤ timeout) "queue timeout is negative"
      let names ← normalizeQueueNames names
      return Session.queueNext site.actor site.id names
        (if immediate then some 0 else timeoutOf timeout) completable
  | .queueComplete messageId response => do
      require (response.length ≤ 1) "queue Complete accepts at most one response"
      let response ← response.mapM
        (queuePayload "encode queue completion response" "queue completion response")
      return Session.queueComplete site.actor site.id messageId (response.head?.map some)
  | .scheduleAfter delay action args => do
      require (0 ≤ delay) "schedule delay must not be negative"
      let args ← encodeScheduled site.quote site.actions action args
      return Session.scheduleAfter site.actor site.id delay action (some args)
  | .scheduleAt runAt action args => do
      let args ← encodeScheduled site.quote site.actions action args
      return Session.scheduleAt site.actor site.id runAt action (some args)
  | .scheduleCancel id => do
      require (id ≠ []) "schedule ID is empty"
      return Session.cancelSchedule site.actor site.id id
  | .scheduleGet id => do
      require (id ≠ []) "schedule ID is empty"
      return Session.getSchedule site.actor site.id id

end RivetGo.Sdk

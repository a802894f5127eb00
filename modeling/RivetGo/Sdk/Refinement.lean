import Mathlib.Data.List.Dedup
import Mathlib.Data.String.Basic
import Mathlib.Tactic.IntervalCases
import RivetGo.Boundary.Accept
import RivetGo.Sdk.Call

/-!
# The checks of the SDK against the checks of native

A call that the SDK accepts becomes a command, and native checks the command
again with limits of its own. `Call.WithinNativeLimits` lists what native asks
for and the SDK does not: it is a condition on the arguments of the call alone.
For every accepted call whose command native decodes, the checks of native pass
exactly when that condition holds.
-/

namespace RivetGo.Sdk

open Utf8 (encode decode? blankBytes)
open Native (Ciborium CborValue validateCommand)
open Session (content)
open Wire (Command)

/-! ### What the SDK has checked -/

theorem validateSQLiteSQL_eq_ok {sql : Bytes} :
    validateSQLiteSQL sql = .ok () ↔
      sql ≠ [] ∧ sql.length ≤ maxSQLiteSQLBytes ∧ Utf8.Valid sql := by
  simp [validateSQLiteSQL]

theorem validateQueueName_eq_ok {name : Bytes} :
    validateQueueName name = .ok () ↔
      blankBytes name = false ∧ name.length ≤ maxQueuePayload := by
  simp [validateQueueName]

theorem queuePayload_eq_ok {encoding what : String} {encoded : Except String Bytes}
    {payload : Bytes} :
    queuePayload encoding what encoded = .ok payload ↔
      encoded = .ok payload ∧ payload.length ≤ maxQueuePayload := by
  simp only [queuePayload, ↓Check.seq_eq_ok, Check.bind_eq_ok, Check.mapError_eq_ok,
    Check.require_eq_ok, Check.pure_eq_ok]
  constructor
  · rintro ⟨b, hb, hle, rfl⟩
    exact ⟨hb, hle⟩
  · rintro ⟨hb, hle⟩
    exact ⟨payload, hb, hle, rfl⟩

theorem encodeScheduled_eq_ok {quote : Bytes → String} {actions : RegisteredActions}
    {action : Bytes} {args : Except String Bytes} {encoded : Bytes}
    (h : encodeScheduled quote actions action args = .ok encoded) :
    action ∈ actions.names ∧ args = .ok encoded ∧ encoded.length ≤ maxScheduledArgs := by
  rw [encodeScheduled] at h
  simp only [↓Check.seq_eq_ok, Check.bind_eq_ok, Check.mapError_eq_ok, Check.require_eq_ok,
    Check.pure_eq_ok] at h
  obtain ⟨-, hmem, b, hb, hle, rfl⟩ := h
  exact ⟨hmem, hb, hle⟩

theorem mem_normalizeQueueNames {names normalized : List Bytes}
    (h : normalizeQueueNames names = .ok normalized) :
    normalized.length ≤ maxQueueNames ∧
      ∀ name ∈ normalized, validateQueueName name = .ok () := by
  simp only [normalizeQueueNames, Check.seq_eq_ok, Check.require_eq_ok, Check.forM_eq_ok,
    Check.pure_eq_ok] at h
  obtain ⟨hle, hall, rfl⟩ := h
  constructor
  · have hsub := (List.dedup_sublist names.reverse).length_le
    simp only [List.length_reverse] at hsub ⊢
    omega
  · intro name hname
    refine hall name ?_
    simpa using hname

/-! ### Native asks no more of names, leases and values -/

theorem requireQueueName_of_decode? {name : Bytes} {text : String}
    (h : validateQueueName name = .ok ()) (hd : decode? name = some text) :
    Native.requireQueueName text = .ok () := by
  obtain ⟨hblank, hle⟩ := validateQueueName_eq_ok.mp h
  obtain rfl := Utf8.decode?_eq_some.mp hd
  rw [Utf8.blankBytes_encode] at hblank
  rw [Utf8.length_encode] at hle
  simpa [Native.requireQueueName] using ⟨hblank, hle⟩

theorem requireQueueNames_of_mapM {names : List Bytes} {texts : List String}
    (h : names.length ≤ maxQueueNames ∧ ∀ name ∈ names, validateQueueName name = .ok ())
    (hd : names.mapM decode? = some texts) :
    texts.length ≤ 1024 ∧ ∀ text ∈ texts, Native.requireQueueName text = .ok () := by
  obtain ⟨hlength, hmem⟩ := Check.mem_of_mapM_eq_some hd
  refine ⟨hlength ▸ h.1, ?_⟩
  intro text htext
  obtain ⟨name, hname, hdecode⟩ := hmem text htext
  exact requireQueueName_of_decode? (h.2 name hname) hdecode

theorem utf8Size_hexDigit (n : Nat) : (hexDigit n).utf8Size = 1 := by
  have hlt : n % 16 < 16 := Nat.mod_lt n (by decide)
  unfold hexDigit
  interval_cases n % 16 <;> rfl

theorem length_leaseKey (n : UInt64) : (leaseKey n).utf8ByteSize = 19 := by
  rw [leaseKey, String.utf8ByteSize_ofList]
  simp only [List.range, List.range.loop, List.reverse_cons, List.reverse_nil, List.nil_append,
    List.cons_append, List.map_cons, List.map_nil, String.utf8Len_append, String.utf8Len_cons,
    String.utf8Len_nil, utf8Size_hexDigit]
  rfl

theorem requireLease_leaseKey (n : UInt64) : Native.requireLease (leaseKey n) = .ok () := by
  have hsize := length_leaseKey n
  have hne : leaseKey n ≠ "" := by
    intro hempty
    simp [hempty] at hsize
  simp [Native.requireLease, hne, hsize]

theorem requireOptionalLease_leaseKey {tx : Option UInt64} {lease : Option String}
    (h : receivedOptional decode? (tx.map fun n => encode (leaseKey n)) = some lease) :
    Native.requireOptionalLease lease = .ok () := by
  cases tx with
  | none =>
    obtain rfl : none = lease := by simpa [receivedOptional] using h
    rfl
  | some n =>
    obtain rfl : some (leaseKey n) = lease := by simpa [receivedOptional] using h
    exact requireLease_leaseKey n

/-- An argument that the SDK encoded is small enough for native. -/
theorem requireSqliteValue_of_received {arg : SqlArg} {index : Nat} {value : Wire.SQLiteValue}
    {received : Native.SqliteValue} (h : encodeSQLiteArg arg index = .ok value)
    (hd : value.received = some received) :
    Native.requireSqliteValue received = .ok () := by
  cases arg with
  | null =>
    obtain rfl := Except.ok.inj h
    obtain rfl := Option.some.inj (show some .null = some received from hd)
    rfl
  | int64 n =>
    obtain rfl := Except.ok.inj h
    obtain rfl := Option.some.inj (show some (.integer n) = some received from hd)
    rfl
  | float64 bits =>
    obtain rfl := Except.ok.inj h
    obtain rfl := Option.some.inj (show some (.real bits) = some received from hd)
    rfl
  | text s =>
    simp only [encodeSQLiteArg, Check.seq_eq_ok, Check.require_eq_ok, Check.pure_eq_ok] at h
    obtain ⟨hle, -, rfl⟩ := h
    replace hd : (decode? s).bind (fun t => some (.text t)) = some received := hd
    obtain ⟨t, ht, hreceived⟩ := Option.bind_eq_some_iff.mp hd
    obtain rfl := Option.some.inj hreceived
    obtain rfl := Utf8.decode?_eq_some.mp ht
    exact Check.require_eq_ok.mpr hle
  | bytes b =>
    simp only [encodeSQLiteArg, Check.seq_eq_ok, Check.require_eq_ok, Check.pure_eq_ok] at h
    obtain ⟨hle, rfl⟩ := h
    obtain rfl := Option.some.inj (show some (.blob (content b)) = some received from hd)
    exact Check.require_eq_ok.mpr hle
  | unsupported goType => cases h

/-- Native refuses none of the arguments that the SDK encoded. -/
theorem requireSqliteValues_of_mapM {args : List SqlArg} {values : List Wire.SQLiteValue}
    {received : List Native.SqliteValue} (h : encodeSQLiteArgs args = .ok values)
    (hd : values.mapM Wire.SQLiteValue.received = some received) :
    received.length ≤ 1024 ∧ ∀ v ∈ received, Native.requireSqliteValue v = .ok () := by
  simp only [encodeSQLiteArgs, Check.seq_eq_ok, Check.require_eq_ok] at h
  obtain ⟨hle, hmap⟩ := h
  obtain ⟨hvalues, hencoded⟩ := Check.mem_of_mapM_eq_ok hmap
  obtain ⟨hlength, hreceived⟩ := Check.mem_of_mapM_eq_some hd
  refine ⟨?_, ?_⟩
  · rw [hlength, hvalues, List.length_zipIdx]
    exact hle
  · intro v hv
    obtain ⟨value, hvalue, hv⟩ := hreceived v hv
    obtain ⟨arg, -, harg⟩ := hencoded value hvalue
    exact requireSqliteValue_of_received harg hv

/-! ### The conditions native adds -/

/-- Native reads the bytes as an argument list. -/
def ReadsAsArray (cbor : Ciborium) (bytes : Bytes) : Prop :=
  ∃ vs, cbor.fromReader bytes = .ok (.array vs)

/-- Native can build the frame of a broadcast, and the frame is small enough. -/
def FramesWithin (cbor : Ciborium) (event payload : Bytes) : Prop :=
  ∃ name vs frame, encode name = event ∧ cbor.fromReader payload = .ok (.array vs) ∧
    cbor.intoWriter (Native.actorConnectEventFrame name (.array vs)) = .ok frame ∧
    frame.length ≤ Native.maxBodyChunk

/-- What native asks of the arguments of a call beyond what the SDK checks. -/
def Call.WithinNativeLimits (cbor : Ciborium) : Call → Prop
  | .exec _ sql _ => blankBytes sql = false
  | .query _ sql _ => blankBytes sql = false
  | .kvList _ _ limit => limit ≤ Native.maxKvListEntries
  | .broadcast event payload _ => ∀ bytes, payload = .ok bytes → FramesWithin cbor event bytes
  | .queueComplete messageId _ => messageId ≠ 0
  | .scheduleAfter _ action args =>
    action.length ≤ Native.maxBodyChunk ∧ ∀ bytes, args = .ok bytes → ReadsAsArray cbor bytes
  | .scheduleAt _ action args =>
    action.length ≤ Native.maxBodyChunk ∧ ∀ bytes, args = .ok bytes → ReadsAsArray cbor bytes
  | .scheduleCancel id => id.length ≤ Native.maxBodyChunk
  | .scheduleGet id => id.length ≤ Native.maxBodyChunk
  | _ => True

theorem isArray_iff {v : CborValue} : v.isArray = true ↔ ∃ vs, v = .array vs := by
  cases v <;> simp [CborValue.isArray]

/-- The frame of a broadcast is built exactly when the payload is an argument
list and the frame is small enough. -/
theorem encodeActorConnectEventFrame_eq_ok {cbor : Ciborium} {name : String} {payload : Bytes} :
    (∃ frame, Native.encodeActorConnectEventFrame cbor name payload = .ok frame) ↔
      FramesWithin cbor (encode name) payload := by
  simp only [Native.encodeActorConnectEventFrame, ↓Check.seq_eq_ok, Check.bind_eq_ok,
    Check.mapError_eq_ok, Check.require_eq_ok, Check.pure_eq_ok, isArray_iff]
  constructor
  · rintro ⟨frame, v, hv, ⟨vs, rfl⟩, frame', hframe, hle, rfl⟩
    exact ⟨name, vs, frame', rfl, hv, hframe, hle⟩
  · rintro ⟨name', vs, frame, hname, hv, hframe, hle⟩
    obtain rfl := Utf8.encode_inj.mp hname
    exact ⟨frame, _, hv, ⟨vs, rfl⟩, frame, hframe, hle, rfl⟩

/-! ### The checks that calls share -/

variable (actor : Session.Identity) (id : Session.Correlation)

@[simp] theorem requireKv_site : Native.requireKv id actor.aid = .ok () := by
  simp [Native.requireKv, Native.requireAid, actor.aid_ne, id.2]

@[simp] theorem requireQueueOperation_site :
    Native.requireQueueOperation id actor.aid = .ok () := by
  simp [Native.requireQueueOperation, Native.requireAid, Native.requireCorrelation, actor.aid_ne,
    id.2]

@[simp] theorem requireScheduleOperation_site :
    Native.requireScheduleOperation id actor.aid = .ok () := by
  simp [Native.requireScheduleOperation, Native.requireAid, Native.requireCorrelation,
    actor.aid_ne, id.2]

theorem requireSqliteRequest_site {remaining : Option Int64} {deadline : UInt32}
    (h : Session.sqliteDeadlineMillis remaining = some deadline) :
    Native.requireSqliteRequest id actor.aid deadline = .ok () := by
  simp [Native.requireSqliteRequest, Native.requireAid, Native.requireCorrelation, actor.aid_ne,
    id.2, Session.sqliteDeadlineMillis_ne_zero h]

/-- Of the checks on a statement, only the one for blank text can fail. -/
theorem requireSqliteStatement_iff {remaining : Option Int64} {deadline : UInt32} {sql : String}
    {args : List SqlArg} {values : List Wire.SQLiteValue} {received : List Native.SqliteValue}
    {tx : Option UInt64} {lease : Option String}
    (hdeadline : Session.sqliteDeadlineMillis remaining = some deadline)
    (hsql : validateSQLiteSQL (encode sql) = .ok ()) (hargs : encodeSQLiteArgs args = .ok values)
    (hvalues : values.mapM Wire.SQLiteValue.received = some received)
    (hlease : receivedOptional decode? (tx.map fun n => encode (leaseKey n)) = some lease) :
    Native.requireSqliteStatement id actor.aid sql received lease deadline = .ok () ↔
      blankBytes (encode sql) = false := by
  obtain ⟨-, hlength, -⟩ := validateSQLiteSQL_eq_ok.mp hsql
  obtain ⟨hcount, hsize⟩ := requireSqliteValues_of_mapM hargs hvalues
  simp only [Native.requireSqliteStatement, Native.requireSql, Check.seq_eq_ok,
    requireSqliteRequest_site actor id hdeadline, requireOptionalLease_leaseKey hlease,
    Check.require_eq_ok, Utf8.blankBytes_encode, true_and, and_true]
  exact and_iff_left ⟨hlength, hcount, Check.forM_eq_ok.mpr hsize⟩

theorem requireQueueBody_of_queuePayload {text encoding what : String}
    {encoded : Except String Bytes} {body : Bytes}
    (hname : validateQueueName (encode text) = .ok ())
    (hbody : queuePayload encoding what encoded = .ok body) :
    Native.requireQueueBody id actor.aid text body = .ok () := by
  have hsize : body.length ≤ Native.maxBodyChunk := (queuePayload_eq_ok.mp hbody).2
  have htext := requireQueueName_of_decode? hname (Utf8.decode?_encode text)
  simpa [Native.requireQueueBody, htext] using hsize

theorem requireScheduledAction_iff {cbor : Ciborium} {site : Site} {text : String}
    {args : Except String Bytes} {encoded : Bytes}
    (h : encodeScheduled site.quote site.actions (encode text) args = .ok encoded) :
    Native.requireScheduledAction cbor id actor.aid text encoded = .ok () ↔
      (encode text).length ≤ Native.maxBodyChunk ∧
        ∀ bytes, args = .ok bytes → ReadsAsArray cbor bytes := by
  obtain ⟨hmem, rfl, hle⟩ := encodeScheduled_eq_ok h
  have hblank : Utf8.blank text = false := by simpa using site.actions.notBlank _ hmem
  have hreserved : text ≠ "__rivet_go_alarm" := by
    rintro rfl
    exact site.actions.notReserved hmem
  rw [Native.requireScheduledAction]
  simp only [↓Check.seq_eq_ok, Check.bind_eq_ok, Check.mapError_eq_ok, Check.require_eq_ok,
    requireScheduleOperation_site, hblank, hreserved, isArray_iff, true_and, ne_eq,
    not_false_eq_true]
  constructor
  · rintro ⟨⟨haction, -⟩, v, hv, vs, rfl⟩
    refine ⟨haction, ?_⟩
    rintro bytes hbytes
    obtain rfl := Except.ok.inj hbytes
    exact ⟨vs, hv⟩
  · rintro ⟨haction, hreads⟩
    obtain ⟨vs, hvs⟩ := hreads encoded rfl
    exact ⟨⟨haction, hle⟩, _, hvs, vs, rfl⟩

theorem requireScheduleId_iff {text : String} (h : encode text ≠ []) :
    Native.requireScheduleId id actor.aid text = .ok () ↔
      (encode text).length ≤ Native.maxBodyChunk := by
  have hne : text ≠ "" := by simpa using h
  simp [Native.requireScheduleId, hne, Utf8.length_encode]

/-! ### One call at a time -/

section Calls

variable {cbor : Ciborium} {site : Site} {cmd : Command} {d : Native.Command}

/-- The actor of a command is text, and the rest is received as it would be alone. -/
theorem received_actor {aid : String} {rest : String → Option Native.Command}
    (h : ((decode? (encode aid)).bind fun text => rest text) = some d) : rest aid = some d := by
  rwa [Utf8.decode?_encode] at h

/-- A command with a name has a text for it. -/
theorem received_name {aid : String} {name : Bytes} {rest : String → String → Option Native.Command}
    (h : ((decode? (encode aid)).bind fun aid => (decode? name).bind fun text => rest aid text) =
      some d) : ∃ text, encode text = name ∧ rest aid text = some d := by
  obtain ⟨text, htext, hrest⟩ := Option.bind_eq_some_iff.mp (received_actor h)
  exact ⟨text, Utf8.decode?_eq_some.mp htext, hrest⟩

theorem statement_validates_iff {call : Call} {tx : Option UInt64} {sql : Bytes}
    {args : List SqlArg} (hcall : call = .exec tx sql args ∨ call = .query tx sql args)
    (hcmd : call.command site = .ok cmd) (hd : cmd.received = some d) :
    validateCommand cbor d = .ok () ↔ blankBytes sql = false := by
  obtain rfl | rfl := hcall
  all_goals
    rw [Call.command] at hcmd
    simp only [↓Check.seq_eq_ok, Check.bind_eq_ok, Session.sqliteExec, Session.sqliteQuery,
      Session.sqlite_eq_ok] at hcmd
    obtain ⟨hsql, values, hargs, deadline, hdeadline, rfl⟩ := hcmd
    obtain ⟨text, rfl, hd⟩ := received_name hd
    obtain ⟨received, hreceived, hd⟩ := Option.bind_eq_some_iff.mp hd
    obtain ⟨lease, hlease, hd⟩ := Option.bind_eq_some_iff.mp hd
    obtain rfl := Option.some.inj hd
    exact requireSqliteStatement_iff site.actor site.id hdeadline hsql hargs hreceived hlease

theorem begin_validates {tx : UInt64} {left : Option Int64}
    (hcmd : (Call.begin tx left).command site = .ok cmd) (hd : cmd.received = some d) :
    validateCommand cbor d = .ok () := by
  rw [Call.command] at hcmd
  simp only [Check.seq_eq_ok, Check.require_eq_ok, Session.sqliteBegin,
    Session.sqlite_eq_ok] at hcmd
  obtain ⟨hpos, deadline, hdeadline, rfl⟩ := hcmd
  obtain rfl : _ = d := by simpa [Command.received, Command.received.leaseKey] using hd
  simp only [validateCommand, Check.seq_eq_ok, Check.require_eq_ok, requireLease_leaseKey,
    requireSqliteRequest_site _ _ hdeadline, true_and]
  exact Session.durationMilliseconds_ne_zero hpos

/-- A transaction ends. -/
theorem end_validates {call : Call} {tx : UInt64} (hcall : call = .commit tx ∨ call = .rollback tx)
    (hcmd : call.command site = .ok cmd) (hd : cmd.received = some d) :
    validateCommand cbor d = .ok () := by
  obtain rfl | rfl := hcall
  all_goals
    obtain ⟨deadline, hdeadline, rfl⟩ := Session.sqlite_eq_ok.mp hcmd
    obtain rfl : _ = d := by simpa [Command.received, Command.received.leaseKey] using hd
    simp [validateCommand, requireLease_leaseKey, requireSqliteRequest_site _ _ hdeadline]

theorem kvKey_validates {call : Call} {key : Option Bytes}
    (hcall : call = .kvGet key ∨ call = .kvDelete key) (hcmd : call.command site = .ok cmd)
    (hd : cmd.received = some d) : validateCommand cbor d = .ok () := by
  obtain rfl | rfl := hcall
  all_goals
    obtain rfl := Except.ok.inj hcmd
    obtain ⟨key, -, hd⟩ := Option.bind_eq_some_iff.mp (received_actor hd)
    obtain rfl := Option.some.inj hd
    exact requireKv_site site.actor site.id

theorem kvList_validates_iff {keyPrefix : Option Bytes} {reverse : Bool} {limit : UInt32}
    (hcmd : (Call.kvList keyPrefix reverse limit).command site = .ok cmd)
    (hd : cmd.received = some d) :
    validateCommand cbor d = .ok () ↔ limit ≤ Native.maxKvListEntries := by
  obtain rfl := Except.ok.inj hcmd
  obtain ⟨keyPrefix, -, hd⟩ := Option.bind_eq_some_iff.mp (received_actor hd)
  obtain rfl := Option.some.inj hd
  by_cases hzero : limit = 0
  · subst hzero
    simp [validateCommand, Session.kvList, Session.kv]
  · simp [validateCommand, Session.kvList, Session.kv, hzero]

theorem kvPut_validates {key value : Option Bytes}
    (hcmd : (Call.kvPut key value).command site = .ok cmd) (hd : cmd.received = some d) :
    validateCommand cbor d = .ok () := by
  obtain rfl := Except.ok.inj hcmd
  obtain ⟨key, -, hd⟩ := Option.bind_eq_some_iff.mp (received_actor hd)
  obtain ⟨value, -, hd⟩ := Option.bind_eq_some_iff.mp hd
  obtain rfl := Option.some.inj hd
  exact requireKv_site site.actor site.id

theorem broadcast_validates_iff {event : Bytes} {payload : Except String Bytes}
    {exclude : Option ConnectionId}
    (hcmd : (Call.broadcast event payload exclude).command site = .ok cmd)
    (hd : cmd.received = some d) :
    validateCommand cbor d = .ok () ↔
      ∀ bytes, payload = .ok bytes → FramesWithin cbor event bytes := by
  rw [Call.command] at hcmd
  simp only [↓Check.seq_eq_ok, Check.bind_eq_ok, Check.require_eq_ok, Check.mapError_eq_ok,
    Session.broadcast_eq_ok, Session.content_some] at hcmd
  obtain ⟨hblank, bytes, rfl, hle, -, -, rfl⟩ := hcmd
  simp only [Command.received, Utf8.decode?_encode, Option.bind_eq_bind, Option.bind_some,
    Option.bind_eq_some_iff, Option.pure_def, Option.some.injEq] at hd
  obtain ⟨name, hname, exclude', hexclude, rfl⟩ := hd
  obtain rfl := Utf8.decode?_eq_some.mp hname
  have hid : ∀ c ∈ exclude', c ≠ "" := by
    cases exclude with
    | none =>
      obtain rfl : none = exclude' := by simpa [receivedOptional] using hexclude
      simp
    | some id =>
      obtain rfl : some id.1 = exclude' := by simpa [receivedOptional] using hexclude
      simpa using id.2
  have hsize : bytes.length ≤ Native.maxBodyChunk := hle
  rw [Utf8.blankBytes_encode] at hblank
  simp only [validateCommand, Check.seq_eq_ok, Check.require_eq_ok, Native.requireAid,
    site.actor.aid_ne, hblank, hsize, Check.discard_eq_ok, encodeActorConnectEventFrame_eq_ok,
    ne_eq, not_false_eq_true, true_and]
  constructor
  · rintro ⟨hframe, -⟩ bytes' hbytes
    obtain rfl := Except.ok.inj hbytes
    exact hframe
  · intro hframe
    exact ⟨hframe bytes rfl, hid⟩

theorem send_validates {connection : ConnectionId} {data : Option Bytes} {binary : Bool}
    (hcmd : (Call.send connection data binary).command site = .ok cmd)
    (hd : cmd.received = some d) : validateCommand cbor d = .ok () := by
  rw [Call.command] at hcmd
  simp only [Check.seq_eq_ok, Check.require_eq_ok, Session.sendWebSocket_eq_ok] at hcmd
  obtain ⟨hle, hvalid, -, -, rfl⟩ := hcmd
  obtain rfl : _ = d := by simpa [Command.received] using hd
  have hsize : (content data).length ≤ Native.maxBodyChunk := hle
  simp [validateCommand, Native.requireWsId, Native.requireWsData, connection.2, hsize, hvalid]

theorem close_validates {connection : ConnectionId} {code : UInt16} {reason : Bytes}
    (hcmd : (Call.close connection code reason).command site = .ok cmd)
    (hd : cmd.received = some d) : validateCommand cbor d = .ok () := by
  rw [Call.command] at hcmd
  simp only [Check.seq_eq_ok, Check.require_eq_ok, Session.closeWebSocket_eq_ok] at hcmd
  obtain ⟨hcode, -, hle, -, rfl⟩ := hcmd
  simp only [Command.received, receivedOptional, Utf8.decode?_encode, Option.bind_eq_bind,
    Option.bind_some, Option.bind_eq_some_iff, Option.map_eq_some_iff, Option.pure_def,
    Option.some.injEq] at hd
  obtain ⟨text', ⟨text, htext, rfl⟩, rfl⟩ := hd
  obtain rfl := Utf8.decode?_eq_some.mp htext
  have hcode' : Native.validCloseCode code = true := hcode
  have hsize : text.utf8ByteSize ≤ 123 := hle
  simp [validateCommand, Native.requireWsId, connection.2, hcode', hsize]

theorem queueSend_validates {name : Bytes} {body : Except String Bytes}
    (hcmd : (Call.queueSend name body).command site = .ok cmd) (hd : cmd.received = some d) :
    validateCommand cbor d = .ok () := by
  rw [Call.command, encodeQueueValue] at hcmd
  simp only [↓Check.seq_eq_ok, Check.bind_eq_ok, Check.pure_eq_ok] at hcmd
  obtain ⟨encoded, ⟨hname, hbody⟩, rfl⟩ := hcmd
  obtain ⟨text, rfl, hd⟩ := received_name hd
  obtain rfl := Option.some.inj hd
  exact requireQueueBody_of_queuePayload site.actor site.id hname hbody

theorem queueSendRaw_validates {name : Bytes} {body : Option Bytes} {valid : Except String Unit}
    (hcmd : (Call.queueSendRaw name body valid).command site = .ok cmd)
    (hd : cmd.received = some d) : validateCommand cbor d = .ok () := by
  rw [Call.command] at hcmd
  simp only [↓Check.seq_eq_ok, Check.bind_eq_ok, Check.pure_eq_ok] at hcmd
  obtain ⟨hname, encoded, hbody, rfl⟩ := hcmd
  obtain ⟨text, rfl, hd⟩ := received_name hd
  obtain rfl := Option.some.inj hd
  exact requireQueueBody_of_queuePayload site.actor site.id hname hbody

theorem queueSendAndWait_validates {name : Bytes} {body : Except String Bytes} {timeout : Int64}
    (hcmd : (Call.queueSendAndWait name body timeout).command site = .ok cmd)
    (hd : cmd.received = some d) : validateCommand cbor d = .ok () := by
  rw [Call.command, encodeQueueValue] at hcmd
  simp only [↓Check.seq_eq_ok, Check.bind_eq_ok, Check.pure_eq_ok] at hcmd
  obtain ⟨encoded, ⟨hname, hbody⟩, -, rfl⟩ := hcmd
  obtain ⟨text, rfl, hd⟩ := received_name hd
  obtain rfl := Option.some.inj hd
  exact requireQueueBody_of_queuePayload site.actor site.id hname hbody

theorem queueNext_validates {names : List Bytes} {timeout : Int64} {completable immediate : Bool}
    (hcmd : (Call.queueNext names timeout completable immediate).command site = .ok cmd)
    (hd : cmd.received = some d) : validateCommand cbor d = .ok () := by
  rw [Call.command] at hcmd
  simp only [↓Check.seq_eq_ok, Check.bind_eq_ok, Check.pure_eq_ok] at hcmd
  obtain ⟨-, normalized, hnames, rfl⟩ := hcmd
  simp only [Command.received, Session.queueNext, Session.actorOperation, Utf8.decode?_encode,
    Option.bind_eq_bind, Option.bind_some, Option.bind_eq_some_iff, Option.pure_def,
    Option.some.injEq, Option.ite_none_left_eq_some] at hd
  obtain ⟨_, ⟨-, rfl⟩, texts, htexts, rfl⟩ := hd
  obtain ⟨hcount, hall⟩ := requireQueueNames_of_mapM (mem_normalizeQueueNames hnames) htexts
  simp only [validateCommand, Check.seq_eq_ok, Check.require_eq_ok, requireQueueOperation_site,
    hcount, true_and]
  exact Check.forM_eq_ok.mpr hall

theorem queueComplete_validates_iff {messageId : UInt64} {response : List (Except String Bytes)}
    (hcmd : (Call.queueComplete messageId response).command site = .ok cmd)
    (hd : cmd.received = some d) : validateCommand cbor d = .ok () ↔ messageId ≠ 0 := by
  rw [Call.command] at hcmd
  simp only [↓Check.seq_eq_ok, Check.bind_eq_ok, Check.pure_eq_ok] at hcmd
  obtain ⟨-, encoded, hencoded, rfl⟩ := hcmd
  have hresponse : ((encoded.head?.map some).map Session.cloneBytesOrEmpty).join =
      encoded.head? := by
    cases encoded <;> rfl
  obtain rfl : .queueComplete site.id site.actor.aid site.actor.generation messageId
      encoded.head? = d := by
    simpa only [Command.received, Session.queueComplete, Session.actorOperation, hresponse,
      Utf8.decode?_encode, Option.bind_eq_bind, Option.bind_some, Option.pure_def,
      Option.some.injEq] using hd
  have hsize : ∀ b ∈ encoded.head?, b.length ≤ Native.maxBodyChunk := by
    intro b hb
    obtain ⟨-, hmem⟩ := Check.mem_of_mapM_eq_ok hencoded
    obtain ⟨r, -, hr⟩ := hmem b (List.mem_of_mem_head? hb)
    exact (queuePayload_eq_ok.mp hr).2
  simp only [validateCommand, Check.seq_eq_ok, Check.require_eq_ok, requireQueueOperation_site,
    true_and]
  exact and_iff_left hsize

theorem scheduleAfter_validates_iff {delay : Int64} {action : Bytes} {args : Except String Bytes}
    (hcmd : (Call.scheduleAfter delay action args).command site = .ok cmd)
    (hd : cmd.received = some d) :
    validateCommand cbor d = .ok () ↔ (Call.scheduleAfter delay action args).WithinNativeLimits
      cbor := by
  rw [Call.command] at hcmd
  simp only [↓Check.seq_eq_ok, Check.bind_eq_ok, Check.pure_eq_ok] at hcmd
  obtain ⟨-, encoded, hencoded, rfl⟩ := hcmd
  obtain ⟨text, rfl, hd⟩ := received_name hd
  obtain rfl := Option.some.inj hd
  exact requireScheduledAction_iff site.actor site.id hencoded

theorem scheduleAt_validates_iff {runAt : Int64} {action : Bytes} {args : Except String Bytes}
    (hcmd : (Call.scheduleAt runAt action args).command site = .ok cmd)
    (hd : cmd.received = some d) :
    validateCommand cbor d = .ok () ↔ (Call.scheduleAt runAt action args).WithinNativeLimits
      cbor := by
  rw [Call.command] at hcmd
  simp only [Check.bind_eq_ok, Check.pure_eq_ok] at hcmd
  obtain ⟨encoded, hencoded, rfl⟩ := hcmd
  obtain ⟨text, rfl, hd⟩ := received_name hd
  obtain rfl := Option.some.inj hd
  exact requireScheduledAction_iff site.actor site.id hencoded

theorem scheduleId_validates_iff {call : Call} {id : Bytes}
    (hcall : call = .scheduleCancel id ∨ call = .scheduleGet id)
    (hcmd : call.command site = .ok cmd) (hd : cmd.received = some d) :
    validateCommand cbor d = .ok () ↔ id.length ≤ Native.maxBodyChunk := by
  obtain rfl | rfl := hcall
  all_goals
    rw [Call.command] at hcmd
    simp only [Check.seq_eq_ok, Check.require_eq_ok, Check.pure_eq_ok] at hcmd
    obtain ⟨hne, rfl⟩ := hcmd
    obtain ⟨text, rfl, hd⟩ := received_name hd
    obtain rfl := Option.some.inj hd
    exact requireScheduleId_iff site.actor site.id hne

/-- A call that the SDK accepts and native decodes passes the checks of native
exactly when its arguments are within the limits that only native knows. -/
theorem validateCommand_iff_withinNativeLimits {call : Call}
    (hcmd : call.command site = .ok cmd) (hd : cmd.received = some d) :
    validateCommand cbor d = .ok () ↔ call.WithinNativeLimits cbor := by
  cases call with
  | exec tx sql args => exact statement_validates_iff (.inl rfl) hcmd hd
  | query tx sql args => exact statement_validates_iff (.inr rfl) hcmd hd
  | begin tx left => exact iff_of_true (begin_validates hcmd hd) trivial
  | commit tx => exact iff_of_true (end_validates (.inl rfl) hcmd hd) trivial
  | rollback tx => exact iff_of_true (end_validates (.inr rfl) hcmd hd) trivial
  | kvGet key => exact iff_of_true (kvKey_validates (.inl rfl) hcmd hd) trivial
  | kvList keyPrefix reverse limit => exact kvList_validates_iff hcmd hd
  | kvPut key value => exact iff_of_true (kvPut_validates hcmd hd) trivial
  | kvDelete key => exact iff_of_true (kvKey_validates (.inr rfl) hcmd hd) trivial
  | broadcast event payload exclude => exact broadcast_validates_iff hcmd hd
  | send connection data binary => exact iff_of_true (send_validates hcmd hd) trivial
  | close connection code reason => exact iff_of_true (close_validates hcmd hd) trivial
  | queueSend name body => exact iff_of_true (queueSend_validates hcmd hd) trivial
  | queueSendRaw name body valid => exact iff_of_true (queueSendRaw_validates hcmd hd) trivial
  | queueSendAndWait name body timeout =>
    exact iff_of_true (queueSendAndWait_validates hcmd hd) trivial
  | queueNext names timeout completable immediate =>
    exact iff_of_true (queueNext_validates hcmd hd) trivial
  | queueComplete messageId response => exact queueComplete_validates_iff hcmd hd
  | scheduleAfter delay action args => exact scheduleAfter_validates_iff hcmd hd
  | scheduleAt runAt action args => exact scheduleAt_validates_iff hcmd hd
  | scheduleCancel id => exact scheduleId_validates_iff (.inl rfl) hcmd hd
  | scheduleGet id => exact scheduleId_validates_iff (.inr rfl) hcmd hd

end Calls

/-- An actor without registered actions, at a call without a deadline. -/
def plainSite : Site where
  actor := { aid := "actor", generation := 1, aid_ne := by decide }
  id := ⟨1, by decide⟩
  remaining := none
  actions := { names := [], notBlank := by simp, notReserved := by simp }
  quote := fun _ => ""

/-- What `DB.Exec` sends for a statement at `plainSite`. -/
def plainExec (sql : String) : Command :=
  { kind := .sqliteExec, aid := encode "actor", generation := 1, sqliteRequestId := 1,
    sql := encode sql, sqlArgs := some [], deadlineMS := 65000 }

theorem plainExec_eq {sql : String} (h : validateSQLiteSQL (encode sql) = .ok ()) :
    (Call.exec none (encode sql) []).command plainSite = .ok (plainExec sql) := by
  rw [Call.command]
  simp only [↓Check.seq_eq_ok, Check.bind_eq_ok, Session.sqliteExec, Session.sqlite_eq_ok]
  exact ⟨h, [], rfl, 65000, by decide, rfl⟩

theorem plainExec_received (sql : String) :
    (plainExec sql).received = some (.sqliteExec 1 "actor" 1 sql [] none 65000) := by
  simp [plainExec, Command.received, Command.received.args, receivedOptional]

theorem select_within_native_limits :
    validateCommand ⟨fun _ => .error "", fun _ => .error ""⟩
      (.sqliteExec 1 "actor" 1 "SELECT 1" [] none 65000) = .ok () :=
  (validateCommand_iff_withinNativeLimits
    (plainExec_eq (validateSQLiteSQL_eq_ok.mpr (by decide)))
    (plainExec_received "SELECT 1")).mpr (by decide : blankBytes (encode "SELECT 1") = false)

/-- A statement of one space passes the SDK and is refused by native. -/
theorem exec_space_not_validated :
    (Call.exec none (encode " ") []).command plainSite = .ok (plainExec " ") ∧
      (plainExec " ").received = some (.sqliteExec 1 "actor" 1 " " [] none 65000) ∧
      ∀ cbor, validateCommand cbor (.sqliteExec 1 "actor" 1 " " [] none 65000) =
        .error "sqlite SQL must not be empty" := by
  refine ⟨plainExec_eq (validateSQLiteSQL_eq_ok.mpr (by decide)), plainExec_received " ", ?_⟩
  intro cbor
  rfl

end RivetGo.Sdk

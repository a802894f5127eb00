import RivetGo.Native.Command

/-!
# From a Go command to a native command

`Command.received` says field by field what native makes of a command that Go
built: strings have to be text, a required byte slice has to be non-nil, and
everything else is carried over. The main result of the module is that this is
what the two codecs do, first on MessagePack values and then on the bytes of a
whole batch.
-/

namespace RivetGo

open MessagePack (Value record)
open MessagePack.Value
open Utf8 (decode?)

/-- An absent value stays absent, a present one has to be received. -/
def receivedOptional {α β : Type} (f : α → Option β) : Option α → Option (Option β)
  | none => some none
  | some x => (f x).map some

def Wire.WireError.received (e : Wire.WireError) : Option Native.WireError := do
  return {
    code := ← decode? e.code
    message := ← decode? e.message
    sqliteCode := e.sqliteCode
    statementIndex := e.statementIndex }

def Wire.SQLiteValue.received (v : Wire.SQLiteValue) : Option Native.SqliteValue :=
  match Native.SqliteKind.ofTag? v.kind with
  | some .null => some .null
  | some .integer => v.integer.map .integer
  | some .real => v.bits.map .real
  | some .text => do return .text (← decode? (← v.text))
  | some .blob => do return .blob (← (← v.blob))
  | none => none

namespace Wire.Command

/-- What native decodes the command to. -/
def received (c : Wire.Command) : Option Native.Command :=
  match c.kind with
  | .actorStartResult => do
      return .actorStartResult (← decode? c.aid) c.generation c.ok c.run (← error)
  | .actorStopResult => do return .actorStopResult (← decode? c.aid) c.generation (← error)
  | .actorRunResult => do return .actorRunResult (← decode? c.aid) c.generation (← error)
  | .alarmHandled => do return .alarmHandled (← decode? c.aid) c.generation (← error)
  | .actionResult => do
      return .actionResult c.callId c.output c.connectionState.join (← error)
  | .connectionResult => do
      return .connectionResult c.operationId c.connectionState.join (← error)
  | .httpResponseStart => do
      return .httpResponseStart c.requestId c.status (← headers) (← c.body) c.stream (← error)
  | .httpResponseChunk => do return .httpResponseChunk c.requestId (← c.body) c.finish
  | .wsOpenResult => do return .wsOpenResult (← decode? c.wsId) c.accept (← error)
  | .wsMessageAck => do return .wsMessageAck (← decode? c.wsId) c.messageIndex
  | .wsSend => do return .wsSend (← decode? c.wsId) (← c.data) c.binary
  | .wsClose => do
      return .wsCloseCmd (← decode? c.wsId) c.closeCode
        (← receivedOptional decode? c.closeReason) c.hibernate
  | .broadcast => do
      return .broadcast (← decode? c.aid) c.generation (← decode? c.event) (← c.payload)
        (← receivedOptional decode? c.excludeConn)
  | .stopIntent => do return .stopIntent (← decode? c.aid)
  | .setAlarm => do
      return .setAlarm c.operationId (← decode? c.aid) c.generation c.alarmTS
  | .sleepIntent => do return .sleepIntent c.operationId (← decode? c.aid) c.generation
  | .destroyIntent => do return .destroyIntent c.operationId (← decode? c.aid) c.generation
  | .scheduleAfter => do
      return .scheduleAfter c.operationId (← decode? c.aid) c.generation c.delayMS
        (← decode? c.action) (← c.scheduleArgs)
  | .scheduleAt => do
      return .scheduleAt c.operationId (← decode? c.aid) c.generation c.runAt
        (← decode? c.action) (← c.scheduleArgs)
  | .scheduleCancel => do
      return .scheduleCancel c.operationId (← decode? c.aid) c.generation
        (← decode? c.scheduleId)
  | .scheduleGet => do
      return .scheduleGet c.operationId (← decode? c.aid) c.generation (← decode? c.scheduleId)
  | .scheduleList => do return .scheduleList c.operationId (← decode? c.aid) c.generation
  | .queueSend => do
      return .queueSend c.operationId (← decode? c.aid) c.generation (← decode? c.name)
        (← c.body)
  | .queueEnqueueWait => do
      return .queueEnqueueWait c.operationId (← decode? c.aid) c.generation (← decode? c.name)
        (← c.body) c.queueTimeoutMS
  | .queueNext => do
      return .queueNext c.operationId (← decode? c.aid) c.generation
        (← (← c.names).mapM decode?) c.queueTimeoutMS c.completable
  | .queueComplete => do
      return .queueComplete c.operationId (← decode? c.aid) c.generation c.messageId
        c.response.join
  | .queueRetry => do
      return .queueRetry c.operationId (← decode? c.aid) c.generation c.messageId
  | .queueCancel => do return .queueCancel (← decode? c.aid) c.generation c.targetOperation
  | .managedWorkBegin => do
      return .managedWorkBegin c.operationId (← decode? c.aid) c.generation c.workId
        (← decode? c.workKind)
  | .managedWorkEnd => do return .managedWorkEnd (← decode? c.aid) c.generation c.workId
  | .saveState => do return .saveState (← decode? c.aid) c.generation (← c.state)
  | .kvGet => do return .kvGet c.kvId (← decode? c.aid) c.generation (← c.key)
  | .kvList => do
      return .kvList c.kvId (← decode? c.aid) c.generation (← c.keyPrefix) c.reverse c.limit
  | .kvPut => do return .kvPut c.kvId (← decode? c.aid) c.generation (← c.key) (← c.value)
  | .kvDelete => do return .kvDelete c.kvId (← decode? c.aid) c.generation (← c.key)
  | .sqliteExec => do
      return .sqliteExec c.sqliteRequestId (← decode? c.aid) c.generation (← decode? c.sql)
        (← args) (← receivedOptional decode? c.leaseKey) c.deadlineMS
  | .sqliteQuery => do
      return .sqliteQuery c.sqliteRequestId (← decode? c.aid) c.generation (← decode? c.sql)
        (← args) (← receivedOptional decode? c.leaseKey) c.deadlineMS
  | .sqliteBegin => do
      return .sqliteBegin c.sqliteRequestId (← decode? c.aid) c.generation (← leaseKey)
        c.timeoutMS c.deadlineMS
  | .sqliteCommit => do
      return .sqliteCommit c.sqliteRequestId (← decode? c.aid) c.generation (← leaseKey)
        c.deadlineMS
  | .sqliteRollback => do
      return .sqliteRollback c.sqliteRequestId (← decode? c.aid) c.generation (← leaseKey)
        c.deadlineMS
where
  error := receivedOptional WireError.received c.error
  headers : Option (List (String × String)) := do
    (← c.headers).mapM fun h => do return (← decode? h.1, ← decode? h.2)
  args : Option (List Native.SqliteValue) := do (← c.sqlArgs).mapM SQLiteValue.received
  leaseKey : Option String := do decode? (← c.leaseKey)

/-- A state that is nil is not received at all. -/
theorem received_eq_none_of_nil_state {c : Wire.Command} (hkind : c.kind = .saveState)
    (hstate : c.state = none) : c.received = none := by
  simp [received, hkind, hstate]

end Wire.Command

/-! ### The codecs agree with it -/

@[simp] theorem receivedOptional_some {α : Type} (x : Option α) :
    receivedOptional some x = some x := by
  cases x <;> rfl

@[simp] theorem bin?_slice (b : Option Bytes) : (Wire.slice b).bin? = b := by
  cases b <;> rfl

@[simp] theorem nullable_bin?_slice (b : Option Bytes) :
    nullable bin? (Wire.slice b) = some b := by
  cases b <;> rfl

@[simp] theorem nullable_bin?_pointer (b : Option (Option Bytes)) :
    nullable bin? (Wire.pointer Wire.slice b) = some b.join := by
  rcases b with _ | _ | b <;> rfl

/-- Reading a pointer reads what it points to, provided a present value is
never written as nil. -/
theorem nullable_pointer {α β : Type} {write : α → Value} {read : Value → Option β}
    {f : α → Option β} (hne : ∀ x, write x ≠ .nil) (hread : ∀ x, read (write x) = f x)
    (x : Option α) : nullable read (Wire.pointer write x) = receivedOptional f x := by
  cases x with
  | none => rfl
  | some x =>
    have hx := hread x
    have hwrite := hne x
    revert hx hwrite
    cases h : write x <;> intro hx hwrite <;>
      first
      | exact absurd rfl hwrite
      | simp [Wire.pointer, receivedOptional, nullable, h, hx]

@[simp] theorem nullable_text?_pointer (b : Option Bytes) :
    nullable text? (Wire.pointer .str b) = receivedOptional decode? b :=
  nullable_pointer (by simp) (fun _ => rfl) b

@[simp] theorem nullable_uint64?_pointer (n : Option UInt64) :
    nullable uint64? (Wire.pointer (fun n => .int n.toNat) n) = some n :=
  (nullable_pointer (by simp) uint64?_int n).trans (receivedOptional_some n)

@[simp] theorem nullable_uint32?_pointer (n : Option UInt32) :
    nullable uint32? (Wire.pointer (fun n => .int n.toNat) n) = some n :=
  (nullable_pointer (by simp) uint32?_int n).trans (receivedOptional_some n)

@[simp] theorem nullable_uint16?_pointer (n : Option UInt16) :
    nullable uint16? (Wire.pointer (fun n => .int n.toNat) n) = some n :=
  (nullable_pointer (by simp) uint16?_int n).trans (receivedOptional_some n)

@[simp] theorem nullable_int64?_pointer (n : Option Int64) :
    nullable int64? (Wire.pointer (fun n => .int n.toInt) n) = some n :=
  (nullable_pointer (by simp) int64?_int n).trans (receivedOptional_some n)

@[simp] theorem read_wireError (e : Wire.WireError) :
    Native.WireError.read e.toValue = e.received := by
  obtain ⟨code, message, sqliteCode, statementIndex⟩ := e
  cases sqliteCode <;> cases statementIndex <;>
    simp [Native.WireError.read, Wire.WireError.toValue, Wire.WireError.received, required,
      defaulted, field_record, Wire.omitEmpty, List.lookup_cons, nullable]

@[simp] theorem nullable_wireError_pointer (e : Option Wire.WireError) :
    nullable Native.WireError.read (Wire.pointer Wire.WireError.toValue e) =
      receivedOptional Wire.WireError.received e :=
  nullable_pointer (by simp [Wire.WireError.toValue, record]) read_wireError e

theorem lookup_omitEmpty {α : Type} (name key : String) (write : α → Value) (x : Option α)
    (rest : List (String × Value)) :
    (Wire.omitEmpty key write x ++ rest).lookup name =
      if name = key then (x.map write).or (rest.lookup name) else rest.lookup name := by
  cases x with
  | none => simp [Wire.omitEmpty]
  | some x =>
    by_cases h : name = key
    · simp [Wire.omitEmpty, h]
    · have hbeq : (name == key) = false := beq_false_of_ne h
      simp [Wire.omitEmpty, List.lookup_cons, h, hbeq]

@[simp] theorem read_sqliteValue (v : Wire.SQLiteValue) :
    Native.SqliteValue.read v.toValue = v.received := by
  obtain ⟨kind, integer, bits, text, blob⟩ := v
  have hfield (name : String) :
      (Wire.SQLiteValue.mk kind integer bits text blob).toValue.field name =
        List.lookup name (("kind", .str (Utf8.encode kind)) ::
          (Wire.omitEmpty "integer" (fun n => .int n.toInt) integer ++
            (Wire.omitEmpty "bits" (fun n => .int n.toNat) bits ++
              (Wire.omitEmpty "text" .str text ++
                (Wire.omitEmpty "blob" Wire.slice blob ++ []))))) := by
    simp [Wire.SQLiteValue.toValue, field_record]
  have hkind : required text? "kind"
      (Wire.SQLiteValue.mk kind integer bits text blob).toValue = some kind := by
    simp [required, hfield]
  rw [Native.SqliteValue.read, hkind]
  simp only [Wire.SQLiteValue.received, required, hfield, List.lookup_cons, lookup_omitEmpty]
  simp only [Option.bind_eq_bind, Option.bind_some]
  cases Native.SqliteKind.ofTag? kind with
  | none => rfl
  | some k =>
    cases k with
    | null => rfl
    | integer => cases integer <;> simp
    | real => cases bits <;> simp
    | text => cases text <;> simp
    | blob => rcases blob with _ | _ | blob <;> simp

@[simp] theorem text?_pointer (b : Option Bytes) :
    (Wire.pointer .str b).text? = b.bind decode? := by
  cases b <;> rfl

@[simp] theorem list?_pointer {α β : Type} (write : α → Value) (read : Value → Option β)
    (xs : Option (List α)) :
    (Wire.pointer (fun xs => .array (xs.map write)) xs).list? read =
      xs.bind fun xs => xs.mapM (read ∘ write) := by
  cases xs with
  | none => rfl
  | some xs => simp [Wire.pointer, List.mapM_map]

@[simp] theorem dict?_pointer (hs : Option (List (Bytes × Bytes))) :
    (Wire.pointer (fun hs => .map (hs.map fun h => (.str h.1, .str h.2))) hs).dict? text? text? =
      hs.bind fun hs => hs.mapM fun h => do return (← decode? h.1, ← decode? h.2) := by
  cases hs with
  | none => rfl
  | some hs => simp [Wire.pointer, dict?, List.mapM_map, Function.comp_def]

theorem field_toValue (c : Wire.Command) (name : String) :
    c.toValue.field name = c.fields.lookup name := field_record name c.fields

/-- Native reads a command as `Command.received` says. -/
theorem read_toValue (c : Wire.Command) : Native.Command.read c.toValue = c.received := by
  have hkind : c.toValue.required text? "kind" = some c.kind.tag := by
    simp [required, field_toValue, Wire.Command.fields]
  rw [Native.Command.read, hkind]
  simp only [Option.bind_eq_bind, Option.bind_some, Wire.CommandKind.ofTag?_tag]
  rw [Wire.Command.received]
  cases c.kind <;>
    simp [Native.Command.readFields, Native.Command.readFields.aid, Native.Command.readFields.gen,
      Native.Command.readFields.error, Native.Command.readFields.opId,
      Native.Command.readFields.wsId, Native.Command.readFields.kvId,
      Native.Command.readFields.requestId, Native.Command.readFields.deadlineMs,
      Native.Command.readFields.queueTimeoutMs, Wire.Command.received.error,
      Wire.Command.received.headers, Wire.Command.received.args, Wire.Command.received.leaseKey,
      Function.comp_def, Option.bind_assoc, required, defaulted, field_toValue,
      Wire.Command.fields, List.lookup_cons]

/-- The commands of a batch that can be encoded are received one by one. -/
theorem decodeCommandBatch_encode {commands : List Wire.Command}
    (hfits : (Wire.batchValue commands).Fits) :
    Native.decodeCommandBatch (Wire.encodeCommandBatch commands) =
      commands.mapM Wire.Command.received := by
  have hread : Native.Command.read ∘ Wire.Command.toValue = Wire.Command.received :=
    funext read_toValue
  rw [Native.decodeCommandBatch, Wire.encodeCommandBatch, MessagePack.decode_encode hfits]
  simp [Wire.batchValue, required, field_record, List.mapM_map, hread]

end RivetGo

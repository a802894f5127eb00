import RivetGo.Socket.Encoder

/-!
# Requests and the schema

The schema of a request, its encoding, and a decoder that is read off the schema: it takes
whatever the schema has, without limits of its own. A string of the schema is UTF-8; the decoder
has what it makes of a string as a parameter, so that the same frames can be read with strings as
plain data.

`Request.frame` is what a request means, with the fields that its kind uses. What `encodeRequest`
returns is the encoding of that frame, so that it can be decoded whenever its strings are text, and
with strings as plain data always. Then no encoding is the beginning of another one, and requests
with the same encoding mean the same.
-/

namespace RivetGo.SocketCodec

open Bare (Decoder Reads fail loop littleEndian ofLittleEndian)
open Wire (SQLiteValue)

/-! ## The schema -/

inductive RequestPayload where
  | sqliteExec (script : Bytes)
  | sqliteQuery (sql : Bytes) (params : List SqlValue)
  | sqliteBegin (leaseKey : Bytes) (timeoutMs : Option UInt64)
  | sqliteCommit (leaseKey : Bytes)
  | sqliteRollback (leaseKey : Bytes)

/-- The type `Request` of the schema, which is the only `ClientFrame`. -/
structure ClientFrame where
  requestId : UInt32
  leaseKey : Option Bytes
  payload : RequestPayload

def encodeU64 (n : UInt64) : Bytes := littleEndian 8 n.toNat

def RequestPayload.encode : RequestPayload → Bytes
  | .sqliteExec script => Bare.uint 0 ++ Bare.data script
  | .sqliteQuery sql params =>
    Bare.uint 1 ++ (Bare.data sql ++ Bare.list SqlValue.encode params)
  | .sqliteBegin leaseKey timeoutMs =>
    Bare.uint 2 ++ (Bare.data leaseKey ++ Bare.optional encodeU64 timeoutMs)
  | .sqliteCommit leaseKey => Bare.uint 3 ++ Bare.data leaseKey
  | .sqliteRollback leaseKey => Bare.uint 4 ++ Bare.data leaseKey

def ClientFrame.body (f : ClientFrame) : Bytes :=
  Bare.uint 0 ++ (littleEndian 4 f.requestId.toNat ++
    (Bare.optional Bare.data f.leaseKey ++ f.payload.encode))

/-- The frame behind the version of its schema. -/
def ClientFrame.encode (f : ClientFrame) : Bytes := littleEndian 2 protocolVersion ++ f.body

/-! ## A decoder for the schema -/

namespace Schema

def data : Decoder Bytes := do take (← uint)

/-- A string has to be UTF-8. -/
def str : Decoder Bytes := do
  let b ← data
  if ¬ Utf8.Valid b then fail "str is not UTF-8" else pure b

def optional {α : Type} (d : Decoder α) : Decoder (Option α) := do
  if ← boolean then return some (← d) else return none

def list {α : Type} (d : Decoder α) : Decoder (List α) := do
  loop (fun acc => do return acc ++ [← d]) (← uint) []

variable (str : Decoder Bytes)

def sqlValue : Decoder SqlValue := do
  match ← uint with
  | 0 => pure .null
  | 1 => do return .integer (← i64)
  | 2 => do return .real (← u64)
  | 3 => do return .text (← str)
  | 4 => do return .blob (← data)
  | _ => fail "unknown SqlValue"

def requestPayload : Decoder RequestPayload := do
  match ← uint with
  | 0 => do return .sqliteExec (← str)
  | 1 => do
      let sql ← str
      let params ← list (sqlValue str)
      return .sqliteQuery sql params
  | 2 => do
      let leaseKey ← str
      let timeoutMs ← optional u64
      return .sqliteBegin leaseKey timeoutMs
  | 3 => do return .sqliteCommit (← str)
  | 4 => do return .sqliteRollback (← str)
  | _ => fail "unknown RequestPayload"

def clientFrame : Decoder ClientFrame := do
  let tag ← uint
  if tag ≠ 0 then fail "unknown ClientFrame"
  else do
    let requestId ← u32
    let leaseKey ← optional str
    let payload ← requestPayload str
    return { requestId := requestId, leaseKey := leaseKey, payload := payload }

end Schema

/-- A whole frame. -/
def decodeClientFrame (str : Decoder Bytes) (b : Bytes) : Except String ClientFrame := do
  let (f, rest) ← Schema.clientFrame str (← versionedDecoder b)
  if rest ≠ [] then .error "ClientFrame has remaining bytes" else .ok f

/-! ## What a request means -/

/-- The value of an argument, by the field that its kind uses. -/
def SQLiteValue.sql (value : SQLiteValue) : Option SqlValue :=
  match value.kind with
  | "null" => some .null
  | "integer" => value.integer.map .integer
  | "real" => value.bits.map .real
  | "text" => value.text.map .text
  | "blob" => value.blob.map fun slice => .blob (slice.getD [])
  | _ => none

/-- The fields that the kind of a request uses. -/
def Request.frame (r : Request) : Option ClientFrame :=
  if r.kind = requestExec then
    some { requestId := r.id, leaseKey := r.leaseKey, payload := .sqliteExec r.sql }
  else if r.kind = requestQuery then
    (r.args.mapM SQLiteValue.sql).map fun params =>
      { requestId := r.id, leaseKey := r.leaseKey, payload := .sqliteQuery r.sql params }
  else if r.kind = requestBegin then
    r.leaseKey.map fun key =>
      { requestId := r.id, leaseKey := none, payload := .sqliteBegin key r.timeoutMS }
  else if r.kind = requestCommit then
    r.leaseKey.map fun key =>
      { requestId := r.id, leaseKey := none, payload := .sqliteCommit key }
  else if r.kind = requestRollback then
    r.leaseKey.map fun key =>
      { requestId := r.id, leaseKey := none, payload := .sqliteRollback key }
  else none

/-! ### Strings -/

def SqlValue.strings : SqlValue → List Bytes
  | .text s => [s]
  | _ => []

def RequestPayload.strings : RequestPayload → List Bytes
  | .sqliteExec script => [script]
  | .sqliteQuery sql params => sql :: params.flatMap SqlValue.strings
  | .sqliteBegin leaseKey _ => [leaseKey]
  | .sqliteCommit leaseKey => [leaseKey]
  | .sqliteRollback leaseKey => [leaseKey]

/-- The values of type `str` in a frame. -/
def ClientFrame.strings (f : ClientFrame) : List Bytes := f.leaseKey.toList ++ f.payload.strings

/-! ## What the decoder reads -/

section Reads

variable {str : Decoder Bytes} {T : Bytes → Prop}

/-- The strings of a value are as `T` says, and a blob is not longer than a length can say. -/
def SqlValue.All (T : Bytes → Prop) : SqlValue → Prop
  | .text s => T s
  | .blob b => b.length < 2 ^ 64
  | _ => True

def RequestPayload.All (T : Bytes → Prop) : RequestPayload → Prop
  | .sqliteExec script => T script
  | .sqliteQuery sql params => T sql ∧ params.length < 2 ^ 64 ∧ ∀ v ∈ params, v.All T
  | .sqliteBegin leaseKey _ => T leaseKey
  | .sqliteCommit leaseKey => T leaseKey
  | .sqliteRollback leaseKey => T leaseKey

def ClientFrame.All (T : Bytes → Prop) (f : ClientFrame) : Prop :=
  (∀ key ∈ f.leaseKey, T key) ∧ f.payload.All T

theorem Schema.reads_data (b : Bytes) :
    Reads Schema.data (Bare.data b) b (b.length < 2 ^ 64) :=
  Reads.congr (Reads.bind (reads_uint b.length) (reads_take rfl)) (and_iff_left trivial)

theorem Schema.reads_str (b : Bytes) :
    Reads Schema.str (Bare.data b) b (b.length < 2 ^ 64 ∧ Utf8.Valid b) := by
  refine Reads.congr (Reads.map (Schema.reads_data b) (Reads.ite_fail fun _ => Reads.pure)) ?_
  rw [not_not, and_iff_left trivial]

theorem Schema.reads_optional {α : Type} {d : Decoder α} {encode : α → Bytes} {p : α → Prop}
    (h : ∀ v, Reads d (encode v) v (p v)) (x : Option α) :
    Reads (Schema.optional d) (Bare.optional encode x) x (∀ v ∈ x, p v) := by
  cases x with
  | none =>
    refine Reads.congr (Reads.map (reads_boolean (b := 0) (by decide)) Reads.pure) ?_
    exact iff_of_true ⟨trivial, trivial⟩ (by simp)
  | some v =>
    refine Reads.congr (Reads.andThen (reads_boolean (b := 1) (by decide))
      ((h v).value some)) ?_
    simp

theorem Schema.reads_list {α : Type} {d : Decoder α} {encode : α → Bytes} {p : α → Prop}
    (h : ∀ v, Reads d (encode v) v (p v)) (xs : List α) :
    Reads (Schema.list d) (Bare.list encode xs) xs (xs.length < 2 ^ 64 ∧ ∀ v ∈ xs, p v) := by
  have hbody (acc : List α) (v : α) :
      Reads (do return acc ++ [← d]) (encode v) (acc ++ [v]) (p v) :=
    (h v).value fun v => acc ++ [v]
  have hloop := Reads.loop hbody xs []
  rw [foldl_append, List.nil_append, List.flatMap_singleton'] at hloop
  exact Reads.bind (reads_uint xs.length) hloop

variable (hstr : ∀ b, Reads str (Bare.data b) b (T b))
include hstr

theorem Schema.reads_sqlValue (v : SqlValue) :
    Reads (Schema.sqlValue str) v.encode v (v.All T) := by
  have htag {n : Nat} (hn : n ≤ 4) : Reads uint (Bare.uint n) n True := reads_tag (by omega)
  cases v with
  | null => exact Reads.congr (Reads.map (htag (by decide)) Reads.pure) (and_iff_left trivial)
  | integer n => exact Reads.andThen (htag (by decide)) ((reads_i64 n).value SqlValue.integer)
  | real bits => exact Reads.andThen (htag (by decide)) ((reads_u64 bits).value SqlValue.real)
  | text s => exact Reads.andThen (htag (by decide)) ((hstr s).value SqlValue.text)
  | blob b => exact Reads.andThen (htag (by decide)) ((Schema.reads_data b).value SqlValue.blob)

theorem Schema.reads_requestPayload (p : RequestPayload) :
    Reads (Schema.requestPayload str) p.encode p (p.All T) := by
  have htag {n : Nat} (hn : n ≤ 4) : Reads uint (Bare.uint n) n True := reads_tag (by omega)
  cases p with
  | sqliteExec script =>
    exact Reads.andThen (htag (by decide)) ((hstr script).value RequestPayload.sqliteExec)
  | sqliteQuery sql params =>
    exact Reads.andThen (htag (by decide)) (Reads.bind (hstr sql)
      ((Schema.reads_list (Schema.reads_sqlValue hstr) params).value
        (RequestPayload.sqliteQuery sql)))
  | sqliteBegin leaseKey timeoutMs =>
    refine Reads.congr (Reads.andThen (htag (by decide)) (Reads.bind (hstr leaseKey)
      ((Schema.reads_optional reads_u64 timeoutMs).value
        (RequestPayload.sqliteBegin leaseKey)))) ?_
    exact and_iff_left fun _ _ => trivial
  | sqliteCommit leaseKey =>
    exact Reads.andThen (htag (by decide)) ((hstr leaseKey).value RequestPayload.sqliteCommit)
  | sqliteRollback leaseKey =>
    exact Reads.andThen (htag (by decide)) ((hstr leaseKey).value RequestPayload.sqliteRollback)

theorem Schema.reads_clientFrame (f : ClientFrame) :
    Reads (Schema.clientFrame str) f.body f (f.All T) := by
  refine Reads.congr (Reads.andThen (reads_tag (by decide)) (Reads.andThen (reads_u32 f.requestId)
    (Reads.bind (Schema.reads_optional hstr f.leaseKey)
      ((Schema.reads_requestPayload hstr f.payload).value
        (ClientFrame.mk f.requestId f.leaseKey))))) ?_
  exact Iff.rfl

end Reads

/-! ## What the encoder writes -/

/-- As long as a length can say. -/
def Counted (b : Bytes) : Prop := b.length < 2 ^ 64

theorem encodeUint_ofNat {n : Nat} (h : n < 2 ^ 64) :
    encodeUint (UInt64.ofNat n) = Bare.uint n := by
  rw [encodeUint_eq, UInt64.toNat_ofNat_of_lt' h]

theorem encodeString_eq {b : Bytes} (h : Counted b) : encodeString b = Bare.data b := by
  rw [encodeString, encodeUint_ofNat h, Bare.data]

theorem encodeOptionalString_eq {x : Option Bytes} (h : ∀ b ∈ x, Counted b) :
    encodeOptionalString x = Bare.optional Bare.data x := by
  cases x with
  | none => rfl
  | some b => rw [encodeOptionalString, encodeString_eq (h b rfl), Bare.optional]

theorem counted_of_le {b : Bytes} (h : ¬ maxValueBytes < b.length) : Counted b :=
  Nat.lt_of_le_of_lt (Nat.le_of_not_lt h) (by decide)

theorem encodeSqlValue_eq_ok {value : SQLiteValue} {b : Bytes} (h : encodeSqlValue value = .ok b) :
    ∃ v, SQLiteValue.sql value = some v ∧ b = v.encode ∧ v.All Counted := by
  obtain ⟨kind, integer, bits, text, blob⟩ := value
  unfold encodeSqlValue at h
  dsimp only at h
  split at h
  · obtain rfl := Except.ok.inj h
    exact ⟨.null, rfl, encodeUint_eq 0, trivial⟩
  · cases integer with
    | none => cases h
    | some n =>
      obtain rfl := Except.ok.inj h
      exact ⟨.integer n, rfl, by rw [encodeUint_eq]; rfl, trivial⟩
  · cases bits with
    | none => cases h
    | some bits =>
      obtain rfl := Except.ok.inj h
      exact ⟨.real bits, rfl, by rw [encodeUint_eq]; rfl, trivial⟩
  · cases text with
    | none => cases h
    | some text =>
      dsimp only at h
      split_ifs at h with hlong
      obtain rfl := Except.ok.inj h
      refine ⟨.text text, rfl, ?_, counted_of_le hlong⟩
      rw [encodeUint_eq, encodeString_eq (counted_of_le hlong)]
      rfl
  · cases blob with
    | none => cases h
    | some slice =>
      dsimp only at h
      split_ifs at h with hlong
      obtain rfl := Except.ok.inj h
      refine ⟨.blob (slice.getD []), rfl, ?_, counted_of_le hlong⟩
      rw [encodeUint_eq, encodeUint_ofNat (counted_of_le hlong)]
      rfl
  · cases h

theorem encodeArgs_eq_ok {args : List SQLiteValue} {b : Bytes} (h : encodeArgs args = .ok b) :
    ∃ params, args.mapM SQLiteValue.sql = some params ∧ b = params.flatMap SqlValue.encode ∧
      params.length = args.length ∧ ∀ v ∈ params, v.All Counted := by
  induction args generalizing b with
  | nil =>
    obtain rfl := Except.ok.inj h
    exact ⟨[], rfl, rfl, rfl, List.forall_mem_nil _⟩
  | cons arg args ih =>
    rw [encodeArgs, Check.bind_eq_ok] at h
    obtain ⟨first, hfirst, h⟩ := h
    obtain ⟨rest, hrest, h⟩ := Check.bind_eq_ok.mp h
    obtain rfl := Except.ok.inj h
    obtain ⟨v, hv, rfl, hall⟩ := encodeSqlValue_eq_ok hfirst
    obtain ⟨params, hparams, rfl, hlength, halls⟩ := ih hrest
    refine ⟨v :: params, ?_, rfl, congrArg Nat.succ hlength, ?_⟩
    · rw [List.mapM_cons, hv, hparams]
      rfl
    · exact List.forall_mem_cons.mpr ⟨hall, halls⟩

theorem Request.counted_sql (r : Request) : Counted r.sql := r.sql_lt.trans (by decide)

theorem Request.counted_leaseKey (r : Request) : ∀ key ∈ r.leaseKey, Counted key :=
  fun key hkey => (r.leaseKey_lt key hkey).trans (by decide)

theorem encodeSelector_statement {r : Request}
    (h : r.kind = requestExec ∨ r.kind = requestQuery) :
    encodeSelector r = Bare.optional Bare.data r.leaseKey := by
  have hother : ¬ (r.kind = requestBegin ∨ r.kind = requestCommit ∨ r.kind = requestRollback) := by
    obtain h | h := h <;> rw [h] <;> decide
  rw [encodeSelector, if_neg hother, encodeOptionalString_eq r.counted_leaseKey]

theorem encodeSelector_transaction {r : Request}
    (h : r.kind = requestBegin ∨ r.kind = requestCommit ∨ r.kind = requestRollback) :
    encodeSelector r = Bare.optional Bare.data none := by
  rw [encodeSelector, if_pos h]
  rfl

/-- What an accepted request puts behind its ID is the lease key and the payload of its frame. -/
theorem encodePayload_eq_ok {r : Request} {b : Bytes} (hargs : r.args.length ≤ maxParameters)
    (h : encodePayload r = .ok b) :
    ∃ f, r.frame = some f ∧ f.requestId = r.id ∧ f.All Counted ∧
      encodeSelector r ++ (encodeUint r.kind.toUInt64 ++ b) =
        Bare.optional Bare.data f.leaseKey ++ f.payload.encode := by
  unfold encodePayload at h
  unfold Request.frame
  split_ifs at h with hexec hquery hbegin hfinish
  · obtain rfl := Except.ok.inj h
    rw [if_pos hexec, encodeSelector_statement (.inl hexec), hexec, encodeUint_eq,
      encodeString_eq r.counted_sql]
    exact ⟨_, rfl, rfl, ⟨r.counted_leaseKey, r.counted_sql⟩, rfl⟩
  · obtain ⟨args, hencode, h⟩ := Check.bind_eq_ok.mp h
    obtain rfl := Except.ok.inj h
    obtain ⟨params, hparams, rfl, hlength, hall⟩ := encodeArgs_eq_ok hencode
    have hcount : r.args.length < 2 ^ 64 := Nat.lt_of_le_of_lt hargs (by decide)
    rw [if_neg hexec, if_pos hquery, hparams, encodeSelector_statement (.inr hquery), hquery,
      encodeUint_eq, encodeString_eq r.counted_sql, encodeUint_ofNat hcount, ← hlength]
    exact ⟨_, rfl, rfl, ⟨r.counted_leaseKey, r.counted_sql, hlength ▸ hcount, hall⟩, rfl⟩
  · rw [if_neg hexec, if_neg hquery, if_pos hbegin, encodeSelector_transaction (.inl hbegin)]
    have hcounted := r.counted_leaseKey
    cases hkey : r.leaseKey with
    | none =>
      rw [hkey] at h
      cases h
    | some key =>
      rw [hkey] at h hcounted
      obtain rfl := Except.ok.inj h
      refine ⟨_, rfl, rfl, ⟨by simp, hcounted key rfl⟩, ?_⟩
      rw [hbegin, encodeUint_eq, encodeString_eq (hcounted key rfl)]
      cases r.timeoutMS <;> rfl
  · rw [if_neg hexec, if_neg hquery, if_neg hbegin, encodeSelector_transaction (.inr hfinish)]
    have hcounted := r.counted_leaseKey
    cases hkey : r.leaseKey with
    | none =>
      rw [hkey] at h
      cases h
    | some key =>
      rw [hkey] at h hcounted
      obtain rfl := Except.ok.inj h
      rw [encodeUint_eq, encodeString_eq (hcounted key rfl)]
      obtain hcommit | hrollback := hfinish
      · rw [if_pos hcommit, hcommit]
        exact ⟨_, rfl, rfl, ⟨by simp, hcounted key rfl⟩, rfl⟩
      · rw [if_neg (by rw [hrollback]; decide), if_pos hrollback, hrollback]
        exact ⟨_, rfl, rfl, ⟨by simp, hcounted key rfl⟩, rfl⟩

/-- An accepted request is written as its frame. -/
theorem encodeRequest_eq_ok {r : Request} {b : Bytes} (h : encodeRequest r = .ok b) :
    ∃ f, r.frame = some f ∧ f.All Counted ∧ b = f.encode := by
  unfold encodeRequest at h
  split_ifs at h with hid hargs
  obtain ⟨payload, hpayload, h⟩ := Check.bind_eq_ok.mp h
  obtain rfl := Except.ok.inj h
  obtain ⟨f, hf, hfid, hall, hbytes⟩ := encodePayload_eq_ok (Nat.le_of_not_lt hargs) hpayload
  refine ⟨f, hf, hall, ?_⟩
  rw [hbytes, encodeUint_eq, ClientFrame.encode, ClientFrame.body, hfid]
  rfl

/-! ## Whole frames -/

theorem decodeClientFrame_eq_ok {str : Decoder Bytes} {b : Bytes} {f : ClientFrame} :
    decodeClientFrame str b = .ok f ↔
      ∃ s, b = littleEndian 2 protocolVersion ++ s ∧ Schema.clientFrame str s = .ok (f, []) := by
  simp only [decodeClientFrame, Check.bind_eq_ok, versionedDecoder_eq_ok]
  constructor
  · rintro ⟨s, hb, ⟨g, rest⟩, hframe, h⟩
    split_ifs at h with hrest
    obtain rfl := Except.ok.inj h
    obtain rfl := not_not.mp hrest
    exact ⟨s, hb, hframe⟩
  · rintro ⟨s, hb, hframe⟩
    exact ⟨s, hb, (f, []), hframe, rfl⟩

/-- The encoding of a frame, and something behind it, is decoded only to that frame. -/
theorem decodeClientFrame_encode_append {str : Decoder Bytes} {T : Bytes → Prop}
    (hstr : ∀ b, Reads str (Bare.data b) b (T b)) (f g : ClientFrame) (x : Bytes) :
    decodeClientFrame str (f.encode ++ x) = .ok g ↔ f.All T ∧ g = f ∧ x = [] := by
  rw [decodeClientFrame_eq_ok]
  constructor
  · rintro ⟨s, hs, hframe⟩
    rw [ClientFrame.encode, List.append_assoc] at hs
    obtain rfl := List.append_cancel_left hs
    obtain ⟨hall, hg⟩ := (Schema.reads_clientFrame hstr f x (g, [])).mp hframe
    exact ⟨hall, (Prod.mk.inj hg).1, (Prod.mk.inj hg).2.symm⟩
  · rintro ⟨hall, rfl, rfl⟩
    exact ⟨g.body, by rw [List.append_nil, ClientFrame.encode],
      (List.append_nil g.body) ▸ (Schema.reads_clientFrame hstr g).eq_ok hall⟩

theorem decodeClientFrame_encode {str : Decoder Bytes} {T : Bytes → Prop}
    (hstr : ∀ b, Reads str (Bare.data b) b (T b)) (f g : ClientFrame) :
    decodeClientFrame str f.encode = .ok g ↔ f.All T ∧ g = f := by
  have h := decodeClientFrame_encode_append hstr f g []
  rwa [List.append_nil, and_iff_left rfl] at h

/-! ### Strings that are text -/

theorem SqlValue.all_and {T U : Bytes → Prop} (v : SqlValue) :
    v.All (fun s => T s ∧ U s) ↔ v.All T ∧ ∀ s ∈ v.strings, U s := by
  cases v <;> simp [SqlValue.All, SqlValue.strings]

theorem RequestPayload.all_and {T U : Bytes → Prop} (p : RequestPayload) :
    p.All (fun s => T s ∧ U s) ↔ p.All T ∧ ∀ s ∈ p.strings, U s := by
  cases p with
  | sqliteQuery sql params =>
    simp only [RequestPayload.All, RequestPayload.strings, SqlValue.all_and, List.mem_cons,
      forall_eq_or_imp, List.mem_flatMap]
    constructor
    · rintro ⟨⟨hT, hU⟩, hlength, hall⟩
      refine ⟨⟨hT, hlength, fun v hv => (hall v hv).1⟩, hU, ?_⟩
      rintro s ⟨v, hv, hs⟩
      exact (hall v hv).2 s hs
    · rintro ⟨⟨hT, hlength, hall⟩, hU, hstrings⟩
      exact ⟨⟨hT, hU⟩, hlength, fun v hv => ⟨hall v hv, fun s hs => hstrings s ⟨v, hv, hs⟩⟩⟩
  | _ => simp [RequestPayload.All, RequestPayload.strings]

theorem ClientFrame.all_and {T U : Bytes → Prop} (f : ClientFrame) :
    f.All (fun s => T s ∧ U s) ↔ f.All T ∧ ∀ s ∈ f.strings, U s := by
  simp only [ClientFrame.All, ClientFrame.strings, RequestPayload.all_and, List.mem_append,
    Option.mem_toList, or_imp, forall_and]
  exact and_and_and_comm

/-- What `encodeRequest` returns is decoded to what the request means: by the schema exactly if its
strings are text, and with its strings as data always. Requests with the same encoding mean the
same, and no encoding is the beginning of another one. -/
theorem encodeRequest_faithful (r : Request) (b : Bytes) (h : encodeRequest r = .ok b) :
    (∃ f, r.frame = some f ∧ decodeClientFrame Schema.data b = .ok f ∧
      (decodeClientFrame Schema.str b = .ok f ↔ ∀ s ∈ f.strings, Utf8.Valid s)) ∧
    ∀ r' b', encodeRequest r' = .ok b' →
      (b = b' → r.frame = r'.frame) ∧ ∀ x, b ++ x = b' → x = [] := by
  obtain ⟨f, hf, hall, rfl⟩ := encodeRequest_eq_ok h
  refine ⟨⟨f, hf, ?_, ?_⟩, ?_⟩
  · exact (decodeClientFrame_encode Schema.reads_data f f).mpr ⟨hall, rfl⟩
  · rw [decodeClientFrame_encode Schema.reads_str, and_iff_left rfl]
    exact f.all_and.trans (and_iff_right hall)
  · intro r' b' h'
    obtain ⟨f', hf', hall', rfl⟩ := encodeRequest_eq_ok h'
    -- the second encoding, read as the first one and what follows it
    have hread (x : Bytes) (hx : f.encode ++ x = f'.encode) : f' = f ∧ x = [] := by
      have hdecode := (decodeClientFrame_encode Schema.reads_data f' f').mpr ⟨hall', rfl⟩
      rw [← hx] at hdecode
      exact ((decodeClientFrame_encode_append Schema.reads_data f f' x).mp hdecode).2
    refine ⟨fun hsame => ?_, fun x hx => (hread x hx).2⟩
    rw [hf, hf', (hread [] (by rw [List.append_nil, hsame])).1]

/-! ### Two requests -/

theorem select_lt : (Utf8.encode "SELECT ?").length < 2 ^ 63 := by
  decide

theorem none_lt : ∀ key ∈ (none : Option Bytes), key.length < 2 ^ 63 := by
  simp

/-- A query with a null, an empty text and a blob that is a nil slice. -/
def queryOfEmpty : Request where
  id := 7
  kind := requestQuery
  sql := Utf8.encode "SELECT ?"
  args := [{ kind := "null" }, { kind := "text", text := some [] },
    { kind := "blob", blob := some none }]
  sql_lt := select_lt
  leaseKey_lt := none_lt

theorem queryOfEmpty_faithful :
    ∃ b, encodeRequest queryOfEmpty = .ok b ∧ decodeClientFrame Schema.str b = .ok
      { requestId := 7
        leaseKey := none
        payload := .sqliteQuery (Utf8.encode "SELECT ?") [.null, .text [], .blob []] } := by
  obtain ⟨⟨f, hf, -, hdecode⟩, -⟩ := encodeRequest_faithful queryOfEmpty _ rfl
  obtain rfl := Option.some.inj hf
  refine ⟨_, rfl, hdecode.mpr ?_⟩
  intro s hs
  have hs : s ∈ [Utf8.encode "SELECT ?", []] := hs
  simp only [List.mem_cons, List.not_mem_nil, or_false] at hs
  obtain rfl | rfl := hs
  · exact Utf8.valid_encode "SELECT ?"
  · exact Utf8.valid_encode ""

theorem byte_lt : ([0xff] : Bytes).length < 2 ^ 63 := by
  decide

/-- A statement that is not UTF-8. -/
def execOfByte : Request where
  id := 7
  kind := requestExec
  sql := [0xff]
  sql_lt := byte_lt
  leaseKey_lt := none_lt

/-- It is accepted, and what is written is no frame of the schema. -/
theorem execOfByte_not_decoded :
    ∃ b, encodeRequest execOfByte = .ok b ∧
      ∀ f, decodeClientFrame Schema.str b ≠ .ok f := by
  have haccepted : ∃ b, encodeRequest execOfByte = .ok b := ⟨_, rfl⟩
  obtain ⟨b, hb⟩ := haccepted
  refine ⟨b, hb, fun g hg => ?_⟩
  obtain ⟨f, hf, -, rfl⟩ := encodeRequest_eq_ok hb
  obtain rfl := Option.some.inj hf
  have hall := ((decodeClientFrame_encode Schema.reads_str _ g).mp hg).1
  exact absurd hall.2.2 (show ¬ Utf8.Valid [0xff] by decide)

end RivetGo.SocketCodec

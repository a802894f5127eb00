import RivetGo.Data.Check
import RivetGo.Socket.Codec

/-!
# The decoder of responses and the schema

What each decoder reads is stated on the encoding of the schema, with the condition under which it
succeeds; the decoder of a whole frame is put together from them. A list that claims more elements
than there are bytes is no encoding, because every element takes a byte, so the checks against the
remaining bytes never refuse one.
-/

namespace RivetGo.SocketCodec

open Bare (Decoder Reads Stable fail remaining loop littleEndian ofLittleEndian)
open Wire (SQLiteValue WireError)

variable {α : Type} {b s : Bytes} {n maximum : Nat} {k : Nat → Decoder α} {v : α} {P : Prop}

/-! ## Numbers -/

theorem reads_take (h : b.length = n) : Reads (take n) b b True := by
  intro s r
  have hlong : ¬ (b ++ s).length < n := by
    rw [List.length_append]
    omega
  have htake : take n (b ++ s) = .ok (b, s) := by
    rw [take, if_neg hlong, ← h, List.take_left, List.drop_left]
  rw [htake]
  exact Bare.ok_eq_iff trivial

/-- The bits of a part are above those of the value so far. -/
theorem or_part {value part shift : Nat} (hvalue : value < 2 ^ shift)
    (hpart : part * 2 ^ shift < 2 ^ 64) :
    value ||| (part <<< shift) % 2 ^ 64 = value + part * 2 ^ shift := by
  rw [Nat.shiftLeft_eq, Nat.mod_eq_of_lt hpart, Nat.mul_comm part, Nat.or_comm,
    ← Nat.two_pow_add_eq_or_of_lt hvalue, Nat.add_comm]

/-- One pass of the loop of `uint`. -/
theorem uintLoop_cons (passes shift value : Nat) (part : UInt8) (s : Bytes) :
    uintLoop (passes + 1) shift value (part :: s) =
      if shift = 63 ∧ 1 < part.toNat then .error "BARE uint overflows u64"
      else if part.toNat < 0x80 then
        .ok (value ||| ((part.toNat &&& 0x7f) <<< shift) % 2 ^ 64, s)
      else
        uintLoop passes (shift + 7) (value ||| ((part.toNat &&& 0x7f) <<< shift) % 2 ^ 64) s := by
  have htake : take 1 (part :: s) = .ok ([part], s) :=
    (reads_take (b := [part]) rfl).eq_ok trivial
  rw [uintLoop, Bare.bind_of_eq_ok htake]
  change (if shift = 63 ∧ 1 < part.toNat then fail "BARE uint overflows u64"
    else if part.toNat < 0x80 then pure (value ||| ((part.toNat &&& 0x7f) <<< shift) % 2 ^ 64)
    else uintLoop passes (shift + 7) (value ||| ((part.toNat &&& 0x7f) <<< shift) % 2 ^ 64) :
      Decoder Nat) s = _
  rw [Bare.ite_decoder, Bare.ite_decoder]
  rfl

/-- The value after a part, and that it has room for the next one. -/
theorem or_part_lt {value p i : Nat} (hi : i < 9) (hvalue : value < 2 ^ (7 * i)) :
    value ||| ((p &&& 0x7f) <<< (7 * i)) % 2 ^ 64 = value + p % 0x80 * 2 ^ (7 * i) ∧
      value + p % 0x80 * 2 ^ (7 * i) < 2 ^ (7 * (i + 1)) := by
  have hmask : p &&& 0x7f = p % 0x80 := Nat.and_two_pow_sub_one_eq_mod p 7
  have hlow : p % 0x80 + 1 ≤ 2 ^ 7 := Nat.mod_lt p (by decide)
  have hnext : value + p % 0x80 * 2 ^ (7 * i) < 2 ^ (7 * (i + 1)) := by
    calc value + p % 0x80 * 2 ^ (7 * i) < (p % 0x80 + 1) * 2 ^ (7 * i) := by
          rw [Nat.add_mul, Nat.one_mul]
          omega
      _ ≤ 2 ^ 7 * 2 ^ (7 * i) := Nat.mul_le_mul_right _ hlow
      _ = 2 ^ (7 * (i + 1)) := by rw [← Nat.pow_add, Nat.mul_succ, Nat.add_comm]
  have hle : 2 ^ (7 * (i + 1)) ≤ 2 ^ 64 := Nat.pow_le_pow_right (by decide) (by omega)
  refine ⟨?_, hnext⟩
  rw [hmask]
  exact or_part hvalue (by omega)

/-- The tenth pass takes one bit. -/
theorem reads_uintLoop_tenth {value : Nat} (hvalue : value < 2 ^ 63) (n : Nat) :
    Reads (uintLoop 1 63 value) (Bare.uint n) (value + n * 2 ^ 63) (n < 2) := by
  intro s r
  rw [Bare.uint]
  split_ifs with hn
  · have hbyte : (UInt8.ofNat n).toNat = n := UInt8.toNat_ofNat_of_lt' (n.lt_trans hn (by decide))
    rw [List.cons_append, List.nil_append, uintLoop_cons, hbyte]
    by_cases hone : 1 < n
    · rw [if_pos ⟨rfl, hone⟩]
      exact iff_of_false (fun h => by cases h) (fun h => by omega)
    · have hmask : n &&& 0x7f = n :=
        (Nat.and_two_pow_sub_one_eq_mod n 7).trans (Nat.mod_eq_of_lt hn)
      rw [if_neg fun h => hone h.2, if_pos hn, hmask, or_part hvalue (by omega)]
      exact Bare.ok_eq_iff (by omega)
  · have hbyte : (UInt8.ofNat (n % 0x80 + 0x80)).toNat = n % 0x80 + 0x80 :=
      UInt8.toNat_ofNat_of_lt' (show n % 0x80 + 0x80 < 256 by omega)
    rw [List.cons_append, uintLoop_cons, hbyte, if_pos ⟨rfl, by omega⟩]
    exact iff_of_false (fun h => by cases h) (fun h => by omega)

/-- The passes that are left read a number of the bits from `7 * i` on, if they are enough. -/
theorem reads_uintLoop {passes i value : Nat} (hpasses : passes + i = 9)
    (hvalue : value < 2 ^ (7 * i)) (n : Nat) :
    Reads (uintLoop (passes + 1) (7 * i) value) (Bare.uint n) (value + n * 2 ^ (7 * i))
      (n < 2 ^ (64 - 7 * i)) := by
  induction passes generalizing i n value with
  | zero =>
    obtain rfl : i = 9 := by omega
    exact reads_uintLoop_tenth hvalue n
  | succ passes ih =>
    have hi : i < 9 := by omega
    have hshift : ¬ 7 * i = 63 := by omega
    intro s r
    rw [Bare.uint]
    split_ifs with hn
    · have hbyte : (UInt8.ofNat n).toNat = n :=
        UInt8.toNat_ofNat_of_lt' (n.lt_trans hn (by decide))
      have hlarge : 2 ^ 8 ≤ 2 ^ (64 - 7 * i) := Nat.pow_le_pow_right (by decide) (by omega)
      have hnext := (or_part_lt (p := n) hi hvalue).1
      rw [Nat.mod_eq_of_lt hn] at hnext
      rw [List.cons_append, List.nil_append, uintLoop_cons, hbyte, if_neg (fun h => hshift h.1),
        if_pos hn, hnext]
      exact Bare.ok_eq_iff (by omega)
    · have hbyte : (UInt8.ofNat (n % 0x80 + 0x80)).toNat = n % 0x80 + 0x80 :=
        UInt8.toNat_ofNat_of_lt' (show n % 0x80 + 0x80 < 256 by omega)
      obtain ⟨hvalue', hroom⟩ := or_part_lt (p := n % 0x80 + 0x80) hi hvalue
      have hlow : (n % 0x80 + 0x80) % 0x80 = n % 0x80 := by omega
      rw [hlow] at hvalue' hroom
      rw [List.cons_append, uintLoop_cons, hbyte, if_neg (fun h => hshift h.1),
        if_neg (by omega), hvalue', ← Nat.mul_succ, ih (by omega) hroom (n / 0x80) s r]
      have hpow : 2 ^ (7 * (i + 1)) = 0x80 * 2 ^ (7 * i) := by
        rw [Nat.mul_succ, Nat.pow_add, Nat.mul_comm]
      have hsum : value + n % 0x80 * 2 ^ (7 * i) + n / 0x80 * 2 ^ (7 * (i + 1)) =
          value + n * 2 ^ (7 * i) := by
        conv_rhs => rw [← Nat.mod_add_div n 0x80]
        rw [hpow]
        ring
      have hbound : n / 0x80 < 2 ^ (64 - 7 * (i + 1)) ↔ n < 2 ^ (64 - 7 * i) := by
        rw [Nat.div_lt_iff_lt_mul (by decide), show 64 - 7 * i = 64 - 7 * (i + 1) + 7 by omega,
          Nat.pow_add]
      rw [hsum, hbound]

theorem reads_uint (n : Nat) : Reads uint (Bare.uint n) n (n < 2 ^ 64) := by
  have h := reads_uintLoop (Nat.add_zero 9) Nat.one_pos n
  rwa [Nat.zero_add, Nat.mul_zero, Nat.pow_zero, Nat.mul_one] at h

theorem reads_tag (h : n < 2 ^ 64) : Reads uint (Bare.uint n) n True :=
  (reads_uint n).congr (iff_true_intro h)

theorem reads_fixed {w : Nat} {f : Nat → α} (h : n < 256 ^ w) :
    Reads (take w >>= fun data => pure (f (ofLittleEndian data))) (littleEndian w n) (f n)
      True := by
  have hread := (reads_take (Bare.length_littleEndian w n)).value
    fun data => f (ofLittleEndian data)
  rwa [Bare.ofLittleEndian_littleEndian h] at hread

theorem reads_u32 (x : UInt32) : Reads u32 (littleEndian 4 x.toNat) x True := by
  have hread := reads_fixed (w := 4) (f := UInt32.ofNat) x.toNat_lt
  rwa [UInt32.ofNat_toNat] at hread

theorem reads_u64 (x : UInt64) : Reads u64 (littleEndian 8 x.toNat) x True := by
  have hread := reads_fixed (w := 8) (f := UInt64.ofNat) x.toNat_lt
  rwa [UInt64.ofNat_toNat] at hread

theorem reads_i32 (x : Int32) : Reads i32 (littleEndian 4 x.toUInt32.toNat) x True := by
  have hread := reads_fixed (w := 4) (f := fun n => (UInt32.ofNat n).toInt32) x.toUInt32.toNat_lt
  rwa [UInt32.ofNat_toNat, Int32.toInt32_toUInt32] at hread

theorem reads_i64 (x : Int64) : Reads i64 (encodeI64 x) x True := by
  have hread := (reads_u64 x.toUInt64).value UInt64.toInt64
  rwa [Int64.toInt64_toUInt64] at hread

theorem reads_boolean {b : UInt8} (hb : ¬ 1 < b.toNat) :
    Reads boolean [b] (b.toNat == 1) True :=
  Reads.congr (Reads.map (reads_take rfl) (Reads.ite_fail fun _ => Reads.pure))
    (iff_true_intro ⟨trivial, hb, trivial⟩)

theorem reads_lastInsertId (x : Option Int64) :
    Reads decodeLastInsertId (Bare.optional encodeI64 x) x True := by
  cases x with
  | none =>
    exact Reads.congr (Reads.map (reads_boolean (b := 0) (by decide)) Reads.pure)
      (and_iff_left trivial)
  | some x => exact Reads.andThen (reads_boolean (b := 1) (by decide)) ((reads_i64 x).value some)

/-! ## Strings and values -/

theorem length_eq_ok {s' : Bytes} : length maximum s = .ok (n, s') ↔
    uint s = .ok (n, s') ∧ n ≤ maximum ∧ n ≤ s'.length := by
  rw [length, Bare.bind_eq_ok]
  constructor
  · rintro ⟨m, t, hm, h⟩
    rw [Bare.bind_of_eq_ok (v := t.length) rfl, Bare.ite_decoder] at h
    split_ifs at h with hlimit
    · cases h
    · obtain ⟨rfl, rfl⟩ := Prod.mk.inj (Except.ok.inj h)
      exact ⟨hm, by omega, by omega⟩
  · rintro ⟨hn, hmaximum, hleft⟩
    refine ⟨n, s', hn, ?_⟩
    rw [Bare.bind_of_eq_ok (v := s'.length) rfl, Bare.ite_decoder, if_neg (by omega)]
    rfl

/-- A length in front of at least as many bytes. -/
theorem reads_length (hk : Reads (k n) b v P) (hle : n ≤ b.length) :
    Reads (length maximum >>= k) (Bare.uint n ++ b) v ((n < 2 ^ 64 ∧ n ≤ maximum) ∧ P) := by
  intro s r
  rw [List.append_assoc, Bare.bind_eq_ok]
  constructor
  · rintro ⟨m, t, hm, hr⟩
    obtain ⟨hu, hmaximum, -⟩ := length_eq_ok.mp hm
    obtain ⟨hlt, heq⟩ := (reads_uint n (b ++ s) (m, t)).mp hu
    obtain ⟨rfl, rfl⟩ := Prod.mk.inj heq
    obtain ⟨hP, hr⟩ := (hk s r).mp hr
    exact ⟨⟨⟨hlt, hmaximum⟩, hP⟩, hr⟩
  · rintro ⟨⟨⟨hlt, hmaximum⟩, hP⟩, hr⟩
    have hleft : n ≤ (b ++ s).length := by
      rw [List.length_append]
      omega
    exact ⟨n, b ++ s, length_eq_ok.mpr ⟨(reads_uint n _ _).mpr ⟨hlt, rfl⟩, hmaximum, hleft⟩,
      (hk s r).mpr ⟨hP, hr⟩⟩

theorem reads_lengthRemaining (hk : Reads (k n) b v P) (hle : n ≤ b.length) :
    Reads (lengthRemaining >>= k) (Bare.uint n ++ b) v (n < 2 ^ 64 ∧ P) := by
  intro s r
  have hmaximum : n ≤ (Bare.uint n ++ b ++ s).length := by
    rw [List.length_append, List.length_append]
    omega
  have hread : (length (Bare.uint n ++ b ++ s).length >>= k) (Bare.uint n ++ b ++ s) = .ok r ↔ _ :=
    reads_length hk hle s r
  rw [and_iff_left hmaximum] at hread
  exact hread

theorem reads_string (b : Bytes) : Reads string (Bare.data b) b (StringFits b) := by
  have hlarge : maxValueBytes < 2 ^ 64 := by decide
  refine (reads_length ((reads_take rfl).map (Reads.ite_fail fun _ => Reads.pure))
    (Nat.le_refl b.length)).congr ?_
  constructor
  · rintro ⟨⟨-, hle⟩, -, hvalid, -⟩
    exact ⟨hle, not_not.mp hvalid⟩
  · rintro ⟨hle, hvalid⟩
    exact ⟨⟨by omega, hle⟩, trivial, not_not.mpr hvalid, trivial⟩

theorem appendToNil_getD (b : Bytes) : (appendToNil b).getD [] = b := by
  rw [appendToNil]
  split_ifs with hb
  · exact hb.symm
  · rfl

theorem reads_sqlValue (v : SqlValue) : Reads sqlValue v.encode v.received v.Fits := by
  have htag {n : Nat} (hn : n ≤ 4) : Reads uint (Bare.uint n) n True := reads_tag (by omega)
  cases v with
  | null => exact Reads.congr (Reads.map (htag (by decide)) Reads.pure) (and_iff_left trivial)
  | integer n =>
    exact Reads.andThen (htag (by decide))
      ((reads_i64 n).value fun n => (SqlValue.integer n).received)
  | real bits =>
    exact Reads.andThen (htag (by decide))
      ((reads_u64 bits).value fun bits => (SqlValue.real bits).received)
  | text s =>
    exact Reads.andThen (htag (by decide))
      ((reads_string s).value fun s => (SqlValue.text s).received)
  | blob b =>
    have hlarge : maxValueBytes < 2 ^ 64 := by decide
    have hread := (reads_take (b := b) rfl).value fun data =>
      ({ kind := "blob", blob := some (some ((appendToNil data).getD [])) } : SQLiteValue)
    rw [appendToNil_getD] at hread
    refine Reads.andThen (htag (by decide))
      (Reads.congr (reads_length hread (Nat.le_refl b.length)) ?_)
    constructor
    · rintro ⟨⟨-, hle⟩, -⟩
      exact hle
    · intro hle
      exact ⟨⟨Nat.lt_of_le_of_lt hle hlarge, hle⟩, trivial⟩

theorem SqlValue.encode_ne_nil (v : SqlValue) : v.encode ≠ [] := by
  cases v with
  | null => exact Bare.uint_ne_nil 0
  | _ => exact List.append_ne_nil_of_left_ne_nil (Bare.uint_ne_nil _) _

/-! ## Query results -/

/-- A loop that appends is a map. -/
theorem foldl_append {α β : Type} (f : α → List β) (xs : List α) (acc : List β) :
    xs.foldl (fun acc x => acc ++ f x) acc = acc ++ xs.flatMap f := by
  induction xs generalizing acc with
  | nil => exact (List.append_nil acc).symm
  | cons x xs ih => rw [List.foldl_cons, ih, List.flatMap_cons, List.append_assoc]

theorem reads_columns (columns : List Bytes) : Reads (loop decodeColumn columns.length [])
    (columns.flatMap Bare.data) columns (∀ column ∈ columns, StringFits column) := by
  have hbody (acc : List Bytes) (column : Bytes) :
      Reads (decodeColumn acc) (Bare.data column) (acc ++ [column]) (StringFits column) :=
    (reads_string column).value fun column => acc ++ [column]
  have hread := Reads.loop hbody columns []
  rw [foldl_append, List.nil_append, List.flatMap_singleton'] at hread
  exact hread

/-- A row is read if it is as wide as the list of columns. -/
theorem reads_row (columnCount : Nat) (acc : List SQLiteValue) (row : List SqlValue) :
    Reads (decodeRow columnCount acc) (Bare.list SqlValue.encode row)
      (acc ++ row.map SqlValue.received)
      (row.length ≤ maxColumns ∧ row.length = columnCount ∧ ∀ v ∈ row, v.Fits) := by
  have hbody (acc : List SQLiteValue) (v : SqlValue) :
      Reads (decodeValue acc) v.encode (acc ++ [v.received]) v.Fits :=
    (reads_sqlValue v).value fun value => acc ++ [value]
  have hlarge : maxColumns < 2 ^ 64 := by decide
  have hvalues := Reads.loop hbody row acc
  rw [foldl_append, ← List.map_eq_flatMap] at hvalues
  refine Reads.congr (reads_length (Reads.ite_fail fun _ => hvalues)
    (Bare.length_le_flatMap SqlValue.encode_ne_nil row)) ?_
  constructor
  · rintro ⟨⟨-, hle⟩, hwidth, hfits⟩
    exact ⟨hle, not_not.mp hwidth, hfits⟩
  · rintro ⟨hle, hwidth, hfits⟩
    exact ⟨⟨Nat.lt_of_le_of_lt hle hlarge, hle⟩, not_not.mpr hwidth, hfits⟩

theorem reads_rows (columnCount : Nat) (rows : List (List SqlValue)) :
    Reads (loop (decodeRow columnCount) rows.length [])
      (rows.flatMap (Bare.list SqlValue.encode)) (rows.flatten.map SqlValue.received)
      (∀ row ∈ rows, row.length ≤ maxColumns ∧ row.length = columnCount ∧ ∀ v ∈ row, v.Fits) := by
  have hread := Reads.loop (reads_row columnCount) rows []
  rw [foldl_append, List.nil_append] at hread
  rw [List.map_flatten, ← List.flatMap_def]
  exact hread

theorem reads_queryResult (result : DecodedResponse) (r : SqliteQueryOk) :
    Reads (decodeQueryResult result) r.encode
      { result with
        columns := r.columns
        values := r.rows.flatten.map SqlValue.received
        changes := r.changes
        lastInsertId := r.lastInsertRowId }
      (r.Fits ∧ r.Rectangular) := by
  have hlarge : maxColumns < 2 ^ 64 := by decide
  have hcolumns := Bare.length_le_flatMap Bare.data_ne_nil r.columns
  have hrows := Bare.length_le_flatMap (Bare.list_ne_nil SqlValue.encode) r.rows
  rw [SqliteQueryOk.encode, Bare.list, Bare.list, List.append_assoc, List.append_assoc]
  refine Reads.congr (reads_length (Reads.bind (reads_columns r.columns)
    (reads_lengthRemaining (Reads.bind (reads_rows r.columns.length r.rows)
      (Reads.andThen (reads_i64 r.changes)
        ((reads_lastInsertId r.lastInsertRowId).value fun lastInsertId =>
          { result with
            columns := r.columns
            values := r.rows.flatten.map SqlValue.received
            changes := r.changes
            lastInsertId := lastInsertId }))) ?_)) ?_) ?_
  · rw [List.length_append]
    omega
  · rw [List.length_append]
    omega
  constructor
  · rintro ⟨⟨-, hle⟩, hstrings, -, hrows, -⟩
    exact ⟨⟨hle, hstrings, fun row hrow => (hrows row hrow).2.2⟩,
      fun row hrow => (hrows row hrow).2.1⟩
  · rintro ⟨⟨hle, hstrings, hvalues⟩, hwidth⟩
    refine ⟨⟨Nat.lt_of_le_of_lt hle hlarge, hle⟩, hstrings, r.rows_lt, fun row hrow => ?_, trivial⟩
    exact ⟨hwidth row hrow ▸ hle, hwidth row hrow, hvalues row hrow⟩

/-! ## Frames -/

theorem reads_payload (id : UInt32) (p : ResponsePayload) :
    Reads (uint >>= decodePayload { id := id }) p.encode (p.received id)
      (p.Fits ∧ p.Rectangular) := by
  have htag {n : Nat} (hn : n ≤ 10) : Reads uint (Bare.uint n) n True := reads_tag (by omega)
  cases p with
  | sqliteExecOk => exact Reads.map (htag (by decide)) Reads.pure
  | sqliteBeginOk => exact Reads.map (htag (by decide)) Reads.pure
  | sqliteCommitOk => exact Reads.map (htag (by decide)) Reads.pure
  | sqliteRollbackOk => exact Reads.map (htag (by decide)) Reads.pure
  | endpointClosed => exact Reads.map (htag (by decide)) Reads.pure
  | responseTooLarge => exact Reads.map (htag (by decide)) Reads.pure
  | sqliteQueryOk r => exact Reads.andThen (htag (by decide)) (reads_queryResult { id := id } r)
  | sqlError code statementIndex message =>
    refine Reads.congr (Reads.andThen (htag (by decide)) (Reads.andThen (reads_i32 code)
      (Reads.andThen (reads_u32 statementIndex) ((reads_string message).value fun message =>
        (ResponsePayload.sqlError code statementIndex message).received id)))) ?_
    exact (and_iff_left trivial).symm
  | queueFull limit capacity =>
    refine Reads.congr (Reads.andThen (htag (by decide)) (Reads.bind (reads_string limit)
      ((reads_u32 capacity).value fun capacity =>
        (ResponsePayload.queueFull limit capacity).received id))) ?_
    exact Iff.rfl
  | invalidLeaseKey message =>
    refine Reads.congr (Reads.andThen (htag (by decide)) ((reads_string message).value
      fun message => (ResponsePayload.invalidLeaseKey message).received id)) ?_
    exact (and_iff_left trivial).symm
  | leaseExpired timeoutMs message =>
    refine Reads.congr (Reads.andThen (htag (by decide)) (Reads.andThen (reads_u64 timeoutMs)
      ((reads_string message).value fun message =>
        (ResponsePayload.leaseExpired timeoutMs message).received id))) ?_
    exact (and_iff_left trivial).symm

theorem reads_frame (r : Response) : Reads decodeFrame r.frame (r.payload.received r.requestId)
    (r.payload.Fits ∧ r.payload.Rectangular) :=
  Reads.andThen (reads_tag (by decide)) (Reads.andThen (reads_u32 r.requestId)
    (reads_payload r.requestId r.payload))

/-! ## What follows -/

theorem stable_take (n : Nat) : Stable (take n) := by
  intro s v rest x h
  rw [take] at h ⊢
  split_ifs at h with hshort
  obtain ⟨rfl, rfl⟩ := Prod.mk.inj (Except.ok.inj h)
  have hle : n ≤ s.length := Nat.le_of_not_lt hshort
  rw [if_neg (by rw [List.length_append]; omega), List.take_append_of_le_length hle,
    List.drop_append_of_le_length hle]

theorem stable_uintLoop (passes shift value : Nat) : Stable (uintLoop passes shift value) := by
  induction passes generalizing shift value with
  | zero => exact Stable.fail
  | succ passes ih =>
    exact Stable.bind (stable_take 1) fun _ =>
      Stable.ite Stable.fail (Stable.ite Stable.pure (ih _ _))

theorem stable_uint : Stable uint := stable_uintLoop 10 0 0

theorem stable_u32 : Stable u32 := (stable_take 4).bind fun _ => Stable.pure

theorem stable_u64 : Stable u64 := (stable_take 8).bind fun _ => Stable.pure

theorem stable_i32 : Stable i32 := (stable_take 4).bind fun _ => Stable.pure

theorem stable_i64 : Stable i64 := stable_u64.bind fun _ => Stable.pure

/-- More input leaves more room for a length. -/
theorem stable_length (maximum : Nat) : Stable (length maximum) := by
  intro s n rest x h
  obtain ⟨hu, hmaximum, hleft⟩ := length_eq_ok.mp h
  refine length_eq_ok.mpr ⟨stable_uint s n rest x hu, hmaximum, ?_⟩
  rw [List.length_append]
  omega

theorem stable_lengthRemaining : Stable lengthRemaining := by
  intro s n rest x h
  have h : length s.length s = .ok (n, rest) := h
  obtain ⟨hu, hmaximum, hleft⟩ := length_eq_ok.mp h
  have hlonger : length (s ++ x).length (s ++ x) = .ok (n, rest ++ x) := by
    refine length_eq_ok.mpr ⟨stable_uint s n rest x hu, ?_, ?_⟩
    · rw [List.length_append]
      omega
    · rw [List.length_append]
      omega
  exact hlonger

theorem stable_string : Stable string :=
  (stable_length _).bind fun _ => (stable_take _).bind fun _ => Stable.ite Stable.fail Stable.pure

theorem stable_sqlValue : Stable sqlValue := by
  refine Stable.bind stable_uint fun tag => ?_
  split
  · exact Stable.pure
  · exact stable_i64.bind fun _ => Stable.pure
  · exact stable_u64.bind fun _ => Stable.pure
  · exact stable_string.bind fun _ => Stable.pure
  · exact (stable_length _).bind fun _ => (stable_take _).bind fun _ => Stable.pure
  · exact Stable.fail

theorem stable_lastInsertId : Stable decodeLastInsertId := by
  have hboolean : Stable boolean :=
    (stable_take 1).bind fun _ => Stable.ite Stable.fail Stable.pure
  exact hboolean.bind fun _ => Stable.ite (stable_i64.bind fun _ => Stable.pure) Stable.pure

theorem stable_row (columnCount : Nat) (acc : List SQLiteValue) :
    Stable (decodeRow columnCount acc) :=
  (stable_length _).bind fun _ => Stable.ite Stable.fail
    (Stable.loop (fun _ => stable_sqlValue.bind fun _ => Stable.pure) _ _)

theorem stable_queryResult (result : DecodedResponse) : Stable (decodeQueryResult result) :=
  (stable_length _).bind fun _ =>
    (Stable.loop (fun _ => stable_string.bind fun _ => Stable.pure) _ _).bind fun _ =>
      stable_lengthRemaining.bind fun _ => (Stable.loop (stable_row _) _ _).bind fun _ =>
        stable_i64.bind fun _ => stable_lastInsertId.bind fun _ => Stable.pure

theorem stable_payload (result : DecodedResponse) (tag : Nat) :
    Stable (decodePayload result tag) := by
  unfold decodePayload
  split
  · exact Stable.pure
  · exact Stable.pure
  · exact Stable.pure
  · exact Stable.pure
  · exact stable_queryResult result
  · exact stable_i32.bind fun _ => stable_u32.bind fun _ => stable_string.bind fun _ => Stable.pure
  · exact Stable.pure
  · exact stable_string.bind fun _ => stable_u32.bind fun _ => Stable.pure
  · exact stable_string.bind fun _ => Stable.pure
  · exact stable_u64.bind fun _ => stable_string.bind fun _ => Stable.pure
  · exact Stable.pure
  · exact Stable.fail

theorem stable_frame : Stable decodeFrame :=
  stable_uint.bind fun _ => Stable.ite (stable_uint.bind fun _ => Stable.fail)
    (Stable.ite Stable.fail (stable_u32.bind fun _ => stable_uint.bind fun _ => stable_payload _ _))

/-! ## Responses -/

theorem versionedDecoder_eq_ok {p s : Bytes} :
    versionedDecoder p = .ok s ↔ p = littleEndian 2 protocolVersion ++ s := by
  constructor
  · intro h
    match p, h with
    | [], h => cases h
    | [_], h => cases h
    | x :: y :: t, h =>
      rw [versionedDecoder, if_neg (by simp)] at h
      dsimp only at h
      split_ifs at h with hversion
      obtain rfl : t = s := Except.ok.inj h
      have hnumber : x.toNat + 256 * (y.toNat + 256 * 0) = 1 := not_not.mp hversion
      obtain rfl : x = 1 := UInt8.toNat_inj.mp (show x.toNat = 1 by omega)
      obtain rfl : y = 0 := UInt8.toNat_inj.mp (show y.toNat = 0 by omega)
      rfl
  · rintro rfl
    rfl

theorem decodeResponse_eq_ok {p : Bytes} {v : DecodedResponse} : decodeResponse p = .ok v ↔
    ∃ s, p = littleEndian 2 protocolVersion ++ s ∧ decodeFrame s = .ok (v, []) := by
  simp only [decodeResponse, Check.bind_eq_ok, versionedDecoder_eq_ok]
  constructor
  · rintro ⟨s, hp, ⟨result, rest⟩, hframe, h⟩
    split_ifs at h with hrest
    obtain rfl := Except.ok.inj h
    obtain rfl := List.length_eq_zero_iff.mp (not_not.mp hrest)
    exact ⟨s, hp, hframe⟩
  · rintro ⟨s, hp, hframe⟩
    exact ⟨s, hp, (v, []), hframe, rfl⟩

/-- The input is refused. -/
def Rejected (p : Bytes) : Prop := ∃ message, decodeResponse p = .error message

theorem rejected_of_ne_ok {p : Bytes} (h : ∀ v, decodeResponse p ≠ .ok v) : Rejected p := by
  cases hp : decodeResponse p with
  | error message => exact ⟨message, hp⟩
  | ok v => exact absurd hp (h v)

/-- An encoding that is followed by something is accepted if that is empty and the response is
within the limits. -/
theorem decodeResponse_encode_append (r : Response) (x : Bytes) (v : DecodedResponse) :
    decodeResponse (r.encode ++ x) = .ok v ↔ (r.payload.Fits ∧ r.payload.Rectangular) ∧
      v = r.payload.received r.requestId ∧ x = [] := by
  rw [decodeResponse_eq_ok]
  constructor
  · rintro ⟨s, hs, hframe⟩
    rw [Response.encode, List.append_assoc] at hs
    obtain rfl := List.append_cancel_left hs
    obtain ⟨hlimits, hr⟩ := (reads_frame r x (v, [])).mp hframe
    exact ⟨hlimits, (Prod.mk.inj hr).1, (Prod.mk.inj hr).2.symm⟩
  · rintro ⟨hlimits, rfl, rfl⟩
    exact ⟨r.frame, by rw [List.append_nil, Response.encode],
      (List.append_nil r.frame) ▸ (reads_frame r).eq_ok hlimits⟩

theorem rejected_of_append {r : Response} (hlimits : r.payload.Fits ∧ r.payload.Rectangular)
    {p x : Bytes} (hp : p ++ x = r.encode) (hx : x ≠ []) : Rejected p := by
  refine rejected_of_ne_ok fun v hv => ?_
  obtain ⟨s, rfl, hframe⟩ := decodeResponse_eq_ok.mp hv
  rw [Response.encode, List.append_assoc] at hp
  have hwhole : decodeFrame r.frame = .ok (r.payload.received r.requestId, []) :=
    (List.append_nil r.frame) ▸ (reads_frame r).eq_ok hlimits
  exact stable_frame.ne_ok_of_append hwhole (List.append_cancel_left hp) hx _ hframe

/-- The decoder and the schema: the encoding of a response within the limits is decoded to that
response, none of its proper prefixes is accepted and nothing may follow it; and a result that is
not rectangular is refused. -/
theorem decodeResponse_matches_schema (r : Response) :
    (r.payload.Fits → r.payload.Rectangular →
      decodeResponse r.encode = .ok (r.payload.received r.requestId) ∧
      (∀ p x, p ++ x = r.encode → x ≠ [] → Rejected p) ∧
      ∀ x, x ≠ [] → Rejected (r.encode ++ x)) ∧
    (¬ r.payload.Rectangular → Rejected r.encode) := by
  have hencode (v : DecodedResponse) := decodeResponse_encode_append r [] v
  rw [List.append_nil] at hencode
  refine ⟨fun hfits hrectangular => ⟨?_, ?_, ?_⟩, fun hragged => ?_⟩
  · exact (hencode _).mpr ⟨⟨hfits, hrectangular⟩, rfl, rfl⟩
  · exact fun p x hp hx => rejected_of_append ⟨hfits, hrectangular⟩ hp hx
  · intro x hx
    refine rejected_of_ne_ok fun v hv => ?_
    exact hx ((decodeResponse_encode_append r x v).mp hv).2.2
  · refine rejected_of_ne_ok fun v hv => ?_
    exact hragged ((hencode v).mp hv).1.2

theorem two_lt : 2 < 2 ^ 64 := by decide

/-- Two rows of one column, with an empty blob and a NaN. -/
def wide : Response where
  requestId := 7
  payload := .sqliteQueryOk
    { columns := [Utf8.encode "n"]
      rows := [[.blob []], [.real 0x7ff8000000000001]]
      changes := -1
      lastInsertRowId := some 3
      rows_lt := two_lt }

/-- The second row has no value. -/
def ragged : Response where
  requestId := 7
  payload := .sqliteQueryOk
    { columns := [Utf8.encode "n"]
      rows := [[.blob []], []]
      changes := -1
      lastInsertRowId := some 3
      rows_lt := two_lt }

theorem wide_matches_schema :
    (decodeResponse wide.encode = .ok
      { id := 7
        columns := [Utf8.encode "n"]
        values := [{ kind := "blob", blob := some (some []) },
          { kind := "real", bits := some 0x7ff8000000000001 }]
        changes := -1
        lastInsertId := some 3 } ∧
      (∀ p x, p ++ x = wide.encode → x ≠ [] → Rejected p) ∧
      ∀ x, x ≠ [] → Rejected (wide.encode ++ x)) ∧
    Rejected ragged.encode := by
  have hfits : wide.payload.Fits := by
    refine ⟨by decide, ?_, ?_⟩
    · intro column hcolumn
      obtain rfl := List.mem_singleton.mp hcolumn
      exact ⟨by decide, Utf8.valid_encode "n"⟩
    · simp [SqlValue.Fits]
  have hrectangular : wide.payload.Rectangular := by
    intro row hrow
    obtain rfl | hrow := List.mem_cons.mp hrow
    · rfl
    · obtain rfl := List.mem_singleton.mp hrow
      rfl
  have hragged : ¬ ragged.payload.Rectangular := by
    intro h
    exact absurd (h [] (List.mem_cons_of_mem _ List.mem_cons_self)) (by decide)
  exact ⟨(decodeResponse_matches_schema wide).1 hfits hrectangular,
    (decodeResponse_matches_schema ragged).2 hragged⟩

end RivetGo.SocketCodec

import RivetGo.Socket.CodecRoundTrip

/-!
# The encoder of the Actor Runtime Socket

A method of the encoder is the bytes it appends. The numbers of variable width are settled here:
what the encoder writes is the encoding of BARE, and whatever the decoder accepts is the exact sum
of the groups of seven bits it has taken.
-/

namespace RivetGo.SocketCodec

open Bare (Decoder Reads fail loop littleEndian ofLittleEndian)
open Wire (SQLiteValue)

/-! ## The encoder -/

theorem shiftRight_seven_lt {value : UInt64} (h : 0x80 ≤ value) :
    (value >>> 7).toNat < value.toNat := by
  have hpos : 0x80 ≤ value.toNat := UInt64.le_iff_toNat_le.mp h
  have hshift : (value >>> 7).toNat = value.toNat >>> 7 := UInt64.toNat_shiftRight value 7
  rw [hshift, Nat.shiftRight_eq_div_pow]
  exact Nat.div_lt_self (by omega) (by decide)

/-- `encoder.uint`. -/
def encodeUint (value : UInt64) : Bytes :=
  if 0x80 ≤ value then (value.toUInt8 ||| 0x80) :: encodeUint (value >>> 7)
  else [value.toUInt8]
termination_by value.toNat
decreasing_by exact shiftRight_seven_lt ‹_›

/-- `uint64(len(value))` and the bytes. -/
def encodeString (value : Bytes) : Bytes := encodeUint (UInt64.ofNat value.length) ++ value

def encodeOptionalString : Option Bytes → Bytes
  | none => [0]
  | some value => 1 :: encodeString value

def encodeSqlValue (value : SQLiteValue) : Except String Bytes :=
  match value.kind with
  | "null" => .ok (encodeUint 0)
  | "integer" =>
    match value.integer with
    | none => .error "SQLite integer argument has no payload"
    | some n => .ok (encodeUint 1 ++ encodeI64 n)
  | "real" =>
    match value.bits with
    | none => .error "SQLite real argument has no payload"
    | some bits => .ok (encodeUint 2 ++ littleEndian 8 bits.toNat)
  | "text" =>
    match value.text with
    | none => .error "SQLite text argument is missing or too large"
    | some text =>
      if maxValueBytes < text.length then
        .error "SQLite text argument is missing or too large"
      else .ok (encodeUint 3 ++ encodeString text)
  | "blob" =>
    match value.blob with
    | none => .error "SQLite blob argument is missing or too large"
    | some slice =>
      -- a nil slice has no bytes
      let blob := slice.getD []
      if maxValueBytes < blob.length then
        .error "SQLite blob argument is missing or too large"
      else .ok (encodeUint 4 ++ (encodeUint (UInt64.ofNat blob.length) ++ blob))
  | kind => .error s!"unknown SQLite argument kind \"{kind}\""

def maxParameters : Nat := 1024

/-- The record `request`. A Go string is shorter than `2 ^ 63`. -/
structure Request where
  id : UInt32
  kind : UInt8
  sql : Bytes := []
  args : List SQLiteValue := []
  leaseKey : Option Bytes := none
  timeoutMS : Option UInt64 := none
  sql_lt : sql.length < 2 ^ 63
  leaseKey_lt : ∀ key ∈ leaseKey, key.length < 2 ^ 63

def requestExec : UInt8 := 0

def requestQuery : UInt8 := 1

def requestBegin : UInt8 := 2

def requestCommit : UInt8 := 3

def requestRollback : UInt8 := 4

/-- The loop over the arguments. -/
def encodeArgs : List SQLiteValue → Except String Bytes
  | [] => .ok []
  | arg :: args => do
      let first ← encodeSqlValue arg
      let rest ← encodeArgs args
      return first ++ rest

/-- The `switch` of `encodeRequest`. -/
def encodePayload (value : Request) : Except String Bytes :=
  if value.kind = requestExec then .ok (encodeString value.sql)
  else if value.kind = requestQuery then do
    let args ← encodeArgs value.args
    return encodeString value.sql ++ (encodeUint (UInt64.ofNat value.args.length) ++ args)
  else if value.kind = requestBegin then
    match value.leaseKey with
    | none => .error "SQLite begin has no lease key"
    | some leaseKey =>
      .ok (encodeString leaseKey ++
        match value.timeoutMS with
        | none => [0]
        | some timeoutMS => 1 :: littleEndian 8 timeoutMS.toNat)
  else if value.kind = requestCommit ∨ value.kind = requestRollback then
    match value.leaseKey with
    | none => .error "SQLite transaction finish has no lease key"
    | some leaseKey => .ok (encodeString leaseKey)
  else .error "unknown SQLite socket request kind"

/-- The lease key in front of the payload, which only a statement has there. -/
def encodeSelector (value : Request) : Bytes :=
  if value.kind = requestBegin ∨ value.kind = requestCommit ∨ value.kind = requestRollback then
    encodeOptionalString none
  else encodeOptionalString value.leaseKey

def encodeRequest (value : Request) : Except String Bytes :=
  if value.id = 0 then .error "SQLite socket request ID is zero"
  else if maxParameters < value.args.length then
    .error s!"SQLite arguments exceed limit {maxParameters}"
  else do
    let payload ← encodePayload value
    return littleEndian 2 protocolVersion ++ (encodeUint 0 ++ (littleEndian 4 value.id.toNat ++
      (encodeSelector value ++ (encodeUint value.kind.toUInt64 ++ payload))))

/-! ## Numbers of variable width -/

theorem or_top (x : UInt8) : x ||| 0x80 = UInt8.ofNat (x.toNat % 0x80 + 0x80) := by
  have hall : ∀ n < 256, UInt8.ofNat n ||| 0x80 = UInt8.ofNat (n % 0x80 + 0x80) := by
    decide +kernel
  have hx := hall x.toNat x.toNat_lt
  rwa [UInt8.ofNat_toNat] at hx

/-- The encoder writes what BARE says. -/
theorem encodeUint_eq (value : UInt64) : encodeUint value = Bare.uint value.toNat := by
  induction hn : value.toNat using Nat.strong_induction_on generalizing value with
  | _ n ih =>
    subst hn
    have hle : 0x80 ≤ value ↔ ¬ value.toNat < 0x80 := by
      rw [UInt64.le_iff_toNat_le, Nat.not_lt]
      rfl
    have hbyte : value.toUInt8 = UInt8.ofNat value.toNat := rfl
    rw [encodeUint, Bare.uint]
    by_cases hlarge : 0x80 ≤ value
    · have hshift : (value >>> 7).toNat = value.toNat / 0x80 := by
        rw [UInt64.toNat_shiftRight, Nat.shiftRight_eq_div_pow]
        rfl
      have hlow : (UInt8.ofNat value.toNat).toNat % 0x80 = value.toNat % 0x80 := by
        rw [UInt8.toNat_ofNat']
        omega
      rw [if_pos hlarge, if_neg (hle.mp hlarge), ih _ (shiftRight_seven_lt hlarge) _ rfl, hshift,
        hbyte, or_top, hlow]
    · rw [if_neg hlarge, if_pos (not_not.mp (mt hle.mpr hlarge)), hbyte]

theorem uintLoop_nil (passes shift value : Nat) (r : Nat × Bytes) :
    uintLoop passes shift value [] ≠ .ok r := by
  cases passes <;> exact fun h => by cases h

/-- Bytes that go on and one that does not. -/
def Terminated (groups : Bytes) : Prop :=
  ∃ init last, groups = init ++ [last] ∧ (∀ b ∈ init, 0x80 ≤ b.toNat) ∧ last.toNat < 0x80

theorem Terminated.cons {b : UInt8} {groups : Bytes} (h : Terminated groups)
    (hb : 0x80 ≤ b.toNat) : Terminated (b :: groups) := by
  obtain ⟨init, last, rfl, hinit, hlast⟩ := h
  exact ⟨b :: init, last, rfl, List.forall_mem_cons.mpr ⟨hb, hinit⟩, hlast⟩

/-- One group, also the tenth, of which one bit is allowed. -/
theorem or_group {i value p : Nat} (hi : i ≤ 9) (hvalue : value < 2 ^ (7 * i))
    (htenth : ¬ (7 * i = 63 ∧ 1 < p)) :
    value ||| ((p &&& 0x7f) <<< (7 * i)) % 2 ^ 64 = value + p % 0x80 * 2 ^ (7 * i) ∧
      value + p % 0x80 * 2 ^ (7 * i) < 2 ^ 64 := by
  by_cases hnine : i = 9
  · subst hnine
    have hp : p ≤ 1 := Nat.le_of_not_lt fun h => htenth ⟨rfl, h⟩
    have hmask : p &&& 0x7f = p % 0x80 := Nat.and_two_pow_sub_one_eq_mod p 7
    have hmod : p % 0x80 = p := Nat.mod_eq_of_lt (by omega)
    have hvalue : value < 2 ^ 63 := hvalue
    rw [hmask, hmod]
    exact ⟨or_part hvalue (by omega), by omega⟩
  · obtain ⟨heq, hlt⟩ := or_part_lt (p := p) (show i < 9 by omega) hvalue
    have hle : 2 ^ (7 * (i + 1)) ≤ 2 ^ 64 := Nat.pow_le_pow_right (by decide) (by omega)
    exact ⟨heq, hlt.trans_le hle⟩

/-- What the passes that are left add to the value: the groups they take, all of them. -/
theorem uintLoop_eq_ok {passes i value n : Nat} {s rest : Bytes} (hpasses : passes + i = 10)
    (hvalue : value < 2 ^ (7 * i)) (h : uintLoop passes (7 * i) value s = .ok (n, rest)) :
    ∃ groups, s = groups ++ rest ∧ Terminated groups ∧ groups.length ≤ passes ∧
      n = value + Bare.ofGroups groups * 2 ^ (7 * i) ∧ n < 2 ^ 64 := by
  induction passes generalizing i value s with
  | zero => cases h
  | succ passes ih =>
    cases s with
    | nil => exact absurd h (uintLoop_nil _ _ _ _)
    | cons part s =>
      rw [uintLoop_cons] at h
      split_ifs at h with htenth hlast
      · -- the last group
        obtain ⟨hor, hlt⟩ := or_group (by omega) hvalue htenth
        obtain ⟨rfl, rfl⟩ := Prod.mk.inj (Except.ok.inj h)
        rw [hor]
        exact ⟨[part], rfl, ⟨[], part, rfl, List.forall_mem_nil _, hlast⟩,
          Nat.succ_le_succ (Nat.zero_le passes), rfl, hlt⟩
      · -- the tenth group would have been refused
        have hi : i < 9 := by omega
        obtain ⟨hor, hroom⟩ := or_part_lt (p := part.toNat) hi hvalue
        rw [hor, ← Nat.mul_succ] at h
        obtain ⟨groups, rfl, hgroups, hlength, hn, hlt⟩ := ih (by omega) hroom h
        refine ⟨part :: groups, rfl, hgroups.cons (Nat.le_of_not_lt hlast),
          Nat.succ_le_succ hlength, ?_, hlt⟩
        have hcons : Bare.ofGroups (part :: groups) =
            part.toNat % 0x80 + 0x80 * Bare.ofGroups groups := rfl
        rw [hn, hcons, Nat.mul_succ, Nat.pow_add]
        ring

/-- Numbers of variable width: what the encoder writes is read back, whatever follows, and what
the decoder accepts is the exact sum of at most ten groups of seven bits. -/
theorem uint_exact :
    (∀ (value : UInt64) (s : Bytes), uint (encodeUint value ++ s) = .ok (value.toNat, s)) ∧
    ∀ (s rest : Bytes) (n : Nat), uint s = .ok (n, rest) →
      ∃ groups, s = groups ++ rest ∧ Terminated groups ∧ groups.length ≤ 10 ∧
        n = ∑ i ∈ Finset.range groups.length, (groups.getD i 0).toNat % 0x80 * 2 ^ (7 * i) ∧
        n < 2 ^ 64 := by
  constructor
  · intro value s
    rw [encodeUint_eq]
    exact (reads_uint value.toNat).eq_ok value.toNat_lt
  · intro s rest n h
    obtain ⟨groups, hs, hgroups, hlength, hn, hlt⟩ :=
      uintLoop_eq_ok (Nat.add_zero 10) Nat.one_pos h
    refine ⟨groups, hs, hgroups, hlength, ?_, hlt⟩
    rw [hn, Bare.ofGroups_eq_sum, Nat.zero_add, Nat.mul_zero, Nat.pow_zero, Nat.mul_one]

/-- The largest number, in ten bytes, and a byte behind it. -/
def largest : Bytes := [0xff, 0xff, 0xff, 0xff, 0xff, 0xff, 0xff, 0xff, 0xff, 1, 7]

theorem largest_exact :
    uint (encodeUint 0xffffffffffffffff ++ [7]) = .ok (2 ^ 64 - 1, [7]) ∧
      ∃ groups, largest = groups ++ [7] ∧ Terminated groups ∧ groups.length ≤ 10 ∧
        2 ^ 64 - 1 =
          ∑ i ∈ Finset.range groups.length, (groups.getD i 0).toNat % 0x80 * 2 ^ (7 * i) ∧
        2 ^ 64 - 1 < 2 ^ 64 :=
  ⟨uint_exact.1 0xffffffffffffffff [7], uint_exact.2 largest [7] (2 ^ 64 - 1) (by decide +kernel)⟩

end RivetGo.SocketCodec

import RivetGo.Data.MessagePack.Header

/-!
# The grammar of MessagePack

MessagePack has more than one form for most values: a small number may be written in any width, a
length stands in the first byte or behind it. `Item` is a value of the format, extensions
included, and `Encodes` relates it to each of its encodings. No encoding starts with `0xc1`.

A family of values that have a length has two kinds of codes: those that fix the length, and those
behind which it is written.
-/

namespace MessagePack

/-- The number that some bytes are, the most significant one first. -/
def ofBigEndian (s : Bytes) : Nat := s.foldl (fun acc b => 256 * acc + b.toNat) 0

theorem readBigEndian_append (b s : Bytes) (acc : Nat) :
    readBigEndian b.length acc (b ++ s) =
      some (b.foldl (fun acc b => 256 * acc + b.toNat) acc, s) := by
  induction b generalizing acc with
  | nil => rfl
  | cons x b ih => exact ih (256 * acc + x.toNat)

theorem readBigEndian_eq_some {w n acc : Nat} {s rest : Bytes}
    (h : readBigEndian w acc s = some (n, rest)) : ∃ b, b.length = w ∧ s = b ++ rest := by
  induction w generalizing acc s with
  | zero => exact ⟨[], rfl, (Prod.mk.inj (Option.some.inj h)).2⟩
  | succ w ih =>
    cases s with
    | nil => exact absurd h.symm (Option.some_ne_none _)
    | cons x s =>
      obtain ⟨b, hlength, rfl⟩ := ih h
      exact ⟨x :: b, congrArg (· + 1) hlength, rfl⟩

theorem readBigEndian_iff {w n : Nat} {s rest : Bytes} :
    readBigEndian w 0 s = some (n, rest) ↔
      ∃ b, b.length = w ∧ ofBigEndian b = n ∧ s = b ++ rest := by
  constructor
  · intro h
    obtain ⟨b, rfl, rfl⟩ := readBigEndian_eq_some h
    rw [readBigEndian_append] at h
    exact ⟨b, rfl, (Prod.mk.inj (Option.some.inj h)).1, rfl⟩
  · rintro ⟨b, rfl, rfl, rfl⟩
    exact readBigEndian_append b rest 0

theorem ofBigEndian_bigEndian {w n : Nat} (h : n < 2 ^ (8 * w)) :
    ofBigEndian (bigEndian w n) = n := by
  rw [Nat.pow_mul] at h
  have hread := readBigEndian_append (bigEndian w n) [] 0
  rw [length_bigEndian, readBigEndian_of_lt h] at hread
  exact (Prod.mk.inj (Option.some.inj hread)).1.symm

/-- A value of the format. -/
inductive Item where
  | nil
  | bool (b : Bool)
  | int (i : Int)
  | float32 (bits : Nat)
  | float64 (bits : Nat)
  | str (payload : Bytes)
  | bin (payload : Bytes)
  | ext (type : UInt8) (payload : Bytes)
  | array (items : List Item)
  | map (entries : List (Item × Item))

/-! ### Codes -/

/-- The first bytes of a family of values that have a length. -/
structure LengthCodes where
  /-- The codes that fix the length, with it. -/
  fixed : List (UInt8 × Nat)
  /-- The codes that a length follows, with its width. -/
  sized : List (UInt8 × Nat)

/-- The codes from `base` on fix the lengths below `count`. -/
def shortCodes (base count : Nat) : List (UInt8 × Nat) :=
  (List.range count).map fun n => (UInt8.ofNat (base + n), n)

def strCodes : LengthCodes where
  fixed := shortCodes 0xa0 0x20
  sized := [(0xd9, 1), (0xda, 2), (0xdb, 4)]

def binCodes : LengthCodes where
  fixed := []
  sized := [(0xc4, 1), (0xc5, 2), (0xc6, 4)]

def extCodes : LengthCodes where
  fixed := [(0xd4, 1), (0xd5, 2), (0xd6, 4), (0xd7, 8), (0xd8, 16)]
  sized := [(0xc7, 1), (0xc8, 2), (0xc9, 4)]

def arrayCodes : LengthCodes where
  fixed := shortCodes 0x90 0x10
  sized := [(0xdc, 2), (0xdd, 4)]

def mapCodes : LengthCodes where
  fixed := shortCodes 0x80 0x10
  sized := [(0xde, 2), (0xdf, 4)]

/-- The unsigned numbers, with their widths. -/
def uintCodes : List (UInt8 × Nat) := [(0xcc, 1), (0xcd, 2), (0xce, 4), (0xcf, 8)]

def intCodes : List (UInt8 × Nat) := [(0xd0, 1), (0xd1, 2), (0xd2, 4), (0xd3, 8)]

theorem mem_shortCodes {base count n : Nat} {code : UInt8} :
    (code, n) ∈ shortCodes base count ↔ n < count ∧ code = UInt8.ofNat (base + n) := by
  simp only [shortCodes, List.mem_map, List.mem_range, Prod.mk.injEq]
  constructor
  · rintro ⟨m, hm, rfl, rfl⟩
    exact ⟨hm, rfl⟩
  · rintro ⟨hn, rfl⟩
    exact ⟨n, hn, rfl, rfl⟩

/-- What stands in front of `n` parts. -/
inductive LengthCodes.Head (codes : LengthCodes) : Nat → Bytes → Prop where
  | fixed {code : UInt8} {n : Nat} (h : (code, n) ∈ codes.fixed) : codes.Head n [code]
  | sized {code : UInt8} {s : Bytes} (h : (code, s.length) ∈ codes.sized) :
      codes.Head (ofBigEndian s) (code :: s)

/-- The bytes that start a value of the family. -/
def LengthCodes.Starts (codes : LengthCodes) (b : UInt8) : Prop :=
  b ∈ codes.fixed.map Prod.fst ∨ b ∈ codes.sized.map Prod.fst

instance (codes : LengthCodes) (b : UInt8) : Decidable (codes.Starts b) :=
  inferInstanceAs (Decidable (_ ∨ _))

/-! ### Encodings -/

/-- The keys and values of a map, in the order in which they are written. -/
def Item.flat (entries : List (Item × Item)) : List Item :=
  entries.flatMap fun entry => [entry.1, entry.2]

mutual

inductive Encodes : Item → Bytes → Prop where
  | nil : Encodes .nil [0xc0]
  | false : Encodes (.bool false) [0xc2]
  | true : Encodes (.bool true) [0xc3]
  | positiveFixint {b : UInt8} (h : b.toNat < 0x80) : Encodes (.int b.toNat) [b]
  | negativeFixint {b : UInt8} (h : 0xe0 ≤ b.toNat) : Encodes (.int (b.toNat - 0x100)) [b]
  | uint {code : UInt8} {s : Bytes} (h : (code, s.length) ∈ uintCodes) :
      Encodes (.int (ofBigEndian s)) (code :: s)
  | int {code : UInt8} {s : Bytes} (h : (code, s.length) ∈ intCodes) :
      Encodes (.int (signed s.length (ofBigEndian s))) (code :: s)
  | float32 {s : Bytes} (h : s.length = 4) : Encodes (.float32 (ofBigEndian s)) (0xca :: s)
  | float64 {s : Bytes} (h : s.length = 8) : Encodes (.float64 (ofBigEndian s)) (0xcb :: s)
  | str {head payload : Bytes} (h : strCodes.Head payload.length head) :
      Encodes (.str payload) (head ++ payload)
  | bin {head payload : Bytes} (h : binCodes.Head payload.length head) :
      Encodes (.bin payload) (head ++ payload)
  | ext {type : UInt8} {head payload : Bytes} (h : extCodes.Head payload.length head) :
      Encodes (.ext type payload) (head ++ type :: payload)
  | array {items : List Item} {head body : Bytes} (h : arrayCodes.Head items.length head)
      (hbody : EncodesAll items body) : Encodes (.array items) (head ++ body)
  | map {entries : List (Item × Item)} {head body : Bytes} (h : mapCodes.Head entries.length head)
      (hbody : EncodesAll (Item.flat entries) body) : Encodes (.map entries) (head ++ body)

inductive EncodesAll : List Item → Bytes → Prop where
  | nil : EncodesAll [] []
  | cons {v : Item} {vs : List Item} {b bs : Bytes} (hv : Encodes v b) (hvs : EncodesAll vs bs) :
      EncodesAll (v :: vs) (b ++ bs)

end

/-! ### Shortest forms -/

theorem LengthCodes.head_bigEndian {codes : LengthCodes} {code : UInt8} {w n : Nat}
    (hmem : (code, w) ∈ codes.sized) (h : n < 2 ^ (8 * w)) :
    codes.Head n (code :: bigEndian w n) := by
  have hhead : codes.Head (ofBigEndian (bigEndian w n)) (code :: bigEndian w n) :=
    .sized ((length_bigEndian w n).symm ▸ hmem)
  rwa [ofBigEndian_bigEndian h] at hhead

section
variable {n : Nat} (h : n < 2 ^ 32)
include h

theorem head_str : strCodes.Head n (Header.str n).encode := by
  rw [Header.encode]
  split_ifs with h1 h2 h3
  · exact .fixed (mem_shortCodes.mpr ⟨h1, rfl⟩)
  · exact LengthCodes.head_bigEndian (by decide) h2
  · exact LengthCodes.head_bigEndian (by decide) h3
  · exact LengthCodes.head_bigEndian (by decide) h

theorem head_bin : binCodes.Head n (Header.bin n).encode := by
  rw [Header.encode]
  split_ifs with h1 h2
  · exact LengthCodes.head_bigEndian (by decide) h1
  · exact LengthCodes.head_bigEndian (by decide) h2
  · exact LengthCodes.head_bigEndian (by decide) h

theorem head_array : arrayCodes.Head n (Header.array n).encode := by
  rw [Header.encode]
  split_ifs with h1 h2
  · exact .fixed (mem_shortCodes.mpr ⟨h1, rfl⟩)
  · exact LengthCodes.head_bigEndian (by decide) h2
  · exact LengthCodes.head_bigEndian (by decide) h

theorem head_map : mapCodes.Head n (Header.map n).encode := by
  rw [Header.encode]
  split_ifs with h1 h2
  · exact .fixed (mem_shortCodes.mpr ⟨h1, rfl⟩)
  · exact LengthCodes.head_bigEndian (by decide) h2
  · exact LengthCodes.head_bigEndian (by decide) h

end

theorem encodes_int (i : Int) : ∃ j, Encodes (.int j) (Header.int i).encode := by
  have hfixint (n : Nat) (hn : n < 256) (h : n < 0x80 ∨ 0xe0 ≤ n) :
      ∃ j, Encodes (.int j) [UInt8.ofNat n] := by
    rw [← toNat_byte hn] at h
    exact h.elim (fun h => ⟨_, .positiveFixint h⟩) fun h => ⟨_, .negativeFixint h⟩
  have huint (code : UInt8) (w n : Nat) (h : (code, w) ∈ uintCodes) :
      ∃ j, Encodes (.int j) (code :: bigEndian w n) :=
    ⟨_, .uint ((length_bigEndian w n).symm ▸ h)⟩
  have hint (code : UInt8) (w n : Nat) (h : (code, w) ∈ intCodes) :
      ∃ j, Encodes (.int j) (code :: bigEndian w n) :=
    ⟨_, .int ((length_bigEndian w n).symm ▸ h)⟩
  cases i with
  | ofNat n =>
    rw [Header.encode, Header.encodeNat]
    split_ifs
    · exact hfixint n (by omega) (by omega)
    all_goals exact huint _ _ _ (by decide)
  | negSucc n =>
    rw [Header.encode, Header.encodeNegSucc]
    split_ifs
    · exact hfixint (0xff - n) (by omega) (by omega)
    all_goals exact hint _ _ _ (by decide)

/-! ### Sizes -/

theorem LengthCodes.Head.ne_nil {codes : LengthCodes} {n : Nat} {head : Bytes}
    (h : codes.Head n head) : head ≠ [] := by
  cases h <;> exact List.cons_ne_nil _ _

theorem Encodes.ne_nil {v : Item} {b : Bytes} (h : Encodes v b) : b ≠ [] := by
  cases h with
  | str h | bin h | ext h | array h _ | map h _ =>
    exact List.append_ne_nil_of_left_ne_nil h.ne_nil _
  | _ => exact List.cons_ne_nil _ _

/-- Every value takes a byte. -/
theorem EncodesAll.length_le {vs : List Item} {bs : Bytes} (h : EncodesAll vs bs) :
    vs.length ≤ bs.length := by
  induction vs generalizing bs with
  | nil => exact Nat.zero_le _
  | cons v vs ih =>
    cases h with
    | cons hv hvs =>
      have hpos := List.length_pos_iff.mpr hv.ne_nil
      have hrest := ih hvs
      rw [List.length_append, List.length_cons]
      omega

namespace Item

theorem length_flat (entries : List (Item × Item)) :
    (flat entries).length = 2 * entries.length := by
  simp [flat, List.length_flatMap, Nat.mul_comm]

/-- An even number of values are the keys and values of a map. -/
theorem exists_flat {n : Nat} {vs : List Item} (h : vs.length = 2 * n) :
    ∃ entries, flat entries = vs ∧ entries.length = n := by
  induction n generalizing vs with
  | zero => exact ⟨[], (List.length_eq_zero_iff.mp h).symm, rfl⟩
  | succ n ih =>
    match vs, h with
    | k :: v :: vs, h =>
      have heven : vs.length = 2 * n := by
        simp only [List.length_cons] at h
        omega
      obtain ⟨entries, rfl, hlength⟩ := ih heven
      exact ⟨(k, v) :: entries, rfl, congrArg (· + 1) hlength⟩

theorem mem_flat {entries : List (Item × Item)} {v : Item} :
    v ∈ flat entries ↔ ∃ entry ∈ entries, v = entry.1 ∨ v = entry.2 := by
  simp only [flat, List.mem_flatMap, List.mem_cons, List.not_mem_nil, or_false]

/-! ### Limits -/

/-- A value stands inside `n` containers of another. -/
inductive Contains : Item → Nat → Item → Prop where
  | self (v : Item) : v.Contains 0 v
  | element {items : List Item} {v x : Item} {n : Nat} (hv : v ∈ items) (h : v.Contains n x) :
      (Item.array items).Contains (n + 1) x
  | key {entries : List (Item × Item)} {entry : Item × Item} {x : Item} {n : Nat}
      (he : entry ∈ entries) (h : entry.1.Contains n x) : (Item.map entries).Contains (n + 1) x
  | value {entries : List (Item × Item)} {entry : Item × Item} {x : Item} {n : Nat}
      (he : entry ∈ entries) (h : entry.2.Contains n x) : (Item.map entries).Contains (n + 1) x

/-- The longest blob and the largest containers that a reader takes. -/
structure Limits where
  blob : Nat
  array : Nat
  map : Nat

variable {limits : Limits} {levels : Nat}

/-- The type byte of an extension counts. -/
def Sized (limits : Limits) : Item → Prop
  | .str payload => payload.length ≤ limits.blob
  | .bin payload => payload.length ≤ limits.blob
  | .ext _ payload => payload.length + 1 ≤ limits.blob
  | .array items => items.length ≤ limits.array
  | .map entries => entries.length ≤ limits.map
  | _ => True

/-- Every value in `v` is within the limits and inside fewer than `levels` containers. -/
def Within (limits : Limits) (levels : Nat) (v : Item) : Prop :=
  ∀ n x, v.Contains n x → n < levels ∧ x.Sized limits

theorem not_within_zero {v : Item} : ¬ v.Within limits 0 :=
  fun h => Nat.not_lt_zero 0 (h 0 v (.self v)).1

theorem Within.sized {v : Item} (h : v.Within limits levels) : v.Sized limits :=
  (h 0 v (.self v)).2

def isContainer : Item → Bool
  | .array _ => true
  | .map _ => true
  | _ => false

theorem within_of_leaf {v : Item} (hleaf : v.isContainer = false) (hsized : v.Sized limits) :
    v.Within limits (levels + 1) := by
  intro n x h
  cases h with
  | self => exact ⟨Nat.succ_pos levels, hsized⟩
  | element => exact absurd hleaf Bool.noConfusion
  | key => exact absurd hleaf Bool.noConfusion
  | value => exact absurd hleaf Bool.noConfusion

theorem within_array {items : List Item} : (Item.array items).Within limits (levels + 1) ↔
    items.length ≤ limits.array ∧ ∀ v ∈ items, v.Within limits levels := by
  constructor
  · intro h
    refine ⟨h.sized, fun v hv n x hx => ?_⟩
    obtain ⟨hn, hx⟩ := h (n + 1) x (.element hv hx)
    exact ⟨Nat.lt_of_succ_lt_succ hn, hx⟩
  · rintro ⟨hlength, hall⟩ n x h
    cases h with
    | self => exact ⟨Nat.succ_pos levels, hlength⟩
    | element hv hx =>
      obtain ⟨hn, hx⟩ := hall _ hv _ x hx
      exact ⟨Nat.succ_lt_succ hn, hx⟩

theorem within_map {entries : List (Item × Item)} : (Item.map entries).Within limits (levels + 1) ↔
    entries.length ≤ limits.map ∧ ∀ v ∈ flat entries, v.Within limits levels := by
  constructor
  · intro h
    refine ⟨h.sized, fun v hv n x hx => ?_⟩
    obtain ⟨entry, he, rfl | rfl⟩ := mem_flat.mp hv
    · obtain ⟨hn, hx⟩ := h (n + 1) x (.key he hx)
      exact ⟨Nat.lt_of_succ_lt_succ hn, hx⟩
    · obtain ⟨hn, hx⟩ := h (n + 1) x (.value he hx)
      exact ⟨Nat.lt_of_succ_lt_succ hn, hx⟩
  · rintro ⟨hlength, hall⟩ n x h
    cases h with
    | self => exact ⟨Nat.succ_pos levels, hlength⟩
    | key he hx =>
      obtain ⟨hn, hx⟩ := hall _ (mem_flat.mpr ⟨_, he, .inl rfl⟩) _ x hx
      exact ⟨Nat.succ_lt_succ hn, hx⟩
    | value he hx =>
      obtain ⟨hn, hx⟩ := hall _ (mem_flat.mpr ⟨_, he, .inr rfl⟩) _ x hx
      exact ⟨Nat.succ_lt_succ hn, hx⟩

end Item

/-! ### First bytes -/

/-- The ways in which a value can start. -/
def Starts (b : UInt8) : Prop :=
  b.toNat < 0x80 ∨ 0xe0 ≤ b.toNat ∨ b ∈ [0xc0, 0xc2, 0xc3, 0xca, 0xcb] ∨
    b ∈ uintCodes.map Prod.fst ∨ b ∈ intCodes.map Prod.fst ∨ strCodes.Starts b ∨
    binCodes.Starts b ∨ extCodes.Starts b ∨ arrayCodes.Starts b ∨ mapCodes.Starts b

instance (b : UInt8) : Decidable (Starts b) := inferInstanceAs (Decidable (_ ∨ _))

/-- Every byte but the reserved one starts a value. -/
theorem starts_of_ne {b : UInt8} (h : b ≠ 0xc1) : Starts b := by
  have hall : ∀ n < 256, UInt8.ofNat n ≠ 0xc1 → Starts (UInt8.ofNat n) := by decide +kernel
  have hb : UInt8.ofNat b.toNat = b := UInt8.ofNat_toNat
  exact hb ▸ hall b.toNat b.toNat_lt (hb.symm ▸ h)

end MessagePack

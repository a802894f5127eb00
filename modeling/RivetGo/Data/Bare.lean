import Mathlib
import RivetGo.Data.Utf8

/-!
# BARE messages and decoders

The first part is the encoding of BARE: numbers of variable and of fixed width, data behind its
length, lists behind their length, optional values and tagged unions.

A decoder takes a value off the front of its input. `Reads d b v P` says all there is to say about
a decoder on an encoding `b`, whatever follows: it succeeds exactly under the condition `P`, and
then with `v` and with all of `b` taken off. `Stable d` says that more input behind what a decoder
has read does not matter to it, so that a decoder which reads an encoding refuses each of its
proper prefixes.
-/

namespace Bare

/-! ### Encodings -/

/-- A number, seven bits a byte, the lowest first; all bytes but the last have the top bit. -/
def uint (n : Nat) : Bytes :=
  if n < 0x80 then [UInt8.ofNat n] else UInt8.ofNat (n % 0x80 + 0x80) :: uint (n / 0x80)
termination_by n

/-- The number that groups of seven bits make up, the lowest first. -/
def ofGroups (groups : Bytes) : Nat := groups.foldr (fun b acc => b.toNat % 0x80 + 0x80 * acc) 0

/-- `n` as `w` bytes, the lowest first. -/
def littleEndian : Nat → Nat → Bytes
  | 0, _ => []
  | w + 1, n => UInt8.ofNat (n % 256) :: littleEndian w (n / 256)

def ofLittleEndian (s : Bytes) : Nat := s.foldr (fun b acc => b.toNat + 256 * acc) 0

/-- `data` and `str`. -/
def data (b : Bytes) : Bytes := uint b.length ++ b

def list {α : Type} (encode : α → Bytes) (xs : List α) : Bytes :=
  uint xs.length ++ xs.flatMap encode

def optional {α : Type} (encode : α → Bytes) : Option α → Bytes
  | none => [0]
  | some v => 1 :: encode v

theorem uint_ne_nil (n : Nat) : uint n ≠ [] := by
  rw [uint]
  split_ifs <;> exact List.cons_ne_nil _ _

theorem ofGroups_eq_sum (groups : Bytes) :
    ofGroups groups =
      ∑ i ∈ Finset.range groups.length, (groups.getD i 0).toNat % 0x80 * 2 ^ (7 * i) := by
  induction groups with
  | nil => rfl
  | cons b groups ih =>
    have hcons : ofGroups (b :: groups) = b.toNat % 0x80 + 0x80 * ofGroups groups := rfl
    have hshift (i : Nat) : ((b :: groups).getD (i + 1) 0).toNat % 0x80 * 2 ^ (7 * (i + 1)) =
        0x80 * ((groups.getD i 0).toNat % 0x80 * 2 ^ (7 * i)) := by
      rw [List.getD_cons_succ, Nat.mul_succ, Nat.pow_add]
      ring
    rw [List.length_cons, Finset.sum_range_succ', hcons, ih, Finset.mul_sum,
      Finset.sum_congr rfl fun i _ => hshift i, List.getD_cons_zero, Nat.mul_zero, Nat.pow_zero,
      Nat.mul_one, Nat.add_comm]

theorem data_ne_nil (b : Bytes) : data b ≠ [] :=
  List.append_ne_nil_of_left_ne_nil (uint_ne_nil _) b

theorem list_ne_nil {α : Type} (encode : α → Bytes) (xs : List α) : list encode xs ≠ [] :=
  List.append_ne_nil_of_left_ne_nil (uint_ne_nil _) _

@[simp] theorem length_littleEndian (w n : Nat) : (littleEndian w n).length = w := by
  induction w generalizing n with
  | zero => rfl
  | succ w ih => rw [littleEndian, List.length_cons, ih]

theorem ofLittleEndian_littleEndian {w n : Nat} (h : n < 256 ^ w) :
    ofLittleEndian (littleEndian w n) = n := by
  induction w generalizing n with
  | zero => exact (Nat.lt_one_iff.mp h).symm
  | succ w ih =>
    have hdiv : n / 256 < 256 ^ w := by
      rw [Nat.div_lt_iff_lt_mul (by decide), ← Nat.pow_succ]
      exact h
    have hbyte : (UInt8.ofNat (n % 256)).toNat = n % 256 :=
      UInt8.toNat_ofNat_of_lt' (Nat.mod_lt n (by decide))
    have hrest : ofLittleEndian (littleEndian w (n / 256)) = n / 256 := ih hdiv
    calc ofLittleEndian (littleEndian (w + 1) n)
        = (UInt8.ofNat (n % 256)).toNat + 256 * ofLittleEndian (littleEndian w (n / 256)) := rfl
      _ = n % 256 + 256 * (n / 256) := by rw [hbyte, hrest]
      _ = n := Nat.mod_add_div n 256

theorem length_le_flatMap {α : Type} {encode : α → Bytes} (h : ∀ v, encode v ≠ [])
    (xs : List α) : xs.length ≤ (xs.flatMap encode).length := by
  induction xs with
  | nil => exact Nat.le_refl 0
  | cons x xs ih =>
    have hpos := List.length_pos_iff.mpr (h x)
    rw [List.flatMap_cons, List.length_append, List.length_cons]
    omega

/-! ### Decoders -/

abbrev Decoder (α : Type) := StateT Bytes (Except String) α

variable {α β σ : Type} {d : Decoder α} {k : α → Decoder β} {b b' s : Bytes} {v : α} {w : β}
  {P Q : Prop}

def fail (message : String) : Decoder α := fun _ => .error message

/-- The number of bytes that are left. -/
def remaining : Decoder Nat := fun s => .ok (s.length, s)

/-- Run a body `n` times. -/
def loop (body : σ → Decoder σ) : Nat → σ → Decoder σ
  | 0, acc => pure acc
  | n + 1, acc => do loop body n (← body acc)

theorem ite_decoder {p : Prop} [Decidable p] {d' : Decoder α} :
    (if p then d else d') s = if p then d s else d' s := by
  split_ifs <;> rfl

theorem bind_of_eq_ok {s' : Bytes} (h : d s = .ok (v, s')) : (d >>= k) s = k v s' := by
  change (d s).bind (fun r => k r.1 r.2) = k v s'
  rw [h]
  rfl

theorem bind_eq_ok {r : β × Bytes} :
    (d >>= k) s = .ok r ↔ ∃ v s', d s = .ok (v, s') ∧ k v s' = .ok r := by
  constructor
  · intro h
    change (d s).bind (fun r => k r.1 r.2) = .ok r at h
    cases hd : d s with
    | error message =>
      rw [hd] at h
      cases h
    | ok r' =>
      rw [hd] at h
      exact ⟨r'.1, r'.2, rfl, h⟩
  · rintro ⟨v, s', hd, hk⟩
    exact (bind_of_eq_ok hd).trans hk

theorem ok_eq_iff {r : α × Bytes} (h : P) :
    (.ok (v, s) : Except String (α × Bytes)) = .ok r ↔ P ∧ r = (v, s) := by
  constructor
  · intro hr
    exact ⟨h, (Except.ok.inj hr).symm⟩
  · rintro ⟨-, rfl⟩
    rfl

/-! ### What a decoder reads -/

/-- On `b` and whatever follows, `d` succeeds exactly if `P`, with `v` and without `b`. -/
def Reads (d : Decoder α) (b : Bytes) (v : α) (P : Prop) : Prop :=
  ∀ s r, d (b ++ s) = .ok r ↔ P ∧ r = (v, s)

namespace Reads

theorem congr (h : Reads d b v P) (hPQ : P ↔ Q) : Reads d b v Q :=
  fun s r => (h s r).trans (and_congr_left' hPQ)

theorem pure : Reads (pure v : Decoder α) [] v True := fun _ _ => ok_eq_iff trivial

theorem fail {message : String} : Reads (fail message : Decoder α) b v False := by
  intro s r
  constructor
  · intro h
    cases h
  · rintro ⟨hfalse, -⟩
    exact hfalse.elim

theorem bind (h : Reads d b v P) (hk : Reads (k v) b' w Q) :
    Reads (d >>= k) (b ++ b') w (P ∧ Q) := by
  intro s r
  rw [List.append_assoc, bind_eq_ok]
  constructor
  · rintro ⟨v', s', hd, hr⟩
    obtain ⟨hP, hv⟩ := (h (b' ++ s) (v', s')).mp hd
    obtain ⟨rfl, rfl⟩ := Prod.mk.inj hv
    obtain ⟨hQ, hr⟩ := (hk s r).mp hr
    exact ⟨⟨hP, hQ⟩, hr⟩
  · rintro ⟨⟨hP, hQ⟩, hr⟩
    exact ⟨v, b' ++ s, (h (b' ++ s) _).mpr ⟨hP, rfl⟩, (hk s r).mpr ⟨hQ, hr⟩⟩

/-- A decoder that goes on without reading. -/
theorem map (h : Reads d b v P) (hk : Reads (k v) [] w Q) : Reads (d >>= k) b w (P ∧ Q) :=
  List.append_nil b ▸ h.bind hk

theorem value (h : Reads d b v P) (f : α → β) : Reads (d >>= fun v => Pure.pure (f v)) b (f v) P :=
  Reads.congr (Reads.map h Reads.pure) (and_iff_left trivial)

/-- The last decoder of a sequence whose first part always succeeds. -/
theorem andThen (h : Reads d b v True) (hk : Reads (k v) b' w Q) : Reads (d >>= k) (b ++ b') w Q :=
  (h.bind hk).congr (and_iff_right trivial)

theorem ite_fail {message : String} {p : Prop} [Decidable p] (h : ¬ p → Reads d b v P) :
    Reads (if p then Bare.fail message else d) b v (¬ p ∧ P) := by
  by_cases hp : p
  · rw [if_pos hp]
    exact Reads.fail.congr (iff_of_false id fun h => h.1 hp)
  · rw [if_neg hp]
    exact (h hp).congr (and_iff_right hp).symm

theorem eq_ok (h : Reads d b v P) (hP : P) : d (b ++ s) = .ok (v, s) := (h s _).mpr ⟨hP, rfl⟩

/-- A loop over a list of encodings. -/
theorem loop {body : σ → Decoder σ} {encode : α → Bytes} {f : σ → α → σ} {p : α → Prop}
    (h : ∀ acc x, Reads (body acc) (encode x) (f acc x) (p x)) (xs : List α) (acc : σ) :
    Reads (loop body xs.length acc) (xs.flatMap encode) (xs.foldl f acc) (∀ x ∈ xs, p x) := by
  induction xs generalizing acc with
  | nil => exact Reads.pure.congr (iff_of_true trivial (List.forall_mem_nil _))
  | cons x xs ih =>
    exact ((h acc x).bind (ih (f acc x))).congr List.forall_mem_cons.symm

end Reads

/-! ### What follows -/

/-- What a decoder has read does not depend on what follows. -/
def Stable (d : Decoder α) : Prop :=
  ∀ s v rest x, d s = .ok (v, rest) → d (s ++ x) = .ok (v, rest ++ x)

namespace Stable

theorem pure : Stable (pure v : Decoder α) := by
  intro s v' rest x h
  obtain ⟨rfl, rfl⟩ := Prod.mk.inj (Except.ok.inj h)
  rfl

theorem fail {message : String} : Stable (fail message : Decoder α) := by
  intro s v rest x h
  cases h

theorem bind (h : Stable d) (hk : ∀ v, Stable (k v)) : Stable (d >>= k) := by
  intro s w rest x hs
  obtain ⟨v, s', hd, hr⟩ := bind_eq_ok.mp hs
  exact bind_eq_ok.mpr ⟨v, s' ++ x, h s v s' x hd, hk v s' w rest x hr⟩

theorem ite {p : Prop} [Decidable p] {d' : Decoder α} (h : Stable d) (h' : Stable d') :
    Stable (if p then d else d') := by
  split_ifs
  · exact h
  · exact h'

theorem loop {body : σ → Decoder σ} (h : ∀ acc, Stable (body acc)) (n : Nat) (acc : σ) :
    Stable (loop body n acc) := by
  induction n generalizing acc with
  | zero => exact Stable.pure
  | succ n ih => exact (h acc).bind ih

/-- A decoder that reads all of `b` succeeds on none of its proper prefixes. -/
theorem ne_ok_of_append (h : Stable d) (hb : d b = .ok (v, [])) {p x : Bytes} (hp : p ++ x = b)
    (hx : x ≠ []) (r : α × Bytes) : d p ≠ .ok r := by
  obtain ⟨v', rest⟩ := r
  intro hr
  have hlonger := h p v' rest x hr
  rw [hp, hb] at hlonger
  have hrest : [] = rest ++ x := (Prod.mk.inj (Except.ok.inj hlonger)).2
  exact hx (List.append_eq_nil_iff.mp hrest.symm).2

end Stable

end Bare

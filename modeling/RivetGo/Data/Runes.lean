import Mathlib
import RivetGo.Data.Utf8

/-!
# The characters of a byte string

Any byte string can be read as a sequence of runes: a rune is a character with the bytes of its
encoding, and a byte that begins no character is a rune of its own and stands for the replacement
character. The bytes of the runes are the byte string again, and on the encoding of a text they
are the characters of the text.
-/

namespace Utf8

structure Rune where
  char : Char
  bytes : Bytes
  deriving DecidableEq

/-- What stands for a byte that begins no character. -/
def replacement : Char := '�'

def Rune.of (c : Char) : Rune := ⟨c, String.utf8EncodeChar c⟩

/-- The rune at the front of `x :: b`. -/
def firstRune (x : UInt8) (b : Bytes) : Rune :=
  match ByteArray.utf8DecodeChar? ⟨(x :: b).toArray⟩ 0 with
  | some c => .of c
  | none => ⟨replacement, [x]⟩

/-- The first `n` runes. -/
def runesUpTo : Nat → Bytes → List Rune
  | 0, _ => []
  | _ + 1, [] => []
  | n + 1, x :: b =>
    firstRune x b :: runesUpTo n ((x :: b).drop (firstRune x b).bytes.length)

def runes (b : Bytes) : List Rune := runesUpTo b.length b

/-- The characters of a byte string. -/
def chars (b : Bytes) : List Char := (runes b).map Rune.char

theorem utf8EncodeChar_ne_nil (c : Char) : String.utf8EncodeChar c ≠ [] := by
  apply List.ne_nil_of_length_pos
  rw [String.length_utf8EncodeChar]
  exact c.utf8Size_pos

theorem encode_ofList (cs : List Char) :
    encode (String.ofList cs) = cs.flatMap String.utf8EncodeChar := by
  rw [encode, String.toByteArray_ofList, List.utf8Encode, List.data_toByteArray]

theorem encode_eq_flatMap (s : String) : encode s = s.toList.flatMap String.utf8EncodeChar := by
  rw [← encode_ofList, String.ofList_toList]

/-! ### Runes and their bytes -/

theorem eq_append_of_utf8DecodeChar? {b : Bytes} {c : Char}
    (h : ByteArray.utf8DecodeChar? ⟨b.toArray⟩ 0 = some c) :
    ∃ rest, b = String.utf8EncodeChar c ++ rest := by
  obtain ⟨rest, hrest⟩ := ByteArray.exists_of_utf8DecodeChar?_eq_some h
  exact ⟨rest.data.toList, by simpa using congrArg (fun a : ByteArray => a.data.toList) hrest⟩

/-- The bytes of the first rune are at the front. -/
theorem firstRune_append (x : UInt8) (b : Bytes) :
    (firstRune x b).bytes ++ (x :: b).drop (firstRune x b).bytes.length = x :: b := by
  unfold firstRune
  split
  case h_1 c hc =>
    obtain ⟨rest, hbytes⟩ := eq_append_of_utf8DecodeChar? hc
    rw [hbytes]
    simp [Rune.of]
  case h_2 => rfl

theorem length_firstRune_le (x : UInt8) (b : Bytes) :
    (firstRune x b).bytes.length ≤ b.length + 1 := by
  have hlength := congrArg List.length (firstRune_append x b)
  rw [List.length_append, List.length_cons] at hlength
  omega

theorem firstRune_bytes_ne_nil (x : UInt8) (b : Bytes) : (firstRune x b).bytes ≠ [] := by
  unfold firstRune
  split
  case h_1 c _ => exact utf8EncodeChar_ne_nil c
  case h_2 => exact List.cons_ne_nil x []

theorem length_drop_firstRune (x : UInt8) (b : Bytes) :
    ((x :: b).drop (firstRune x b).bytes.length).length ≤ b.length := by
  have hpos := List.length_pos_iff.mpr (firstRune_bytes_ne_nil x b)
  rw [List.length_drop, List.length_cons]
  omega

/-- Enough passes read everything. -/
theorem runesUpTo_of_le {n : Nat} {b : Bytes} (h : b.length ≤ n) : runesUpTo n b = runes b := by
  have hmore (m : Nat) : ∀ n b, b.length ≤ m → m ≤ n → runesUpTo n b = runesUpTo m b := by
    induction m with
    | zero =>
      intro n b hb _
      obtain rfl := List.length_eq_zero_iff.mp (Nat.le_zero.mp hb)
      cases n <;> rfl
    | succ m ih =>
      intro n b hb hn
      obtain ⟨n, rfl⟩ := Nat.exists_eq_succ_of_ne_zero (show n ≠ 0 by omega)
      cases b with
      | nil => rfl
      | cons x b =>
        have hlength := length_drop_firstRune x b
        rw [List.length_cons] at hb
        rw [runesUpTo, runesUpTo, ih n _ (by omega) (by omega)]
  exact hmore b.length n b (Nat.le_refl _) h

theorem runes_cons (x : UInt8) (b : Bytes) :
    runes (x :: b) = firstRune x b :: runes ((x :: b).drop (firstRune x b).bytes.length) := by
  rw [← runesUpTo_of_le (length_drop_firstRune x b)]
  rfl

@[simp] theorem runes_nil : runes [] = [] := rfl

/-! ### Texts -/

/-- A character in front of any bytes is read as that character. -/
theorem runes_utf8EncodeChar_append (c : Char) (b : Bytes) :
    runes (String.utf8EncodeChar c ++ b) = .of c :: runes b := by
  obtain ⟨x, t, hc⟩ := List.exists_cons_of_ne_nil (utf8EncodeChar_ne_nil c)
  have hdecode : ByteArray.utf8DecodeChar? ⟨(x :: (t ++ b)).toArray⟩ 0 = some c := by
    have hbytes : (⟨(x :: (t ++ b)).toArray⟩ : ByteArray) =
        (String.utf8EncodeChar c).toByteArray ++ ⟨b.toArray⟩ := by
      apply ByteArray.ext
      apply Array.toList_inj.mp
      simp [hc, ByteArray.data_append, List.data_toByteArray]
    rw [hbytes]
    exact ByteArray.utf8DecodeChar?_utf8EncodeChar_append
  have hfirst : firstRune x (t ++ b) = .of c := by
    unfold firstRune
    rw [hdecode]
  have hdrop : (x :: (t ++ b)).drop (Rune.of c).bytes.length = b := by
    rw [← List.cons_append, ← hc]
    exact List.drop_left
  rw [hc, List.cons_append, runes_cons, hfirst, hdrop]

theorem runes_flatMap (cs : List Char) :
    runes (cs.flatMap String.utf8EncodeChar) = cs.map Rune.of := by
  induction cs with
  | nil => rfl
  | cons c cs ih => rw [List.flatMap_cons, runes_utf8EncodeChar_append, ih, List.map_cons]

/-- The runes of a text are its characters. -/
theorem runes_encode (s : String) : runes (encode s) = s.toList.map Rune.of := by
  rw [encode_eq_flatMap, runes_flatMap]

theorem chars_encode (s : String) : chars (encode s) = s.toList := by
  rw [chars, runes_encode, List.map_map]
  exact List.map_id _

/-! ### Bytes below 128 -/

theorem utf8EncodeChar_of_lt {c : Char} (h : c.toNat < 0x80) :
    String.utf8EncodeChar c = [UInt8.ofNat c.toNat] := by
  unfold String.utf8EncodeChar
  exact if_pos (Nat.le_of_lt_succ h)

/-- All bytes of a character that takes more than one have the top bit. -/
theorem le_of_mem_utf8EncodeChar {c : Char} {x : UInt8} (hc : 0x80 ≤ c.toNat)
    (hx : x ∈ String.utf8EncodeChar c) : 0x80 ≤ x.toNat := by
  have htop (n : Nat) (hn : 0x80 ≤ n) (hlt : n < 0x100) : 0x80 ≤ (UInt8.ofNat n).toNat := by
    rw [UInt8.toNat_ofNat_of_lt' hlt]
    exact hn
  unfold String.utf8EncodeChar at hx
  rw [if_neg (show ¬ c.val.toNat ≤ 0x7f from Nat.not_le.mpr hc)] at hx
  split_ifs at hx <;>
    simp only [List.mem_cons, List.not_mem_nil, or_false] at hx
  · obtain rfl | rfl := hx <;> exact htop _ (by omega) (by omega)
  · obtain rfl | rfl | rfl := hx <;> exact htop _ (by omega) (by omega)
  · obtain rfl | rfl | rfl | rfl := hx <;> exact htop _ (by omega) (by omega)

/-- A byte below 128 stands for itself wherever it occurs. -/
theorem mem_utf8EncodeChar_iff {c d : Char} (hd : d.toNat < 0x80) :
    UInt8.ofNat d.toNat ∈ String.utf8EncodeChar c ↔ c = d := by
  have hbyte {e : Char} (he : e.toNat < 0x80) : (UInt8.ofNat e.toNat).toNat = e.toNat :=
    UInt8.toNat_ofNat_of_lt' (he.trans (by decide))
  constructor
  · intro hmem
    by_cases hc : c.toNat < 0x80
    · rw [utf8EncodeChar_of_lt hc, List.mem_singleton] at hmem
      apply Char.toNat_inj.mp
      rw [← hbyte hc, ← hmem, hbyte hd]
    · have hle := le_of_mem_utf8EncodeChar (Nat.le_of_not_lt hc) hmem
      rw [hbyte hd] at hle
      omega
  · rintro rfl
    rw [utf8EncodeChar_of_lt hd]
    exact List.mem_singleton_self _

theorem length_runes_le (b : Bytes) : (runes b).length ≤ b.length := by
  induction hn : b.length using Nat.strong_induction_on generalizing b with
  | _ n ih =>
    cases b with
    | nil => exact Nat.zero_le n
    | cons x b =>
      have hlength := length_drop_firstRune x b
      rw [List.length_cons] at hn
      have hrest := ih _ (by omega) ((x :: b).drop (firstRune x b).bytes.length) rfl
      rw [runes_cons, List.length_cons]
      omega

/-- A byte below 128 is a rune. -/
theorem runes_cons_of_lt {x : UInt8} (hx : x.toNat < 0x80) (b : Bytes) :
    runes (x :: b) = .of (Char.ofNat x.toNat) :: runes b := by
  have hvalid : x.toNat.isValidChar := .inl (by omega)
  have hchar : (Char.ofNat x.toNat).toNat = x.toNat := by rw [Char.toNat_ofNat, if_pos hvalid]
  have hbytes : String.utf8EncodeChar (Char.ofNat x.toNat) = [x] := by
    rw [utf8EncodeChar_of_lt (by omega), hchar, UInt8.ofNat_toNat]
  have hread := runes_utf8EncodeChar_append (Char.ofNat x.toNat) b
  rwa [hbytes] at hread

theorem two_le_length_utf8EncodeChar {c : Char} (hc : 0x80 ≤ c.toNat) :
    2 ≤ (String.utf8EncodeChar c).length := by
  unfold String.utf8EncodeChar
  rw [if_neg (show ¬ c.val.toNat ≤ 0x7f from Nat.not_le.mpr hc)]
  split_ifs <;> simp

/-- Any other byte begins a character of several bytes or is read as the replacement. -/
theorem firstRune_of_le {x : UInt8} (hx : 0x80 ≤ x.toNat) (b : Bytes) :
    (firstRune x b).char = replacement ∨ 2 ≤ (firstRune x b).bytes.length := by
  unfold firstRune
  split
  case h_2 => exact .inl rfl
  case h_1 c hc =>
    obtain ⟨rest, hbytes⟩ := eq_append_of_utf8DecodeChar? hc
    refine .inr (two_le_length_utf8EncodeChar (Nat.le_of_not_lt fun hlt => ?_))
    rw [utf8EncodeChar_of_lt hlt, List.cons_append] at hbytes
    have hx' : x.toNat = c.toNat := by
      rw [(List.cons.inj hbytes).1]
      exact UInt8.toNat_ofNat_of_lt' (hlt.trans (by decide))
    omega

/-- The first byte of a character is no continuation byte. -/
theorem head_utf8EncodeChar {c : Char} {x : UInt8} (hx : (String.utf8EncodeChar c).head? = some x) :
    x.toNat < 0x80 ∨ 0xc0 ≤ x.toNat := by
  have hbyte (n : Nat) (hn : n < 0x100) : (UInt8.ofNat n).toNat = n := UInt8.toNat_ofNat_of_lt' hn
  unfold String.utf8EncodeChar at hx
  dsimp only at hx
  split_ifs at hx with h1 h2 h3 <;> obtain rfl := Option.some.inj hx
  · exact .inl (by rw [hbyte _ (by omega)]; omega)
  · exact .inr (by rw [hbyte _ (by omega)]; omega)
  · exact .inr (by rw [hbyte _ (by omega)]; omega)
  · exact .inr (by rw [hbyte _ (by omega)]; omega)

/-- Characters below 128 are their bytes. -/
theorem flatMap_utf8EncodeChar_of_lt {cs : List Char} (h : ∀ c ∈ cs, c.toNat < 0x80) :
    cs.flatMap String.utf8EncodeChar = cs.map fun c => UInt8.ofNat c.toNat := by
  rw [List.map_eq_flatMap]
  exact List.flatMap_congr fun c hc => utf8EncodeChar_of_lt (h c hc)

/-- Bytes below 128 at the front of a text are its first characters. -/
theorem exists_ascii_front {cs : List Char} {n : Nat}
    (hle : n ≤ (cs.flatMap String.utf8EncodeChar).length)
    (hlt : ∀ x ∈ (cs.flatMap String.utf8EncodeChar).take n, x.toNat < 0x80) :
    ∃ w rest, cs = w ++ rest ∧ (∀ c ∈ w, c.toNat < 0x80) ∧ w.length = n := by
  induction n generalizing cs with
  | zero => exact ⟨[], cs, rfl, List.forall_mem_nil _, rfl⟩
  | succ n ih =>
    cases cs with
    | nil => exact absurd hle (Nat.not_succ_le_zero n)
    | cons c cs =>
      obtain ⟨x, t, hx⟩ := List.exists_cons_of_ne_nil (utf8EncodeChar_ne_nil c)
      have hfirst : x.toNat < 0x80 := by
        apply hlt
        rw [List.flatMap_cons, hx]
        exact List.mem_cons_self
      have hc : c.toNat < 0x80 := by
        refine Nat.lt_of_not_le fun hge => ?_
        have := le_of_mem_utf8EncodeChar hge (hx ▸ List.mem_cons_self)
        omega
      have hcons : (c :: cs).flatMap String.utf8EncodeChar =
          UInt8.ofNat c.toNat :: cs.flatMap String.utf8EncodeChar := by
        rw [List.flatMap_cons, utf8EncodeChar_of_lt hc]
        rfl
      rw [hcons] at hle hlt
      obtain ⟨w, rest, rfl, hw, hlength⟩ := ih (Nat.le_of_succ_le_succ hle)
        fun y hy => hlt y (List.mem_cons_of_mem _ hy)
      exact ⟨c :: w, rest, rfl, List.forall_mem_cons.mpr ⟨hc, hw⟩, congrArg Nat.succ hlength⟩

/-! ### Trimming -/

/-- White space is taken off both ends. -/
def trim (b : Bytes) : Bytes :=
  (((runes b).dropWhile fun r => isWhiteSpace r.char).rdropWhile
    fun r => isWhiteSpace r.char).flatMap Rune.bytes

/-- The same for a text. -/
def trimText (s : String) : String :=
  .ofList ((s.toList.dropWhile isWhiteSpace).rdropWhile isWhiteSpace)

theorem trim_encode (s : String) : trim (encode s) = encode (trimText s) := by
  have hwhite : (fun r : Rune => isWhiteSpace r.char) ∘ Rune.of = isWhiteSpace := rfl
  rw [trim, trimText, encode_ofList, runes_encode, List.dropWhile_map, hwhite, List.rdropWhile,
    List.rdropWhile, ← List.map_reverse, List.dropWhile_map, hwhite, ← List.map_reverse,
    List.flatMap_map]
  rfl

end Utf8

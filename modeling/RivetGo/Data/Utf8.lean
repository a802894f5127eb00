import Mathlib.Data.List.Basic
import Mathlib.Data.String.Basic

/-!
# Byte strings and text

A byte string is a list of bytes. Text is a `String`, which by construction is
a valid UTF-8 sequence; `Utf8.encode` gives its bytes and `Utf8.decode?` reads
bytes back, failing exactly when they are not the encoding of any text. The
length of a text is always the number of its bytes.

The second part fixes the Unicode `White_Space` property, which decides what
trimming removes, and calls a text blank when trimming leaves nothing of it.
-/

/-- A sequence of bytes. -/
abbrev Bytes := List UInt8

namespace Utf8

/-- The UTF-8 bytes of a text. -/
def encode (s : String) : Bytes := s.toByteArray.data.toList

/-- The text whose UTF-8 bytes are `b`, if there is one. -/
def decode? (b : Bytes) : Option String := String.fromUTF8? ⟨b.toArray⟩

/-- Byte strings that are the UTF-8 encoding of some text. -/
def Valid (b : Bytes) : Prop := (decode? b).isSome

instance (b : Bytes) : Decidable (Valid b) := inferInstanceAs (Decidable (_ = true))

theorem decode?_eq_some {b : Bytes} {s : String} : decode? b = some s ↔ encode s = b := by
  unfold decode? String.fromUTF8? encode
  constructor
  · intro h
    split at h
    · cases h
      rfl
    · cases h
  · rintro rfl
    have hs : (⟨s.toByteArray.data.toList.toArray⟩ : ByteArray) = s.toByteArray := rfl
    rw [dif_pos (hs ▸ s.isValidUTF8)]
    rfl

@[simp] theorem decode?_encode (s : String) : decode? (encode s) = some s :=
  decode?_eq_some.mpr rfl

theorem encode_injective : Function.Injective encode := by
  intro s t h
  have hs := decode?_encode s
  rw [h, decode?_encode] at hs
  exact (Option.some.inj hs).symm

@[simp] theorem encode_inj {s t : String} : encode s = encode t ↔ s = t :=
  encode_injective.eq_iff

@[simp] theorem valid_encode (s : String) : Valid (encode s) := by
  simp [Valid]

theorem valid_iff {b : Bytes} : Valid b ↔ ∃ s, encode s = b := by
  simp [Valid, Option.isSome_iff_exists, decode?_eq_some]

@[simp] theorem encode_append (s t : String) : encode (s ++ t) = encode s ++ encode t := by
  simp [encode, String.toByteArray_append, ByteArray.data_append]

@[simp] theorem encode_empty : encode "" = [] := rfl

@[simp] theorem encode_eq_nil {s : String} : encode s = [] ↔ s = "" := by
  rw [← encode_empty, encode_inj]

/-- Bytes counted in a text are the bytes of its encoding. -/
theorem length_encode (s : String) : (encode s).length = s.utf8ByteSize := rfl

/-- A character takes at most four bytes. -/
theorem utf8Len_le (cs : List Char) : String.utf8Len cs ≤ 4 * cs.length := by
  induction cs with
  | nil => exact Nat.le_refl 0
  | cons c cs ih =>
    have hc := c.utf8Size_le_four
    simp only [String.utf8Len_cons, List.length_cons]
    omega

/-- The text of a number is short. -/
theorem utf8ByteSize_toString_le (n : UInt64) : (toString n).utf8ByteSize ≤ 80 := by
  have hlength : (Nat.repr n.toNat).length ≤ 20 :=
    (Nat.length_repr_le_iff (by decide)).mpr (n.toNat_lt.trans (by decide))
  have hsize := utf8Len_le (Nat.repr n.toNat).toList
  rw [← String.utf8ByteSize_ofList, String.ofList_toList, String.length_toList] at hsize
  exact hsize.trans (by omega)

/-- Putting a text in front of bytes neither makes nor breaks a valid encoding. -/
@[simp] theorem valid_encode_append {s : String} {b : Bytes} :
    Valid (encode s ++ b) ↔ Valid b := by
  rw [valid_iff, valid_iff]
  constructor
  · rintro ⟨t, ht⟩
    have hbytes : s.toList.utf8Encode ++ ⟨b.toArray⟩ = t.toList.utf8Encode := by
      apply ByteArray.ext
      apply Array.toList_inj.mp
      simpa [encode, ← String.toByteArray_ofList, ByteArray.data_append] using ht.symm
    obtain ⟨cs, hcs⟩ := List.isPrefix_of_utf8Encode_append_eq_utf8Encode _ hbytes
    refine ⟨String.ofList cs, ?_⟩
    have happ : t = s ++ String.ofList cs := by
      rw [← String.ofList_toList (s := t), ← hcs, String.ofList_append, String.ofList_toList]
    rw [happ, encode_append] at ht
    exact List.append_cancel_left ht
  · rintro ⟨t, rfl⟩
    exact ⟨s ++ t, encode_append s t⟩

/-! ### White space -/

/-- The Unicode `White_Space` property. -/
def isWhiteSpace (c : Char) : Bool :=
  let n := c.toNat
  (9 ≤ n && n ≤ 13) || n == 0x20 || n == 0x85 || n == 0xa0 || n == 0x1680 ||
    (0x2000 ≤ n && n ≤ 0x200a) || n == 0x2028 || n == 0x2029 || n == 0x202f ||
    n == 0x205f || n == 0x3000

/-- A text of which trimming white space from both ends leaves nothing. -/
def blank (s : String) : Bool := s.toList.all isWhiteSpace

/-- Blankness of a byte string. A byte that belongs to no encoded character is
never white space, so bytes that are not a text are not blank. -/
def blankBytes (b : Bytes) : Bool := (decode? b).any blank

@[simp] theorem blankBytes_encode (s : String) : blankBytes (encode s) = blank s := by
  simp [blankBytes]

@[simp] theorem blank_empty : blank "" = true := rfl

end Utf8

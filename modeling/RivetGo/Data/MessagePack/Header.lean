import Mathlib.Tactic.Ring
import Mathlib.Tactic.SplitIfs
import RivetGo.Data.Utf8

/-!
# MessagePack headers

Every MessagePack value starts with a header: for the scalars it is the whole
value, for strings and byte arrays it carries the number of payload bytes that
follow, for arrays and maps the number of entries. `Header.encode` writes the
shortest form, as encoders do that compact their integers; `parseHeader` reads
any form of a header and returns the bytes it has not read.

The extension types are not values here, so `parseHeader` refuses them together
with the reserved byte.
-/

namespace MessagePack

/-- `n` as `w` bytes, the most significant one first. -/
def bigEndian : Nat → Nat → Bytes
  | 0, _ => []
  | w + 1, n => UInt8.ofNat (n / 256 ^ w) :: bigEndian w n

/-- Read `w` bytes as a number, the most significant byte first. -/
def readBigEndian : Nat → Nat → Bytes → Option (Nat × Bytes)
  | 0, acc, s => some (acc, s)
  | _ + 1, _, [] => none
  | w + 1, acc, b :: s => readBigEndian w (256 * acc + b.toNat) s

@[simp] theorem length_bigEndian (w n : Nat) : (bigEndian w n).length = w := by
  induction w with
  | zero => rfl
  | succ w ih => simp [bigEndian, ih]

theorem readBigEndian_bigEndian (w acc n : Nat) (s : Bytes) :
    readBigEndian w acc (bigEndian w n ++ s) = some (acc * 256 ^ w + n % 256 ^ w, s) := by
  induction w generalizing acc with
  | zero => simp [readBigEndian, bigEndian, Nat.mod_one]
  | succ w ih =>
    have hbyte : (UInt8.ofNat (n / 256 ^ w)).toNat = n / 256 ^ w % 256 := by
      simp [UInt8.toNat_ofNat']
    have hsplit : n % 256 ^ (w + 1) = 256 ^ w * (n / 256 ^ w % 256) + n % 256 ^ w := by
      rw [Nat.pow_succ, Nat.mod_mul]
      omega
    rw [bigEndian, List.cons_append, readBigEndian, ih, hbyte, hsplit]
    congr 2
    ring

/-- A number that fits its width is read back. -/
theorem readBigEndian_of_lt {w n : Nat} (h : n < 256 ^ w) (s : Bytes) :
    readBigEndian w 0 (bigEndian w n ++ s) = some (n, s) := by
  rw [readBigEndian_bigEndian, Nat.mod_eq_of_lt h]
  simp

/-- The first part of a value: a whole scalar, or the size of what follows. -/
inductive Header where
  | nil
  | bool (b : Bool)
  | int (i : Int)
  | float (bits : Nat)
  | str (n : Nat)
  | bin (n : Nat)
  | array (n : Nat)
  | map (n : Nat)
  deriving DecidableEq, Repr

namespace Header

/-- The headers a MessagePack stream can carry. -/
def Fits : Header → Prop
  | .nil | .bool _ => True
  | .int i => -2 ^ 63 ≤ i ∧ i < 2 ^ 64
  | .float bits => bits < 2 ^ 64
  | .str n | .bin n | .array n | .map n => n < 2 ^ 32

/-- A natural number in its shortest form. -/
def encodeNat (n : Nat) : Bytes :=
  if n < 0x80 then [UInt8.ofNat n]
  else if n < 2 ^ 8 then 0xcc :: bigEndian 1 n
  else if n < 2 ^ 16 then 0xcd :: bigEndian 2 n
  else if n < 2 ^ 32 then 0xce :: bigEndian 4 n
  else 0xcf :: bigEndian 8 n

/-- The number `-(n + 1)` in its shortest form. -/
def encodeNegSucc (n : Nat) : Bytes :=
  if n < 0x20 then [UInt8.ofNat (0xff - n)]
  else if n < 2 ^ 7 then 0xd0 :: bigEndian 1 (2 ^ 8 - 1 - n)
  else if n < 2 ^ 15 then 0xd1 :: bigEndian 2 (2 ^ 16 - 1 - n)
  else if n < 2 ^ 31 then 0xd2 :: bigEndian 4 (2 ^ 32 - 1 - n)
  else 0xd3 :: bigEndian 8 (2 ^ 64 - 1 - n)

/-- A header in its shortest form. -/
def encode : Header → Bytes
  | .nil => [0xc0]
  | .bool false => [0xc2]
  | .bool true => [0xc3]
  | .int (.ofNat n) => encodeNat n
  | .int (.negSucc n) => encodeNegSucc n
  | .float bits => 0xcb :: bigEndian 8 bits
  | .str n =>
    if n < 0x20 then [UInt8.ofNat (0xa0 + n)]
    else if n < 2 ^ 8 then 0xd9 :: bigEndian 1 n
    else if n < 2 ^ 16 then 0xda :: bigEndian 2 n
    else 0xdb :: bigEndian 4 n
  | .bin n =>
    if n < 2 ^ 8 then 0xc4 :: bigEndian 1 n
    else if n < 2 ^ 16 then 0xc5 :: bigEndian 2 n
    else 0xc6 :: bigEndian 4 n
  | .array n =>
    if n < 0x10 then [UInt8.ofNat (0x90 + n)]
    else if n < 2 ^ 16 then 0xdc :: bigEndian 2 n
    else 0xdd :: bigEndian 4 n
  | .map n =>
    if n < 0x10 then [UInt8.ofNat (0x80 + n)]
    else if n < 2 ^ 16 then 0xde :: bigEndian 2 n
    else 0xdf :: bigEndian 4 n

end Header

/-- Read a `w`-byte number and make a header of it. -/
def parseSized (w : Nat) (make : Nat → Header) (s : Bytes) : Option (Header × Bytes) :=
  (readBigEndian w 0 s).map fun (n, rest) => (make n, rest)

/-- The two's complement reading of `n` in `w` bytes. -/
def signed (w n : Nat) : Int := if n < 2 ^ (8 * w - 1) then n else n - 2 ^ (8 * w)

/-- Read one header of any form. -/
def parseHeader : Bytes → Option (Header × Bytes)
  | [] => none
  | b :: s =>
    let t := b.toNat
    if t < 0x80 then some (.int t, s)
    else if t < 0x90 then some (.map (t - 0x80), s)
    else if t < 0xa0 then some (.array (t - 0x90), s)
    else if t < 0xc0 then some (.str (t - 0xa0), s)
    else if 0xe0 ≤ t then some (.int (t - 0x100), s)
    else match t with
      | 0xc0 => some (.nil, s)
      | 0xc2 => some (.bool false, s)
      | 0xc3 => some (.bool true, s)
      | 0xc4 => parseSized 1 .bin s
      | 0xc5 => parseSized 2 .bin s
      | 0xc6 => parseSized 4 .bin s
      | 0xcb => parseSized 8 .float s
      | 0xcc => parseSized 1 (.int ·) s
      | 0xcd => parseSized 2 (.int ·) s
      | 0xce => parseSized 4 (.int ·) s
      | 0xcf => parseSized 8 (.int ·) s
      | 0xd0 => parseSized 1 (fun n => .int (signed 1 n)) s
      | 0xd1 => parseSized 2 (fun n => .int (signed 2 n)) s
      | 0xd2 => parseSized 4 (fun n => .int (signed 4 n)) s
      | 0xd3 => parseSized 8 (fun n => .int (signed 8 n)) s
      | 0xd9 => parseSized 1 .str s
      | 0xda => parseSized 2 .str s
      | 0xdb => parseSized 4 .str s
      | 0xdc => parseSized 2 .array s
      | 0xdd => parseSized 4 .array s
      | 0xde => parseSized 2 .map s
      | 0xdf => parseSized 4 .map s
      | _ => none

theorem parseSized_bigEndian (w : Nat) {n : Nat} (h : n < 2 ^ (8 * w)) (make : Nat → Header)
    (s : Bytes) : parseSized w make (bigEndian w n ++ s) = some (make n, s) := by
  rw [Nat.pow_mul] at h
  simp [parseSized, readBigEndian_of_lt h]

/-- A number below 256 is the value of its byte. -/
theorem toNat_byte {n : Nat} (h : n < 256) : (UInt8.ofNat n).toNat = n :=
  UInt8.toNat_ofNat_of_lt' h

theorem signed_of_negSucc {w n : Nat} (hw : 0 < w) (h : n < 2 ^ (8 * w - 1)) :
    signed w (2 ^ (8 * w) - 1 - n) = Int.negSucc n := by
  have hdouble : 2 ^ (8 * w) = 2 * 2 ^ (8 * w - 1) := by
    rw [← Nat.pow_succ']
    congr 1
    omega
  have hcast : ((2 : Int) ^ (8 * w)) = ((2 ^ (8 * w) : Nat) : Int) := by norm_cast
  rw [signed, if_neg (by omega), hcast]
  omega

theorem parseHeader_encodeNat {n : Nat} (h : n < 2 ^ 64) (s : Bytes) :
    parseHeader (Header.encodeNat n ++ s) = some (.int n, s) := by
  unfold Header.encodeNat
  split_ifs with h1 h2 h3 h4
  · have hb : (UInt8.ofNat n).toNat = n := toNat_byte (by omega)
    simp [parseHeader, hb, h1]
  · exact parseSized_bigEndian 1 h2 (.int ·) s
  · exact parseSized_bigEndian 2 h3 (.int ·) s
  · exact parseSized_bigEndian 4 h4 (.int ·) s
  · exact parseSized_bigEndian 8 h (.int ·) s

theorem parseHeader_encodeNegSucc {n : Nat} (h : n < 2 ^ 63) (s : Bytes) :
    parseHeader (Header.encodeNegSucc n ++ s) = some (.int (Int.negSucc n), s) := by
  have hsized (w : Nat) (hw : 0 < w) (hn : n < 2 ^ (8 * w - 1)) :
      parseSized w (fun n => .int (signed w n)) (bigEndian w (2 ^ (8 * w) - 1 - n) ++ s) =
        some (.int (Int.negSucc n), s) := by
    have hpos : 0 < 2 ^ (8 * w) := Nat.two_pow_pos _
    rw [parseSized_bigEndian w (by omega), signed_of_negSucc hw hn]
  unfold Header.encodeNegSucc
  split_ifs with h1 h2 h3 h4
  · have hb : (UInt8.ofNat (0xff - n)).toNat = 0xff - n := toNat_byte (by omega)
    have hi : ((0xff - n : Nat) : Int) - 0x100 = Int.negSucc n := by omega
    simp only [List.cons_append, List.nil_append, parseHeader, hb]
    rw [if_neg (by omega), if_neg (by omega), if_neg (by omega), if_neg (by omega),
      if_pos (by omega), hi]
  · exact hsized 1 (by decide) h2
  · exact hsized 2 (by decide) h3
  · exact hsized 4 (by decide) h4
  · exact hsized 8 (by decide) h

/-- Reading what was written gives the header back and leaves the rest alone. -/
theorem parseHeader_encode {h : Header} (hfits : h.Fits) (s : Bytes) :
    parseHeader (h.encode ++ s) = some (h, s) := by
  cases h with
  | nil => rfl
  | bool b => cases b <;> rfl
  | int i =>
    cases i with
    | ofNat n =>
      have hn : n < 2 ^ 64 := by simpa [Header.Fits] using hfits.2
      exact parseHeader_encodeNat hn s
    | negSucc n =>
      have hn : n < 2 ^ 63 := by
        have := hfits.1
        omega
      exact parseHeader_encodeNegSucc hn s
  | float bits => exact parseSized_bigEndian 8 hfits .float s
  | str n =>
    simp only [Header.encode]
    split_ifs with h1 h2 h3
    · have hb : (UInt8.ofNat (0xa0 + n)).toNat = 0xa0 + n := toNat_byte (by omega)
      simp only [List.cons_append, List.nil_append, parseHeader, hb]
      rw [if_neg (by omega), if_neg (by omega), if_neg (by omega), if_pos (by omega),
        Nat.add_sub_cancel_left]
    · exact parseSized_bigEndian 1 h2 .str s
    · exact parseSized_bigEndian 2 h3 .str s
    · exact parseSized_bigEndian 4 hfits .str s
  | bin n =>
    simp only [Header.encode]
    split_ifs with h1 h2
    · exact parseSized_bigEndian 1 h1 .bin s
    · exact parseSized_bigEndian 2 h2 .bin s
    · exact parseSized_bigEndian 4 hfits .bin s
  | array n =>
    simp only [Header.encode]
    split_ifs with h1 h2
    · have hb : (UInt8.ofNat (0x90 + n)).toNat = 0x90 + n := toNat_byte (by omega)
      simp only [List.cons_append, List.nil_append, parseHeader, hb]
      rw [if_neg (by omega), if_neg (by omega), if_pos (by omega), Nat.add_sub_cancel_left]
    · exact parseSized_bigEndian 2 h2 .array s
    · exact parseSized_bigEndian 4 hfits .array s
  | map n =>
    simp only [Header.encode]
    split_ifs with h1 h2
    · have hb : (UInt8.ofNat (0x80 + n)).toNat = 0x80 + n := toNat_byte (by omega)
      simp only [List.cons_append, List.nil_append, parseHeader, hb]
      rw [if_neg (by omega), if_pos (by omega), Nat.add_sub_cancel_left]
    · exact parseSized_bigEndian 2 h2 .map s
    · exact parseSized_bigEndian 4 hfits .map s

/-- A header is never empty. -/
theorem Header.encode_ne_nil (h : Header) : h.encode ≠ [] := by
  cases h with
  | nil | float => simp [encode]
  | bool b => cases b <;> simp [encode]
  | int i => cases i <;> simp only [encode, encodeNat, encodeNegSucc] <;> split_ifs <;> simp
  | str n | bin n | array n | map n =>
    simp only [encode]
    split_ifs <;> simp

theorem Header.encode_length_pos (h : Header) : 0 < h.encode.length :=
  List.length_pos_iff.mpr h.encode_ne_nil

end MessagePack

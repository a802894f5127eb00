import RivetGo.Data.MessagePack.Header

/-!
# MessagePack values

`Value.encode` writes a value with the shortest headers, and `decode` reads a
byte string that holds exactly one value. Reading is bounded by the nesting
depth of the value, so that the reader is a structural recursion; a value is
never deeper than its encoding is long, and `decode` therefore reads back every
value whose headers fit.
-/

namespace MessagePack

/-- A MessagePack value without the extension types. A float is its bit
pattern, a string its bytes: the format does not check that they are UTF-8. -/
inductive Value where
  | nil
  | bool (b : Bool)
  | int (i : Int)
  | float (bits : Nat)
  | str (b : Bytes)
  | bin (b : Bytes)
  | array (xs : List Value)
  | map (kvs : List (Value × Value))

namespace Value

mutual

/-- A value in its shortest encoding. -/
def encode : Value → Bytes
  | .str b => (Header.str b.length).encode ++ b
  | .bin b => (Header.bin b.length).encode ++ b
  | .array xs => (Header.array xs.length).encode ++ encodeAll xs
  | .map kvs => (Header.map kvs.length).encode ++ encodePairs kvs
  | .nil => Header.nil.encode
  | .bool b => (Header.bool b).encode
  | .int i => (Header.int i).encode
  | .float bits => (Header.float bits).encode

/-- The entries of an array, one after another. -/
def encodeAll : List Value → Bytes
  | [] => []
  | v :: vs => encode v ++ encodeAll vs

/-- The entries of a map, each key before its value. -/
def encodePairs : List (Value × Value) → Bytes
  | [] => []
  | kv :: kvs => encodePair kv ++ encodePairs kvs

/-- One entry of a map. -/
def encodePair : Value × Value → Bytes
  | (k, v) => encode k ++ encode v

end

mutual

/-- Every header in the value can be written. -/
def Fits : Value → Prop
  | .array xs => xs.length < 2 ^ 32 ∧ AllFit xs
  | .map kvs => kvs.length < 2 ^ 32 ∧ PairsFit kvs
  | .nil => True
  | .bool _ => True
  | .int i => (Header.int i).Fits
  | .float bits => (Header.float bits).Fits
  | .str b => (Header.str b.length).Fits
  | .bin b => (Header.bin b.length).Fits

/-- Every entry of an array fits. -/
def AllFit : List Value → Prop
  | [] => True
  | v :: vs => Fits v ∧ AllFit vs

/-- Every entry of a map fits. -/
def PairsFit : List (Value × Value) → Prop
  | [] => True
  | kv :: kvs => PairFits kv ∧ PairsFit kvs

/-- One entry of a map fits. -/
def PairFits : Value × Value → Prop
  | (k, v) => Fits k ∧ Fits v

end

mutual

/-- How many values are nested in one another, a scalar counting one. -/
def depth : Value → Nat
  | .array xs => depthAll xs + 1
  | .map kvs => depthPairs kvs + 1
  | .nil => 1
  | .bool _ => 1
  | .int _ => 1
  | .float _ => 1
  | .str _ => 1
  | .bin _ => 1

/-- The largest depth in an array. -/
def depthAll : List Value → Nat
  | [] => 0
  | v :: vs => max (depth v) (depthAll vs)

/-- The largest depth in a map. -/
def depthPairs : List (Value × Value) → Nat
  | [] => 0
  | kv :: kvs => max (depthPair kv) (depthPairs kvs)

/-- The larger depth of a key and its value. -/
def depthPair : Value × Value → Nat
  | (k, v) => max (depth k) (depth v)

end

end Value

/-- The first `n` bytes and the rest, if there are so many. -/
def takeBytes (n : Nat) (s : Bytes) : Option (Bytes × Bytes) :=
  if n ≤ s.length then some (s.take n, s.drop n) else none

/-- Read `n` items one after another. -/
def parseMany {α : Type} (item : Bytes → Option (α × Bytes)) :
    Nat → Bytes → Option (List α × Bytes)
  | 0, s => some ([], s)
  | n + 1, s => do
      let (x, s) ← item s
      let (xs, s) ← parseMany item n s
      return (x :: xs, s)

/-- Read a key and its value. -/
def parsePair (item : Bytes → Option (Value × Bytes)) (s : Bytes) :
    Option ((Value × Value) × Bytes) := do
  let (k, s) ← item s
  let (v, s) ← item s
  return ((k, v), s)

/-- Read one value of at most the given depth. -/
def parse : Nat → Bytes → Option (Value × Bytes)
  | 0, _ => none
  | levels + 1, s => do
      let (h, s) ← parseHeader s
      match h with
      | .nil => return (.nil, s)
      | .bool b => return (.bool b, s)
      | .int i => return (.int i, s)
      | .float bits => return (.float bits, s)
      | .str n => (takeBytes n s).map fun (b, s) => (.str b, s)
      | .bin n => (takeBytes n s).map fun (b, s) => (.bin b, s)
      | .array n => (parseMany (parse levels) n s).map fun (xs, s) => (.array xs, s)
      | .map n => (parseMany (parsePair (parse levels)) n s).map fun (kvs, s) => (.map kvs, s)

/-- Read a byte string that holds exactly one value. -/
def decode (s : Bytes) : Option Value :=
  match parse s.length s with
  | some (v, []) => some v
  | _ => none

@[simp] theorem takeBytes_append (b s : Bytes) : takeBytes b.length (b ++ s) = some (b, s) := by
  simp [takeBytes]

mutual

/-- A value within the depth bound is read back from its encoding, and the
bytes that follow are left alone. -/
theorem parse_encode (v : Value) (levels : Nat) (s : Bytes) (hfits : v.Fits)
    (hdepth : v.depth ≤ levels) : parse levels (v.encode ++ s) = some (v, s) := by
  obtain _ | levels := levels
  · cases v <;> simp [Value.depth] at hdepth
  cases v with
  | nil => rfl
  | bool b => simp [parse, Value.encode, parseHeader_encode (h := .bool b) trivial]
  | int i => simp [parse, Value.encode, parseHeader_encode (h := .int i) hfits]
  | float bits => simp [parse, Value.encode, parseHeader_encode (h := .float bits) hfits]
  | str b => simp [parse, Value.encode, parseHeader_encode (h := .str b.length) hfits]
  | bin b => simp [parse, Value.encode, parseHeader_encode (h := .bin b.length) hfits]
  | array xs =>
    obtain ⟨hlen, hall⟩ := hfits
    have hmany := parseMany_encodeAll xs levels s hall (Nat.le_of_succ_le_succ hdepth)
    simp [parse, Value.encode, parseHeader_encode (h := .array xs.length) hlen, hmany]
  | map kvs =>
    obtain ⟨hlen, hall⟩ := hfits
    have hmany := parseMany_encodePairs kvs levels s hall (Nat.le_of_succ_le_succ hdepth)
    simp [parse, Value.encode, parseHeader_encode (h := .map kvs.length) hlen, hmany]

theorem parseMany_encodeAll (vs : List Value) (levels : Nat) (s : Bytes) (hfits : Value.AllFit vs)
    (hdepth : Value.depthAll vs ≤ levels) :
    parseMany (parse levels) vs.length (Value.encodeAll vs ++ s) = some (vs, s) := by
  cases vs with
  | nil => rfl
  | cons v vs =>
    obtain ⟨hv, hvs⟩ := hfits
    obtain ⟨hdv, hdvs⟩ := Nat.max_le.mp hdepth
    have hhead := parse_encode v levels (Value.encodeAll vs ++ s) hv hdv
    have htail := parseMany_encodeAll vs levels s hvs hdvs
    simp [parseMany, Value.encodeAll, hhead, htail]

theorem parseMany_encodePairs (kvs : List (Value × Value)) (levels : Nat) (s : Bytes)
    (hfits : Value.PairsFit kvs) (hdepth : Value.depthPairs kvs ≤ levels) :
    parseMany (parsePair (parse levels)) kvs.length (Value.encodePairs kvs ++ s) =
      some (kvs, s) := by
  cases kvs with
  | nil => rfl
  | cons kv kvs =>
    obtain ⟨hkv, hkvs⟩ := hfits
    obtain ⟨hdkv, hdkvs⟩ := Nat.max_le.mp hdepth
    have hhead := parsePair_encodePair kv levels (Value.encodePairs kvs ++ s) hkv hdkv
    have htail := parseMany_encodePairs kvs levels s hkvs hdkvs
    simp [parseMany, Value.encodePairs, hhead, htail]

theorem parsePair_encodePair (kv : Value × Value) (levels : Nat) (s : Bytes)
    (hfits : Value.PairFits kv) (hdepth : Value.depthPair kv ≤ levels) :
    parsePair (parse levels) (Value.encodePair kv ++ s) = some (kv, s) := by
  obtain ⟨k, v⟩ := kv
  obtain ⟨hk, hv⟩ := hfits
  obtain ⟨hdk, hdv⟩ := Nat.max_le.mp hdepth
  have hkey := parse_encode k levels (v.encode ++ s) hk hdk
  have hvalue := parse_encode v levels s hv hdv
  simp [parsePair, Value.encodePair, hkey, hvalue]

end

namespace Value

mutual

/-- A value is never nested deeper than its encoding is long. -/
theorem depth_le_length (v : Value) : v.depth ≤ v.encode.length := by
  cases v with
  | array xs =>
    have hhead := (Header.array xs.length).encode_length_pos
    have hentries := depthAll_le_length xs
    simp only [depth, encode, List.length_append]
    omega
  | map kvs =>
    have hhead := (Header.map kvs.length).encode_length_pos
    have hentries := depthPairs_le_length kvs
    simp only [depth, encode, List.length_append]
    omega
  | str b =>
    have hhead := (Header.str b.length).encode_length_pos
    simp only [depth, encode, List.length_append]
    omega
  | bin b =>
    have hhead := (Header.bin b.length).encode_length_pos
    simp only [depth, encode, List.length_append]
    omega
  | nil => exact Header.nil.encode_length_pos
  | bool b => exact (Header.bool b).encode_length_pos
  | int i => exact (Header.int i).encode_length_pos
  | float bits => exact (Header.float bits).encode_length_pos

theorem depthAll_le_length (vs : List Value) : depthAll vs ≤ (encodeAll vs).length := by
  cases vs with
  | nil => exact Nat.zero_le _
  | cons v vs =>
    have hv := depth_le_length v
    have hvs := depthAll_le_length vs
    simp only [depthAll, encodeAll, List.length_append]
    omega

theorem depthPairs_le_length (kvs : List (Value × Value)) :
    depthPairs kvs ≤ (encodePairs kvs).length := by
  cases kvs with
  | nil => exact Nat.zero_le _
  | cons kv kvs =>
    have hkv := depthPair_le_length kv
    have hkvs := depthPairs_le_length kvs
    simp only [depthPairs, encodePairs, List.length_append]
    omega

theorem depthPair_le_length (kv : Value × Value) : depthPair kv ≤ (encodePair kv).length := by
  obtain ⟨k, v⟩ := kv
  have hk := depth_le_length k
  have hv := depth_le_length v
  simp only [depthPair, encodePair, List.length_append]
  omega

end

theorem encode_ne_nil (v : Value) : v.encode ≠ [] := by
  intro h
  have hdepth := v.depth_le_length
  cases v <;> simp [h, depth] at hdepth

end Value

/-- Decoding reads back every value whose headers fit. -/
@[simp] theorem decode_encode {v : Value} (hfits : v.Fits) : decode v.encode = some v := by
  have hparse := parse_encode v v.encode.length [] hfits v.depth_le_length
  rw [List.append_nil] at hparse
  rw [decode, hparse]

end MessagePack

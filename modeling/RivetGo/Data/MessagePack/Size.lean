import RivetGo.Data.MessagePack.Record

/-!
# Values within size limits

A reader that guards against amplification bounds the strings and byte arrays
of a value by one limit and the entries of its containers by another. `Within`
is that bound on a whole value. An array is within the limits when its elements
are, a record when its fields are.
-/

namespace MessagePack.Value

variable (blob entries : Nat)

mutual

/-- No string or byte array is longer than `blob`, no container has more than
`entries` entries. -/
def Within : Value → Prop
  | .array xs => xs.length ≤ entries ∧ AllWithin xs
  | .map kvs => kvs.length ≤ entries ∧ PairsWithin kvs
  | .str b => b.length ≤ blob
  | .bin b => b.length ≤ blob
  | .nil => True
  | .bool _ => True
  | .int _ => True
  | .float _ => True

/-- Every entry of an array is within the limits. -/
def AllWithin : List Value → Prop
  | [] => True
  | v :: vs => Within v ∧ AllWithin vs

/-- Every entry of a map is within the limits. -/
def PairsWithin : List (Value × Value) → Prop
  | [] => True
  | kv :: kvs => PairWithin kv ∧ PairsWithin kvs

/-- One entry of a map is within the limits. -/
def PairWithin : Value × Value → Prop
  | (k, v) => Within k ∧ Within v

end

variable {blob entries}

@[simp] theorem nil_within : Value.nil.Within blob entries := trivial

@[simp] theorem bool_within (b : Bool) : (Value.bool b).Within blob entries := trivial

@[simp] theorem int_within (i : Int) : (Value.int i).Within blob entries := trivial

@[simp] theorem str_within {b : Bytes} : (Value.str b).Within blob entries ↔ b.length ≤ blob :=
  Iff.rfl

@[simp] theorem bin_within {b : Bytes} : (Value.bin b).Within blob entries ↔ b.length ≤ blob :=
  Iff.rfl

theorem allWithin_iff {vs : List Value} :
    AllWithin blob entries vs ↔ ∀ v ∈ vs, v.Within blob entries := by
  induction vs with
  | nil => simp [AllWithin]
  | cons v vs ih => simp [AllWithin, ih]

theorem pairsWithin_iff {kvs : List (Value × Value)} :
    PairsWithin blob entries kvs ↔
      ∀ kv ∈ kvs, kv.1.Within blob entries ∧ kv.2.Within blob entries := by
  induction kvs with
  | nil => simp [PairsWithin]
  | cons kv kvs ih => rw [PairsWithin, ih, List.forall_mem_cons, PairWithin]

@[simp] theorem array_within {vs : List Value} :
    (Value.array vs).Within blob entries ↔
      vs.length ≤ entries ∧ ∀ v ∈ vs, v.Within blob entries :=
  and_congr_right fun _ => allWithin_iff

@[simp] theorem map_within {kvs : List (Value × Value)} :
    (Value.map kvs).Within blob entries ↔
      kvs.length ≤ entries ∧
        ∀ kv ∈ kvs, kv.1.Within blob entries ∧ kv.2.Within blob entries :=
  and_congr_right fun _ => pairsWithin_iff

/-- A record whose names are short is within the limits when it does not have
too many fields and each of them is within the limits. -/
theorem record_within {fields : List (String × Value)}
    (hnames : ∀ f ∈ fields, (Utf8.encode f.1).length ≤ blob) (hlength : fields.length ≤ entries) :
    (record fields).Within blob entries ↔ ∀ f ∈ fields, f.2.Within blob entries := by
  rw [record, map_within, List.forall_mem_map, List.length_map]
  constructor
  · rintro ⟨-, hall⟩ f hf
    exact (hall f hf).2
  · intro hall
    exact ⟨hlength, fun f hf => ⟨hnames f hf, hall f hf⟩⟩

/-! ### Depth -/

@[simp] theorem depth_nil : Value.nil.depth = 1 := rfl

@[simp] theorem depth_bool (b : Bool) : (Value.bool b).depth = 1 := rfl

@[simp] theorem depth_int (i : Int) : (Value.int i).depth = 1 := rfl

@[simp] theorem depth_str (b : Bytes) : (Value.str b).depth = 1 := rfl

@[simp] theorem depth_bin (b : Bytes) : (Value.bin b).depth = 1 := rfl

theorem depth_array_le {vs : List Value} {n : Nat} :
    (Value.array vs).depth ≤ n + 1 ↔ ∀ v ∈ vs, v.depth ≤ n := by
  rw [depth, Nat.add_le_add_iff_right]
  induction vs with
  | nil => simp [depthAll]
  | cons v vs ih => rw [depthAll, Nat.max_le, ih, List.forall_mem_cons]

theorem depth_map_le {kvs : List (Value × Value)} {n : Nat} :
    (Value.map kvs).depth ≤ n + 1 ↔ ∀ kv ∈ kvs, kv.1.depth ≤ n ∧ kv.2.depth ≤ n := by
  rw [depth, Nat.add_le_add_iff_right]
  induction kvs with
  | nil => simp [depthPairs]
  | cons kv kvs ih => rw [depthPairs, Nat.max_le, ih, List.forall_mem_cons, depthPair, Nat.max_le]

/-- A record is one level deeper than its fields. -/
theorem depth_record_le {fields : List (String × Value)} {n : Nat} (hn : 1 ≤ n)
    (h : ∀ f ∈ fields, f.2.depth ≤ n) : (record fields).depth ≤ n + 1 := by
  rw [record, depth_map_le, List.forall_mem_map]
  intro f hf
  exact ⟨hn, h f hf⟩

/-! ### Size of an encoding -/

theorem length_le_encodeAll (vs : List Value) : vs.length ≤ (encodeAll vs).length := by
  induction vs with
  | nil => exact Nat.zero_le _
  | cons v vs ih =>
    have hpos := List.length_pos_iff.mpr v.encode_ne_nil
    simp only [encodeAll, List.length_cons, List.length_append]
    omega

/-- The keys and values of a map, in the order in which they are written. -/
def flat (kvs : List (Value × Value)) : List Value := kvs.flatMap fun kv => [kv.1, kv.2]

theorem length_flat (kvs : List (Value × Value)) : (flat kvs).length = 2 * kvs.length := by
  simp [flat, List.length_flatMap, Nat.mul_comm]

theorem forall_mem_flat {kvs : List (Value × Value)} {p : Value → Prop} :
    (∀ v ∈ flat kvs, p v) ↔ ∀ kv ∈ kvs, p kv.1 ∧ p kv.2 := by
  induction kvs with
  | nil => simp [flat]
  | cons kv kvs ih =>
    rw [flat, List.flatMap_cons, List.forall_mem_append, ← flat, ih, List.forall_mem_cons]
    simp

theorem encodePairs_eq (kvs : List (Value × Value)) : encodePairs kvs = encodeAll (flat kvs) := by
  induction kvs with
  | nil => rfl
  | cons kv kvs ih => rw [encodePairs, encodePair, ih, List.append_assoc]; rfl

end MessagePack.Value

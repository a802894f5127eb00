import RivetGo.Data.MessagePack.Value

/-!
# Records as MessagePack maps

A record is written as a map whose keys are its field names. `Value.field`
looks a name up, taking the first entry with that key. The readers below it
take a value apart at one type; `required`, `defaulted` and `nullable` combine
them the way derived record decoders treat present, missing and nil fields.
-/

namespace MessagePack

open Utf8 (encode decode?)

/-- A record as a map from its field names. -/
def record (fields : List (String × Value)) : Value :=
  .map (fields.map fun f => (.str (Utf8.encode f.1), f.2))

namespace Value

/-- The value under a text key. -/
def entry (name : String) : Value × Value → Option Value
  | (.str key, v) => if key = Utf8.encode name then some v else none
  | _ => none

/-- The first value stored under a field name. -/
def field (name : String) : Value → Option Value
  | .map kvs => kvs.findSome? (entry name)
  | _ => none

/-- Looking a field up in a record is looking it up in its list of fields. -/
theorem field_record (name : String) (fields : List (String × Value)) :
    (record fields).field name = fields.lookup name := by
  induction fields with
  | nil => rfl
  | cons f fields ih =>
    obtain ⟨key, v⟩ := f
    simp only [record, field] at ih
    by_cases hname : name = key
    · simp [record, field, entry, hname]
    · have hbytes : Utf8.encode key ≠ Utf8.encode name := by
        intro h
        exact hname (Utf8.encode_injective h).symm
      have hbeq : (name == key) = false := beq_false_of_ne hname
      simp [record, field, entry, hbytes, List.lookup_cons, hbeq, ih]

/-- An array fits when its length and its elements do. -/
theorem array_fits {vs : List Value} :
    (Value.array vs).Fits ↔ vs.length < 2 ^ 32 ∧ ∀ v ∈ vs, v.Fits := by
  apply and_congr_right'
  induction vs with
  | nil => simp [AllFit]
  | cons v vs ih => rw [AllFit, ih, List.forall_mem_cons]

theorem map_fits {kvs : List (Value × Value)} :
    (Value.map kvs).Fits ↔ kvs.length < 2 ^ 32 ∧ ∀ kv ∈ kvs, kv.1.Fits ∧ kv.2.Fits := by
  apply and_congr_right'
  induction kvs with
  | nil => simp [PairsFit]
  | cons kv kvs ih => rw [PairsFit, ih, List.forall_mem_cons, PairFits]

/-- A record fits when its names and its values do. -/
theorem record_fits {fields : List (String × Value)} (hlength : fields.length < 2 ^ 32)
    (hnames : ∀ f ∈ fields, (Utf8.encode f.1).length < 2 ^ 32) (hfits : ∀ f ∈ fields, f.2.Fits) :
    (record fields).Fits := by
  rw [record, map_fits, List.length_map, List.forall_mem_map]
  exact ⟨hlength, fun f hf => ⟨hnames f hf, hfits f hf⟩⟩

@[simp] theorem nil_fits : Value.nil.Fits := trivial

@[simp] theorem bool_fits (b : Bool) : (Value.bool b).Fits := trivial

@[simp] theorem str_fits {b : Bytes} : (Value.str b).Fits ↔ b.length < 2 ^ 32 := Iff.rfl

@[simp] theorem bin_fits {b : Bytes} : (Value.bin b).Fits ↔ b.length < 2 ^ 32 := Iff.rfl

@[simp] theorem uint64_fits (n : UInt64) : (Value.int n.toNat).Fits := by
  have hlt := n.toNat_lt
  change -2 ^ 63 ≤ (n.toNat : Int) ∧ (n.toNat : Int) < 2 ^ 64
  omega

@[simp] theorem uint32_fits (n : UInt32) : (Value.int n.toNat).Fits := by
  have hlt := n.toNat_lt
  change -2 ^ 63 ≤ (n.toNat : Int) ∧ (n.toNat : Int) < 2 ^ 64
  omega

@[simp] theorem uint16_fits (n : UInt16) : (Value.int n.toNat).Fits := by
  have hlt := n.toNat_lt
  change -2 ^ 63 ≤ (n.toNat : Int) ∧ (n.toNat : Int) < 2 ^ 64
  omega

@[simp] theorem int64_fits (n : Int64) : (Value.int n.toInt).Fits := by
  have hle := n.le_toInt
  have hlt := n.toInt_lt
  change -2 ^ 63 ≤ n.toInt ∧ n.toInt < 2 ^ 64
  omega

/-! ### Readers -/

/-- A truth value. -/
def bool? : Value → Option Bool
  | .bool b => some b
  | _ => none

/-- A string that is valid text. -/
def text? : Value → Option String
  | .str b => decode? b
  | _ => none

/-- A byte array. -/
def bin? : Value → Option Bytes
  | .bin b => some b
  | _ => none

/-- A whole number below a bound. -/
def natBelow? (bound : Nat) : Value → Option Nat
  | .int (.ofNat n) => if n < bound then some n else none
  | _ => none

/-- A whole number of a signed type of the given number of bits. -/
def signed? (bits : Nat) : Value → Option Int
  | .int i => if -2 ^ (bits - 1) ≤ i ∧ i < 2 ^ (bits - 1) then some i else none
  | _ => none

/-- Nil, or a value the reader accepts. -/
def nullable {α : Type} (read : Value → Option α) : Value → Option (Option α)
  | .nil => some none
  | v => (read v).map some

/-- An array whose entries the reader accepts. -/
def list? {α : Type} (read : Value → Option α) : Value → Option (List α)
  | .array vs => vs.mapM read
  | _ => none

/-- A map with text keys whose entries the readers accept. -/
def dict? {α β : Type} (key : Value → Option α) (read : Value → Option β) :
    Value → Option (List (α × β))
  | .map kvs => kvs.mapM fun kv => do return (← key kv.1, ← read kv.2)
  | _ => none

/-- A field that has to be there. -/
def required {α : Type} (read : Value → Option α) (name : String) (v : Value) : Option α :=
  (v.field name).bind read

/-- A field with a value to use when it is missing. A nil is not missing. -/
def defaulted {α : Type} (read : Value → Option α) (default : α) (name : String) (v : Value) :
    Option α :=
  match v.field name with
  | none => some default
  | some x => read x

def uint64? (v : Value) : Option UInt64 := (v.natBelow? (2 ^ 64)).map UInt64.ofNat
def uint32? (v : Value) : Option UInt32 := (v.natBelow? (2 ^ 32)).map UInt32.ofNat
def uint16? (v : Value) : Option UInt16 := (v.natBelow? (2 ^ 16)).map UInt16.ofNat
def int64? (v : Value) : Option Int64 := (v.signed? 64).map Int64.ofInt
def int32? (v : Value) : Option Int32 := (v.signed? 32).map Int32.ofInt

@[simp] theorem bool?_bool (b : Bool) : (Value.bool b).bool? = some b := rfl
@[simp] theorem text?_str (b : Bytes) : (Value.str b).text? = decode? b := rfl
@[simp] theorem bin?_bin (b : Bytes) : (Value.bin b).bin? = some b := rfl
@[simp] theorem bin?_nil : Value.nil.bin? = none := rfl
@[simp] theorem list?_nil {α : Type} (read : Value → Option α) : Value.nil.list? read = none := rfl
@[simp] theorem list?_array {α : Type} (read : Value → Option α) (vs : List Value) :
    (Value.array vs).list? read = vs.mapM read := rfl

theorem natBelow?_int {n bound : Nat} (h : n < bound) :
    (Value.int n).natBelow? bound = some n := if_pos h

@[simp] theorem uint64?_int (n : UInt64) : (Value.int n.toNat).uint64? = some n := by
  rw [uint64?, natBelow?_int n.toNat_lt, Option.map_some, UInt64.ofNat_toNat]

@[simp] theorem uint32?_int (n : UInt32) : (Value.int n.toNat).uint32? = some n := by
  rw [uint32?, natBelow?_int n.toNat_lt, Option.map_some, UInt32.ofNat_toNat]

@[simp] theorem uint16?_int (n : UInt16) : (Value.int n.toNat).uint16? = some n := by
  rw [uint16?, natBelow?_int n.toNat_lt, Option.map_some, UInt16.ofNat_toNat]

@[simp] theorem int64?_int (n : Int64) : (Value.int n.toInt).int64? = some n := by
  have hread : (Value.int n.toInt).signed? 64 = some n.toInt := if_pos ⟨n.le_toInt, n.toInt_lt⟩
  rw [int64?, hread, Option.map_some, Int64.ofInt_toInt]

@[simp] theorem int32?_int (n : Int32) : (Value.int n.toInt).int32? = some n := by
  have hread : (Value.int n.toInt).signed? 32 = some n.toInt := if_pos ⟨n.le_toInt, n.toInt_lt⟩
  rw [int32?, hread, Option.map_some, Int32.ofInt_toInt]

end Value

end MessagePack

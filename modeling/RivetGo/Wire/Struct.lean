import RivetGo.Data.MessagePack.Record

/-!
# Decoding MessagePack into Go values

The Go decoder fills a struct entry by entry: an entry whose key is not a field
is skipped, a nil leaves the zero value, and of two entries with one key the
later wins. The readers below are those of the field types in use. A string
and a byte slice accept both strings and byte arrays, and only a byte slice
tells nil from empty.
-/

namespace RivetGo.Wire

open MessagePack (Value record)

/-- A `string`. -/
def readString : Value → Option Bytes
  | .str b => some b
  | .bin b => some b
  | .nil => some []
  | _ => none

/-- A `[]byte`. -/
def readBytes : Value → Option (Option Bytes)
  | .str b => some (some b)
  | .bin b => some (some b)
  | .nil => some none
  | _ => none

/-- A `bool`. -/
def readBool : Value → Option Bool
  | .bool b => some b
  | .nil => some false
  | _ => none

/-- An unsigned integer; a number that does not fit is truncated. -/
def readUint64 : Value → Option UInt64
  | .int i => some (UInt64.ofInt i)
  | .nil => some 0
  | _ => none

def readUint32 : Value → Option UInt32
  | .int i => some (UInt32.ofInt i)
  | .nil => some 0
  | _ => none

def readUint16 : Value → Option UInt16
  | .int i => some (UInt16.ofInt i)
  | .nil => some 0
  | _ => none

/-- A signed integer; a number that does not fit is truncated. -/
def readInt64 : Value → Option Int64
  | .int i => some (Int64.ofInt i)
  | .nil => some 0
  | _ => none

def readInt32 : Value → Option Int32
  | .int i => some (Int32.ofInt i)
  | .nil => some 0
  | _ => none

/-- A pointer to a value. -/
def readPointer {α : Type} (read : Value → Option α) : Value → Option (Option α)
  | .nil => some none
  | v => (read v).map some

/-- A slice; nil and empty are both the empty list. -/
def readSlice {α : Type} (read : Value → Option α) : Value → Option (List α)
  | .nil => some []
  | .array vs => vs.mapM read
  | _ => none

/-- A `map[string]string`, by its entries. -/
def readMap : Value → Option (List (Bytes × Bytes))
  | .nil => some []
  | .map kvs => kvs.mapM fun kv => do return (← readString kv.1, ← readString kv.2)
  | _ => none

/-- One entry of a struct: a key that is no text is no field either. -/
def readEntry {α : Type} (setField : α → String → Value → Option α) (x : α)
    (kv : Value × Value) : Option α := do
  match Utf8.decode? (← readString kv.1) with
  | some name => setField x name kv.2
  | none => return x

/-- A struct, from its zero value and how an entry sets one of its fields. -/
def readStruct {α : Type} (zero : α) (setField : α → String → Value → Option α) :
    Value → Option α
  | .nil => some zero
  | .map kvs => kvs.foldlM (readEntry setField) zero
  | _ => none

/-- The entries of a record are set one after another. -/
theorem readStruct_record {α : Type} (zero : α) (setField : α → String → Value → Option α)
    (fields : List (String × Value)) :
    readStruct zero setField (record fields) =
      fields.foldlM (fun x f => setField x f.1 f.2) zero := by
  rw [record, readStruct, List.foldlM_map]
  congr 1
  funext x f
  simp [readEntry, readString]

/-! ### What the readers make of the values that native writes -/

/-- A list is read back element by element. -/
theorem mapM_map_eq_some {α β γ : Type} {write : α → γ} {read : γ → Option β} {f : α → β}
    (h : ∀ x, read (write x) = some (f x)) (xs : List α) :
    (xs.map write).mapM read = some (xs.map f) := by
  induction xs with
  | nil => rfl
  | cons x xs ih =>
    rw [List.map_cons, List.mapM_cons, h, ih]
    rfl

@[simp] theorem readString_str (b : Bytes) : readString (.str b) = some b := rfl

@[simp] theorem readBytes_bin (b : Bytes) : readBytes (.bin b) = some (some b) := rfl

@[simp] theorem readBytes_nil : readBytes .nil = some none := rfl

@[simp] theorem readBool_bool (b : Bool) : readBool (.bool b) = some b := rfl

@[simp] theorem readUint64_int (n : UInt64) : readUint64 (.int n.toNat) = some n := by
  have hlt := n.toNat_lt
  have hmod : ((n.toNat : Int) % 2 ^ 64).toNat = n.toNat := by omega
  rw [readUint64, UInt64.ofInt, hmod, UInt64.ofNat_toNat]

@[simp] theorem readUint32_int (n : UInt32) : readUint32 (.int n.toNat) = some n := by
  have hlt := n.toNat_lt
  have hmod : ((n.toNat : Int) % 2 ^ 32).toNat = n.toNat := by omega
  rw [readUint32, UInt32.ofInt, hmod, UInt32.ofNat_toNat]

@[simp] theorem readUint16_int (n : UInt16) : readUint16 (.int n.toNat) = some n := by
  have hlt := n.toNat_lt
  have hmod : ((n.toNat : Int) % 2 ^ 16).toNat = n.toNat := by omega
  rw [readUint16, UInt16.ofInt, hmod, UInt16.ofNat_toNat]

@[simp] theorem readInt64_int (n : Int64) : readInt64 (.int n.toInt) = some n := by
  simp [readInt64]

@[simp] theorem readInt32_int (n : Int32) : readInt32 (.int n.toInt) = some n := by
  simp [readInt32]

@[simp] theorem readSlice_array {α : Type} (read : Value → Option α) (vs : List Value) :
    readSlice read (.array vs) = vs.mapM read := rfl

@[simp] theorem readPointer_nil {α : Type} (read : Value → Option α) :
    readPointer read .nil = some none := rfl

end RivetGo.Wire

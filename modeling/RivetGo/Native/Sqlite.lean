import RivetGo.Data.Check
import RivetGo.Data.Packing
import RivetGo.Native.Emit

/-!
# SQLite results as chunk events

Core executes a statement and returns its columns, its rows, a change count and
the last insert ID. The proxy flattens the rows into one list of values and
packs them into chunks as it goes, by their size and their number. The sizes of
all of them have a limit too. There is one event for each chunk, and the first
one carries the columns, the change count and the insert ID.
-/

namespace RivetGo.Native

open Packing (Boxes Packed total)

/-- A value of core. A real is its bit pattern. -/
inductive ColumnValue where
  | null
  | integer (n : Int64)
  | float (bits : UInt64)
  | text (s : String)
  | blob (b : Bytes)

/-- What core returns for a statement. -/
structure ExecuteResult where
  columns : List String
  rows : List (List ColumnValue)
  changes : Int64
  lastInsertRowId : Option Int64

def maxSqliteChunkBytes : Nat := 2 ^ 20

def fixedValueBytes : Nat := 16

/-- The value on the wire and its size. -/
def sqliteColumnValue : ColumnValue → Except WireError (SqliteValue × Nat)
  | .null => .ok (.null, 1)
  | .integer n => .ok (.integer n, fixedValueBytes)
  | .float bits => .ok (.real bits, fixedValueBytes)
  | .text s =>
    if s.utf8ByteSize > maxBodyChunk then
      .error (.new "sqlite_value_too_large"
        s!"SQLite text value exceeds the {maxBodyChunk}-byte value limit")
    else .ok (.text s, s.utf8ByteSize + fixedValueBytes)
  | .blob b =>
    if b.length > maxBodyChunk then
      .error (.new "sqlite_value_too_large"
        s!"SQLite blob value exceeds the {maxBodyChunk}-byte value limit")
    else .ok (.blob b, b.length + fixedValueBytes)

/-- The size of all that was taken, and the chunks of it. -/
structure Chunking where
  totalBytes : Nat
  chunks : Boxes SqliteValue

/-- One more value. -/
def Chunking.push (c : Chunking) (v : ColumnValue) : Except WireError Chunking := do
  let (value, valueBytes) ← sqliteColumnValue v
  let totalBytes := c.totalBytes + valueBytes
  if totalBytes > maxSqliteResultBytes then
    .error (.new "sqlite_result_too_large"
      s!"SQLite result exceeds the {maxSqliteResultBytes}-byte result limit")
  else
    .ok ⟨totalBytes, c.chunks.add maxSqliteChunkBytes 1024 value valueBytes⟩

/-- One more row. -/
def Chunking.pushRow (columnCount : Nat) (c : Chunking) (row : List ColumnValue) :
    Except WireError Chunking :=
  if row.length ≠ columnCount then
    .error (.new "sqlite_result_invalid"
      s!"SQLite row has {row.length} values for {columnCount} columns")
  else row.foldlM Chunking.push c

/-- The event of a chunk, given its index and the number of chunks. -/
def chunkEvent (requestId : UInt64) (result : ExecuteResult) (count : Nat)
    (values : List SqliteValue) (index : Nat) : Event :=
  .sqliteResult requestId (UInt32.ofNat index) (index == count - 1)
    (if index == 0 then result.columns else []) values
    (if index == 0 then result.changes else 0)
    (if index == 0 then result.lastInsertRowId else none) none

/-- One event for each chunk. -/
def chunkEvents (requestId : UInt64) (result : ExecuteResult) (chunks : List (List SqliteValue)) :
    List Event :=
  chunks.mapIdx fun index values => chunkEvent requestId result chunks.length values index

def ExecuteResult.columnBytes (r : ExecuteResult) : Nat :=
  (r.columns.map String.utf8ByteSize).sum

/-- The events of a result. -/
def sqliteResultEvents (requestId : UInt64) (result : ExecuteResult) :
    Except WireError (List Event) :=
  let columnCount := result.columns.length
  if columnCount > 1024 then
    .error (.new "sqlite_result_too_wide"
      "SQLite result exceeds the 1024-column boundary limit")
  else do
    let chunking ← result.rows.foldlM (Chunking.pushRow columnCount)
      ⟨result.columnBytes, Boxes.empty⟩
    return chunkEvents requestId result chunking.chunks.all

/-! ### Results within the limits -/

/-- The value of a column on the wire. -/
def ColumnValue.toSqlite : ColumnValue → SqliteValue
  | .null => .null
  | .integer n => .integer n
  | .float bits => .real bits
  | .text s => .text s
  | .blob b => .blob b

/-- The size of a value: one for a null, and otherwise its text or blob and
sixteen. -/
def SqliteValue.accountedBytes : SqliteValue → Nat
  | .null => 1
  | .integer _ => 16
  | .real _ => 16
  | .text s => s.utf8ByteSize + 16
  | .blob b => b.length + 16

/-- The size of a text or a blob itself. -/
def ColumnValue.contentBytes : ColumnValue → Nat
  | .text s => s.utf8ByteSize
  | .blob b => b.length
  | _ => 0

/-- The values of a result, row by row. -/
def ExecuteResult.values (r : ExecuteResult) : List SqliteValue :=
  r.rows.flatten.map ColumnValue.toSqlite

/-- The size of a result. -/
def ExecuteResult.accountedBytes (r : ExecuteResult) : Nat :=
  r.columnBytes + total SqliteValue.accountedBytes r.values

/-- A result within the limits of the boundary. -/
structure ExecuteResult.Returnable (r : ExecuteResult) : Prop where
  rectangular : ∀ row ∈ r.rows, row.length = r.columns.length
  narrow : r.columns.length ≤ 1024
  content : ∀ v ∈ r.rows.flatten, v.contentBytes ≤ 2 ^ 20
  size : r.accountedBytes ≤ 32 * 1024 * 1024

theorem SqliteValue.accountedBytes_pos (v : SqliteValue) : 0 < v.accountedBytes := by
  cases v <;> simp [SqliteValue.accountedBytes]

theorem sqliteColumnValue_ok {v : ColumnValue} (h : v.contentBytes ≤ 2 ^ 20) :
    sqliteColumnValue v = .ok (v.toSqlite, v.toSqlite.accountedBytes) := by
  cases v with
  | text s => exact if_neg (Nat.not_lt.mpr h)
  | blob b => exact if_neg (Nat.not_lt.mpr h)
  | _ => rfl

theorem content_of_sqliteColumnValue {v : ColumnValue} {p : SqliteValue × Nat}
    (h : sqliteColumnValue v = .ok p) : v.contentBytes ≤ 2 ^ 20 := by
  cases v with
  | text s => exact Nat.not_lt.mp (Check.ite_error_eq_ok.mp h).1
  | blob b => exact Nat.not_lt.mp (Check.ite_error_eq_ok.mp h).1
  | _ => exact Nat.zero_le _

/-- The values that were taken after `base` bytes of column names. -/
structure Chunking.Took (base : Nat) (values : List SqliteValue) (c : Chunking) : Prop where
  packed : Packed SqliteValue.accountedBytes (2 ^ 20) 1024 c.chunks
  items : c.chunks.items = values
  totalBytes : c.totalBytes = base + total SqliteValue.accountedBytes values

namespace Chunking

variable {base : Nat} {values : List SqliteValue} {c : Chunking}

theorem Took.empty (base : Nat) : Took base [] ⟨base, Boxes.empty⟩ :=
  ⟨.empty, rfl, rfl⟩

/-- A value within the limits is taken. -/
theorem Took.push (h : Took base values c) {v : ColumnValue} (hv : v.contentBytes ≤ 2 ^ 20)
    (hsize : base + total SqliteValue.accountedBytes (values ++ [v.toSqlite]) ≤ 32 * 1024 * 1024) :
    ∃ c', c.push v = .ok c' ∧ Took base (values ++ [v.toSqlite]) c' := by
  have htotal : c.totalBytes + v.toSqlite.accountedBytes =
      base + total SqliteValue.accountedBytes (values ++ [v.toSqlite]) := by
    simp [h.totalBytes, Nat.add_assoc]
  refine ⟨⟨c.totalBytes + v.toSqlite.accountedBytes,
      c.chunks.add (2 ^ 20) 1024 v.toSqlite v.toSqlite.accountedBytes⟩, ?_,
    h.packed.add SqliteValue.accountedBytes_pos (by decide) v.toSqlite, ?_, htotal⟩
  · rw [Chunking.push, sqliteColumnValue_ok hv]
    exact if_neg (Nat.not_lt.mpr (htotal ▸ hsize))
  · rw [Boxes.items_add, h.items]

/-- The values of a row, or of all rows, one after another. -/
theorem Took.pushAll (h : Took base values c) {vs : List ColumnValue}
    (hvs : ∀ v ∈ vs, v.contentBytes ≤ 2 ^ 20)
    (hsize : base + total SqliteValue.accountedBytes (values ++ vs.map ColumnValue.toSqlite) ≤
      32 * 1024 * 1024) :
    ∃ c', vs.foldlM Chunking.push c = .ok c' ∧
      Took base (values ++ vs.map ColumnValue.toSqlite) c' := by
  induction vs generalizing c values with
  | nil => exact ⟨c, rfl, by simpa using h⟩
  | cons v vs ih =>
    have hsplit : values ++ (v :: vs).map ColumnValue.toSqlite =
        (values ++ [v.toSqlite]) ++ vs.map ColumnValue.toSqlite := by simp
    rw [hsplit] at hsize ⊢
    have hfirst : base + total SqliteValue.accountedBytes (values ++ [v.toSqlite]) ≤
        32 * 1024 * 1024 := by
      rw [Packing.total_append] at hsize
      omega
    obtain ⟨c', hpush, htook⟩ := h.push (hvs v (by simp)) hfirst
    obtain ⟨c'', hrest, htook⟩ := ih htook (fun v hv => hvs v (by simp [hv])) hsize
    exact ⟨c'', by rw [List.foldlM_cons, hpush]; exact hrest, htook⟩

/-- Rows of the right length are their values. -/
theorem foldlM_pushRow {columnCount : Nat} {rows : List (List ColumnValue)}
    (h : ∀ row ∈ rows, row.length = columnCount) (c : Chunking) :
    rows.foldlM (pushRow columnCount) c = rows.flatten.foldlM push c := by
  induction rows generalizing c with
  | nil => rfl
  | cons row rows ih =>
    have hrow : pushRow columnCount c row = row.foldlM push c :=
      if_neg (not_not_intro (h row (by simp)))
    rw [List.foldlM_cons, List.flatten_cons, List.foldlM_append, hrow]
    congr 1
    funext c'
    exact ih (fun row hmem => h row (by simp [hmem])) c'

/-- A value that was taken is within the limits. -/
theorem of_push_eq_ok {c' : Chunking} {v : ColumnValue} (h : c.push v = .ok c') :
    v.contentBytes ≤ 2 ^ 20 ∧ c'.totalBytes = c.totalBytes + v.toSqlite.accountedBytes ∧
      c'.totalBytes ≤ 32 * 1024 * 1024 := by
  rw [Chunking.push, Check.bind_eq_ok] at h
  obtain ⟨⟨value, bytes⟩, hvalue, h⟩ := h
  have hcontent := content_of_sqliteColumnValue hvalue
  obtain ⟨rfl, rfl⟩ : v.toSqlite = value ∧ v.toSqlite.accountedBytes = bytes := by
    simpa [sqliteColumnValue_ok hcontent] using hvalue
  obtain ⟨hle, h⟩ := Check.ite_error_eq_ok.mp h
  obtain rfl := Except.ok.inj h
  exact ⟨hcontent, rfl, Nat.not_lt.mp hle⟩

/-- So are all values that were taken, and the size of them if there are any. -/
theorem of_foldlM_push_eq_ok {vs : List ColumnValue} {c' : Chunking}
    (h : vs.foldlM push c = .ok c') :
    (∀ v ∈ vs, v.contentBytes ≤ 2 ^ 20) ∧
      c'.totalBytes =
        c.totalBytes + total SqliteValue.accountedBytes (vs.map ColumnValue.toSqlite) ∧
      (vs ≠ [] → c'.totalBytes ≤ 32 * 1024 * 1024) := by
  induction vs generalizing c with
  | nil =>
    obtain rfl := Except.ok.inj h
    simp
  | cons v vs ih =>
    rw [List.foldlM_cons, Check.bind_eq_ok] at h
    obtain ⟨d, hpush, hrest⟩ := h
    obtain ⟨hcontent, htotal, hle⟩ := of_push_eq_ok hpush
    obtain ⟨hcontents, htotals, hles⟩ := ih hrest
    refine ⟨List.forall_mem_cons.mpr ⟨hcontent, hcontents⟩, ?_, fun _ => ?_⟩
    · rw [htotals, htotal, List.map_cons, Packing.total_cons, Nat.add_assoc]
    · cases vs with
      | nil =>
        obtain rfl := Except.ok.inj hrest
        exact hle
      | cons w ws => exact hles (List.cons_ne_nil w ws)

/-- Rows that were taken have the right length. -/
theorem of_foldlM_pushRow_eq_ok {columnCount : Nat} {rows : List (List ColumnValue)}
    {c' : Chunking} (h : rows.foldlM (pushRow columnCount) c = .ok c') :
    ∀ row ∈ rows, row.length = columnCount := by
  induction rows generalizing c with
  | nil => simp
  | cons row rows ih =>
    rw [List.foldlM_cons, Check.bind_eq_ok] at h
    obtain ⟨d, hrow, hrest⟩ := h
    obtain ⟨hlength, -⟩ := Check.ite_error_eq_ok.mp hrow
    exact List.forall_mem_cons.mpr ⟨not_not.mp hlength, ih hrest⟩

end Chunking

/-- The events of a result within the limits: its values, packed. -/
theorem sqliteResultEvents_eq {r : ExecuteResult} (h : r.Returnable) :
    ∃ chunks : Boxes SqliteValue,
      Packed SqliteValue.accountedBytes (2 ^ 20) 1024 chunks ∧ chunks.items = r.values ∧
      ∀ requestId, sqliteResultEvents requestId r = .ok (chunkEvents requestId r chunks.all) := by
  obtain ⟨c, hfold, htook⟩ := (Chunking.Took.empty r.columnBytes).pushAll h.content h.size
  refine ⟨c.chunks, htook.packed, htook.items, fun requestId => ?_⟩
  rw [sqliteResultEvents, if_neg (Nat.not_lt.mpr h.narrow), Chunking.foldlM_pushRow h.rectangular,
    hfold]
  rfl

/-- The events of a result are those of some chunks. -/
theorem sqliteResultEvents_eq_ok {requestId : UInt64} {r : ExecuteResult} {events : List Event}
    (h : sqliteResultEvents requestId r = .ok events) :
    r.columns.length ≤ 1024 ∧ ∃ c, r.rows.foldlM (Chunking.pushRow r.columns.length)
      ⟨r.columnBytes, Boxes.empty⟩ = .ok c ∧
      events = chunkEvents requestId r c.chunks.all := by
  rw [sqliteResultEvents, Check.ite_error_eq_ok, Nat.not_lt, Check.bind_eq_ok] at h
  obtain ⟨hnarrow, c, hc, hevents⟩ := h
  exact ⟨hnarrow, c, hc, (Except.ok.inj hevents).symm⟩

/-- A result with events is within the limits, unless its columns alone are too
large: their size is only looked at together with a value. -/
theorem returnable_of_ok {requestId : UInt64} {r : ExecuteResult} {events : List Event}
    (h : sqliteResultEvents requestId r = .ok events)
    (hcolumns : r.columnBytes ≤ 32 * 1024 * 1024) : r.Returnable := by
  obtain ⟨hnarrow, c, hc, -⟩ := sqliteResultEvents_eq_ok h
  have hrectangular := Chunking.of_foldlM_pushRow_eq_ok hc
  rw [Chunking.foldlM_pushRow hrectangular] at hc
  obtain ⟨hcontent, htotal, hle⟩ := Chunking.of_foldlM_push_eq_ok hc
  refine ⟨hrectangular, hnarrow, hcontent, ?_⟩
  by_cases hnone : r.rows.flatten = []
  · simpa [ExecuteResult.accountedBytes, ExecuteResult.values, hnone] using hcolumns
  · rw [ExecuteResult.accountedBytes, ExecuteResult.values, ← htotal]
    exact hle hnone

end RivetGo.Native

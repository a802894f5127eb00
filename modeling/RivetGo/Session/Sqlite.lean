import RivetGo.Native.Sqlite
import RivetGo.Boundary.Event

/-!
# Reassembling a SQLite result

The session collects the chunk events of a statement. Chunks come with
contiguous indexes, only the first one has the columns, the change count and the
insert ID, and the size of what was collected has the same limit as in native.
The last chunk completes the response if its values make whole rows.

A result that native can return comes back as it was: native and the session
agree on the size of every value, so that the limit of one never rejects what the
other let through.
-/

namespace RivetGo.Session

open Utf8 (encode length_encode)
open Packing (total total_cons total_append Fits)
open Native (ExecuteResult chunkEvent chunkEvents sqliteResultEvents sqliteResultEvents_eq)

structure SQLiteResponse where
  columns : List Bytes := []
  values : List Wire.SQLiteValue := []
  rowsAffected : Int64 := 0
  lastInsertID : Option Int64 := none

/-- The error of a statement: one that native reported or that has the form of
it, or a message. -/
inductive SQLiteError where
  | wire (e : Wire.WireError)
  | message (text : String)

structure Assembler where
  response : SQLiteResponse := {}
  nextChunk : UInt32 := 0
  totalBytes : Nat := 0

def maxSQLiteResponseBytes : Nat := 32 * 1024 * 1024

def resultTooLarge : SQLiteError :=
  .wire
    { code := encode "sqlite_result_too_large",
      message := encode "SQLite result exceeds the 32 MiB result limit" }

def sqliteValueContentBytes (value : Wire.SQLiteValue) : Nat :=
  if value.kind = "null" then 1
  else if value.kind = "text" then (value.text.elim 0 List.length) + 16
  else if value.kind = "blob" then (value.blob.elim 0 fun blob => (blob.getD []).length) + 16
  else 16

/-- The first chunk brings the columns and the counts, and no other one may. -/
def Assembler.addMetadata (a : Assembler) (event : Wire.Event) : Except SQLiteError Assembler :=
  if event.chunkIndex = 0 then
    let totalBytes := a.totalBytes + (event.columns.map List.length).sum
    if totalBytes > maxSQLiteResponseBytes then .error resultTooLarge
    else
      .ok { a with
        response := { a.response with
          columns := event.columns
          rowsAffected := event.rowsAffected
          lastInsertID := event.lastInsertID }
        totalBytes := totalBytes }
  else if event.columns ≠ [] ∨ event.rowsAffected ≠ 0 ∨ event.lastInsertID ≠ none then
    .error (.message "SQLite result repeated first-chunk metadata")
  else .ok a

/-- The size with one more value. -/
def addValueBytes (totalBytes : Nat) (value : Wire.SQLiteValue) : Except SQLiteError Nat :=
  if totalBytes + sqliteValueContentBytes value > maxSQLiteResponseBytes then
    .error resultTooLarge
  else .ok (totalBytes + sqliteValueContentBytes value)

def Assembler.addValues (a : Assembler) (values : List Wire.SQLiteValue) :
    Except SQLiteError Assembler := do
  let totalBytes ← values.foldlM addValueBytes a.totalBytes
  return { a with
    response := { a.response with values := a.response.values ++ values }
    totalBytes := totalBytes }

/-- The last chunk has to complete the rows. -/
def Assembler.complete (a : Assembler) : Except SQLiteError (Assembler × Bool) :=
  if a.response.columns.length = 0 ∧ a.response.values.length ≠ 0 then
    .error (.message "SQLite result has values without columns")
  else if a.response.columns.length ≠ 0 ∧
      a.response.values.length % a.response.columns.length ≠ 0 then
    .error (.message "SQLite result is not rectangular")
  else .ok (a, true)

/-- One more event, and whether it was the last one. -/
def Assembler.add (a : Assembler) (event : Wire.Event) : Except SQLiteError (Assembler × Bool) :=
  if event.chunkIndex ≠ a.nextChunk then
    .error (.message s!"SQLite result chunk index {event.chunkIndex} follows {a.nextChunk}")
  else
    match event.error with
    | some e => .error (.wire e)
    | none => do
        let a ← { a with nextChunk := a.nextChunk + 1 }.addMetadata event
        let a ← a.addValues event.sqliteValues
        if event.done then a.complete else return (a, false)

/-- Events one after another, with what each of them reported. -/
def Assembler.feed (a : Assembler) : List Wire.Event → Except SQLiteError (Assembler × List Bool)
  | [] => .ok (a, [])
  | event :: events => do
      let (a, done) ← a.add event
      let (a, reports) ← a.feed events
      return (a, done :: reports)

/-! ### Both sides count alike -/

@[simp] theorem sqliteValueContentBytes_received (v : Native.SqliteValue) :
    sqliteValueContentBytes v.received = v.accountedBytes := by
  cases v <;> rfl

theorem sum_length_encode (columns : List String) :
    ((columns.map encode).map List.length).sum = (columns.map String.utf8ByteSize).sum := by
  rw [List.map_map]
  rfl

theorem foldlM_addValueBytes {vs : List Native.SqliteValue} {base : Nat}
    (h : base + total Native.SqliteValue.accountedBytes vs ≤ 32 * 1024 * 1024) :
    (vs.map Native.SqliteValue.received).foldlM addValueBytes base =
      .ok (base + total Native.SqliteValue.accountedBytes vs) := by
  induction vs generalizing base with
  | nil => rfl
  | cons v vs ih =>
    rw [total_cons, ← Nat.add_assoc] at h ⊢
    have hstep : addValueBytes base v.received = .ok (base + v.accountedBytes) := by
      rw [addValueBytes, sqliteValueContentBytes_received]
      exact if_neg (by rw [maxSQLiteResponseBytes]; omega)
    rw [List.map_cons, List.foldlM_cons, hstep]
    exact ih h

/-- The response of a result. -/
def SQLiteResponse.of (r : ExecuteResult) (values : List Native.SqliteValue) : SQLiteResponse :=
  { columns := r.columns.map encode, values := values.map Native.SqliteValue.received,
    rowsAffected := r.changes, lastInsertID := r.lastInsertRowId }

/-- The assembler that has the values of the first `k` chunks. -/
def Assembler.of (r : ExecuteResult) (k : Nat) (values : List Native.SqliteValue) : Assembler :=
  { response := .of r values, nextChunk := UInt32.ofNat k,
    totalBytes := r.columnBytes + total Native.SqliteValue.accountedBytes values }

section

variable {r : ExecuteResult} {values chunk : List Native.SqliteValue} {k count : Nat}
  {requestId : UInt64}

theorem addValues_received
    (h : r.columnBytes + total Native.SqliteValue.accountedBytes (values ++ chunk) ≤
      32 * 1024 * 1024) :
    (Assembler.of r k values).addValues (chunk.map Native.SqliteValue.received) =
      .ok (.of r k (values ++ chunk)) := by
  rw [total_append, ← Nat.add_assoc] at h
  rw [Assembler.addValues, Assembler.of, foldlM_addValueBytes h]
  simp [bind, Except.bind, pure, Except.pure, Assembler.of, SQLiteResponse.of, Nat.add_assoc]

/-- The assembler before chunk `k`: the empty one before the first chunk. -/
def Assembler.before (r : ExecuteResult) (k : Nat) (values : List Native.SqliteValue) : Assembler :=
  if k = 0 then {} else .of r k values

theorem ofNat_ne_zero (hk : k ≠ 0) (hlt : k < 2 ^ 32) : UInt32.ofNat k ≠ 0 := by
  intro h
  have hnat := congrArg UInt32.toNat h
  rw [UInt32.toNat_ofNat_of_lt' hlt] at hnat
  exact hk hnat

theorem nextChunk_before : (Assembler.before r k values).nextChunk = UInt32.ofNat k := by
  unfold Assembler.before
  split
  case isTrue hk => subst hk; rfl
  case isFalse => rfl

/-- The columns and the counts come with the first chunk, and with no other one. -/
theorem addMetadata_chunkEvent (requestId : UInt64) (count : Nat)
    (chunk : List Native.SqliteValue) (hk : k < 2 ^ 32) (hfirst : k = 0 → values = [])
    (hsize : r.columnBytes ≤ 32 * 1024 * 1024) :
    ({ Assembler.before r k values with
        nextChunk := UInt32.ofNat k + 1 } : Assembler).addMetadata
      (chunkEvent requestId r count chunk k).received = .ok (.of r (k + 1) values) := by
  have hnext : UInt32.ofNat k + 1 = UInt32.ofNat (k + 1) := by simp [UInt32.ofNat_add]
  by_cases hzero : k = 0
  case pos =>
    obtain rfl := hfirst hzero
    subst hzero
    have hcolumns : ¬ 0 + ((r.columns.map encode).map List.length).sum >
        maxSQLiteResponseBytes := by
      rw [sum_length_encode, Nat.zero_add]
      exact Nat.not_lt.mpr hsize
    refine (if_pos rfl).trans ((if_neg hcolumns).trans ?_)
    have hbytes : ((chunkEvent requestId r count chunk 0).received.columns.map
        List.length).sum = r.columnBytes := sum_length_encode r.columns
    rw [hbytes]
    simp [Assembler.before, Assembler.of, SQLiteResponse.of, chunkEvent, Native.Event.received]
  case neg =>
    refine (if_neg (ofNat_ne_zero hzero hk)).trans ?_
    rw [Assembler.before, if_neg hzero, hnext]
    simp [Native.Event.received, chunkEvent, hzero, Assembler.of]

/-- A chunk of a result within the limits is taken. -/
theorem add_chunkEvent (hk : k < 2 ^ 32) (hfirst : k = 0 → values = [])
    (hsize : r.columnBytes + total Native.SqliteValue.accountedBytes (values ++ chunk) ≤
      32 * 1024 * 1024) :
    (Assembler.before r k values).add (chunkEvent requestId r count chunk k).received =
      if k == count - 1 then (Assembler.of r (k + 1) (values ++ chunk)).complete
      else .ok (.of r (k + 1) (values ++ chunk), false) := by
  have hmeta := addMetadata_chunkEvent requestId count chunk hk hfirst
    (Nat.le_trans (Nat.le_add_right _ _) hsize)
  have hindex : (chunkEvent requestId r count chunk k).received.chunkIndex =
      (Assembler.before r k values).nextChunk := by
    rw [nextChunk_before]
    rfl
  rw [Assembler.add, if_neg (not_not_intro hindex)]
  rw [nextChunk_before]
  show (do
    let a ← Assembler.addMetadata _ _
    let a ← a.addValues (chunk.map Native.SqliteValue.received)
    if k == count - 1 then a.complete else return (a, false)) = _
  rw [hmeta]
  show (do
    let a ← (Assembler.of r (k + 1) values).addValues (chunk.map Native.SqliteValue.received)
    if k == count - 1 then a.complete else return (a, false)) = _
  rw [addValues_received hsize]
  rfl

end

/-- The values of whole rows complete the response. -/
theorem complete_of {r : ExecuteResult} (h : r.Returnable) (k : Nat) :
    (Assembler.of r k r.values).complete = .ok (.of r k r.values, true) := by
  have hlength : ∀ rows : List (List Native.ColumnValue),
      (∀ row ∈ rows, row.length = r.columns.length) →
      rows.flatten.length = rows.length * r.columns.length := by
    intro rows hrows
    induction rows with
    | nil => simp
    | cons row rows ih =>
      have hrest := ih fun row hmem => hrows row (by simp [hmem])
      rw [List.flatten_cons, List.length_append, hrows row (by simp), hrest, List.length_cons,
        Nat.add_mul, Nat.one_mul, Nat.add_comm]
  have hvalues : (Assembler.of r k r.values).response.values.length =
      r.rows.length * r.columns.length := by
    simp only [Assembler.of, SQLiteResponse.of, ExecuteResult.values, List.length_map]
    exact hlength r.rows h.rectangular
  have hcolumns : (Assembler.of r k r.values).response.columns.length = r.columns.length := by
    simp [Assembler.of, SQLiteResponse.of]
  rw [Assembler.complete, hvalues, hcolumns, if_neg, if_neg]
  · rintro ⟨-, hmod⟩
    exact hmod (Nat.mul_mod_left _ _)
  · rintro ⟨hzero, hne⟩
    exact hne (by rw [hzero, Nat.mul_zero])

/-- The remaining chunks of a result, from chunk `k` on. -/
theorem feed_chunkEvents {r : ExecuteResult} (h : r.Returnable) (requestId : UInt64)
    {count : Nat} (hcount : count ≤ 2 ^ 32) {chunks : List (List Native.SqliteValue)}
    {values : List Native.SqliteValue} {k : Nat} (hk : k + chunks.length = count)
    (hne : chunks ≠ []) (hfirst : k = 0 → values = [])
    (hvalues : values ++ chunks.flatten = r.values) :
    (Assembler.before r k values).feed
        ((chunks.mapIdx fun i chunk => chunkEvent requestId r count chunk (k + i)).map
          Native.Event.received) =
      .ok (.of r count r.values, List.replicate (chunks.length - 1) false ++ [true]) := by
  induction chunks generalizing k values with
  | nil => exact absurd rfl hne
  | cons chunk chunks ih =>
    have hsize : r.columnBytes + total Native.SqliteValue.accountedBytes (values ++ chunk) ≤
        32 * 1024 * 1024 := by
      have hall := h.size
      rw [ExecuteResult.accountedBytes, ← hvalues, List.flatten_cons, ← List.append_assoc,
        total_append] at hall
      omega
    rw [List.length_cons] at hk
    rw [List.mapIdx_cons, List.map_cons, Assembler.feed, Nat.add_zero,
      add_chunkEvent (by omega) hfirst hsize]
    cases chunks with
    | nil =>
      have hdone : values ++ chunk = r.values := by simpa using hvalues
      have hlast : k + 1 = count := by simpa using hk
      rw [if_pos (by simp [← hlast]), hdone, complete_of h, hlast]
      rfl
    | cons next chunks =>
      have hmore : ¬ (k == count - 1) = true := by
        simp only [List.length_cons] at hk
        simp only [beq_iff_eq]
        omega
      have hsplit : (values ++ chunk) ++ (next :: chunks).flatten = r.values := by
        simp [← hvalues]
      have hrest := ih (k := k + 1) (by omega) (by simp) (fun hzero => by omega) hsplit
      rw [Assembler.before, if_neg (Nat.succ_ne_zero k)] at hrest
      simp only [Nat.add_assoc, Nat.add_comm 1] at hrest
      rw [if_neg hmore]
      show (do
        let (a, reports) ← Assembler.feed _ _
        return (a, false :: reports)) = _
      rw [hrest]
      simp [bind, Except.bind, pure, Except.pure, List.replicate_succ]

/-! ### The round trip -/

/-- One chunk event: its place, its values within the limits, and `done` on the
last one only. -/
def WellChunked (requestId : UInt64) (count i : Nat) (event : Native.Event) : Prop :=
  ∃ index done columns values changes lastInsertId,
    event = .sqliteResult requestId index done columns values changes lastInsertId none ∧
    index.toNat = i ∧ (done = true ↔ i + 1 = count) ∧ values.length ≤ 1024 ∧
    (total Native.SqliteValue.accountedBytes values ≤ 2 ^ 20 ∨ values.length = 1)

theorem wellChunked_chunkEvent (requestId : UInt64) (r : ExecuteResult) {count i : Nat}
    {chunk : List Native.SqliteValue} (hi : i < count) (hcount : count ≤ 2 ^ 32)
    (hfits : Fits Native.SqliteValue.accountedBytes (2 ^ 20) 1024 chunk) :
    WellChunked requestId count i (chunkEvent requestId r count chunk i) := by
  refine ⟨_, _, _, _, _, _, rfl, UInt32.toNat_ofNat_of_lt' (Nat.lt_of_lt_of_le hi hcount), ?_,
    hfits.1, hfits.2⟩
  rw [beq_iff_eq]
  omega

/-- The events of a result within the limits, and what the session makes of them. -/
theorem feed_resultEvents {r : ExecuteResult} (h : r.Returnable) (requestId : UInt64) :
    ∃ chunks : Packing.Boxes Native.SqliteValue,
      Packing.Packed Native.SqliteValue.accountedBytes (2 ^ 20) 1024 chunks ∧
      chunks.all.length ≤ 2 ^ 32 ∧
      sqliteResultEvents requestId r = .ok (chunkEvents requestId r chunks.all) ∧
      Assembler.feed {} ((chunkEvents requestId r chunks.all).map Native.Event.received) =
        .ok (.of r chunks.all.length r.values,
          List.replicate (chunks.all.length - 1) false ++ [true]) := by
  obtain ⟨chunks, hpacked, hitems, heq⟩ := sqliteResultEvents_eq h
  have hcount : chunks.all.length ≤ 2 ^ 32 := by
    have hlength := hpacked.length_all_le
    have hvalues := Packing.length_le_total Native.SqliteValue.accountedBytes_pos chunks.items
    have hsize := h.size
    rw [hitems] at hlength hvalues
    rw [ExecuteResult.accountedBytes] at hsize
    omega
  have hne : chunks.all ≠ [] := by simp [Packing.Boxes.all]
  have hfeed := feed_chunkEvents h requestId hcount (k := 0) (Nat.zero_add _) hne (fun _ => rfl)
    hitems
  simp only [Nat.zero_add] at hfeed
  exact ⟨chunks, hpacked, hcount, heq requestId, hfeed⟩

/-- A result within the limits is cut into well formed chunks, and the session
has the result again with the last of them and not before. -/
theorem chunks_assemble {r : ExecuteResult} (h : r.Returnable) (requestId : UInt64) :
    ∃ events, sqliteResultEvents requestId r = .ok events ∧ events ≠ [] ∧
      (∀ i event, events[i]? = some event → WellChunked requestId events.length i event) ∧
      ∃ a : Assembler,
        Assembler.feed {} (events.map Native.Event.received) =
          .ok (a, List.replicate (events.length - 1) false ++ [true]) ∧
        a.response = .of r r.values := by
  obtain ⟨chunks, hpacked, hcount, hevents, hfeed⟩ := feed_resultEvents h requestId
  have hlength : (chunkEvents requestId r chunks.all).length = chunks.all.length :=
    List.length_mapIdx
  refine ⟨_, hevents, ?_, ?_, .of r chunks.all.length r.values, hlength ▸ hfeed, rfl⟩
  · apply List.ne_nil_of_length_pos
    rw [hlength, Packing.Boxes.length_all]
    exact Nat.succ_pos _
  · intro i event hget
    rw [hlength]
    rw [chunkEvents, List.getElem?_mapIdx, Option.map_eq_some_iff] at hget
    obtain ⟨chunk, hchunk, rfl⟩ := hget
    obtain ⟨hi, -⟩ := List.getElem?_eq_some_iff.mp hchunk
    exact wellChunked_chunkEvent requestId r hi hcount
      (hpacked.fits chunk (List.mem_of_getElem? hchunk))

/-- Two columns and two rows, of which one has a blob. -/
def smallResult : ExecuteResult :=
  { columns := ["id", "body"]
    rows := [[.integer 1, .blob [0, 255]], [.integer 2, .null]]
    changes := 0
    lastInsertRowId := some 2 }

theorem smallResult_returnable : smallResult.Returnable where
  rectangular := by decide
  narrow := by decide
  content := by simp [smallResult, Native.ColumnValue.contentBytes]
  size := by decide

theorem smallResult_assembles :
    smallResult.Returnable ∧
      ∃ events, sqliteResultEvents 7 smallResult = .ok events ∧ events ≠ [] ∧
      (∀ i event, events[i]? = some event → WellChunked 7 events.length i event) ∧
      ∃ a : Assembler,
        Assembler.feed {} (events.map Native.Event.received) =
          .ok (a, List.replicate (events.length - 1) false ++ [true]) ∧
        a.response = .of smallResult smallResult.values :=
  ⟨smallResult_returnable, chunks_assemble smallResult_returnable 7⟩

end RivetGo.Session

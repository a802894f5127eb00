import RivetGo.Boundary.Event
import RivetGo.Wire.ScanGrammar

/-!
# Polling

`RunnerInner::poll` hands over the events that are waiting, at most 64 of them,
as one batch. The records of events are shallow and have few fields with short
names, so whether the scanner lets a batch through is a question about the
values of its fields alone. Go accepts a batch exactly when it accepts each of
its events: one event that it does not accept takes the whole batch with it.
-/

namespace RivetGo.Native

open MessagePack (Value record)
open Utf8 (encode)
open Wire (omitEmpty pointer slice readStruct_record)

/-! ### Limits -/

theorem omitEmpty_forall {α : Type} {name : String} {write : α → Value} {x : Option α}
    {p : String × Value → Prop} :
    (∀ f ∈ omitEmpty name write x, p f) ↔ ∀ y ∈ x, p (name, write y) := by
  cases x <;> simp [omitEmpty]

theorem skipEmpty_forall {α : Type} {name : String} {write : α → Value} {xs : List α}
    {p : String × Value → Prop} :
    (∀ f ∈ skipEmpty name write xs, p f) ↔ (xs ≠ [] → p (name, .array (xs.map write))) := by
  cases xs <;> simp [skipEmpty]

theorem depth_pointer_le {α : Type} {write : α → Value} {n : Nat} (hn : 1 ≤ n)
    (h : ∀ x, (write x).depth ≤ n) (x : Option α) : (pointer write x).depth ≤ n := by
  cases x with
  | none => exact hn
  | some x => exact h x

theorem depth_stringMap_le (m : StringMap) : m.toValue.depth ≤ 2 := by
  rw [StringMap.toValue, Value.depth_map_le, List.forall_mem_map]
  intro kv _
  exact ⟨le_rfl, le_rfl⟩

@[simp] theorem depth_utf8 (s : String) : (utf8 s).depth = 1 := rfl

theorem depth_drainReport_le (r : DrainReport) : r.toValue.depth ≤ 2 := by
  apply Value.depth_record_le le_rfl
  simp

theorem depth_kvEntry_le (e : KvEntry) : e.toValue.depth ≤ 2 := by
  apply Value.depth_record_le le_rfl
  simp

theorem depth_scheduledEvent_le (e : ScheduledEvent) : e.toValue.depth ≤ 2 := by
  apply Value.depth_record_le le_rfl
  simp

theorem depth_queueMessage_le (m : QueueMessage) : m.toValue.depth ≤ 2 := by
  apply Value.depth_record_le le_rfl
  simp

theorem depth_sqliteValue_le (v : SqliteValue) : v.toValue.depth ≤ 2 := by
  cases v <;>
    · apply Value.depth_record_le le_rfl
      simp

theorem depth_connection_le (c : Connection) : c.toValue.depth ≤ 3 := by
  apply Value.depth_record_le (by decide)
  simp [depth_stringMap_le]

theorem depth_wireError_le (e : WireError) : e.toValue.depth ≤ 2 := by
  apply Value.depth_record_le le_rfl
  simp only [List.forall_mem_append, List.forall_mem_cons, omitEmpty_forall]
  simp

theorem depth_array_map_le {α : Type} {write : α → Value} {n : Nat}
    (h : ∀ x, (write x).depth ≤ n) (xs : List α) : (Value.array (xs.map write)).depth ≤ n + 1 := by
  rw [Value.depth_array_le, List.forall_mem_map]
  exact fun x _ => h x

theorem depth_event_le (e : Event) : e.toValue.depth ≤ 5 := by
  apply Value.depth_record_le (by decide)
  have hmap := fun m => (depth_stringMap_le m).trans (show 2 ≤ 4 by decide)
  have hreport := fun r => (depth_drainReport_le r).trans (show 2 ≤ 4 by decide)
  have herror := fun e => (depth_wireError_le e).trans (show 2 ≤ 4 by decide)
  have hmessage := fun m => (depth_queueMessage_le m).trans (show 2 ≤ 4 by decide)
  have hconnection := fun c => (depth_connection_le c).trans (show 3 ≤ 4 by decide)
  have hconnections : ∀ xs : List Connection,
      (Value.array (xs.map Connection.toValue)).depth ≤ 4 :=
    depth_array_map_le depth_connection_le
  have hschedules := fun xs => (depth_array_map_le depth_scheduledEvent_le xs).trans
    (show 3 ≤ 4 by decide)
  have hentries := fun xs => (depth_array_map_le depth_kvEntry_le xs).trans
    (show 3 ≤ 4 by decide)
  have hvalues := fun xs => (depth_array_map_le depth_sqliteValue_le xs).trans
    (show 3 ≤ 4 by decide)
  have hcolumns := fun xs => (depth_array_map_le (fun s => (depth_utf8 s).le) xs).trans
    (show 2 ≤ 4 by decide)
  have hstrings := fun x => (depth_pointer_le le_rfl (fun s => (depth_utf8 s).le) x).trans
    (show 1 ≤ 4 by decide)
  have hcode := fun x => (depth_pointer_le le_rfl
    (fun n : UInt16 => (Value.depth_int n.toNat).le) x).trans (show 1 ≤ 4 by decide)
  have hinsert := fun x => (depth_pointer_le le_rfl
    (fun n : Int64 => (Value.depth_int n.toInt).le) x).trans (show 1 ≤ 4 by decide)
  have hslice := fun x => (depth_pointer_le le_rfl
    (fun b : Bytes => (Value.depth_bin b).le) x).trans (show 1 ≤ 4 by decide)
  cases e <;>
    · simp only [Event.fields, List.forall_mem_append, List.forall_mem_cons, omitEmpty_forall,
        skipEmpty_forall, slice]
      simp [*]

theorem depth_eventBatch_le (seq : UInt64) (events : List Event) :
    (eventBatchValue seq events).depth ≤ 7 := by
  apply Value.depth_record_le (by decide)
  have hevents : ∀ xs : List Event, (Value.array (xs.map Event.toValue)).depth ≤ 6 :=
    depth_array_map_le depth_event_le
  simp [hevents]

/-- The names of the fields are short, and there are few of them. -/
theorem fields_small (e : Event) :
    (∀ f ∈ ("kind", utf8 e.fields.1) :: e.fields.2, (encode f.1).length ≤ 32) ∧
      (("kind", utf8 e.fields.1) :: e.fields.2).length ≤ 16 := by
  have homit : ∀ {α : Type} (name : String) (write : α → Value) (x : Option α),
      (omitEmpty name write x).length ≤ 1 := by
    intro α name write x
    cases x <;> simp [omitEmpty]
  have hskip : ∀ {α : Type} (name : String) (write : α → Value) (xs : List α),
      (skipEmpty name write xs).length ≤ 1 := by
    intro α name write xs
    cases xs <;> simp [skipEmpty]
  have hnames : ∀ p ∈ Wire.EventField.table, (encode p.1).length ≤ 32 := by decide +kernel
  simp only [Wire.EventField.table, List.forall_mem_cons, List.not_mem_nil, false_implies,
    implies_true, and_true] at hnames
  constructor
  · cases e <;>
      · simp only [Event.fields, List.forall_mem_append, List.forall_mem_cons, omitEmpty_forall,
          skipEmpty_forall]
        simp [hnames]
  · cases e <;>
      · simp only [Event.fields, List.length_append, List.length_cons]
        grind

theorem event_within {blob entries : Nat} (hblob : 32 ≤ blob) (hentries : 16 ≤ entries)
    (e : Event) :
    e.toValue.Within blob entries ↔ ∀ f ∈ e.fields.2, f.2.Within blob entries := by
  obtain ⟨hnames, hlength⟩ := fields_small e
  have htag : (utf8 e.fields.1).Within blob entries := by
    have htags : ∀ kind ∈ Wire.EventKind.known, kind.tag.length ≤ 32 := by decide +kernel
    rw [utf8, ← tag_received_kind]
    exact (htags _ (received_kind_mem_known e)).trans hblob
  rw [Event.toValue, Value.record_within (fun f hf => (hnames f hf).trans hblob)
    (hlength.trans hentries), List.forall_mem_cons]
  exact and_iff_right htag

theorem event_fits {e : Event} (h : ∀ f ∈ e.fields.2, f.2.Fits) : e.toValue.Fits := by
  obtain ⟨hnames, hlength⟩ := fields_small e
  have htag : (utf8 e.fields.1).Fits := by
    have htags : ∀ kind ∈ Wire.EventKind.known, kind.tag.length < 2 ^ 32 := by decide +kernel
    rw [utf8, ← tag_received_kind]
    exact htags _ (received_kind_mem_known e)
  apply Value.record_fits
  · exact hlength.trans_lt (by decide)
  · exact fun f hf => (hnames f hf).trans_lt (by decide)
  · exact List.forall_mem_cons.mpr ⟨htag, h⟩

/-! ### Batches -/

/-- An event that Go accepts: the scanner lets it through and its checks pass. -/
structure Event.Acceptable (quote : Bytes → String) (e : Event) : Prop where
  within : ∀ f ∈ e.fields.2, f.2.Within Wire.maxBlobBytes Wire.maxArrayEntries
  valid : Wire.validateEvent quote e.received = .ok ()

section Batch

variable {quote : Bytes → String} {seq : UInt64} {events : List Event} {batch : Wire.EventBatch}

theorem eventBatch_fits (hfits : ∀ e ∈ events, e.toValue.Fits)
    (hlength : events.length ≤ Wire.maxArrayEntries) : (eventBatchValue seq events).Fits := by
  apply Value.record_fits (by simp)
  · simp only [List.forall_mem_cons]
    decide
  · simp only [List.forall_mem_cons, List.not_mem_nil, false_implies, implies_true, and_true,
      Value.uint64_fits, true_and]
    rw [Value.array_fits, List.length_map, List.forall_mem_map]
    exact ⟨hlength.trans_lt (by decide), hfits⟩

/-- The scanner looks at the fields of each event. -/
theorem validateShape_encodeEventBatch (hfits : ∀ e ∈ events, e.toValue.Fits)
    (hlength : events.length ≤ Wire.maxArrayEntries) :
    Wire.validateShape (encodeEventBatch seq events) = .ok () ↔
      ∀ e ∈ events, ∀ f ∈ e.fields.2, f.2.Within Wire.maxBlobBytes Wire.maxArrayEntries := by
  have hdepth : (eventBatchValue seq events).depth ≤ Wire.maxScanDepth + 1 :=
    (depth_eventBatch_le seq events).trans (by decide)
  have hnames : ∀ f ∈ [("seq", Value.int seq.toNat),
      ("events", .array (events.map Event.toValue))], (encode f.1).length ≤ Wire.maxBlobBytes := by
    simp only [List.forall_mem_cons]
    decide
  rw [encodeEventBatch, Wire.validateShape_encode (eventBatch_fits hfits hlength),
    and_iff_left hdepth, eventBatchValue,
    Value.record_within hnames (by simp [Wire.maxArrayEntries])]
  simp only [List.forall_mem_cons, List.not_mem_nil, false_implies, implies_true, and_true,
    Value.int_within, true_and, Value.array_within, List.length_map, List.forall_mem_map, hlength]
  exact forall₂_congr fun e _ => event_within (by decide) (by decide) e

/-- Go decodes the events that native sent. -/
theorem read_encodeEventBatch (hfits : ∀ e ∈ events, e.toValue.Fits)
    (hlength : events.length ≤ Wire.maxArrayEntries) :
    (MessagePack.decode (encodeEventBatch seq events)).bind Wire.EventBatch.read =
      some { seq := seq, events := events.map Event.received } := by
  rw [encodeEventBatch, MessagePack.decode_encode (eventBatch_fits hfits hlength),
    Option.bind_some, Wire.EventBatch.read, eventBatchValue, readStruct_record]
  simp [Wire.EventBatch.setField, Wire.mapM_map_eq_some readEvent]

/-- A batch is accepted exactly when each of its events is, and then Go has the
events that native sent. -/
theorem decodeEventBatch_encode (hfits : ∀ e ∈ events, e.toValue.Fits)
    (hlength : events.length ≤ Wire.maxArrayEntries) :
    Wire.decodeEventBatch quote (encodeEventBatch seq events) = .ok batch ↔
      (∀ e ∈ events, e.Acceptable quote) ∧
        batch = { seq := seq, events := events.map Event.received } := by
  rw [Wire.decodeEventBatch_eq_ok, validateShape_encodeEventBatch hfits hlength,
    read_encodeEventBatch hfits hlength, Option.some.injEq]
  constructor
  · rintro ⟨hwithin, rfl, hvalid⟩
    rw [List.forall_mem_map] at hvalid
    exact ⟨fun e he => ⟨hwithin e he, hvalid e he⟩, rfl⟩
  · rintro ⟨hall, rfl⟩
    refine ⟨fun e he => (hall e he).within, rfl, ?_⟩
    rw [List.forall_mem_map]
    exact fun e he => (hall e he).valid

end Batch

/-! ### The poll -/

def maxPollBatch : Nat := 64

/-- The bytes of a poll, and the events that go on waiting. -/
def poll (seq : UInt64) (queue : List Event) : Bytes × List Event :=
  (encodeEventBatch seq (queue.take maxPollBatch), queue.drop maxPollBatch)

/-- A poll is accepted exactly when each of the events that it returns is. -/
theorem decodeEventBatch_poll {quote : Bytes → String} {seq : UInt64} {queue : List Event}
    {batch : Wire.EventBatch} (hfits : ∀ e ∈ queue.take maxPollBatch, e.toValue.Fits) :
    Wire.decodeEventBatch quote (poll seq queue).1 = .ok batch ↔
      (∀ e ∈ queue.take maxPollBatch, e.Acceptable quote) ∧
        batch = { seq := seq, events := (queue.take maxPollBatch).map Event.received } := by
  apply decodeEventBatch_encode hfits
  exact (List.length_take_le _ _).trans (by decide)

end RivetGo.Native

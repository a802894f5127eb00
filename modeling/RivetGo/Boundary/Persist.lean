import RivetGo.Boundary.Accept
import RivetGo.Boundary.Poll
import RivetGo.Session.Command

/-!
# Loading what was persisted

An actor saves its state and puts keys; a later generation gets the state in
its start event, and a get or a list returns the value of the key. The write
path refuses empty bytes and looks at no size, while the scanner of the read
path refuses a batch with any blob of more than a mebibyte. So the bytes that a
successful write left behind can be loaded exactly when they are not larger,
and otherwise their delivery makes the poll fail that carries it.
-/

namespace RivetGo.Persist

open MessagePack (Value)
open Native (Event KvEntry maxPollBatch poll)
open Session (Correlation Identity)

/-- The parts of a start event other than the state. The time of creation is
not known to native, which writes zero. -/
structure Startup where
  aid : String
  gen : UInt64
  name : String
  key : String
  input : Bytes
  sqliteSocketPath : Option String
  connections : List Native.Connection

/-- The start event with the state that was persisted, if any. -/
def Startup.event (s : Startup) (persistedState : Option Bytes) : Event :=
  .actorStart s.aid s.gen s.name s.key 0 s.input persistedState s.sqliteSocketPath s.connections

/-- A delivery of bytes that were written before: the state at a start, the
value of a get, or one entry of a list, which never has more entries than its
limit. -/
inductive Delivery where
  | start (startup : Startup) (state : Bytes)
  | get (kvId : UInt64) (key value : Bytes)
  | list (kvId : UInt64) (before : List KvEntry) (key value : Bytes) (after : List KvEntry)
      (limited : before.length + after.length < Native.maxKvListEntries.toNat)

namespace Delivery

/-- The command of the `Save` or `Put` that wrote the bytes. -/
def write (actor : Identity) (id : Correlation) : Delivery → Wire.Command
  | .start _ state => Session.save actor (some state)
  | .get _ key value => Session.kvPut actor id (some key) (some value)
  | .list _ _ key value _ _ => Session.kvPut actor id (some key) (some value)

/-- The bytes that were passed to it. -/
def written : Delivery → List Bytes
  | .start _ state => [state]
  | .get _ key value => [key, value]
  | .list _ _ key value _ _ => [key, value]

/-- The event in which native returns them. -/
def event : Delivery → Event
  | .start startup state => startup.event (some state)
  | .get kvId _ value => .kvResult kvId (some value) [] none
  | .list kvId before key value after _ =>
    .kvResult kvId none (before ++ ⟨key, value⟩ :: after) none

/-- The same event had they never been written. -/
def blank : Delivery → Event
  | .start startup _ => startup.event none
  | .get kvId _ _ => .kvResult kvId none [] none
  | .list kvId before _ _ after _ => .kvResult kvId none (before ++ after) none

/-- The written bytes that the event contains. -/
def carried : Delivery → List Bytes
  | .start _ state => [state]
  | .get _ _ value => [value]
  | .list _ _ key value _ _ => [key, value]

/-- The state or value that is to be loaded. -/
def stored : Delivery → Bytes
  | .start _ state => state
  | .get _ _ value => value
  | .list _ _ _ value _ _ => value

/-- What Go takes from the event that it decoded. -/
def loaded (e : Wire.Event) : Delivery → Option Bytes
  | .start _ _ => e.persistedState
  | .get _ _ _ => e.value
  | .list _ before _ _ _ _ => e.entries[before.length]?.bind Wire.KVEntry.value

end Delivery

variable {quote : Bytes → String} {cbor : Native.Ciborium} {seq : UInt64} {d : Delivery}
variable {actor : Identity} {id : Correlation} {before after : List Event}

/-! ### The write path -/

theorem save_accepted_iff {state : Bytes} :
    Accepted cbor (Session.save actor (some state)) ↔ state ≠ [] := by
  cases state <;>
    simp [Accepted, Wire.Command.received, Session.save, Session.appendNil,
      Native.validateCommand, Native.requireAid, actor.aid_ne]

theorem put_accepted_iff {key value : Bytes} :
    Accepted cbor (Session.kvPut actor id (some key) (some value)) ↔ key ≠ [] ∧ value ≠ [] := by
  cases key <;> cases value <;>
    simp [Accepted, Wire.Command.received, Session.kvPut, Session.kv, Session.appendNil,
      Native.validateCommand, Native.requireKv, Native.requireAid, actor.aid_ne, id.2]

/-- Native accepts a write whatever its size. -/
theorem write_accepted_iff : Accepted cbor (d.write actor id) ↔ [] ∉ d.written := by
  cases d with
  | start startup state =>
    rw [Delivery.write, save_accepted_iff]
    simp [Delivery.written, eq_comm]
  | get kvId key value =>
    rw [Delivery.write, put_accepted_iff]
    simp [Delivery.written, eq_comm]
  | list kvId before key value after limited =>
    rw [Delivery.write, put_accepted_iff]
    simp [Delivery.written, eq_comm]

/-! ### The read path -/

theorem slice_within {blob entries : Nat} {b : Option Bytes} :
    (Wire.slice b).Within blob entries ↔ ∀ x ∈ b, x.length ≤ blob := by
  cases b <;> simp [Wire.slice, Wire.pointer]

theorem kvEntry_within {blob entries : Nat} (hblob : 8 ≤ blob) (hentries : 2 ≤ entries)
    {e : KvEntry} :
    e.toValue.Within blob entries ↔ e.key.length ≤ blob ∧ e.value.length ≤ blob := by
  have hnames : ∀ f ∈ [("key", Value.bin e.key), ("value", .bin e.value)],
      (Utf8.encode f.1).length ≤ blob := by
    simp only [List.forall_mem_cons, List.not_mem_nil, false_implies, implies_true, and_true]
    exact ⟨le_trans (by decide) hblob, le_trans (by decide) hblob⟩
  rw [KvEntry.toValue, Value.record_within hnames (by simpa using hentries)]
  simp

theorem entries_within {blob entries : Nat} (hblob : 8 ≤ blob) (hentries : 2 ≤ entries)
    {es : List KvEntry} :
    (∀ f ∈ Native.skipEmpty "entries" KvEntry.toValue es, f.2.Within blob entries) ↔
      es.length ≤ entries ∧ ∀ e ∈ es, e.key.length ≤ blob ∧ e.value.length ≤ blob := by
  rw [Native.skipEmpty_forall, Value.array_within, List.length_map, List.forall_mem_map]
  simp only [kvEntry_within hblob hentries]
  cases es with
  | nil => simp
  | cons e es => simp

/-- The checks on an event do not look at the bytes. -/
theorem validateEvent_event :
    Wire.validateEvent quote d.event.received = Wire.validateEvent quote d.blank.received := by
  cases d <;> rfl

/-- If nothing else is wrong with it, an event is accepted exactly when the
scanner lets the bytes through. -/
theorem event_acceptable_iff (h : d.blank.Acceptable quote) :
    d.event.Acceptable quote ↔ ∀ b ∈ d.carried, b.length ≤ Wire.maxBlobBytes := by
  have hvalid := h.valid
  rw [← validateEvent_event] at hvalid
  have hiff : d.event.Acceptable quote ↔
      ∀ f ∈ d.event.fields.2, f.2.Within Wire.maxBlobBytes Wire.maxArrayEntries :=
    ⟨fun h => h.within, fun h => ⟨h, hvalid⟩⟩
  rw [hiff]
  have hblank := h.within
  cases d with
  | start startup state =>
    simp only [Delivery.event, Delivery.blank, Delivery.carried, Startup.event, Event.fields,
      List.forall_mem_append, List.forall_mem_cons, slice_within, Option.mem_def,
      Option.some.injEq, forall_eq'] at hblank ⊢
    tauto
  | get kvId key value =>
    simp [Delivery.event, Delivery.carried, Event.fields, Wire.omitEmpty, Native.skipEmpty]
  | list kvId before key value after limited =>
    have hes := @entries_within Wire.maxBlobBytes Wire.maxArrayEntries (by decide) (by decide)
    have hlimit : before.length + (after.length + 1) ≤ Wire.maxArrayEntries := limited
    simp only [Delivery.event, Delivery.blank, Delivery.carried, Event.fields, hes,
      List.forall_mem_append, List.forall_mem_cons, List.length_append, List.length_cons,
      hlimit] at hblank ⊢
    tauto

theorem loaded_received : d.loaded d.event.received = some d.stored := by
  cases d with
  | start startup state => rfl
  | get kvId key value => rfl
  | list kvId before key value after limited =>
    simp [Delivery.loaded, Delivery.event, Event.received, Delivery.stored,
      Native.KvEntry.received]

/-! ### Both together -/

/-- The poll that carries the delivery is decoded, and Go takes from it exactly
the bytes that were written. -/
def Delivered (quote : Bytes → String) (seq : UInt64) (before after : List Event)
    (d : Delivery) : Prop :=
  ∃ batch e, Wire.decodeEventBatch quote (poll seq (before ++ d.event :: after)).1 = .ok batch ∧
    batch.events[before.length]? = some e ∧ d.loaded e = some d.stored

theorem mem_take_append_cons {α : Type} {n : Nat} {xs ys : List α} {x y : α} (h : xs.length < n) :
    y ∈ (xs ++ x :: ys).take n ↔ y = x ∨ y ∈ xs ++ ys.take (n - 1 - xs.length) := by
  obtain ⟨k, rfl⟩ : ∃ k, n = xs.length + (k + 1) := ⟨n - xs.length - 1, by omega⟩
  rw [List.take_length_add_append]
  have hk : xs.length + (k + 1) - 1 - xs.length = k := by omega
  simp only [List.take_succ_cons, hk, List.mem_append, List.mem_cons]
  tauto

theorem delivered_iff_acceptable (hpolled : before.length < maxPollBatch)
    (hfits : ∀ e ∈ (before ++ d.event :: after).take maxPollBatch, e.toValue.Fits) :
    Delivered quote seq before after d ↔
      ∀ e ∈ (before ++ d.event :: after).take maxPollBatch, e.Acceptable quote := by
  constructor
  · rintro ⟨batch, e, hbatch, -⟩
    exact ((Native.decodeEventBatch_poll hfits).mp hbatch).1
  · intro hall
    refine ⟨_, d.event.received, (Native.decodeEventBatch_poll hfits).mpr ⟨hall, rfl⟩, ?_,
      loaded_received⟩
    rw [List.getElem?_map, List.getElem?_take_of_lt hpolled,
      List.getElem?_append_right (le_refl _)]
    simp

/-- A write is accepted whatever the size of its bytes, unless they are empty.
In a poll that would be accepted without them, the bytes are loaded as they
were written exactly when those that the event contains are at most a mebibyte
each. -/
theorem persisted_delivered_iff (hpolled : before.length < maxPollBatch)
    (hfits : ∀ e ∈ (before ++ d.event :: after).take maxPollBatch, e.toValue.Fits)
    (hrest : ∀ e ∈ (before ++ d.blank :: after).take maxPollBatch, e.Acceptable quote) :
    (Accepted cbor (d.write actor id) ↔ [] ∉ d.written) ∧
      (Delivered quote seq before after d ↔ ∀ b ∈ d.carried, b.length ≤ 2 ^ 20) := by
  refine ⟨write_accepted_iff, ?_⟩
  simp only [mem_take_append_cons hpolled, forall_eq_or_imp] at hrest
  rw [delivered_iff_acceptable hpolled hfits]
  simp only [mem_take_append_cons hpolled, forall_eq_or_imp]
  rw [event_acceptable_iff hrest.1]
  exact and_iff_left hrest.2

/-- A start for the two cases below. -/
def someStartup : Startup :=
  { aid := "actor", gen := 1, name := "counter", key := "", input := [], sqliteSocketPath := none,
    connections := [] }

theorem someStartup_fits {state : Option Bytes} (h : ∀ b ∈ state, b.length < 2 ^ 32) :
    (someStartup.event state).toValue.Fits := by
  apply Native.event_fits
  simp only [Startup.event, someStartup, Event.fields, Wire.omitEmpty, Native.skipEmpty,
    List.append_nil, List.forall_mem_cons, Native.utf8, Value.str_fits, Value.uint64_fits,
    Value.int64_fits, Value.bin_fits, Wire.slice_fits, List.not_mem_nil, false_implies,
    implies_true, and_true, true_and]
  exact ⟨by decide, by decide, by decide, by decide, h⟩

theorem someStartup_acceptable : (someStartup.event none).Acceptable quote := by
  refine ⟨?_, by simp [Wire.validateEvent, Wire.validateKind, Startup.event, someStartup,
    Event.received, Native.optionalText]⟩
  simp only [Startup.event, someStartup, Event.fields, Wire.omitEmpty, Native.skipEmpty,
    List.append_nil, List.forall_mem_cons, Native.utf8, Value.str_within, Value.int_within,
    Value.bin_within, slice_within, List.not_mem_nil, false_implies, implies_true, and_true,
    true_and]
  exact ⟨by decide, by decide, by decide, by decide, by simp⟩

theorem small_state_delivered :
    Accepted ⟨fun _ => .error "", fun _ => .error ""⟩
        (Session.save ⟨"actor", 1, by decide⟩ (some [1])) ∧
      Delivered (fun _ => "") 7 [] [] (.start someStartup [1]) := by
  have hfits : ∀ e ∈ ([] ++ (Delivery.start someStartup [1]).event :: []).take maxPollBatch,
      e.toValue.Fits := List.forall_mem_singleton.mpr (someStartup_fits (by decide))
  have hrest : ∀ e ∈ ([] ++ (Delivery.start someStartup [1]).blank :: []).take maxPollBatch,
      e.Acceptable fun _ => "" := List.forall_mem_singleton.mpr someStartup_acceptable
  have h := @persisted_delivered_iff (fun _ => "") ⟨fun _ => .error "", fun _ => .error ""⟩ 7
    (.start someStartup [1]) ⟨"actor", 1, by decide⟩ ⟨1, by decide⟩ [] [] (by decide) hfits hrest
  exact ⟨h.1.mpr (by decide), h.2.mpr (by decide)⟩

/-- One byte more than a mebibyte. -/
def largeState : Bytes := List.replicate (2 ^ 20 + 1) 0

theorem length_largeState : largeState.length = 2 ^ 20 + 1 := List.length_replicate

/-- The large state is saved, and the poll that delivers it is not decoded,
although it would be without the state. -/
theorem large_state_not_decoded :
    (∀ cbor, Accepted cbor (Session.save ⟨"actor", 1, by decide⟩ (some largeState))) ∧
      ∀ quote, (∃ batch, Wire.decodeEventBatch quote (poll 7 [someStartup.event none]).1 =
          .ok batch) ∧
        ∀ batch, Wire.decodeEventBatch quote (poll 7 [someStartup.event (some largeState)]).1 ≠
          .ok batch := by
  refine ⟨fun cbor => save_accepted_iff.mpr ?_, fun quote => ⟨?_, fun batch hbatch => ?_⟩⟩
  · exact List.ne_nil_of_length_pos (length_largeState ▸ Nat.succ_pos _)
  · have hfits : ∀ e ∈ [someStartup.event none].take maxPollBatch, e.toValue.Fits :=
      List.forall_mem_singleton.mpr (someStartup_fits (by simp))
    exact ⟨_, (Native.decodeEventBatch_poll hfits).mpr
      ⟨List.forall_mem_singleton.mpr someStartup_acceptable, rfl⟩⟩
  · have hfits : ∀ e ∈ [someStartup.event (some largeState)].take maxPollBatch,
        e.toValue.Fits := by
      refine List.forall_mem_singleton.mpr (someStartup_fits ?_)
      rintro b ⟨⟩
      rw [length_largeState]
      decide
    have hall := List.forall_mem_singleton.mp ((Native.decodeEventBatch_poll hfits).mp hbatch).1
    have hsmall := (@event_acceptable_iff quote (.start someStartup largeState)
      someStartup_acceptable).mp hall largeState List.mem_cons_self
    rw [length_largeState] at hsmall
    exact absurd hsmall (by decide)

end RivetGo.Persist

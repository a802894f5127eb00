import RivetGo.Session.SqliteCall

/-!
# The poller and a caller that has returned

The poller sends an event after it has released the lock, and a caller that
returns in between never receives it. The send goes through as long as the
channel has room, so that the poller is safe from a call whose answer fits into
the channel, whenever its caller returns. An answer of more events can fill the
channel, and then the poller waits for a caller that is gone.
-/

namespace RivetGo.SqliteCall

open Native (ExecuteResult)

/-- The poller waits for room in the channel of a caller that has returned. -/
def Blocked (s : State) : Prop :=
  ∃ event outcome, s.poller = .sending event ∧ channelCapacity ≤ s.channel.length ∧
    s.caller = .returned outcome

theorem length_pipeline_lookup {s : State} {event : Wire.Event} {rest : List Wire.Event}
    (hp : s.poller = .idle) (hu : s.unpolled = event :: rest) :
    ({ lookupEvent s event with unpolled := rest } : State).pipeline.length ≤
      s.pipeline.length := by
  simp only [State.pipeline, lookupEvent, hp, hu]
  split <;> simp [Poller.inFlight]

/-- There are never more events on their way than native emits. -/
theorem length_pipeline_le {call : Call} {s : State} (h : Reaches call s) :
    s.pipeline.length ≤ if s.settled then call.answer.length else 0 := by
  refine h.invariant (P := fun s =>
    s.pipeline.length ≤ if s.settled then call.answer.length else 0) (Nat.le_refl 0) ?_
  intro s s' hs hmove
  cases hmove with
  | settle hsent hsettled =>
    have hempty : s.pipeline = [] := by simpa [hsettled] using hs
    simp only [State.pipeline, List.append_eq_nil_iff] at hempty
    simp [State.pipeline, hempty]
  | lookup hp hu => exact Nat.le_trans (length_pipeline_lookup hp hu) hs
  | deliver hp hroom => simpa [State.pipeline, hp, Poller.inFlight, Nat.add_assoc] using hs
  | receive hc hch =>
    refine Nat.le_trans ?_ hs
    simp [State.pipeline, hch]
  | exit hp => simpa [State.pipeline, hp, Poller.inFlight] using hs
  | _ => exact hs

/-- An answer that fits into the channel never blocks the poller. -/
theorem not_blocked_of_le {call : Call} (hle : call.answer.length ≤ channelCapacity) {s : State}
    (h : Reaches call s) : ¬ Blocked s := by
  rintro ⟨event, outcome, hp, hfull, -⟩
  have hcount := length_pipeline_le h
  have hbound : (if s.settled then call.answer.length else 0) ≤ channelCapacity := by
    split
    · exact hle
    · exact Nat.zero_le _
  simp only [State.pipeline, hp, Poller.inFlight, List.length_append, List.length_singleton]
    at hcount
  omega

/-! ### An answer that does not fit -/

/-- The caller waits and has received nothing, the first `k` events of the answer
are in the channel and the others in native. -/
def filled (call : Call) (k : Nat) : State :=
  { queued := true, sent := true, settled := true, unpolled := call.answer.drop k, entry := .live,
    channel := call.answer.take k, caller := .waiting {} false }

theorem reaches_filled_zero (call : Call) : Reaches call (filled call 0) :=
  Run.reachable_of_run [.register, .enqueue, .send, .settle, .submitted]
    (by simp [Run.run, step, initial, filled])

/-- The poller takes the next event. -/
def taken (call : Call) (k : Nat) (event : Wire.Event) : State :=
  { filled call k with
    unpolled := call.answer.drop (k + 1)
    poller := .sending event
    entry := if event.done then .gone else .live }

theorem step_lookup {call : Call} {k : Nat} (hlt : k < call.answer.length) :
    step call (filled call k) .lookup = some (taken call k call.answer[k]) := by
  simp only [step, filled, List.drop_eq_getElem_cons hlt]
  rfl

theorem reaches_filled {call : Call} {k : Nat} (hk : k ≤ channelCapacity)
    (hlt : k < call.answer.length) : Reaches call (filled call k) := by
  induction k with
  | zero => exact reaches_filled_zero call
  | succ k ih =>
    have hbefore := ih (by omega) (by omega)
    refine (hbefore.next .lookup trivial (step_lookup (by omega))).next .deliver trivial ?_
    have hroom : (call.answer.take k).length < channelCapacity := by
      rw [List.length_take]
      omega
    have hdone : call.answer[k].done = false := by
      rw [Bool.eq_false_iff, ne_eq, answer_done (List.getElem?_eq_getElem _)]
      omega
    simp only [step, taken, filled, if_pos hroom, hdone]
    simp [List.take_append_getElem]

/-- The caller returns while the poller holds an event for the full channel. -/
theorem blocked_of_lt {call : Call} (hlt : channelCapacity < call.answer.length) :
    ∃ s, Reaches call s ∧ Blocked s := by
  have hfull := reaches_filled (Nat.le_refl _) hlt
  have htaken := hfull.next .lookup trivial (step_lookup hlt)
  have hleft := htaken.next .sessionDone trivial rfl
  have hreturned := hleft.next .abandon trivial rfl
  refine ⟨_, hreturned, _, _, rfl, ?_, rfl⟩
  show channelCapacity ≤ (call.answer.take channelCapacity).length
  rw [List.length_take]
  omega

/-- The poller is never blocked by the caller of a command if and only if the
answer fits into the channel. -/
theorem never_blocked_iff (call : Call) :
    (∀ s, Reaches call s → ¬ Blocked s) ↔ call.answer.length ≤ 64 := by
  constructor
  · intro h
    by_contra hlt
    obtain ⟨s, hs, hblocked⟩ := blocked_of_lt (Nat.lt_of_not_le hlt)
    exact h s hs hblocked
  · intro hle s hs
    exact not_blocked_of_le hle hs

/-- One column and `n` rows of nulls. -/
def nulls (n : Nat) : ExecuteResult :=
  { columns := ["a"], rows := List.replicate n [.null], changes := 0, lastInsertRowId := none }

theorem values_nulls (n : Nat) : (nulls n).values = List.replicate n .null := by
  simp [ExecuteResult.values, nulls, Native.ColumnValue.toSqlite]

theorem nulls_returnable {n : Nat} (hn : n < 32 * 1024 * 1024) : (nulls n).Returnable where
  rectangular := by
    intro row hrow
    obtain rfl := List.eq_of_mem_replicate hrow
    rfl
  narrow := Nat.le_of_ble_eq_true rfl
  content := by
    intro v hv
    obtain ⟨row, hrow, hv⟩ := List.mem_flatten.mp hv
    obtain rfl := List.eq_of_mem_replicate hrow
    obtain rfl := List.mem_singleton.mp hv
    exact Nat.zero_le _
  size := by
    have hcolumns : (nulls n).columnBytes = 1 := rfl
    rw [ExecuteResult.accountedBytes, values_nulls, Packing.total, List.map_replicate,
      List.sum_replicate_nat, hcolumns, Native.SqliteValue.accountedBytes]
    omega

/-- A query that returns them. -/
def nullsQuery (n : Nat) : Call :=
  { command :=
      { requestId := 1, aid := "actor", generation := 1, kind := .query,
        sql := "SELECT a FROM log", deadlineMs := 1000 }
    fate := .ran true (.ok (nulls n)) }

/-- A chunk has room for 1024 of them. -/
theorem le_length_answer_nullsQuery {n : Nat} (hn : n < 32 * 1024 * 1024) :
    n ≤ (nullsQuery n).answer.length * 1024 := by
  obtain ⟨chunks, hpacked, hitems, heq⟩ := Native.sqliteResultEvents_eq (nulls_returnable hn)
  have hanswer : (nullsQuery n).answer.length = chunks.all.length := by
    show (List.map _ (Native.emitSqliteExecuteResult 1 (nulls n))).length = _
    simp [Native.emitSqliteExecuteResult, heq, Native.chunkEvents]
  have henough := hpacked.length_items_le
  rw [hitems, values_nulls, List.length_replicate] at henough
  rw [hanswer]
  exact henough

/-- The caller of a query for 66560 nulls returns when its session ends, and
leaves the poller waiting. -/
theorem nullsQuery_blocks_poller : ¬ ∀ s, Reaches (nullsQuery 66560) s → ¬ Blocked s := by
  intro h
  have hlength := le_length_answer_nullsQuery (n := 66560) (by decide)
  have hlt : channelCapacity < (nullsQuery 66560).answer.length := by
    rw [channelCapacity]
    omega
  obtain ⟨s, hs, hblocked⟩ := blocked_of_lt hlt
  exact h s hs hblocked

end RivetGo.SqliteCall

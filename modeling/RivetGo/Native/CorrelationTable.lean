import RivetGo.Data.Correlation
import RivetGo.Data.Run
import RivetGo.Data.Utf8

/-!
# The correlation table

An insertion draws the next identifier that is neither zero nor in the table, enters a deadline and
the sender of a new channel under it, and hands out the identifier and the receiver. Three
operations remove entries: `resolve` the one under an identifier, `expire` those whose deadline has
passed, `drain_shutdown` all. Each removes under the lock, gives the lock back, and then sends its
outcome to every entry it has removed, one after the other. A send fails if the receiver has been
dropped. `resolve` returns whether it has sent, the others how many entries they have removed.

A step is a section under the lock, a send, or something outside: time passes, or somebody drops a
receiver. Channels are numbered in the order of the insertions. `issued` (what was inserted),
`log` (the sections under the lock with what they removed, one for each call) and `returned` (what
the calls returned) record the history. An insertion whose deadline is beyond `horizon`, the last
instant there is, panics under the lock, and nobody gets the lock any more.
-/

namespace RivetGo.CorrelationTable

open Run (Reachable)

/-- `CorrelationResult`. -/
inductive Outcome where
  | ok (payload : Bytes)
  | timeout
  | shutdown
  deriving DecidableEq

/-- The three operations that remove entries, with their arguments. -/
inductive Op where
  | resolve (id : UInt64) (payload : Bytes)
  | expire (now : Nat)
  | drainShutdown

/-- What an operation sends. -/
def Op.outcome : Op → Outcome
  | .resolve _ payload => .ok payload
  | .expire _ => .timeout
  | .drainShutdown => .shutdown

/-- Whether an operation removes the entry with an identifier and a deadline. -/
def Op.selects : Op → UInt64 × Nat → Bool
  | .resolve id _, entry => entry.1 = id
  | .expire now, entry => entry.2 ≤ now
  | .drainShutdown, _ => true

/-- The identifier that is resolved. -/
def Op.target : Op → Option UInt64
  | .resolve id _ => some id
  | _ => none

inductive Result where
  | resolved (sent : Bool)
  | count (n : Nat)
  deriving DecidableEq

/-- What an operation returns, by the entries it has removed and whether its last send went
through. -/
def Op.result : Op → List Nat → Bool → Result
  | .resolve _ _, _, sent => .resolved sent
  | .expire _, removed, _ => .count removed.length
  | .drainShutdown, removed, _ => .count removed.length

structure Entry where
  deadline : Nat
  /-- The channel of the sender. -/
  tx : Nat

/-- A channel for one value, with the receiver waiting or dropped, or with the value. -/
inductive Channel where
  | waiting
  | dropped
  | filled (outcome : Outcome)
  deriving DecidableEq

/-- The channel after `Sender::send`. -/
def Channel.send (outcome : Outcome) : Channel → Channel
  | .waiting => .filled outcome
  | .dropped => .dropped
  | .filled old => .filled old

structure State where
  nextId : UInt64
  table : List (UInt64 × Entry) := []
  poisoned : Bool := false
  clock : Nat := 0
  channel : Nat → Channel := fun _ => .waiting
  /-- Identifier and deadline of each insertion. -/
  issued : List (UInt64 × Nat) := []
  /-- Each call of an operation, with the channels of the entries it has removed. -/
  log : List (Op × List Nat) := []
  /-- Sends that have to be made, with the number of the call. -/
  todo : List (Nat × Nat) := []
  returned : List (Nat × Result) := []

/-- The empty table. The counter starts at zero in the code, and anywhere here. -/
def initial (nextId : UInt64) : State := { nextId := nextId }

inductive Action where
  | insert (timeout : Nat)
  | lock (op : Op)
  | send (k c : Nat)
  | dropReceiver (c : Nat)
  | tick (time : Nat)

def State.ids (s : State) : List UInt64 := s.table.map Prod.fst

/-- The loop of `insert`. After all identifiers there is no new one to try. -/
def State.drawId (s : State) : Option UInt64 :=
  Correlation.draw (· + 1) (fun id => id ≠ 0 ∧ id ∉ s.ids) (2 ^ 64) s.nextId

/-- `HashMap::insert` and what is handed out. -/
def State.enter (s : State) (deadline : Nat) (id : UInt64) : State :=
  { s with
    nextId := id
    table := (id, ⟨deadline, s.issued.length⟩) :: s.table.filter (·.1 ≠ id)
    issued := s.issued ++ [(id, deadline)] }

def State.insert (s : State) (horizon timeout : Nat) (id : UInt64) : State :=
  if horizon < s.clock + timeout then { s with nextId := id, poisoned := true }
  else s.enter (s.clock + timeout) id

/-- The channels of the entries that an operation removes. -/
def State.selected (s : State) (op : Op) : List Nat :=
  (s.table.filter fun p => op.selects (p.1, p.2.deadline)).map (·.2.tx)

/-- A call returns after its last send. -/
def State.finish (s : State) (k : Nat) (result : Result) : State :=
  { s with
    returned := if k ∈ s.todo.map Prod.fst then s.returned else s.returned ++ [(k, result)] }

def State.remove (s : State) (op : Op) : State :=
  let k := s.log.length
  let removed := s.selected op
  let s' := { s with
    table := s.table.filter fun p => !op.selects (p.1, p.2.deadline)
    log := s.log ++ [(op, removed)]
    todo := s.todo ++ removed.map fun c => (k, c) }
  s'.finish k (op.result removed false)

def State.send (s : State) (call : Op × List Nat) (k c : Nat) : State :=
  let s' := { s with
    channel := Function.update s.channel c ((s.channel c).send call.1.outcome)
    todo := s.todo.erase (k, c) }
  s'.finish k (call.1.result call.2 (s.channel c = .waiting))

def step (horizon : Nat) (s : State) : Action → Option State
  | .insert timeout =>
    if s.poisoned then none else s.drawId.map fun id => s.insert horizon timeout id
  | .lock op => if s.poisoned then none else some (s.remove op)
  | .send k c => if (k, c) ∈ s.todo then (s.log[k]?).map fun call => s.send call k c else none
  | .dropReceiver c =>
    if c < s.issued.length ∧ s.channel c = .waiting then
      some { s with channel := Function.update s.channel c .dropped }
    else none
  | .tick time => some { s with clock := s.clock + time }

/-! ## Properties -/

/-- The channels of the entries in the table. -/
def State.live (s : State) : List Nat := s.table.map (·.2.tx)

/-- Call `k` is of `op`, and it has removed the entry of channel `c`. -/
def State.Removed (s : State) (k : Nat) (op : Op) (c : Nat) : Prop :=
  ∃ removed, s.log[k]? = some (op, removed) ∧ c ∈ removed

/-- The calls of `resolve` for an identifier that returned true. -/
def State.resolved (s : State) (id : UInt64) : List (Nat × Result) :=
  s.returned.filter fun r =>
    r.2 = .resolved true ∧ (s.log[r.1]?).bind (·.1.target) = some id

/-- The insertions that drew an identifier. -/
def State.insertions (s : State) (id : UInt64) : List Nat :=
  (List.range s.issued.length).filter fun c => (s.issued[c]?).map Prod.fst = some id

structure Correlated (s : State) : Prop where
  distinct : s.ids.Nodup
  nonzero : 0 ∉ s.ids
  /-- An entry is in the table, or exactly one operation has removed it. -/
  once : ∀ c < s.issued.length,
    (c ∈ s.live ∧ ∀ k op, ¬ s.Removed k op c) ∨ (c ∉ s.live ∧ ∃! k, ∃ op, s.Removed k op c)
  /-- The operation that has removed an entry was meant for it: it resolves the identifier, or
  the deadline has passed. -/
  meant : ∀ k op c, s.Removed k op c → ∃ entry, s.issued[c]? = some entry ∧ op.selects entry = true
  /-- Before that operation sends there is nothing to receive. -/
  silent : ∀ c, (c ∈ s.live ∨ ∃ k, (k, c) ∈ s.todo) → ∀ outcome, s.channel c ≠ .filled outcome
  /-- Afterwards there is its outcome, unless the receiver has been dropped. -/
  outcome : ∀ k op c, s.Removed k op c → (k, c) ∉ s.todo →
    s.channel c = .filled op.outcome ∨ s.channel c = .dropped
  /-- `resolve` returns true only if its payload is in the channel of an entry it has removed. -/
  delivered : ∀ k, (k, Result.resolved true) ∈ s.returned →
    ∃ id payload c, s.Removed k (.resolve id payload) c ∧ s.channel c = .filled (.ok payload)
  /-- `resolve` returns true at most once for each insertion. -/
  resolved : ∀ id, (s.resolved id).length ≤ (s.insertions id).length

/-! ## Steps -/

/-- What a step can do. -/
inductive Steps (s : State) : Action → State → Prop where
  | insert {timeout deadline : Nat} {id : UInt64} : id ≠ 0 → id ∉ s.ids →
      Steps s (.insert timeout) (s.enter deadline id)
  | panics {timeout : Nat} {id : UInt64} :
      Steps s (.insert timeout) { s with nextId := id, poisoned := true }
  | remove {op : Op} : Steps s (.lock op) (s.remove op)
  | send {k c : Nat} {call : Op × List Nat} : (k, c) ∈ s.todo → s.log[k]? = some call →
      Steps s (.send k c) (s.send call k c)
  | drop {c : Nat} : s.channel c = .waiting →
      Steps s (.dropReceiver c) { s with channel := Function.update s.channel c .dropped }
  | tick {time : Nat} : Steps s (.tick time) { s with clock := s.clock + time }

variable {horizon : Nat} {s s' : State} {a : Action}

/-- A new identifier replaces nothing. -/
theorem enter_table {deadline : Nat} {id : UInt64} (h : id ∉ s.ids) :
    (s.enter deadline id).table = (id, ⟨deadline, s.issued.length⟩) :: s.table := by
  refine congrArg (List.cons _) (List.filter_eq_self.mpr fun p hp => decide_eq_true ?_)
  rintro rfl
  exact h (List.mem_map_of_mem hp)

theorem steps_of_step (h : step horizon s a = some s') : Steps s a s' := by
  cases a with
  | insert timeout =>
    simp only [step, Option.ite_none_left_eq_some, Option.map_eq_some_iff] at h
    obtain ⟨-, id, hid, rfl⟩ := h
    have hfree := Correlation.free_of_draw hid
    simp only [decide_eq_true_eq] at hfree
    rw [State.insert]
    split
    case isTrue => exact .panics
    case isFalse => exact .insert hfree.1 hfree.2
  | lock op =>
    simp only [step, Option.ite_none_left_eq_some, Option.some.injEq] at h
    obtain ⟨-, rfl⟩ := h
    exact .remove
  | send k c =>
    simp only [step, Option.ite_none_right_eq_some, Option.map_eq_some_iff] at h
    obtain ⟨htodo, call, hcall, rfl⟩ := h
    exact .send htodo hcall
  | dropReceiver c =>
    simp only [step, Option.ite_none_right_eq_some, Option.some.injEq] at h
    obtain ⟨⟨-, hwaiting⟩, rfl⟩ := h
    exact .drop hwaiting
  | tick time =>
    obtain rfl := Option.some.inj h
    exact .tick

/-! ## Who has an entry -/

/-- An inserted entry is in the table or has been removed, and nothing else is. -/
structure Placed (s : State) : Prop where
  distinct : s.ids.Nodup
  nonzero : 0 ∉ s.ids
  entry : ∀ p ∈ s.table, s.issued[p.2.tx]? = some (p.1, p.2.deadline)
  places : (s.live ++ s.log.flatMap Prod.snd).Perm (List.range s.issued.length)
  meant : ∀ call ∈ s.log, ∀ c ∈ call.2, ∃ entry, s.issued[c]? = some entry ∧
    call.1.selects entry = true

theorem placed_initial (nextId : UInt64) : Placed (initial nextId) where
  distinct := List.nodup_nil
  nonzero := List.not_mem_nil
  entry := fun _ hp => absurd hp List.not_mem_nil
  places := List.Perm.refl _
  meant := fun _ hcall => absurd hcall List.not_mem_nil

theorem Placed.enter {id : UInt64} {deadline : Nat} (h : Placed s) (hid : id ≠ 0)
    (hfree : id ∉ s.ids) : Placed (s.enter deadline id) where
  distinct := by
    rw [State.ids, enter_table hfree]
    exact List.nodup_cons.mpr ⟨hfree, h.distinct⟩
  nonzero := by
    rw [State.ids, enter_table hfree]
    exact List.not_mem_cons_of_ne_of_not_mem hid.symm h.nonzero
  entry := by
    rw [enter_table hfree]
    rintro p (_ | ⟨_, hp⟩)
    case head => exact List.getElem?_concat_length
    case tail =>
      have hentry := h.entry p hp
      exact (List.getElem?_append_left (List.getElem?_eq_some_iff.mp hentry).1).trans hentry
  places := by
    rw [State.live, enter_table hfree, State.enter, List.length_append, List.length_singleton,
      List.range_succ]
    exact (h.places.cons s.issued.length).trans (List.perm_append_singleton _ _).symm
  meant := by
    intro call hcall c hc
    obtain ⟨entry, hentry, hselects⟩ := h.meant call hcall c hc
    refine ⟨entry, ?_, hselects⟩
    exact (List.getElem?_append_left (List.getElem?_eq_some_iff.mp hentry).1).trans hentry

theorem Placed.remove (h : Placed s) (op : Op) : Placed (s.remove op) where
  distinct := h.distinct.sublist (List.filter_sublist.map _)
  nonzero := fun hmem => h.nonzero ((List.filter_sublist.map _).subset hmem)
  entry := fun p hp => h.entry p (List.mem_of_mem_filter hp)
  places := by
    have hsplit := (List.filter_append_perm (fun p => op.selects (p.1, p.2.deadline))
      s.table).map (·.2.tx)
    rw [List.map_append] at hsplit
    refine List.Perm.trans ?_ h.places
    simp only [State.remove, State.finish, State.live, List.flatMap_append, List.flatMap_singleton]
    refine List.perm_append_comm.trans ?_
    rw [List.append_assoc]
    exact (hsplit.append_left _).trans List.perm_append_comm
  meant := by
    intro call hcall c hc
    obtain hcall | hcall := List.mem_append.mp hcall
    · exact h.meant call hcall c hc
    · obtain rfl := List.mem_singleton.mp hcall
      obtain ⟨p, hp, rfl⟩ := List.mem_map.mp hc
      obtain ⟨hmem, hselects⟩ := List.mem_filter.mp hp
      exact ⟨_, h.entry p hmem, hselects⟩

theorem Placed.nodup (h : Placed s) : (s.live ++ s.log.flatMap Prod.snd).Nodup :=
  h.places.nodup_iff.mpr List.nodup_range

section Removed

variable {k k' c : Nat} {op op' : Op}

theorem State.Removed.mem_flatMap (hc : s.Removed k op c) : c ∈ s.log.flatMap Prod.snd := by
  obtain ⟨removed, hcall, hmem⟩ := hc
  exact List.mem_flatMap.mpr ⟨_, List.mem_of_getElem? hcall, hmem⟩

theorem State.Removed.lt_length (hc : s.Removed k op c) : k < s.log.length :=
  (List.getElem?_eq_some_iff.mp hc.choose_spec.1).1

theorem Placed.lt_of_removed (h : Placed s) (hc : s.Removed k op c) : c < s.issued.length :=
  List.mem_range.mp (h.places.subset (List.mem_append_right _ hc.mem_flatMap))

theorem Placed.not_live (h : Placed s) (hc : s.Removed k op c) : c ∉ s.live :=
  fun hlive => (List.nodup_append.mp h.nodup).2.2 c hlive c hc.mem_flatMap rfl

/-- No two calls have removed one entry. -/
theorem Placed.call_unique (h : Placed s) (hc : s.Removed k op c) (hc' : s.Removed k' op' c) :
    k = k' := by
  have hdisjoint := (List.nodup_flatMap.mp (List.nodup_append.mp h.nodup).2.1).2
  obtain ⟨removed, hcall, hmem⟩ := hc
  obtain ⟨removed', hcall', hmem'⟩ := hc'
  obtain ⟨hk, hget⟩ := List.getElem?_eq_some_iff.mp hcall
  obtain ⟨hk', hget'⟩ := List.getElem?_eq_some_iff.mp hcall'
  have happart : ∀ {i j : Nat} (hi : i < s.log.length) (hj : j < s.log.length), i < j →
      c ∈ s.log[i].2 → c ∉ s.log[j].2 := fun hi hj hlt hci hcj =>
    List.pairwise_iff_getElem.mp hdisjoint _ _ hi hj hlt hci hcj
  replace hmem : c ∈ s.log[k].2 := hget ▸ hmem
  replace hmem' : c ∈ s.log[k'].2 := hget' ▸ hmem'
  obtain hlt | heq | hgt := Nat.lt_trichotomy k k'
  · exact absurd hmem' (happart hk hk' hlt hmem)
  · exact heq
  · exact absurd hmem (happart hk' hk hgt hmem')

theorem Placed.op_unique (h : Placed s) (hc : s.Removed k op c) (hc' : s.Removed k' op' c) :
    op = op' := by
  obtain rfl := h.call_unique hc hc'
  obtain ⟨removed, hcall, -⟩ := hc
  obtain ⟨removed', hcall', -⟩ := hc'
  exact congrArg Prod.fst (Option.some.inj (hcall.symm.trans hcall'))

theorem Placed.live_or_removed (h : Placed s) (hc : c < s.issued.length) :
    c ∈ s.live ∨ ∃ k op, s.Removed k op c := by
  obtain hlive | hmem := List.mem_append.mp (h.places.mem_iff.mpr (List.mem_range.mpr hc))
  · exact .inl hlive
  · obtain ⟨⟨op, removed⟩, hcall, hmem⟩ := List.mem_flatMap.mp hmem
    obtain ⟨k, hk⟩ := List.getElem?_of_mem hcall
    exact .inr ⟨k, op, removed, hk, hmem⟩

theorem Placed.once (h : Placed s) (hc : c < s.issued.length) :
    (c ∈ s.live ∧ ∀ k op, ¬ s.Removed k op c) ∨ (c ∉ s.live ∧ ∃! k, ∃ op, s.Removed k op c) := by
  obtain hlive | ⟨k, op, hremoved⟩ := h.live_or_removed hc
  · exact .inl ⟨hlive, fun _ _ hremoved => h.not_live hremoved hlive⟩
  · refine .inr ⟨h.not_live hremoved, k, ⟨op, hremoved⟩, ?_⟩
    rintro k' ⟨op', hremoved'⟩
    exact h.call_unique hremoved' hremoved

/-- A call removes what it selects, and the calls before it have removed what they have. -/
theorem removed_remove_iff {op₁ : Op} : (s.remove op₁).Removed k op c ↔
    s.Removed k op c ∨ (k = s.log.length ∧ op = op₁ ∧ c ∈ s.selected op₁) := by
  constructor
  · rintro ⟨removed, hcall, hmem⟩
    change (s.log ++ [(op₁, s.selected op₁)])[k]? = some (op, removed) at hcall
    obtain hlt | hge := Nat.lt_or_ge k s.log.length
    · rw [List.getElem?_append_left hlt] at hcall
      exact .inl ⟨removed, hcall, hmem⟩
    · rw [List.getElem?_append_right hge, List.getElem?_singleton] at hcall
      obtain ⟨hk, heq⟩ := Option.ite_none_right_eq_some.mp hcall
      obtain ⟨rfl, rfl⟩ := Prod.mk.inj (Option.some.inj heq)
      exact .inr ⟨by omega, rfl, hmem⟩
  · rintro (hold | ⟨rfl, rfl, hmem⟩)
    · have hlt := hold.lt_length
      obtain ⟨removed, hcall, hmem⟩ := hold
      exact ⟨removed, (List.getElem?_append_left hlt).trans hcall, hmem⟩
    · exact ⟨_, List.getElem?_concat_length, hmem⟩

theorem selected_subset_live : s.selected op ⊆ s.live :=
  (List.filter_sublist.map _).subset

end Removed

/-! ## What has been sent -/

/-- A removed entry is sent the outcome of the call that has removed it, once. -/
structure Sending (s : State) : Prop where
  nodup : s.todo.Nodup
  owed : ∀ k c, (k, c) ∈ s.todo → ∃ op, s.Removed k op c
  silent : ∀ c, (c ∈ s.live ∨ (∃ k, (k, c) ∈ s.todo) ∨ s.issued.length ≤ c) →
    ∀ outcome, s.channel c ≠ .filled outcome
  outcome : ∀ k op c, s.Removed k op c → (k, c) ∉ s.todo →
    s.channel c = .filled op.outcome ∨ s.channel c = .dropped

theorem sending_initial (nextId : UInt64) : Sending (initial nextId) where
  nodup := List.nodup_nil
  owed := fun _ _ hmem => absurd hmem List.not_mem_nil
  silent := fun _ _ _ h => Channel.noConfusion h
  outcome := fun _ _ _ hremoved => absurd hremoved.mem_flatMap List.not_mem_nil

theorem Sending.enter {id : UInt64} {deadline : Nat} (h : Sending s) (hfree : id ∉ s.ids) :
    Sending (s.enter deadline id) where
  nodup := h.nodup
  owed := h.owed
  silent := by
    rw [State.live, enter_table hfree]
    rintro c (hlive | htodo | hge)
    · obtain rfl | hlive := List.mem_cons.mp hlive
      · exact h.silent _ (.inr (.inr (Nat.le_refl _)))
      · exact h.silent c (.inl hlive)
    · exact h.silent c (.inr (.inl htodo))
    · rw [State.enter, List.length_append] at hge
      exact h.silent c (.inr (.inr (Nat.le_of_add_right_le hge)))
  outcome := h.outcome

theorem Sending.remove (h : Sending s) (hs : Placed s) (op : Op) : Sending (s.remove op) where
  nodup := by
    have hselected : (s.selected op).Nodup :=
      (List.nodup_append.mp hs.nodup).1.sublist (List.filter_sublist.map _)
    refine List.nodup_append.mpr ⟨h.nodup, hselected.map fun _ _ heq => (Prod.mk.inj heq).2, ?_⟩
    rintro ⟨k, c⟩ hmem _ hnew rfl
    obtain ⟨_, -, heq⟩ := List.mem_map.mp hnew
    obtain ⟨op', hremoved⟩ := h.owed k c hmem
    have hlt := hremoved.lt_length
    rw [← (Prod.mk.inj heq).1] at hlt
    exact absurd hlt (Nat.lt_irrefl _)
  owed := by
    intro k c hmem
    obtain hmem | hnew := List.mem_append.mp hmem
    · obtain ⟨op', hremoved⟩ := h.owed k c hmem
      exact ⟨op', removed_remove_iff.mpr (.inl hremoved)⟩
    · obtain ⟨_, hc, heq⟩ := List.mem_map.mp hnew
      obtain ⟨rfl, rfl⟩ := Prod.mk.inj heq
      exact ⟨op, removed_remove_iff.mpr (.inr ⟨rfl, rfl, hc⟩)⟩
  silent := by
    rintro c (hlive | ⟨k, htodo⟩ | hge)
    · exact h.silent c (.inl ((List.filter_sublist.map _).subset hlive))
    · obtain htodo | hnew := List.mem_append.mp htodo
      · exact h.silent c (.inr (.inl ⟨k, htodo⟩))
      · obtain ⟨_, hc, heq⟩ := List.mem_map.mp hnew
        obtain ⟨-, rfl⟩ := Prod.mk.inj heq
        exact h.silent _ (.inl (selected_subset_live hc))
    · exact h.silent c (.inr (.inr hge))
  outcome := by
    intro k op' c hremoved hsent
    obtain hold | ⟨rfl, rfl, hc⟩ := removed_remove_iff.mp hremoved
    · exact h.outcome k op' c hold fun hmem => hsent (List.mem_append_left _ hmem)
    · exact absurd (List.mem_append_right _ (List.mem_map_of_mem hc)) hsent

theorem Channel.send_of_not_filled {channel : Channel} (outcome : Outcome)
    (h : ∀ old, channel ≠ .filled old) :
    channel.send outcome = .filled outcome ∨ channel.send outcome = .dropped := by
  cases channel with
  | waiting => exact .inl rfl
  | dropped => exact .inr rfl
  | filled old => exact absurd rfl (h old)

theorem Sending.send {call : Op × List Nat} {k c : Nat} (h : Sending s) (hs : Placed s)
    (htodo : (k, c) ∈ s.todo) (hcall : s.log[k]? = some call) : Sending (s.send call k c) := by
  obtain ⟨op₁, hremoved⟩ := h.owed k c htodo
  have hop : op₁ = call.1 := by
    obtain ⟨removed, hlog, -⟩ := hremoved
    exact congrArg Prod.fst (Option.some.inj (hlog.symm.trans hcall))
  subst hop
  refine ⟨h.nodup.erase _, fun k' c' hmem => h.owed k' c' (List.mem_of_mem_erase hmem), ?_, ?_⟩
  · intro c' hc' outcome
    have hne : c' ≠ c := by
      rintro rfl
      obtain hlive | ⟨k', hmem⟩ | hge := hc'
      · exact hs.not_live hremoved hlive
      · obtain ⟨hdiffers, hmem⟩ := h.nodup.mem_erase_iff.mp hmem
        obtain ⟨op', hremoved'⟩ := h.owed k' c' hmem
        obtain rfl := hs.call_unique hremoved' hremoved
        exact hdiffers rfl
      · exact Nat.not_le.mpr (hs.lt_of_removed hremoved) hge
    have hold : s.channel c' ≠ .filled outcome := by
      refine h.silent c' ?_ outcome
      obtain hlive | ⟨k', hmem⟩ | hge := hc'
      · exact .inl hlive
      · exact .inr (.inl ⟨k', List.mem_of_mem_erase hmem⟩)
      · exact .inr (.inr hge)
    change Function.update s.channel c _ c' ≠ _
    rw [Function.update_of_ne hne]
    exact hold
  · intro k' op' c' hremoved' hsent
    change Function.update s.channel c _ c' = _ ∨ Function.update s.channel c _ c' = _
    by_cases hc : c' = c
    · subst hc
      rw [Function.update_self, hs.op_unique hremoved' hremoved]
      exact Channel.send_of_not_filled _ (h.silent c' (.inr (.inl ⟨k, htodo⟩)))
    · rw [Function.update_of_ne hc]
      refine h.outcome k' op' c' hremoved' fun hmem => hsent ?_
      exact (List.mem_erase_of_ne fun heq => hc (Prod.mk.inj heq).2).mpr hmem

theorem Sending.drop (h : Sending s) (c : Nat) :
    Sending { s with channel := Function.update s.channel c .dropped } where
  nodup := h.nodup
  owed := h.owed
  silent := by
    intro c' hc' outcome
    change Function.update s.channel c _ c' ≠ _
    obtain rfl | hne := eq_or_ne c' c
    · rw [Function.update_self]
      exact Channel.noConfusion
    · rw [Function.update_of_ne hne]
      exact h.silent c' hc' outcome
  outcome := by
    intro k op c' hremoved hsent
    change Function.update s.channel c _ c' = _ ∨ Function.update s.channel c _ c' = _
    obtain rfl | hne := eq_or_ne c' c
    · rw [Function.update_self]
      exact .inr rfl
    · rw [Function.update_of_ne hne]
      exact h.outcome k op c' hremoved hsent

/-! ## What has been returned -/

/-- A call that returns has made its sends. -/
structure Returning (s : State) : Prop where
  once : (s.returned.map Prod.fst).Nodup
  pending : ∀ k c, (k, c) ∈ s.todo → k ∉ s.returned.map Prod.fst
  called : ∀ k ∈ s.returned.map Prod.fst, k < s.log.length
  delivered : ∀ k, (k, Result.resolved true) ∈ s.returned →
    ∃ id payload c, s.Removed k (.resolve id payload) c ∧ s.channel c = .filled (.ok payload)

theorem returning_initial (nextId : UInt64) : Returning (initial nextId) where
  once := List.nodup_nil
  pending := fun _ _ hmem => absurd hmem List.not_mem_nil
  called := fun _ hmem => absurd hmem List.not_mem_nil
  delivered := fun _ hmem => absurd hmem List.not_mem_nil

/-- `finish` keeps it if the call has not returned before, and if true is right. -/
theorem Returning.finish {k : Nat} {result : Result} (h : Returning s)
    (hnew : k ∉ s.returned.map Prod.fst) (hk : k < s.log.length)
    (htrue : result = .resolved true → ∃ id payload c,
      s.Removed k (.resolve id payload) c ∧ s.channel c = .filled (.ok payload)) :
    Returning (s.finish k result) := by
  rw [State.finish]
  split
  case isTrue => exact ⟨h.once, h.pending, h.called, h.delivered⟩
  case isFalse hdone =>
    refine ⟨?_, fun k' c hmem hreturned => ?_, fun k' hreturned => ?_, fun k' hreturned => ?_⟩
    · rw [List.map_append]
      refine List.nodup_append.mpr ⟨h.once, List.nodup_singleton k, ?_⟩
      rintro _ hold _ hlast rfl
      obtain rfl := List.mem_singleton.mp hlast
      exact hnew hold
    · rw [List.map_append] at hreturned
      obtain hold | hlast := List.mem_append.mp hreturned
      · exact h.pending k' c hmem hold
      · obtain rfl := List.mem_singleton.mp hlast
        exact hdone (List.mem_map_of_mem hmem)
    · rw [List.map_append] at hreturned
      obtain hold | hlast := List.mem_append.mp hreturned
      · exact h.called k' hold
      · exact List.mem_singleton.mp hlast ▸ hk
    · obtain hold | hlast := List.mem_append.mp hreturned
      · exact h.delivered k' hold
      · obtain ⟨rfl, hresult⟩ := Prod.mk.inj (List.mem_singleton.mp hlast)
        exact htrue hresult.symm

theorem Op.result_eq_true {op : Op} {removed : List Nat} {sent : Bool}
    (h : op.result removed sent = .resolved true) :
    sent = true ∧ ∃ id payload, op = .resolve id payload := by
  cases op with
  | resolve id payload => exact ⟨Result.resolved.inj h, id, payload, rfl⟩
  | expire now => exact Result.noConfusion h
  | drainShutdown => exact Result.noConfusion h

theorem Returning.remove (h : Returning s) (op : Op) : Returning (s.remove op) := by
  have hnew : s.log.length ∉ s.returned.map Prod.fst :=
    fun hmem => Nat.lt_irrefl _ (h.called _ hmem)
  refine Returning.finish ⟨h.once, fun k c hmem => ?_, fun k hmem => ?_, fun k hmem => ?_⟩ hnew ?_
    fun hresult => Bool.noConfusion (Op.result_eq_true hresult).1
  · obtain hold | hlast := List.mem_append.mp hmem
    · exact h.pending k c hold
    · obtain ⟨_, -, heq⟩ := List.mem_map.mp hlast
      exact (Prod.mk.inj heq).1 ▸ hnew
  · exact List.length_append ▸ Nat.lt_add_right 1 (h.called k hmem)
  · obtain ⟨id, payload, c, hremoved, hfilled⟩ := h.delivered k hmem
    exact ⟨id, payload, c, removed_remove_iff.mpr (.inl hremoved), hfilled⟩
  · exact List.length_append ▸ Nat.lt_succ_self _

/-- A value stays where it is. -/
theorem Channel.send_filled {channel : Channel} {old : Outcome} (outcome : Outcome)
    (h : channel = .filled old) : channel.send outcome = .filled old := by
  rw [h, Channel.send]

theorem Returning.send {call : Op × List Nat} {k c : Nat} (h : Returning s) (hs : Sending s)
    (htodo : (k, c) ∈ s.todo) (hcall : s.log[k]? = some call) : Returning (s.send call k c) := by
  have hlt : k < s.log.length := (List.getElem?_eq_some_iff.mp hcall).1
  obtain ⟨op, removed, hlog, hmem⟩ := hs.owed k c htodo
  obtain rfl := Option.some.inj (hcall.symm.trans hlog)
  refine Returning.finish ⟨h.once, fun k' c' hmem' => h.pending k' c' (List.mem_of_mem_erase hmem'),
    h.called, fun k' hreturned => ?_⟩ (h.pending k c htodo) hlt fun hresult => ?_
  · obtain ⟨id, payload, c', hremoved, hfilled⟩ := h.delivered k' hreturned
    refine ⟨id, payload, c', hremoved, ?_⟩
    change Function.update s.channel c _ c' = _
    obtain rfl | hne := eq_or_ne c' c
    · rw [Function.update_self]
      exact Channel.send_filled _ hfilled
    · rw [Function.update_of_ne hne]
      exact hfilled
  · obtain ⟨hsent, id, payload, rfl⟩ := Op.result_eq_true hresult
    refine ⟨id, payload, c, ⟨removed, hlog, hmem⟩, ?_⟩
    change Function.update s.channel c _ c = _
    rw [Function.update_self, of_decide_eq_true hsent]
    rfl

theorem Returning.drop {c : Nat} (h : Returning s) (hc : s.channel c = .waiting) :
    Returning { s with channel := Function.update s.channel c .dropped } where
  once := h.once
  pending := h.pending
  called := h.called
  delivered := by
    intro k hreturned
    obtain ⟨id, payload, c', hremoved, hfilled⟩ := h.delivered k hreturned
    have hne : c' ≠ c := by
      rintro rfl
      exact Channel.noConfusion (hc.symm.trans hfilled)
    exact ⟨id, payload, c', hremoved, (Function.update_of_ne hne _ _).trans hfilled⟩

/-! ## Runs -/

structure Inv (s : State) : Prop where
  placed : Placed s
  sending : Sending s
  returning : Returning s

theorem inv_initial (nextId : UInt64) : Inv (initial nextId) where
  placed := placed_initial nextId
  sending := sending_initial nextId
  returning := returning_initial nextId

theorem keeps_inv : Run.Keeps (step horizon) Run.anyAction Inv := by
  rintro s a s' ⟨hp, hs, hr⟩ _ hstep
  cases steps_of_step hstep with
  | insert hid hfree => exact ⟨hp.enter hid hfree, hs.enter hfree, { hr with }⟩
  | remove => exact ⟨hp.remove _, hs.remove hp _, hr.remove _⟩
  | send htodo hcall => exact ⟨{ hp with }, hs.send hp htodo hcall, hr.send hs htodo hcall⟩
  | drop hc => exact ⟨{ hp with }, hs.drop _, hr.drop hc⟩
  | panics | tick => exact ⟨{ hp with }, { hs with }, { hr with }⟩

/-! ## At most one true for each insertion -/

theorem Inv.exists_insertion {id : UInt64} {r : Nat × Result} (h : Inv s)
    (hr : r ∈ s.resolved id) : ∃ c ∈ s.insertions id, ∃ op, s.Removed r.1 op c := by
  obtain ⟨k, result⟩ := r
  obtain ⟨hmem, hkind⟩ := List.mem_filter.mp hr
  obtain ⟨rfl, htarget⟩ := of_decide_eq_true hkind
  obtain ⟨id', payload, c, ⟨removed, hcall, hc⟩, -⟩ := h.returning.delivered k hmem
  rw [hcall] at htarget
  obtain rfl : id' = id := Option.some.inj htarget
  obtain ⟨entry, hentry, hselects⟩ := h.placed.meant _ (List.mem_of_getElem? hcall) c hc
  refine ⟨c, List.mem_filter.mpr ⟨?_, ?_⟩, _, removed, hcall, hc⟩
  · exact List.mem_range.mpr (List.getElem?_eq_some_iff.mp hentry).1
  · rw [hentry]
    exact decide_eq_true (congrArg some (of_decide_eq_true hselects))

theorem Inv.resolved_le (h : Inv s) (id : UInt64) :
    (s.resolved id).length ≤ (s.insertions id).length := by
  have hinsertion : ∀ r, ∃ c, r ∈ s.resolved id → c ∈ s.insertions id ∧ ∃ op, s.Removed r.1 op c :=
    fun r => by
      by_cases hr : r ∈ s.resolved id
      · obtain ⟨c, hc⟩ := h.exists_insertion hr
        exact ⟨c, fun _ => hc⟩
      · exact ⟨0, fun hr' => absurd hr' hr⟩
  choose f hf using hinsertion
  have hnodup : (s.resolved id).Nodup := (h.returning.once.of_map _).sublist List.filter_sublist
  have himage : ((s.resolved id).map f).Nodup := by
    refine hnodup.map_on fun r hr r' hr' heq => ?_
    obtain ⟨-, op, hremoved⟩ := hf r hr
    obtain ⟨-, op', hremoved'⟩ := hf r' hr'
    have hk := h.placed.call_unique hremoved (heq ▸ hremoved')
    have hresult := (of_decide_eq_true (List.mem_filter.mp hr).2).1
    have hresult' := (of_decide_eq_true (List.mem_filter.mp hr').2).1
    exact Prod.ext hk (hresult.trans hresult'.symm)
  have hsubset : (s.resolved id).map f ⊆ s.insertions id := by
    intro c hc
    obtain ⟨r, hr, rfl⟩ := List.mem_map.mp hc
    exact (hf r hr).1
  exact List.length_map f ▸ (himage.subperm hsubset).length_le

theorem Inv.correlated (h : Inv s) : Correlated s where
  distinct := h.placed.distinct
  nonzero := h.placed.nonzero
  once := fun _ hc => h.placed.once hc
  meant := fun _ _ c hremoved => by
    obtain ⟨removed, hcall, hc⟩ := hremoved
    exact h.placed.meant _ (List.mem_of_getElem? hcall) c hc
  silent := fun c hc => h.sending.silent c (hc.imp_right .inl)
  outcome := h.sending.outcome
  delivered := h.returning.delivered
  resolved := h.resolved_le

/-! ## The loop of an insertion ends -/

theorem iterate_succ (c : UInt64) (n : Nat) : (· + 1)^[n] c = c + UInt64.ofNat n := by
  induction n with
  | zero => exact (UInt64.add_zero c).symm
  | succ n ih =>
    rw [Function.iterate_succ_apply', ih, UInt64.add_assoc, UInt64.ofNat_add]
    rfl

/-- Unless all identifiers but zero are in the table, one is free. -/
theorem exists_free {ids : List UInt64} (h : ids.length < 2 ^ 64 - 1) :
    ∃ id : UInt64, id ≠ 0 ∧ id ∉ ids := by
  by_contra hnone
  push Not at hnone
  have hsubset : (List.range (2 ^ 64)).map UInt64.ofNat ⊆ 0 :: ids := by
    intro id _
    by_cases hid : id = 0
    · exact hid ▸ List.mem_cons_self
    · exact List.mem_cons_of_mem _ (hnone id hid)
  have hnodup : ((List.range (2 ^ 64)).map UInt64.ofNat).Nodup := by
    refine List.nodup_range.map_on fun n hn m hm heq => ?_
    rw [← UInt64.toNat_ofNat_of_lt' (List.mem_range.mp hn), heq,
      UInt64.toNat_ofNat_of_lt' (List.mem_range.mp hm)]
  have hlength := (hnodup.subperm hsubset).length_le
  rw [List.length_map, List.length_range, List.length_cons] at hlength
  omega

theorem drawId_ne_none (h : s.table.length < 2 ^ 64 - 1) : s.drawId ≠ none := by
  have hids : s.ids.length < 2 ^ 64 - 1 := by rwa [State.ids, List.length_map]
  obtain ⟨id, hid, hfree⟩ := exists_free hids
  refine Correlation.draw_ne_none (UInt64.toNat_lt (id - s.nextId - 1)) ?_
  have hreach : (· + 1)^[(id - s.nextId - 1).toNat + 1] s.nextId = id := by
    rw [iterate_succ, UInt64.ofNat_add, UInt64.ofNat_toNat]
    grind
  rw [hreach]
  exact decide_eq_true ⟨hid, hfree⟩

/-- While the lock is not poisoned and an identifier is left, an insertion returns. -/
theorem insert_isSome (hlock : s.poisoned = false) (h : s.table.length < 2 ^ 64 - 1)
    (timeout : Nat) : (step horizon s (.insert timeout)).isSome := by
  obtain ⟨id, hid⟩ := Option.ne_none_iff_exists'.mp (drawId_ne_none h)
  simp [step, hlock, hid]

theorem Inv.send_isSome {k c : Nat} (h : Inv s) (htodo : (k, c) ∈ s.todo) :
    (step horizon s (.send k c)).isSome := by
  obtain ⟨op, removed, hcall, -⟩ := h.sending.owed k c htodo
  simp [step, htodo, hcall]

/-- Every sequence and interleaving of the operations, from any value of the counter, leaves the
table correlated: identifiers in it are distinct and not zero, an entry is removed by one operation
and its receiver gets the outcome of that one, and `resolve` returns true at most once for each
insertion. An insertion finds an identifier unless all are taken, and sends can be made. -/
theorem correlated_of_reachable {nextId : UInt64}
    (h : Reachable (step horizon) Run.anyAction (initial nextId) s) :
    Correlated s ∧
      (s.poisoned = false → s.table.length < 2 ^ 64 - 1 →
        ∀ timeout, (step horizon s (.insert timeout)).isSome) ∧
      ∀ k c, (k, c) ∈ s.todo → (step horizon s (.send k c)).isSome := by
  have hinv : Inv s := h.invariant (inv_initial nextId) keeps_inv
  exact ⟨hinv.correlated, fun hlock hleft => insert_isSome hlock hleft,
    fun _ _ htodo => hinv.send_isSome htodo⟩

/-- The counter wraps around; one entry is resolved, one expires and one is drained. -/
def wrapping : List Action :=
  [.insert 5, .insert 0, .insert 9, .lock (.resolve 1 [7]), .lock (.expire 0), .send 1 1,
    .lock (.resolve 1 [8]), .send 0 0, .lock .drainShutdown, .send 3 2]

/-- What can be seen of the first three insertions, and what the calls returned. -/
def State.seen (s : State) : List UInt64 × List Channel × List (Nat × Result) :=
  (s.issued.map Prod.fst, [s.channel 0, s.channel 1, s.channel 2], s.returned)

theorem wrapping_correlated : ∃ s, Run.run (step 100) (initial (2 ^ 64 - 1)) wrapping = some s ∧
    Correlated s ∧ s.seen = ([1, 2, 3],
      [.filled (.ok [7]), .filled .timeout, .filled .shutdown],
      [(1, .count 1), (2, .resolved false), (0, .resolved true), (3, .count 1)]) := by
  have hseen : (Run.run (step 100) (initial (2 ^ 64 - 1)) wrapping).map State.seen =
      some ([1, 2, 3], [.filled (.ok [7]), .filled .timeout, .filled .shutdown],
        [(1, .count 1), (2, .resolved false), (0, .resolved true), (3, .count 1)]) := by
    decide +kernel
  obtain ⟨s, hrun, hs⟩ := Option.map_eq_some_iff.mp hseen
  exact ⟨s, hrun, (correlated_of_reachable (Run.reachable_of_run wrapping hrun)).1, hs⟩

end RivetGo.CorrelationTable

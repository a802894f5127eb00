import Mathlib
import RivetGo.Data.Correlation
import RivetGo.Data.Run

/-!
# The pump's waiters

KV calls, actor operations and SQLite calls wait for their completion in a table each:
`kvPending`, `intentPending` and `sqlitePending`. The three share nothing, so the model
is of one table, for each of the three kinds. They differ in what a caller does that
stops waiting: a KV call takes its entry out, the others leave a tombstone. A call whose
submission fails takes its entry out whatever the kind, although a context that ends
while the command is in the submission queue does not keep it from being sent.

IDs are drawn from a counter of 64 bits which skips zero and the IDs in the table. An ID
that is not in the table is drawn again when the counter has come around. `lost` remembers
the commands whose entries were taken out; it is not part of the source.
-/

namespace RivetGo.Waiters

open Correlation (Desk Sound)

inductive Kind where
  | kv
  | operation
  | sqlite
  deriving DecidableEq

/-- A command, or an event that answers it: the ID and the call it is from. -/
abbrev Frame := UInt64 × Nat

inductive Phase where
  | idle
  | registered (id : UInt64)
  /-- The command is in the submission queue, or was. -/
  | enqueued (id : UInt64)
  /-- `submitInternal` has returned an error. -/
  | failing (id : UInt64)
  | waiting (id : UInt64)
  | done
  deriving DecidableEq

/-- The ID that a call works with. -/
def Phase.id? : Phase → Option UInt64
  | .registered id => some id
  | .enqueued id => some id
  | .failing id => some id
  | .waiting id => some id
  | .idle => none
  | .done => none

structure State where
  desk : Desk UInt64 Nat := ⟨0, ∅, []⟩
  phase : Nat → Phase := fun _ => .idle
  queue : List Frame := []
  /-- How the submission of a command has ended. -/
  results : Nat → Option Bool := fun _ => none
  /-- Commands that native has accepted and not completed. -/
  native : List Frame := []
  /-- Events for the poller, and whether each is the last one for its command. -/
  events : List (Frame × Bool) := []
  /-- The poll loop has ended and the runner is closed. -/
  closed : Bool := false
  /-- Who has got an event, and whose it was. -/
  delivered : List (Nat × Nat) := []
  lost : List Frame := []

def initial : State := {}

namespace State

def setPhase (s : State) (k : Nat) (p : Phase) : State :=
  { s with phase := Function.update s.phase k p }

/-- A call puts its command into the queue. -/
def enqueue (s : State) (k : Nat) (id : UInt64) : State :=
  { s with queue := s.queue ++ [(id, k)] }.setPhase k (.enqueued id)

/-- `removeKVWaiter`, `removeActorIntentWaiter` and `removeSQLiteWaiter`. -/
def removeWaiter (s : State) (id : UInt64) : State :=
  { s with desk := s.desk.forget id, lost := s.desk.held.filter (·.1 = id) ++ s.lost }

/-- `abandonActorIntentWaiter` and `abandonSQLiteWaiter`. -/
def abandonWaiter (s : State) (id : UInt64) : State := { s with desk := s.desk.abandon id }

/-- What a call does with its entry when it returns before the last event. -/
def leave (kind : Kind) (s : State) (id : UInt64) : State :=
  match kind with
  | .kv => s.removeWaiter id
  | .operation => s.abandonWaiter id
  | .sqlite => s.abandonWaiter id

/-- What a call does with its entry when it has got its event. -/
def finish (kind : Kind) (s : State) (id : UInt64) : State :=
  match kind with
  | .sqlite => s.abandonWaiter id
  | _ => s

/-- The poller sends an event to whoever is in the table, and takes the entry out with the
last event. -/
def deliver (s : State) (f : Frame) (last : Bool) : State :=
  { s with
    delivered := match s.desk.waiting f.1 with
      | some who => (who, f.2) :: s.delivered
      | none => s.delivered
    desk := if last then s.desk.forget f.1 else s.desk }

end State

inductive Action where
  | register (k : Nat)
  /-- The submission fails before the command is in the queue. -/
  | refuse (k : Nat)
  | enqueue (k : Nat)
  /-- The submission loop passes the next command to native. -/
  | accept
  /-- Native does not take the next command, or it cannot be encoded. -/
  | reject
  /-- A call reads how its submission has ended. -/
  | confirm (k : Nat)
  /-- The context of a call ends while its submission is under way. -/
  | cut (k : Nat)
  /-- A call whose submission has failed takes its entry out and returns. -/
  | remove (k : Nat)
  /-- Native sends an event; only SQLite has events that are not the last one. -/
  | answer (i : Nat) (last : Bool)
  | deliver
  /-- A call stops waiting. -/
  | giveUp (k : Nat)
  /-- A call returns with what it has got. -/
  | finish (k : Nat)
  | close
  deriving DecidableEq

/-- `cancellable` are the calls whose submission ends with their context. -/
def step (kind : Kind) (cancellable : Nat → Bool) (s : State) : Action → Option State
  | .register k =>
    if s.phase k = .idle then
      (s.desk.register (· + 1) 0 (2 ^ 64) k).map fun p =>
        { s with desk := p.2 }.setPhase k (.registered p.1)
    else none
  | .refuse k => match s.phase k with
    | .registered id => some (s.setPhase k (.failing id))
    | _ => none
  | .enqueue k => match s.phase k with
    | .registered id => if s.closed then none else some (s.enqueue k id)
    | _ => none
  | .accept => match s.queue with
    | f :: rest =>
      some { s with
        queue := rest, native := s.native ++ [f]
        results := Function.update s.results f.2 (some true) }
    | [] => none
  | .reject => match s.queue with
    | f :: rest =>
      some { s with queue := rest, results := Function.update s.results f.2 (some false) }
    | [] => none
  | .confirm k => match s.phase k, s.results k with
    | .enqueued id, some true => some (s.setPhase k (.waiting id))
    | .enqueued id, some false => some (s.setPhase k (.failing id))
    | _, _ => none
  | .cut k => match s.phase k with
    | .enqueued id =>
      if cancellable k ∨ s.closed then some (s.setPhase k (.failing id)) else none
    | _ => none
  | .remove k => match s.phase k with
    | .failing id => some ((s.removeWaiter id).setPhase k .done)
    | _ => none
  | .answer i last =>
    if last ∨ kind = .sqlite then
      s.native[i]?.map fun f =>
        { s with
          native := if last then s.native.eraseIdx i else s.native
          events := s.events ++ [(f, last)] }
    else none
  | .deliver => match s.events with
    | (f, last) :: rest => some ({ s with events := rest }.deliver f last)
    | [] => none
  | .giveUp k => match s.phase k with
    | .waiting id => some ((s.leave kind id).setPhase k .done)
    | _ => none
  | .finish k => match s.phase k with
    | .waiting id =>
      if k ∈ s.delivered.map Prod.fst then some ((s.finish kind id).setPhase k .done) else none
    | _ => none
  | .close =>
    some { s with desk := s.desk.reset, queue := [], native := [], events := [], closed := true }

/-! ## The property -/

/-- The commands that are to be completed: each stands in the queue, with native, or as its
last event. -/
def State.live (s : State) : List Frame :=
  s.queue ++ s.native ++ (s.events.filter Prod.snd).map Prod.fst

/-- A command may still be completed: it is about to be sent, or live. -/
def State.Uses (s : State) (f : Frame) : Prop :=
  s.closed = false ∧ (s.phase f.2 = .registered f.1 ∨ f ∈ s.live)

structure Correlated (s : State) : Prop where
  /-- Who gets an event has sent the command. -/
  own : ∀ p ∈ s.delivered, p.1 = p.2
  nonzero : ∀ k id, (s.phase k).id? = some id → id ≠ 0
  /-- No ID is given out while a command that carries it may be completed. -/
  unique : ∀ id j k, s.Uses (id, j) → s.Uses (id, k) → j = k

/-- An ID is not drawn while a command whose entry was taken out may be completed under
it. -/
def Fresh (s : State) : Action → Prop
  | .register k => ∀ p, s.desk.register (· + 1) 0 (2 ^ 64) k = some p →
      ∀ j, (p.1, j) ∈ s.lost → ¬ s.Uses (p.1, j)
  | _ => True

/-- As long as no such ID was drawn: what may be completed is held by the table or lost, and
the table has nothing under the ID of a lost command. -/
structure Good (s : State) : Prop where
  sound : Sound s.desk
  kept : ∀ f, s.Uses f → f ∈ s.desk.held ∨ f ∈ s.lost
  apart : ∀ id j k, (id, k) ∈ s.desk.held → (id, j) ∈ s.lost → s.Uses (id, j) → j = k
  once : (s.live.map Prod.snd).Nodup
  started : ∀ f ∈ s.live, s.phase f.2 ≠ .idle ∧ ∀ id, s.phase f.2 ≠ .registered id
  /-- An event that is not the last one has its last one to come. -/
  order : ∀ before f after, s.events = before ++ (f, false) :: after →
    f ∈ s.native ∨ (f, true) ∈ after

variable {kind : Kind} {cancellable : Nat → Bool} {s s' : State} {a : Action} {k : Nat}
variable {id : UInt64} {p : Phase} {f : Frame}

/-! ## What a step can do -/

inductive Move (s : State) : Action → State → Prop
  | register (k : Nat) (id : UInt64) (desk : Desk UInt64 Nat) (hidle : s.phase k = .idle)
      (h : s.desk.register (· + 1) 0 (2 ^ 64) k = some (id, desk)) :
      Move s (.register k) ({ s with desk := desk }.setPhase k (.registered id))
  | refuse (k : Nat) (id : UInt64) (h : (s.phase k).id? = some id) :
      Move s (.refuse k) (s.setPhase k (.failing id))
  | enqueue (k : Nat) (id : UInt64) (h : s.phase k = .registered id) (hopen : s.closed = false) :
      Move s (.enqueue k) (s.enqueue k id)
  | accept (f : Frame) (rest : List Frame) (h : s.queue = f :: rest) (results : Nat → Option Bool) :
      Move s .accept { s with queue := rest, native := s.native ++ [f], results := results }
  | reject (f : Frame) (rest : List Frame) (h : s.queue = f :: rest) (results : Nat → Option Bool) :
      Move s .reject { s with queue := rest, results := results }
  | confirm (k : Nat) (id : UInt64) (h : (s.phase k).id? = some id) (p : Phase)
      (hp : p = .waiting id ∨ p = .failing id) : Move s (.confirm k) (s.setPhase k p)
  | cut (k : Nat) (id : UInt64) (h : (s.phase k).id? = some id) :
      Move s (.cut k) (s.setPhase k (.failing id))
  | remove (k : Nat) (id : UInt64) : Move s (.remove k) ((s.removeWaiter id).setPhase k .done)
  | answer (i : Nat) (f : Frame) (last : Bool) (h : s.native[i]? = some f) :
      Move s (.answer i last) { s with
        native := if last then s.native.eraseIdx i else s.native
        events := s.events ++ [(f, last)] }
  | deliver (f : Frame) (last : Bool) (rest : List (Frame × Bool))
      (h : s.events = (f, last) :: rest) :
      Move s .deliver ({ s with events := rest }.deliver f last)
  | giveUp (kind : Kind) (k : Nat) (id : UInt64) :
      Move s (.giveUp k) ((s.leave kind id).setPhase k .done)
  | finish (kind : Kind) (k : Nat) (id : UInt64) :
      Move s (.finish k) ((s.finish kind id).setPhase k .done)
  | close : Move s .close
      { s with desk := s.desk.reset, queue := [], native := [], events := [], closed := true }

theorem move_of_step (hs : step kind cancellable s a = some s') : Move s a s' := by
  cases a with
  | register k =>
    obtain ⟨hidle, hs⟩ := Option.ite_none_right_eq_some.mp hs
    obtain ⟨⟨id, desk⟩, hregister, rfl⟩ := Option.map_eq_some_iff.mp hs
    exact .register k id desk hidle hregister
  | refuse k =>
    cases hp : s.phase k <;> simp only [step, hp, reduceCtorEq] at hs
    obtain rfl := Option.some.inj hs
    exact .refuse k _ (by rw [hp]; rfl)
  | enqueue k =>
    cases hp : s.phase k <;> simp only [step, hp, reduceCtorEq] at hs
    obtain ⟨hopen, hs⟩ := Option.ite_none_left_eq_some.mp hs
    obtain rfl := Option.some.inj hs
    exact .enqueue k _ hp (Bool.eq_false_iff.mpr hopen)
  | accept =>
    cases hq : s.queue <;> simp only [step, hq, reduceCtorEq] at hs
    obtain rfl := Option.some.inj hs
    exact .accept _ _ hq _
  | reject =>
    cases hq : s.queue <;> simp only [step, hq, reduceCtorEq] at hs
    obtain rfl := Option.some.inj hs
    exact .reject _ _ hq _
  | confirm k =>
    rw [step] at hs
    split at hs
    case h_1 id hp _ =>
      obtain rfl := Option.some.inj hs
      exact .confirm k id (by rw [hp]; rfl) _ (.inl rfl)
    case h_2 id hp _ =>
      obtain rfl := Option.some.inj hs
      exact .confirm k id (by rw [hp]; rfl) _ (.inr rfl)
    case h_3 => exact absurd hs (Option.some_ne_none _).symm
  | cut k =>
    cases hp : s.phase k <;> simp only [step, hp, reduceCtorEq] at hs
    obtain ⟨-, rfl⟩ := Run.guard_eq_some.mp hs
    exact .cut k _ (by rw [hp]; rfl)
  | remove k =>
    cases hp : s.phase k <;> simp only [step, hp, reduceCtorEq] at hs
    obtain rfl := Option.some.inj hs
    exact .remove k _
  | answer i last =>
    obtain ⟨-, hs⟩ := Option.ite_none_right_eq_some.mp hs
    obtain ⟨f, hf, rfl⟩ := Option.map_eq_some_iff.mp hs
    exact .answer i f last hf
  | deliver =>
    cases hevents : s.events <;> simp only [step, hevents, reduceCtorEq] at hs
    obtain rfl := Option.some.inj hs
    exact .deliver _ _ _ hevents
  | giveUp k =>
    cases hp : s.phase k <;> simp only [step, hp, reduceCtorEq] at hs
    obtain rfl := Option.some.inj hs
    exact .giveUp kind k _
  | finish k =>
    cases hp : s.phase k <;> simp only [step, hp, reduceCtorEq] at hs
    obtain ⟨-, rfl⟩ := Run.guard_eq_some.mp hs
    exact .finish kind k _
  | close =>
    obtain rfl := Option.some.inj hs
    exact .close

/-! ## The commands that may be completed -/

theorem setPhase_phase_self (s : State) (k : Nat) (p : Phase) : (s.setPhase k p).phase k = p :=
  Function.update_self ..

theorem setPhase_phase_of_ne (s : State) {j k : Nat} (p : Phase) (h : j ≠ k) :
    (s.setPhase k p).phase j = s.phase j :=
  Function.update_of_ne h ..

theorem uses_setPhase (hp : ∀ id, p ≠ .registered id) (h : (s.setPhase k p).Uses f) : s.Uses f := by
  obtain ⟨hopen, hregistered | hlive⟩ := h
  · refine ⟨hopen, .inl ?_⟩
    by_cases hk : f.2 = k
    · rw [hk, setPhase_phase_self] at hregistered
      exact absurd hregistered (hp f.1)
    · rwa [setPhase_phase_of_ne s p hk] at hregistered
  · exact ⟨hopen, .inr hlive⟩

theorem uses_mono (hclosed : s'.closed = s.closed) (hphase : s'.phase = s.phase)
    (hlive : s'.live ⊆ s.live) (h : s'.Uses f) : s.Uses f := by
  obtain ⟨hopen, hregistered | hmem⟩ := h
  · exact ⟨hclosed ▸ hopen, .inl (hphase ▸ hregistered)⟩
  · exact ⟨hclosed ▸ hopen, .inr (hlive hmem)⟩

theorem Correlated.frame (h : Correlated s) (hdelivered : s'.delivered = s.delivered)
    (hphase : ∀ k id, (s'.phase k).id? = some id → (s.phase k).id? = some id)
    (huses : ∀ f, s'.Uses f → s.Uses f) : Correlated s' where
  own := hdelivered ▸ h.own
  nonzero k id hid := h.nonzero k id (hphase k id hid)
  unique id j k hj hk := h.unique id j k (huses _ hj) (huses _ hk)

/-- A call goes on with its ID or without. -/
theorem Correlated.setPhase (h : Correlated s) (hp : ∀ id, p ≠ .registered id)
    (hid : ∀ id, p.id? = some id → (s.phase k).id? = some id) : Correlated (s.setPhase k p) := by
  refine h.frame rfl (fun j id hj => ?_) fun f hf => uses_setPhase hp hf
  by_cases hjk : j = k
  · subst hjk
    rw [setPhase_phase_self] at hj
    exact hid id hj
  · rwa [setPhase_phase_of_ne s p hjk] at hj

theorem Good.setPhase (h : Good s) (hidle : p ≠ .idle) (hp : ∀ id, p ≠ .registered id) :
    Good (s.setPhase k p) where
  sound := h.sound
  kept f hf := h.kept f (uses_setPhase hp hf)
  apart id j i hheld hlost huses := h.apart id j i hheld hlost (uses_setPhase hp huses)
  once := h.once
  started f hf := by
    by_cases hk : f.2 = k
    · rw [hk, setPhase_phase_self]
      exact ⟨hidle, hp⟩
    · rw [setPhase_phase_of_ne s p hk]
      exact h.started f hf
  order := h.order

theorem Good.removeWaiter (h : Good s) (id : UInt64) : Good (s.removeWaiter id) where
  sound := h.sound.forget id
  kept f hf := by
    rcases h.kept f hf with hheld | hlost
    · by_cases hid : f.1 = id
      · exact .inr (List.mem_append_left _ (List.mem_filter.mpr ⟨hheld, decide_eq_true hid⟩))
      · exact .inl (List.mem_filter.mpr ⟨hheld, decide_eq_true hid⟩)
    · exact .inr (List.mem_append_right _ hlost)
  apart id' j i hheld hlost huses := by
    obtain ⟨hheld, hne⟩ := List.mem_filter.mp hheld
    rcases List.mem_append.mp hlost with hfilter | hlost
    · exact absurd (of_decide_eq_true (List.mem_filter.mp hfilter).2) (of_decide_eq_true hne)
    · exact h.apart id' j i hheld hlost huses
  once := h.once
  started := h.started
  order := h.order

theorem Good.abandonWaiter (h : Good s) (id : UInt64) : Good (s.abandonWaiter id) where
  sound := h.sound.abandon id
  kept f hf := by
    rw [State.abandonWaiter, Correlation.Desk.held_abandon]
    exact h.kept f hf
  apart id' j i hheld hlost huses := by
    rw [State.abandonWaiter, Correlation.Desk.held_abandon] at hheld
    exact h.apart id' j i hheld hlost huses
  once := h.once
  started := h.started
  order := h.order

/-- Commands move on from place to place, or are dropped. -/
theorem Good.frame (h : Good s) (hdesk : s'.desk = s.desk) (hlost : s'.lost = s.lost)
    (hphase : s'.phase = s.phase) (hclosed : s'.closed = s.closed)
    (hlive : s'.live.Subperm s.live)
    (horder : ∀ before f after, s'.events = before ++ (f, false) :: after →
      f ∈ s'.native ∨ (f, true) ∈ after) : Good s' where
  sound := hdesk ▸ h.sound
  kept f hf := by
    rw [hdesk, hlost]
    exact h.kept f (uses_mono hclosed hphase hlive.subset hf)
  apart id j k hheld hl huses := by
    rw [hdesk] at hheld
    rw [hlost] at hl
    exact h.apart id j k hheld hl (uses_mono hclosed hphase hlive.subset huses)
  once := by
    obtain ⟨l, hperm, hsublist⟩ := hlive
    exact (hperm.map Prod.snd).nodup_iff.mp (h.once.sublist (hsublist.map Prod.snd))
  started f hf := hphase ▸ h.started f (hlive.subset hf)
  order := horder

/-! ## One step -/

theorem live_enqueue (s : State) (k : Nat) (id : UInt64) :
    (s.enqueue k id).live.Perm ((id, k) :: s.live) := by
  simp only [State.live, State.enqueue, State.setPhase, List.append_assoc, List.cons_append,
    List.nil_append]
  exact List.perm_middle

theorem uses_enqueue (hk : s.phase k = .registered id) (h : (s.enqueue k id).Uses f) :
    s.Uses f := by
  obtain ⟨hopen, hregistered | hlive⟩ := h
  · refine ⟨hopen, .inl ?_⟩
    by_cases hf : f.2 = k
    · rw [hf, State.enqueue, setPhase_phase_self] at hregistered
      exact Phase.noConfusion hregistered
    · rwa [State.enqueue, setPhase_phase_of_ne _ _ hf] at hregistered
  · rcases List.mem_cons.mp ((live_enqueue s k id).subset hlive) with rfl | hlive
    · exact ⟨hopen, .inl hk⟩
    · exact ⟨hopen, .inr hlive⟩

theorem Good.enqueue (h : Good s) (hk : s.phase k = .registered id) : Good (s.enqueue k id) where
  sound := h.sound
  kept f hf := h.kept f (uses_enqueue hk hf)
  apart id' j i hheld hlost huses := h.apart id' j i hheld hlost (uses_enqueue hk huses)
  once := by
    refine ((live_enqueue s k id).map Prod.snd).nodup_iff.mpr ?_
    rw [List.map_cons, List.nodup_cons]
    refine ⟨fun hmem => ?_, h.once⟩
    obtain ⟨f, hf, rfl⟩ := List.mem_map.mp hmem
    exact (h.started f hf).2 id hk
  started f hf := by
    by_cases hfk : f.2 = k
    · rw [hfk, State.enqueue, setPhase_phase_self]
      exact ⟨Phase.noConfusion, fun _ => Phase.noConfusion⟩
    · rw [State.enqueue, setPhase_phase_of_ne _ _ hfk]
      rcases List.mem_cons.mp ((live_enqueue s k id).subset hf) with rfl | hf
      · exact absurd rfl hfk
      · exact h.started f hf
  order := h.order

theorem live_accept {rest : List Frame} (h : s.queue = f :: rest) (results : Nat → Option Bool) :
    (State.live { s with queue := rest, native := s.native ++ [f], results := results }).Perm
      s.live := by
  refine List.perm_iff_count.mpr fun x => ?_
  simp only [State.live, h, List.count_append, List.count_cons, List.count_nil]
  omega

theorem live_answer {i : Nat} (h : s.native[i]? = some f) (last : Bool) :
    (State.live { s with
      native := if last then s.native.eraseIdx i else s.native
      events := s.events ++ [(f, last)] }).Perm s.live := by
  cases last with
  | false => simp [State.live]
  | true =>
    obtain ⟨hi, rfl⟩ := List.getElem?_eq_some_iff.mp h
    have hperm := List.getElem_cons_eraseIdx_perm hi
    refine List.perm_iff_count.mpr fun x => ?_
    have hcount := hperm.count_eq x
    simp only [State.live, List.count_append, List.count_cons, List.filter_append,
      List.map_append, if_true, List.filter_cons, List.filter_nil, List.map_cons, List.map_nil,
      List.count_nil] at hcount ⊢
    omega

theorem Good.accept (h : Good s) {rest : List Frame} (hqueue : s.queue = f :: rest)
    (results : Nat → Option Bool) :
    Good { s with queue := rest, native := s.native ++ [f], results := results } := by
  refine h.frame rfl rfl rfl rfl (live_accept hqueue results).subperm
    fun before g after hevents => ?_
  exact (h.order before g after hevents).imp_left (List.mem_append_left _)

theorem live_reject {rest : List Frame} (h : s.queue = f :: rest) (results : Nat → Option Bool) :
    (State.live { s with queue := rest, results := results }).Sublist s.live := by
  simp only [State.live, h]
  exact ((List.sublist_cons_self f rest).append_right _).append_right _

theorem Good.reject (h : Good s) {rest : List Frame} (hqueue : s.queue = f :: rest)
    (results : Nat → Option Bool) : Good { s with queue := rest, results := results } :=
  h.frame rfl rfl rfl rfl (live_reject hqueue results).subperm h.order

/-- The last event of a command comes after all its others. -/
theorem Good.answer (h : Good s) {i : Nat} (hf : s.native[i]? = some f) (last : Bool) :
    Good { s with
      native := if last then s.native.eraseIdx i else s.native
      events := s.events ++ [(f, last)] } := by
  refine h.frame rfl rfl rfl rfl (live_answer hf last).subperm fun before g after hevents => ?_
  rcases List.append_eq_append_iff.mp hevents with ⟨l, rfl, hl⟩ | ⟨l, hl, hafter⟩
  · -- The event is the new one.
    obtain ⟨rfl, heq, rfl⟩ : l = [] ∧ (f, last) = (g, false) ∧ after = [] := by
      cases l with
      | nil => simpa using hl
      | cons x l => simp at hl
    obtain ⟨rfl, rfl⟩ := Prod.mk.inj heq
    exact .inl (List.mem_of_getElem? hf)
  · cases l with
    | nil =>
      obtain ⟨heq, rfl⟩ : (g, false) = (f, last) ∧ after = [] := by simpa using hafter
      obtain ⟨rfl, rfl⟩ := Prod.mk.inj heq
      exact .inl (List.mem_of_getElem? hf)
    | cons x l =>
      obtain ⟨rfl, rfl⟩ : (g, false) = x ∧ after = l ++ [(f, last)] := by simpa using hafter
      rcases h.order before g l hl with hnative | hlast
      · cases last with
        | false => exact .inl hnative
        | true =>
          by_cases hg : g = f
          · exact .inr (by simp [hg])
          · refine .inl ?_
            obtain ⟨hi, rfl⟩ := List.getElem?_eq_some_iff.mp hf
            exact ((List.getElem_cons_eraseIdx_perm hi).mem_iff.mpr hnative |>
              List.mem_cons.mp).resolve_left hg
      · exact .inr (List.mem_append_left _ hlast)

/-- Whatever is in the table under the ID of a command that may be completed is the
command's own. -/
theorem Good.eq_of_held (h : Good s) (hf : s.Uses f) (hk : (f.1, k) ∈ s.desk.held) : f.2 = k := by
  rcases h.kept f hf with hheld | hlost
  · exact h.sound.held_inj hheld hk
  · exact h.apart f.1 f.2 k hk hlost hf

section Deliver

variable {last : Bool} {rest : List (Frame × Bool)}

theorem live_of_events (hevents : s.events = (f, last) :: rest) :
    s.live.Perm ((if last then [f] else []) ++ State.live { s with events := rest }) := by
  cases last with
  | false => simp [State.live, hevents]
  | true =>
    simp only [State.live, hevents, List.filter_cons_of_pos, List.map_cons, if_true,
      List.cons_append, List.nil_append]
    exact List.perm_middle

theorem live_rest_subset (hevents : s.events = (f, last) :: rest) :
    State.live { s with events := rest } ⊆ s.live :=
  fun _ hg => (live_of_events hevents).symm.subset (List.mem_append_right _ hg)

/-- The command of an event is to be completed, until its last event is handled. -/
theorem Good.live_of_event (h : Good s) (hevents : s.events = (f, last) :: rest) : f ∈ s.live := by
  cases last with
  | true => exact (live_of_events hevents).symm.subset (List.mem_append_left _ List.mem_cons_self)
  | false =>
    rcases h.order [] f rest hevents with hnative | hlast
    · exact List.mem_append_left _ (List.mem_append_right _ hnative)
    · refine live_rest_subset hevents (List.mem_append_right _ ?_)
      exact List.mem_map.mpr ⟨(f, true), List.mem_filter.mpr ⟨hlast, rfl⟩, rfl⟩

theorem Good.not_uses_rest (h : Good s) (hevents : s.events = (f, true) :: rest) :
    ¬ State.Uses { s with events := rest } f := by
  rintro ⟨-, hregistered | hlive⟩
  · exact (h.started f (h.live_of_event hevents)).2 f.1 hregistered
  · have honce := ((live_of_events hevents).map Prod.snd).nodup_iff.mp h.once
    simp only [if_true, List.cons_append, List.nil_append, List.map_cons, List.nodup_cons] at honce
    exact honce.1 (List.mem_map_of_mem hlive)

theorem Good.afterEvent (h : Good s) (hevents : s.events = (f, last) :: rest) :
    Good { s with events := rest } := by
  refine h.frame rfl rfl rfl rfl ?_ fun before g after hrest => ?_
  · exact (List.sublist_append_right _ _).subperm.trans (live_of_events hevents).symm.subperm
  · refine h.order ((f, last) :: before) g after ?_
    rw [hevents, List.cons_append]
    exact congrArg _ hrest

theorem Good.deliver (h : Good s) (hopen : s.closed = false)
    (hevents : s.events = (f, last) :: rest) :
    Good ({ s with events := rest }.deliver f last) := by
  have hrest := h.afterEvent hevents
  cases last with
  | false => exact ⟨hrest.sound, hrest.kept, hrest.apart, hrest.once, hrest.started, hrest.order⟩
  | true =>
    refine ⟨hrest.sound.forget f.1, fun g hg => ?_, fun id j k hheld hlost huses => ?_,
      hrest.once, hrest.started, hrest.order⟩
    · rcases hrest.kept g hg with hheld | hlost
      · refine .inl (List.mem_filter.mpr ⟨hheld, decide_eq_true fun hid => ?_⟩)
        -- Under the ID of the event there is only its own command, which is completed now.
        have hf : s.Uses f := ⟨hopen, .inr (h.live_of_event hevents)⟩
        have howner : f.2 = g.2 := h.eq_of_held hf (by rw [← hid]; exact hheld)
        obtain rfl : g = f := Prod.ext hid howner.symm
        exact h.not_uses_rest hevents hg
      · exact .inr hlost
    · exact hrest.apart id j k (List.mem_filter.mp hheld).1 hlost huses

theorem Correlated.deliver (h : Correlated s) (hgood : Good s) (hopen : s.closed = false)
    (hevents : s.events = (f, last) :: rest) :
    Correlated ({ s with events := rest }.deliver f last) where
  own p hp := by
    have hf : s.Uses f := ⟨hopen, .inr (hgood.live_of_event hevents)⟩
    cases hwaiting : s.desk.waiting f.1 with
    | none =>
      simp only [State.deliver, hwaiting] at hp
      exact h.own p hp
    | some who =>
      simp only [State.deliver, hwaiting] at hp
      rcases List.mem_cons.mp hp with rfl | hp
      · exact (hgood.eq_of_held hf (hgood.sound.owner f.1 who hwaiting)).symm
      · exact h.own p hp
  nonzero := h.nonzero
  unique id j k hj hk := by
    have huses : ∀ g, ({ s with events := rest }.deliver f last).Uses g → s.Uses g := by
      intro g hg
      refine uses_mono ?_ ?_ ?_ hg
      · rfl
      · rfl
      · exact live_rest_subset hevents
    exact h.unique id j k (huses _ hj) (huses _ hk)

end Deliver

section Register

variable {desk : Desk UInt64 Nat}

/-- A call has drawn an ID. -/
theorem uses_register (h : ({ s with desk := desk }.setPhase k (.registered id)).Uses f)
    (hk : f.2 ≠ k) : s.Uses f := by
  obtain ⟨hopen, hregistered | hlive⟩ := h
  · rw [setPhase_phase_of_ne _ _ hk] at hregistered
    exact ⟨hopen, .inl hregistered⟩
  · exact ⟨hopen, .inr hlive⟩

theorem Good.idle_not_live (h : Good s) (hidle : s.phase k = .idle) : (id, k) ∉ s.live :=
  fun hlive => (h.started _ hlive).1 hidle

theorem Good.eq_of_uses_register (h : Good s) (hidle : s.phase k = .idle) (hk : f.2 = k)
    (hf : ({ s with desk := desk }.setPhase k (.registered id)).Uses f) : f = (id, k) := by
  obtain ⟨i, j⟩ := f
  obtain rfl : j = k := hk
  obtain ⟨-, hregistered | hlive⟩ := hf
  · rw [setPhase_phase_self] at hregistered
    rw [Phase.registered.inj hregistered]
  · exact absurd hlive (h.idle_not_live hidle)

theorem Good.register (h : Good s) (hidle : s.phase k = .idle)
    (hregister : s.desk.register (· + 1) 0 (2 ^ 64) k = some (id, desk))
    (hfresh : ∀ j, (id, j) ∈ s.lost → ¬ s.Uses (id, j)) :
    Good ({ s with desk := desk }.setPhase k (.registered id)) := by
  obtain ⟨-, hunused, rfl⟩ := Correlation.Desk.register_eq_some hregister
  refine ⟨h.sound.register hregister, fun g hg => ?_, fun i j l hheld hlost huses => ?_, h.once,
    fun g hg => ?_, h.order⟩
  · by_cases hgk : g.2 = k
    · rw [h.eq_of_uses_register hidle hgk hg]
      exact .inl List.mem_cons_self
    · exact (h.kept g (uses_register hg hgk)).imp_left (List.mem_cons_of_mem _)
  · rcases List.mem_cons.mp hheld with heq | hold
    · obtain ⟨rfl, rfl⟩ := Prod.mk.inj heq
      by_contra hjk
      exact hfresh j hlost (uses_register huses hjk)
    · by_cases hjk : j = k
      · obtain ⟨rfl, -⟩ := Prod.mk.inj (h.eq_of_uses_register hidle hjk huses)
        exact absurd (h.sound.keys (i, l) hold) hunused
      · exact h.apart i j l hold hlost (uses_register huses hjk)
  · have hgk : g.2 ≠ k := fun hgk => (h.started g hg).1 (hgk ▸ hidle)
    rw [setPhase_phase_of_ne _ _ hgk]
    exact h.started g hg

/-- Nobody else uses an ID that is drawn, if no lost command does. -/
theorem Good.not_uses (h : Good s) (hunused : id ∉ s.desk.entries)
    (hfresh : ∀ j, (id, j) ∈ s.lost → ¬ s.Uses (id, j)) (j : Nat) : ¬ s.Uses (id, j) := by
  intro huses
  rcases h.kept _ huses with hheld | hlost
  · exact hunused (h.sound.keys _ hheld)
  · exact hfresh j hlost huses

theorem Correlated.register (h : Correlated s) (hgood : s.closed = false → Good s)
    (hidle : s.phase k = .idle)
    (hregister : s.desk.register (· + 1) 0 (2 ^ 64) k = some (id, desk))
    (hfresh : ∀ j, (id, j) ∈ s.lost → ¬ s.Uses (id, j)) :
    Correlated ({ s with desk := desk }.setPhase k (.registered id)) := by
  obtain ⟨hne, hunused, -⟩ := Correlation.Desk.register_eq_some hregister
  -- The call itself is the only one under its ID.
  have hother : ∀ i j, ({ s with desk := desk }.setPhase k (.registered id)).Uses (i, k) →
      ({ s with desk := desk }.setPhase k (.registered id)).Uses (i, j) → j = k := by
    intro i j hk hj
    have hg := hgood hk.1
    by_contra hjk
    obtain ⟨rfl, -⟩ := Prod.mk.inj (hg.eq_of_uses_register hidle rfl hk)
    exact hg.not_uses hunused hfresh j (uses_register hj hjk)
  refine ⟨h.own, fun j i hi => ?_, fun i j l hj hl => ?_⟩
  · by_cases hjk : j = k
    · rw [hjk, setPhase_phase_self] at hi
      obtain rfl := Option.some.inj hi
      exact hne
    · rw [setPhase_phase_of_ne _ _ hjk] at hi
      exact h.nonzero j i hi
  · by_cases hjk : j = k
    · subst hjk
      exact (hother i l hj hl).symm
    · by_cases hlk : l = k
      · subst hlk
        exact hother i j hl hj
      · exact h.unique i j l (uses_register hj hjk) (uses_register hl hlk)

theorem Correlated.register_iff (h : Correlated s) (hgood : s.closed = false → Good s)
    (hidle : s.phase k = .idle)
    (hregister : s.desk.register (· + 1) 0 (2 ^ 64) k = some (id, desk)) :
    Correlated ({ s with desk := desk }.setPhase k (.registered id)) ↔ Fresh s (.register k) := by
  constructor
  · intro h' p hp j hlost huses
    obtain rfl := Option.some.inj (hregister.symm.trans hp)
    have hjk : j ≠ k := by
      rintro rfl
      obtain ⟨hopen, hregistered | hlive⟩ := huses
      · exact Phase.noConfusion (hidle.symm.trans hregistered)
      · exact (hgood hopen).idle_not_live hidle hlive
    refine hjk (h'.unique id j k ⟨huses.1, ?_⟩ ⟨huses.1, .inl (setPhase_phase_self _ _ _)⟩)
    exact huses.2.imp_left fun hj => (setPhase_phase_of_ne _ _ hjk).trans hj
  · exact fun hfresh => h.register hgood hidle hregister (hfresh _ hregister)

end Register

/-! ## Whole runs -/

/-- What holds as long as no ID was drawn again too early. -/
structure Fine (s : State) : Prop where
  correlated : Correlated s
  good : s.closed = false → Good s
  shut : s.closed = true → s.queue = [] ∧ s.native = [] ∧ s.events = []

theorem fine_initial : Fine initial where
  correlated := ⟨fun _ h => absurd h List.not_mem_nil,
    fun _ _ h => by simp [initial, Phase.id?] at h,
    fun _ _ _ h => by simp [State.Uses, State.live, initial] at h⟩
  good _ := {
    sound := Sound.empty 0
    kept := fun f h => by simp [State.Uses, State.live, initial] at h
    apart := fun _ _ _ h => absurd h List.not_mem_nil
    once := List.nodup_nil
    started := fun _ h => absurd h List.not_mem_nil
    order := fun before f after h => by simp [initial] at h }
  shut h := absurd h Bool.false_ne_true

theorem Fine.setPhase (h : Fine s) (hidle : p ≠ .idle) (hp : ∀ id, p ≠ .registered id)
    (hid : ∀ id, p.id? = some id → (s.phase k).id? = some id) : Fine (s.setPhase k p) :=
  ⟨h.correlated.setPhase hp hid, fun hopen => (h.good hopen).setPhase hidle hp, h.shut⟩

theorem Fine.setDone (h : Fine s) (k : Nat) : Fine (s.setPhase k .done) :=
  h.setPhase Phase.noConfusion (fun _ => Phase.noConfusion) fun _ hid => by
    simp [Phase.id?] at hid

theorem Fine.setFailing (h : Fine s) (hid : (s.phase k).id? = some id) :
    Fine (s.setPhase k (.failing id)) :=
  h.setPhase Phase.noConfusion (fun _ => Phase.noConfusion) fun _ heq => heq ▸ hid

theorem Fine.setWaiting (h : Fine s) (hid : (s.phase k).id? = some id) :
    Fine (s.setPhase k (.waiting id)) :=
  h.setPhase Phase.noConfusion (fun _ => Phase.noConfusion) fun _ heq => heq ▸ hid

theorem Fine.removeWaiter (h : Fine s) (id : UInt64) : Fine (s.removeWaiter id) :=
  ⟨⟨h.correlated.own, h.correlated.nonzero, h.correlated.unique⟩,
    fun hopen => (h.good hopen).removeWaiter id, h.shut⟩

theorem Fine.abandonWaiter (h : Fine s) (id : UInt64) : Fine (s.abandonWaiter id) :=
  ⟨⟨h.correlated.own, h.correlated.nonzero, h.correlated.unique⟩,
    fun hopen => (h.good hopen).abandonWaiter id, h.shut⟩

theorem Fine.leave (h : Fine s) (kind : Kind) (id : UInt64) : Fine (s.leave kind id) := by
  cases kind with
  | kv => exact h.removeWaiter id
  | operation => exact h.abandonWaiter id
  | sqlite => exact h.abandonWaiter id

theorem Fine.finish (h : Fine s) (kind : Kind) (id : UInt64) : Fine (s.finish kind id) := by
  cases kind with
  | kv => exact h
  | operation => exact h
  | sqlite => exact h.abandonWaiter id

/-- After the pump has closed nothing is under way. -/
theorem Fine.isOpen (h : Fine s) (hbusy : ¬ (s.queue = [] ∧ s.native = [] ∧ s.events = [])) :
    s.closed = false :=
  Bool.eq_false_iff.mpr fun hclosed => hbusy (h.shut hclosed)

theorem Fine.of_good (hopen : s.closed = false) (hc : Correlated s) (hg : Good s) : Fine s :=
  ⟨hc, fun _ => hg, fun hclosed => absurd (hopen.symm.trans hclosed) Bool.false_ne_true⟩

/-- Every step but a draw keeps everything. -/
theorem fine_move (h : Fine s) (hm : Move s a s') (ha : ∀ k, a ≠ .register k) : Fine s' := by
  cases hm with
  | register k id desk hidle hregister => exact absurd rfl (ha k)
  | refuse k id hid => exact h.setFailing hid
  | enqueue k id hk hopen =>
    refine .of_good hopen ?_ ((h.good hopen).enqueue hk)
    refine h.correlated.frame rfl (fun j i hi => ?_) fun g hg => uses_enqueue hk hg
    by_cases hjk : j = k
    · rw [hjk, State.enqueue, setPhase_phase_self] at hi
      rw [hjk, hk]
      exact hi
    · rwa [State.enqueue, setPhase_phase_of_ne _ _ hjk] at hi
  | accept f rest hqueue results =>
    have hopen := h.isOpen (by simp [hqueue])
    refine .of_good hopen ?_ ((h.good hopen).accept hqueue results)
    refine h.correlated.frame rfl (fun _ _ hi => hi) fun g hg => ?_
    exact ⟨hg.1, hg.2.imp_right fun hl => (live_accept hqueue results).subset hl⟩
  | reject f rest hqueue results =>
    have hopen := h.isOpen (by simp [hqueue])
    refine .of_good hopen ?_ ((h.good hopen).reject hqueue results)
    refine h.correlated.frame rfl (fun _ _ hi => hi) fun g hg => ?_
    exact ⟨hg.1, hg.2.imp_right fun hl => (live_reject hqueue results).subset hl⟩
  | confirm k id hid p hp =>
    rcases hp with rfl | rfl
    · exact h.setWaiting hid
    · exact h.setFailing hid
  | cut k id hid => exact h.setFailing hid
  | remove k id => exact (h.removeWaiter id).setDone k
  | answer i f last hf =>
    have hopen := h.isOpen fun hnone => by simp [hnone.2.1] at hf
    refine .of_good hopen ?_ ((h.good hopen).answer hf last)
    refine h.correlated.frame rfl (fun _ _ hi => hi) fun g hg => ?_
    exact ⟨hg.1, hg.2.imp_right fun hl => (live_answer hf last).subset hl⟩
  | deliver f last rest hevents =>
    have hopen := h.isOpen (by simp [hevents])
    exact .of_good hopen (h.correlated.deliver (h.good hopen) hopen hevents)
      ((h.good hopen).deliver hopen hevents)
  | giveUp kind k id => exact (h.leave kind id).setDone k
  | finish kind k id => exact (h.finish kind id).setDone k
  | close =>
    refine ⟨⟨h.correlated.own, h.correlated.nonzero, fun _ _ _ hj => ?_⟩, fun hopen => ?_,
      fun _ => ⟨rfl, rfl, rfl⟩⟩
    · exact absurd hj.1 Bool.noConfusion
    · exact Bool.noConfusion hopen

theorem fine_step_iff (h : Fine s) (hs : step kind cancellable s a = some s') :
    (Correlated s' ↔ Fresh s a) ∧ (Correlated s' → Fine s') := by
  have hm := move_of_step hs
  cases a with
  | register k =>
    obtain ⟨_, id, desk, hidle, hregister⟩ | _ := hm
    have hiff := h.correlated.register_iff h.good hidle hregister
    refine ⟨hiff, fun hc => ⟨hc, fun hopen => ?_, h.shut⟩⟩
    exact (h.good hopen).register hidle hregister (hiff.mp hc _ hregister)
  | _ =>
    have hfine := fine_move h hm fun _ => Action.noConfusion
    exact ⟨iff_of_true hfine.correlated trivial, fun _ => hfine⟩

/-- Events reach their own callers, IDs are not zero and none is given out while it may be
completed, at every moment of a run, exactly if no ID is drawn while a command that was
taken out of the table may be completed under it. -/
theorem correlated_iff {as : List Action}
    (hrun : Run.run (step kind cancellable) initial as = some s) :
    Run.Throughout (step kind cancellable) Correlated initial as ↔
      Run.Allowed (step kind cancellable) Fresh initial as :=
  Run.throughout_iff_of_invariant fine_initial (fun _ h => h.correlated)
    (fun _ _ _ h hs => fine_step_iff h hs) hrun

/-- A KV call is answered, and another one is given up before its answer comes. -/
def answeredAndGivenUp : List Action :=
  [.register 0, .enqueue 0, .accept, .confirm 0, .answer 0 true, .deliver, .finish 0,
    .register 1, .enqueue 1, .accept, .confirm 1, .giveUp 1, .answer 0 true, .deliver]

theorem answeredAndGivenUp_correlated :
    ∃ s, Run.run (step .kv fun _ => true) initial answeredAndGivenUp = some s ∧
      s.delivered = [(0, 0)] ∧ s.events = [] ∧
      Run.Throughout (step .kv fun _ => true) Correlated initial answeredAndGivenUp := by
  refine ⟨_, rfl, rfl, rfl, (correlated_iff
    (rfl : Run.run (step .kv fun _ => true) initial answeredAndGivenUp = some _)).mpr ?_⟩
  refine ⟨fun _ _ _ hlost => absurd hlost List.not_mem_nil, trivial, trivial, trivial, trivial,
    trivial, trivial, fun _ _ _ hlost => absurd hlost List.not_mem_nil, trivial, trivial, trivial,
    trivial, trivial, trivial, trivial⟩

/-! ### The counter comes around -/

abbrev Reaches (kind : Kind) (cancellable : Nat → Bool) (s : State) : Prop :=
  Run.Reachable (step kind cancellable) Run.anyAction initial s

/-- The command of call 0, with ID 1, may still be completed, its entry was taken out, and
`n` calls have come and gone since. -/
structure Forgotten (n : Nat) (s : State) : Prop where
  counter : s.desk.counter = UInt64.ofNat (n + 1)
  entries : s.desk.entries = ∅
  isOpen : s.closed = false
  live : (1, 0) ∈ s.live
  idle : ∀ k, n < k → s.phase k = .idle

theorem ofNat_succ_ne_zero {n : Nat} (h : n + 1 < 2 ^ 64) : UInt64.ofNat (n + 1) ≠ 0 := by
  intro hzero
  have hnat := congrArg UInt64.toNat hzero
  rw [UInt64.toNat_ofNat_of_lt' h] at hnat
  exact Nat.succ_ne_zero n hnat

theorem step_register {desk : Desk UInt64 Nat} (hidle : s.phase k = .idle)
    (hregister : s.desk.register (· + 1) 0 (2 ^ 64) k = some (id, desk)) :
    step kind cancellable s (.register k) =
      some ({ s with desk := desk }.setPhase k (.registered id)) := by
  simp only [step, hidle, if_true, hregister]
  rfl

theorem step_refuse (h : s.phase k = .registered id) :
    step kind cancellable s (.refuse k) = some (s.setPhase k (.failing id)) := by
  simp [step, h]

theorem step_remove (h : s.phase k = .failing id) :
    step kind cancellable s (.remove k) = some ((s.removeWaiter id).setPhase k .done) := by
  simp [step, h]

/-- One more call draws the next ID and cannot submit its command. -/
theorem Forgotten.next {n : Nat} (h : Forgotten n s) (hn : n + 2 < 2 ^ 64)
    (hs : Reaches kind cancellable s) :
    ∃ s', Reaches kind cancellable s' ∧ Forgotten (n + 1) s' := by
  have hnext : s.desk.counter + 1 = UInt64.ofNat (n + 1 + 1) := by
    rw [h.counter, UInt64.ofNat_add (n + 1)]
    rfl
  have hne : s.desk.counter + 1 ≠ 0 := by
    rw [hnext]
    exact ofNat_succ_ne_zero hn
  have hregister := s.desk.register_of_free (· + 1) 0 (by decide : 0 < 2 ^ 64) hne
    (by simp [h.entries]) (n + 1)
  have hidle := h.idle (n + 1) (Nat.lt_succ_self n)
  refine ⟨_, ((hs.next _ trivial (step_register hidle hregister)).next _ trivial
    (step_refuse (setPhase_phase_self _ _ _))).next _ trivial
    (step_remove (setPhase_phase_self _ _ _)), hnext, ?_, h.isOpen, h.live, fun k hk => ?_⟩
  · show ((s.desk.entries.insert _ _).erase _) = ∅
    rw [h.entries]
    exact Correlation.erase_insert_empty _ _
  · have hne : k ≠ n + 1 := by omega
    rw [setPhase_phase_of_ne _ _ hne]
    change (State.setPhase (State.setPhase _ _ _) _ _).phase k = .idle
    rw [setPhase_phase_of_ne _ _ hne, setPhase_phase_of_ne _ _ hne]
    exact h.idle k (by omega)

theorem Forgotten.reaches {n : Nat} (h : Forgotten 0 s) (hs : Reaches kind cancellable s)
    (hn : n + 1 < 2 ^ 64) : ∃ s', Reaches kind cancellable s' ∧ Forgotten n s' := by
  induction n with
  | zero => exact ⟨s, hs, h⟩
  | succ n ih =>
    obtain ⟨s', hs', h'⟩ := ih (by omega)
    exact h'.next hn hs'

/-- After all other IDs, the first one is drawn again. -/
theorem Forgotten.reused (h : Forgotten 0 s) (hs : Reaches kind cancellable s) :
    ∃ s', Reaches kind cancellable s' ∧ ¬ Correlated s' := by
  obtain ⟨t, ht, hlast⟩ := h.reaches hs (n := 2 ^ 64 - 2) (by decide)
  have hidle := hlast.idle (2 ^ 64 - 1) (by decide)
  have hzero : t.desk.counter + 1 = 0 := by
    rw [hlast.counter]
    rfl
  have hregister := t.desk.register_of_zero (· + 1) 0 (by decide : 1 < 2 ^ 64) hzero (by decide)
    (by simp [hlast.entries]) (2 ^ 64 - 1)
  refine ⟨_, ht.next _ trivial (step_register hidle hregister), fun hc => ?_⟩
  have hsame := hc.unique 1 0 (2 ^ 64 - 1) ⟨hlast.isOpen, .inr hlast.live⟩
    ⟨hlast.isOpen, .inl (setPhase_phase_self _ _ _)⟩
  exact absurd hsame (by decide)

/-- A KV call that is given up, and an operation or SQLite call whose context ends during its
submission, leave their IDs to others. -/
theorem id_drawn_again : (∃ s, Reaches .kv (fun _ => true) s ∧ ¬ Correlated s) ∧
    (∃ s, Reaches .operation (fun _ => true) s ∧ ¬ Correlated s) ∧
    ∃ s, Reaches .sqlite (fun _ => true) s ∧ ¬ Correlated s := by
  have hcut : ∀ kind, ∃ s, Reaches kind (fun _ => true) s ∧ Forgotten 0 s := fun kind => by
    refine ⟨_, Run.reachable_of_run [.register 0, .enqueue 0, .cut 0, .remove 0] rfl, rfl, rfl, rfl,
      List.mem_cons_self, fun k hk => ?_⟩
    have hne : k ≠ 0 := Nat.pos_iff_ne_zero.mp hk
    simp [State.setPhase, State.removeWaiter, State.enqueue, hne, initial]
  refine ⟨?_, ?_, ?_⟩
  · have hs : Reaches .kv (fun _ => true) _ :=
      Run.reachable_of_run [.register 0, .enqueue 0, .accept, .confirm 0, .giveUp 0] rfl
    refine Forgotten.reused ⟨rfl, rfl, rfl, List.mem_cons_self, fun k hk => ?_⟩ hs
    have hne : k ≠ 0 := Nat.pos_iff_ne_zero.mp hk
    simp [State.setPhase, State.leave, State.removeWaiter, State.enqueue, hne, initial]
  · obtain ⟨s, hs, hforgotten⟩ := hcut .operation
    exact hforgotten.reused hs
  · obtain ⟨s, hs, hforgotten⟩ := hcut .sqlite
    exact hforgotten.reused hs

end RivetGo.Waiters

import Mathlib
import RivetGo.Database.Fence

/-!
# Open transactions on both sides

The handle forgets a transaction when `Commit`, `Rollback` or a drain is done with it,
whatever the backend has returned. The native side forgets the lease only if the
command reaches it with the gate of the operations open. As long as every command that
finishes a transaction is sent and comes before an accepted `DestroyIntent`, each lease
of the native table belongs to a registered transaction or to a `Begin` under way. A
lease whose command was not sent, or was turned away at the gate, is never named again.
-/

namespace RivetGo.Database

variable {s s' u : State} {a : Action}

theorem pending_of_holds {op : Op} {t : Nat} (h : op.holds = some t) : op.pending = some t := by
  cases op with
  | begin phase =>
    cases phase with
    | begun => exact h
    | undoing => exact h
    | _ => cases h
  | _ => cases h

/-- The transaction whose finishing call returns with the step. -/
def State.finishes (s : State) : Action → Option Nat
  | .advance i _ => s.ops[i]?.bind Op.finishes
  | .drain side _ => s.rolling side
  | _ => none

def Action.outcome : Action → Outcome
  | .advance _ o => o
  | .drain _ o => o
  | _ => .answered none

/-- A command that finishes a transaction is sent, and native takes it up while the gate is
open. -/
def TakenUp (s : State) : Action → Prop
  | .dispatchSqliteFinish _ => s.stopping = false
  | a => s.finishes a ≠ none → a.outcome ≠ .notSent

/-- Neither a transaction nor a call is left on the Go side. -/
structure State.Idle (s : State) : Prop where
  transactions : s.transactions = []
  beginning : s.beginning = false
  active : s.active = 0

/-- Somebody on the Go side has the lease. -/
def State.Has (s : State) (t : Nat) : Prop :=
  t ∈ s.transactions ∨ ∃ (i : Nat) (op : Op), s.ops[i]? = some op ∧ op.holds = some t

/-! ### Leases and those who have them -/

/-- What a step does to a lease and to who has it. -/
inductive LeaseMove (s : State) (a : Action) (s' : State) : Prop where
  | same : s.finishes a = none → (∀ t, a ≠ .dispatchSqliteFinish t) → s'.leases = s.leases →
      s'.dispatched = s.dispatched → (∀ t, s'.Has t ↔ s.Has t) → LeaseMove s a s'
  | opened {i t : Nat} : s.finishes a = none → (∀ t, a ≠ .dispatchSqliteFinish t) →
      s.ops[i]? = some (.begin (.calling t)) → s'.leases = t :: s.leases →
      s'.dispatched = s.dispatched → (∀ v, s'.Has v ↔ s.Has v ∨ v = t) → LeaseMove s a s'
  | dispatched {t : Nat} : a = .dispatchSqliteFinish t → s.Has t → t ∉ s.dispatched →
      s'.leases = (if s.stopping then s.leases else s.leases.filter (· ≠ t)) →
      s'.dispatched = t :: s.dispatched → (∀ v, s'.Has v ↔ s.Has v) → LeaseMove s a s'
  | finished {t : Nat} : s.finishes a = some t → s.Has t → s.returns t a.outcome = true →
      s'.leases = s.leases → s'.dispatched = s.dispatched →
      (∀ v, s'.Has v ↔ s.Has v ∧ v ≠ t) → LeaseMove s a s'

theorem Has.of_eq (htransactions : s'.transactions = s.transactions) (hops : s'.ops = s.ops)
    (t : Nat) : s'.Has t ↔ s.Has t := by
  rw [State.Has, htransactions, hops, State.Has]

section Set

variable {i t : Nat} {op op' : Op}

/-- The lease is with a call other than the one at `i`. -/
def State.HasElsewhere (s : State) (i t : Nat) : Prop :=
  ∃ (j : Nat) (op : Op), j ≠ i ∧ s.ops[j]? = some op ∧ op.holds = some t

theorem has_iff (hop : s.ops[i]? = some op) (t : Nat) :
    s.Has t ↔ t ∈ s.transactions ∨ op.holds = some t ∨ s.HasElsewhere i t := by
  refine or_congr_right ?_
  constructor
  · rintro ⟨j, x, hx, ht⟩
    by_cases hj : j = i
    · subst hj
      obtain rfl : op = x := Option.some.inj (hop.symm.trans hx)
      exact .inl ht
    · exact .inr ⟨j, x, hj, hx, ht⟩
  · rintro (ht | ⟨j, x, -, hx, ht⟩)
    · exact ⟨i, op, hop, ht⟩
    · exact ⟨j, x, hx, ht⟩

theorem has_set_iff (s' : State) (hop : s.ops[i]? = some op) (hops : s'.ops = s.ops.set i op')
    (t : Nat) :
    s'.Has t ↔ t ∈ s'.transactions ∨ op'.holds = some t ∨ s.HasElsewhere i t := by
  refine or_congr_right ?_
  rw [hops]
  constructor
  · rintro ⟨j, x, hx, ht⟩
    rcases getElem?_set_cases hx with ⟨rfl, rfl⟩ | ⟨hne, hx⟩
    · exact .inl ht
    · exact .inr ⟨j, x, hne, hx, ht⟩
  · rintro (ht | ⟨j, x, hne, hx, ht⟩)
    · obtain ⟨hlt, -⟩ := List.getElem?_eq_some_iff.mp hop
      exact ⟨i, op', by rw [List.getElem?_set_self hlt], ht⟩
    · exact ⟨j, x, by rwa [List.getElem?_set_ne (Ne.symm hne)], ht⟩

theorem not_handed_of_elsewhere (h : Sound s) (he : s.HasElsewhere i t) : t ∉ s.handed := by
  obtain ⟨j, op, -, hop, ht⟩ := he
  exact h.pending.fresh hop (pending_of_holds ht)

theorem leaseMove_of_opMove (h : Sound s) {o : Outcome} (hop : s.ops[i]? = some op)
    (hm : OpMove s o op u op') :
    LeaseMove s (.advance i o) { u with ops := s.ops.set i op' } := by
  have hhas := has_iff hop
  have hhas' : ∀ v, State.Has { u with ops := s.ops.set i op' } v ↔
      v ∈ u.transactions ∨ op'.holds = some v ∨ s.HasElsewhere i v :=
    has_set_iff { u with ops := s.ops.set i op' } hop rfl
  cases hm with
  | quiet beginning hq =>
    refine .same ?_ nofun rfl rfl fun v => ?_
    · rw [State.finishes, hop, Option.bind_some]
      cases op with
      | finish t taken =>
        cases taken with
        | false => rfl
        | true => exact absurd hq.taken (by simp [Op.taken])
      | begin phase =>
        cases phase with
        | undoing t => exact absurd rfl (hq.waiting t)
        | _ => rfl
      | _ => rfl
    · rw [hhas', hhas, hq.holds]
  | failed | start | take hterminal | leave =>
    refine .same (by simp [State.finishes, hop, Op.finishes]) nofun rfl rfl fun v => ?_
    rw [hhas', hhas]
    rfl
  | opened =>
    rename_i t
    refine .opened (by simp [State.finishes, hop, Op.finishes]) nofun hop rfl rfl fun v => ?_
    rw [hhas', hhas]
    simp [Op.holds]
    tauto
  | register hfenced =>
    rename_i t
    refine .same (by simp [State.finishes, hop, Op.finishes]) nofun rfl rfl fun v => ?_
    rw [hhas', hhas]
    simp [Op.holds]
    tauto
  | undone hreturns =>
    rename_i t
    have hfresh : t ∉ s.transactions := fun ht =>
      h.pending.fresh hop rfl (h.custody.known_of_registered ht)
    have helse : ¬ s.HasElsewhere i t := by
      rintro ⟨j, x, hne, hx, ht⟩
      exact hne (h.pending.unique hx hop (pending_of_holds ht) rfl)
    refine .finished (t := t) (by simp [State.finishes, hop, Op.finishes])
      ((hhas t).mpr (.inr (.inl rfl))) hreturns rfl rfl fun v => ?_
    rw [hhas', hhas]
    by_cases hv : v = t
    · subst hv
      simp [Op.holds, hfresh, helse]
    · simp [Op.holds, hv, Ne.symm hv]
  | finished hreturns =>
    rename_i t
    have hown := owns_op hop rfl
    have hregistered : t ∈ s.transactions := h.custody.registered_of_owns hown
    have helse : ¬ s.HasElsewhere i t := fun he =>
      not_handed_of_elsewhere h he (h.custody.known_of_registered hregistered)
    refine .finished (t := t) (by simp [State.finishes, hop, Op.finishes])
      ((hhas t).mpr (.inl hregistered)) hreturns rfl rfl fun v => ?_
    rw [hhas', hhas]
    by_cases hv : v = t
    · subst hv
      simp [Op.holds, State.unregisterTransaction, helse]
    · simp [Op.holds, State.unregisterTransaction, hv]

end Set

theorem leaseMove_of_drainMove (h : Sound s) {side : Side} {o : Outcome} {d d' : Drain}
    (hd : s.drainOf side = some d) (hm : DrainMove s o d u d') :
    LeaseMove s (.drain side o) (u.setDrain side d' o) := by
  have hrolling : s.finishes (.drain side o) = d.rolling := rolling_of_drainOf hd
  cases hm with
  | skip => exact .same hrolling nofun rfl rfl (Has.of_eq rfl rfl)
  | take => exact .same hrolling nofun rfl rfl (Has.of_eq rfl rfl)
  | done => exact .same hrolling nofun rfl rfl (Has.of_eq rfl rfl)
  | finished hreturns =>
    rename_i t todo
    have hregistered : t ∈ s.transactions :=
      h.custody.registered_of_owns (show s.Owns t (.drain side) from hrolling)
    refine .finished hrolling (.inl hregistered) hreturns rfl rfl fun v => ?_
    have hfresh : ∀ {j : Nat} {x : Op}, s.ops[j]? = some x → x.holds ≠ some t := fun hx ht =>
      h.pending.fresh hx (pending_of_holds ht) (h.custody.known_of_registered hregistered)
    constructor
    · rintro (hv | ⟨j, x, hx, hv⟩)
      · obtain ⟨hv, hne⟩ := List.mem_filter.mp hv
        exact ⟨.inl hv, by simpa using hne⟩
      · refine ⟨.inr ⟨j, x, hx, hv⟩, ?_⟩
        rintro rfl
        exact hfresh hx hv
    · rintro ⟨hv | hv, hne⟩
      · exact .inl (List.mem_filter.mpr ⟨hv, by simpa using hne⟩)
      · exact .inr hv

/-- Who has a transaction finished has its lease. -/
theorem has_of_finishing (h : Sound s) {t : Nat} (ht : s.finishing t = true) : s.Has t := by
  rw [State.finishing, Bool.or_eq_true, Bool.or_eq_true, List.any_eq_true, decide_eq_true_eq,
    decide_eq_true_eq] at ht
  rcases ht with (⟨op, hmem, hop⟩ | hrolling) | hrolling
  · obtain ⟨i, hi⟩ := List.mem_iff_getElem?.mp hmem
    rw [decide_eq_true_eq] at hop
    cases op with
    | finish t' taken =>
      cases taken with
      | false => cases hop
      | true =>
        obtain rfl := Option.some.inj hop
        exact .inl (h.custody.registered_of_owns (owns_op hi rfl))
    | begin phase =>
      cases phase with
      | undoing t' =>
        obtain rfl := Option.some.inj hop
        exact .inr ⟨i, _, hi, rfl⟩
      | _ => cases hop
    | _ => cases hop
  · exact .inl (h.custody.registered_of_owns (show s.Owns t (.drain .sleep) from hrolling))
  · exact .inl (h.custody.registered_of_owns (show s.Owns t (.drain .close) from hrolling))

theorem leaseMove_of_move (h : Sound s) (hm : Move s a s') : LeaseMove s a s' := by
  cases hm with
  | advance hop hm => exact leaseMove_of_opMove h hop hm
  | drain hd hm => exact leaseMove_of_drainMove h hd hm
  | call _ hfresh =>
    refine .same rfl nofun rfl rfl fun t => or_congr_right ?_
    constructor
    · rintro ⟨j, x, hx, ht⟩
      rcases getElem?_append_cases hx with hx | rfl
      · exact ⟨j, x, hx, ht⟩
      · exact absurd (hfresh.pending.symm.trans (pending_of_holds ht)) (by simp)
    · rintro ⟨j, x, hx, ht⟩
      exact ⟨j, x, getElem?_append_of_some hx, ht⟩
  | refused henters =>
    refine .same ?_ ?_ rfl rfl (Has.of_eq rfl rfl)
    · cases a <;> first | rfl | cases henters
    · rintro t rfl
      cases henters
  | lift hs =>
    refine .same ?_ ?_ rfl rfl (Has.of_eq rfl rfl)
    · rcases hs with ⟨-, rfl⟩ | ⟨-, rfl⟩ <;> rfl
    · rcases hs with ⟨-, rfl⟩ | ⟨-, rfl⟩ <;> nofun
  | dispatched hfinishing hnew =>
    exact .dispatched rfl (has_of_finishing h hfinishing) hnew rfl rfl (Has.of_eq rfl rfl)
  | sleepAgain => exact .same rfl nofun rfl rfl (Has.of_eq rfl rfl)
  | sleep => exact .same rfl nofun rfl rfl (Has.of_eq rfl rfl)
  | close => exact .same rfl nofun rfl rfl (Has.of_eq rfl rfl)
  | prepared => exact .same rfl nofun rfl rfl (Has.of_eq rfl rfl)
  | accepted => exact .same rfl nofun rfl rfl (Has.of_eq rfl rfl)
  | rejected => exact .same rfl nofun rfl rfl (Has.of_eq rfl rfl)
  | closed => exact .same rfl nofun rfl rfl (Has.of_eq rfl rfl)
  | intent => exact .same rfl nofun rfl rfl (Has.of_eq rfl rfl)
  | destroyed => exact .same rfl nofun rfl rfl (Has.of_eq rfl rfl)

/-! ### Leases that nobody has -/

theorem sequence_le_of_move (hm : Move s a s') : s.sequence ≤ s'.sequence := by
  cases hm with
  | advance _ hm =>
    cases hm with
    | start => exact Nat.le_succ _
    | _ => exact le_rfl
  | drain _ hm => cases hm <;> exact le_rfl
  | _ => exact le_rfl

/-- A lease is asked for by a call that was at it already, or it is a new one. -/
theorem calling_of_move (hm : Move s a s') {j t : Nat}
    (hj : s'.ops[j]? = some (.begin (.calling t))) :
    s.ops[j]? = some (.begin (.calling t)) ∨ t = s.sequence := by
  cases hm with
  | call _ hfresh =>
    rcases getElem?_append_cases hj with hj | hj
    · exact .inl hj
    · have hpending := hfresh.pending
      rw [← hj] at hpending
      cases hpending
  | advance hop hm =>
    rcases getElem?_set_cases hj with ⟨-, he⟩ | ⟨-, hj⟩
    · subst he
      cases hm with
      | quiet _ hq => exact absurd rfl (hq.calling t)
      | start => exact .inr rfl
    · exact .inl hj
  | drain _ hm => cases hm <;> exact .inl hj
  | _ => exact .inl hj

theorem lt_sequence_of_has (h : Sound s) {t : Nat} (ht : s.Has t) : t < s.sequence := by
  rcases ht with ht | ⟨i, op, hop, ht⟩
  · exact h.pending.handed_lt t (h.custody.known_of_registered ht)
  · exact h.pending.lt hop (pending_of_holds ht)

theorem not_calling_of_has (h : Sound s) {t : Nat} (ht : s.Has t) (j : Nat) :
    s.ops[j]? ≠ some (.begin (.calling t)) := by
  intro hj
  rcases ht with ht | ⟨i, op, hop, ht⟩
  · exact h.pending.fresh hj rfl (h.custody.known_of_registered ht)
  · obtain rfl := h.pending.unique hop hj (pending_of_holds ht) rfl
    obtain rfl := Option.some.inj (hop.symm.trans hj)
    cases ht

theorem not_calling_of_move (hm : Move s a s') {t : Nat} (hlt : t < s.sequence)
    (h : ∀ i : Nat, s.ops[i]? ≠ some (.begin (.calling t))) (i : Nat) :
    s'.ops[i]? ≠ some (.begin (.calling t)) := by
  intro hi
  rcases calling_of_move hm hi with hi | rfl
  · exact h i hi
  · exact Nat.lt_irrefl _ hlt

/-- The lease was asked for once, and will not be asked for again. -/
structure State.Past (s : State) (t : Nat) : Prop where
  lt : t < s.sequence
  calling : ∀ i : Nat, s.ops[i]? ≠ some (.begin (.calling t))

theorem past_of_has (h : Sound s) {t : Nat} (ht : s.Has t) : s.Past t :=
  ⟨lt_sequence_of_has h ht, not_calling_of_has h ht⟩

theorem State.Past.move {t : Nat} (h : s.Past t) (hm : Move s a s') : s'.Past t :=
  ⟨h.lt.trans_le (sequence_le_of_move hm), not_calling_of_move hm h.lt h.calling⟩

/-- The two sides, whatever becomes of the commands. -/
structure Sides (s : State) : Prop where
  sound : Sound s
  /-- A lease that somebody has is open, or its finishing command was taken up. -/
  leased : ∀ t, s.Has t → t ∈ s.leases ∨ t ∈ s.dispatched
  past : ∀ t ∈ s.dispatched, s.Past t

theorem sides_initial : Sides initial where
  sound := sound_initial
  leased := by simp [State.Has, initial]
  past _ h := absurd h List.not_mem_nil

theorem sides_of_move (h : Sides s) (hm : Move s a s') : Sides s' := by
  obtain ⟨hsound, hleased, hpast⟩ := h
  have hkept : ∀ t ∈ s.dispatched, s'.Past t := fun t ht => (hpast t ht).move hm
  refine ⟨sound_of_move hsound hm, ?_, ?_⟩
  · intro t ht
    cases leaseMove_of_move hsound hm with
    | same _ _ hleases hdispatched hhas =>
      rw [hleases, hdispatched]
      exact hleased t ((hhas t).mp ht)
    | opened _ _ _ hleases hdispatched hhas =>
      rw [hleases, hdispatched]
      rcases (hhas t).mp ht with ht | rfl
      · exact (hleased t ht).imp_left (List.mem_cons_of_mem _)
      · exact .inl List.mem_cons_self
    | @dispatched v _ _ _ hleases hdispatched hhas =>
      rw [hleases, hdispatched]
      rcases hleased t ((hhas t).mp ht) with ht | ht
      · by_cases htv : t = v
        · exact .inr (htv ▸ List.mem_cons_self)
        · split_ifs
          · exact .inl ht
          · exact .inl (List.mem_filter.mpr ⟨ht, by simpa using htv⟩)
      · exact .inr (List.mem_cons_of_mem _ ht)
    | finished _ _ _ hleases hdispatched hhas =>
      rw [hleases, hdispatched]
      exact hleased t ((hhas t).mp ht).1
  · cases leaseMove_of_move hsound hm with
    | same _ _ _ hdispatched | opened _ _ _ _ hdispatched | finished _ _ _ _ hdispatched =>
      rw [hdispatched]
      exact hkept
    | dispatched _ hhas _ _ hdispatched =>
      rw [hdispatched]
      intro t ht
      rcases List.mem_cons.mp ht with rfl | ht
      · exact (past_of_has hsound hhas).move hm
      · exact hkept t ht

theorem sides_step : Run.Keeps step Run.anyAction Sides :=
  fun _ _ _ h _ hs => sides_of_move h (move_of_step hs)

theorem sides_of_reaches (h : Reaches s) : Sides s := h.invariant sides_initial sides_step

/-- A lease that is open and that no command will finish any more. -/
def Leaked (s : State) : Prop := ∃ t ∈ s.leases, s.Past t ∧ (t ∈ s.dispatched ∨ ¬ s.Has t)

/-- The command is not sent, and the handle forgets the transaction. -/
theorem leaked_of_not_sent (h : Sides s) (hfinishes : s.finishes a ≠ none)
    (houtcome : a.outcome = .notSent) (hs : step s a = some s') : Leaked s' := by
  have hmove := move_of_step hs
  cases leaseMove_of_move h.sound hmove with
  | same hnone | opened hnone => exact absurd hnone hfinishes
  | dispatched ha =>
    subst ha
    exact absurd rfl hfinishes
  | @finished t _ ht hreturns hleases _ hhas =>
    rw [houtcome, State.returns, decide_eq_true_eq] at hreturns
    have hopen := (h.leased t ht).resolve_right hreturns
    refine ⟨t, hleases ▸ hopen, (past_of_has h.sound ht).move hmove, .inr fun ht' => ?_⟩
    exact ((hhas t).mp ht').2 rfl

/-- The command is turned away at the gate. -/
theorem leaked_of_stopping (h : Sides s) {t : Nat} (hstopping : s.stopping = true)
    (hs : step s (.dispatchSqliteFinish t) = some s') : Leaked s' := by
  have hmove := move_of_step hs
  cases leaseMove_of_move h.sound hmove with
  | same _ hne | opened _ hne => exact absurd rfl (hne t)
  | @dispatched v ha ht hnew hleases hdispatched =>
    have hopen := (h.leased v ht).resolve_right hnew
    rw [hstopping, if_pos rfl] at hleases
    refine ⟨v, hleases ▸ hopen, (past_of_has h.sound ht).move hmove, .inl ?_⟩
    rw [hdispatched]
    exact List.mem_cons_self
  | finished hfinishes => cases hfinishes

theorem leaked_of_not_takenUp (h : Sides s) (hnot : ¬ TakenUp s a) (hs : step s a = some s') :
    Leaked s' := by
  cases a with
  | dispatchSqliteFinish t =>
    exact leaked_of_stopping h (Bool.eq_true_of_not_eq_false hnot) hs
  | _ =>
    obtain ⟨hfinishes, houtcome⟩ := Classical.not_imp.mp hnot
    exact leaked_of_not_sent h hfinishes (not_not.mp houtcome) hs

theorem leaked_step {s s' : State} {a : Action} (h : Sound s) (hleaked : Leaked s)
    (hs : step s a = some s') : Leaked s' := by
  have hmove := move_of_step hs
  obtain ⟨t, ht, hpast, hlost⟩ := hleaked
  have hpast' := hpast.move hmove
  cases leaseMove_of_move h hmove with
  | same _ _ hleases hdispatched hhas =>
    refine ⟨t, hleases ▸ ht, hpast', ?_⟩
    rw [hdispatched, hhas t]
    exact hlost
  | @opened i v _ _ hop hleases hdispatched hhas =>
    refine ⟨t, hleases ▸ List.mem_cons_of_mem _ ht, hpast', ?_⟩
    rw [hdispatched, hhas t]
    refine hlost.imp_right fun hnobody ht' => ?_
    rcases ht' with ht' | rfl
    · exact hnobody ht'
    · exact hpast.calling i hop
  | @dispatched v _ hv hnew hleases hdispatched hhas =>
    have hne : t ≠ v := by
      rintro rfl
      rcases hlost with hdone | hnobody
      · exact hnew hdone
      · exact hnobody hv
    refine ⟨t, ?_, hpast', ?_⟩
    · rw [hleases]
      split_ifs
      · exact ht
      · exact List.mem_filter.mpr ⟨ht, by simpa using hne⟩
    · rw [hdispatched, hhas t]
      exact hlost.imp_left (List.mem_cons_of_mem _)
  | finished _ _ _ hleases hdispatched hhas =>
    refine ⟨t, hleases ▸ ht, hpast', ?_⟩
    rw [hdispatched, hhas t]
    exact hlost.imp_right fun hnobody ht' => hnobody ht'.1

/-- While every finishing command is taken up, each lease belongs to somebody, and no command
that finishes it was taken up. -/
theorem has_of_allowed (h : Run.Reachable step TakenUp initial s) {t : Nat} (ht : t ∈ s.leases) :
    s.Has t ∧ t ∉ s.dispatched := by
  induction h generalizing t with
  | init => simp [initial] at ht
  | @step v v' a hreach htaken hs ih =>
    have hsides := sides_of_reaches (hreach.mono fun _ _ _ => trivial)
    cases leaseMove_of_move hsides.sound (move_of_step hs) with
    | same _ _ hleases hdispatched hhas =>
      rw [hhas t, hdispatched]
      exact ih (hleases ▸ ht)
    | opened _ _ hop hleases hdispatched hhas =>
      rw [hhas t, hdispatched]
      rcases List.mem_cons.mp (hleases ▸ ht) with rfl | ht
      · exact ⟨.inr rfl, fun hdone => (hsides.past _ hdone).calling _ hop⟩
      · exact ⟨.inl (ih ht).1, (ih ht).2⟩
    | @dispatched w ha _ _ hleases hdispatched hhas =>
      subst ha
      have hopen : v.stopping = false := htaken
      rw [hleases, hopen] at ht
      obtain ⟨ht, hne⟩ := List.mem_filter.mp ht
      rw [hhas t, hdispatched]
      refine ⟨(ih ht).1, fun hmem => ?_⟩
      rcases List.mem_cons.mp hmem with rfl | hmem
      · simp at hne
      · exact (ih ht).2 hmem
    | @finished w hfinishes _ hreturns hleases hdispatched hhas =>
      -- The call has returned with an answer, so native has taken the lease out.
      have hdone : w ∈ v.dispatched := by
        cases ho : a.outcome with
        | notSent =>
          have hsent : v.finishes a ≠ none → a.outcome ≠ .notSent := by
            cases a with
            | dispatchSqliteFinish t => cases hfinishes
            | _ => exact htaken
          exact absurd ho (hsent (by simp [hfinishes]))
        | answered error =>
          rw [ho, State.returns, decide_eq_true_eq] at hreturns
          exact hreturns
      rw [hleases] at ht
      have hne : t ≠ w := by
        rintro rfl
        exact (ih ht).2 hdone
      rw [hhas t, hdispatched]
      exact ⟨⟨(ih ht).1, hne⟩, (ih ht).2⟩

theorem not_has_of_idle (h : Sound s) (hidle : s.Idle) (t : Nat) : ¬ s.Has t := by
  rintro (ht | ⟨i, op, hop, ht⟩)
  · rw [hidle.transactions] at ht
    cases ht
  · have hcount := h.count
    rw [hidle.active, eq_comm, List.countP_eq_zero] at hcount
    have hreturned : op = .returned := by
      simpa [Op.isActive] using hcount op (List.mem_of_getElem? hop)
    rw [hreturned] at ht
    cases ht

/-- When nothing is left on the Go side, the native table is empty exactly if every
command that finishes a transaction was sent and taken up before the gate was closed. -/
theorem leases_iff {as : List Action} (hrun : Run.run step initial as = some s)
    (hidle : s.Idle) : s.leases = [] ↔ Run.Allowed step TakenUp initial as := by
  have hsound : Sound s := sound_of_reaches (Run.reachable_of_run as hrun)
  constructor
  · intro hempty
    by_contra hnot
    have hleaked : Sides s ∧ Leaked s := by
      refine Run.of_not_allowed (P := fun v => Sides v ∧ Leaked v) .init ?_ ?_ hrun hnot
      · intro v a v' hv hbad hs
        have hsides := sides_of_reaches hv
        exact ⟨sides_of_move hsides (move_of_step hs), leaked_of_not_takenUp hsides hbad hs⟩
      · exact fun v a v' hv _ hs =>
          ⟨sides_of_move hv.1 (move_of_step hs), leaked_step hv.1.sound hv.2 hs⟩
    obtain ⟨-, t, ht, -⟩ := hleaked
    rw [hempty] at ht
    cases ht
  · intro hallowed
    refine List.eq_nil_iff_forall_not_mem.mpr fun t ht => ?_
    exact not_has_of_idle hsound hidle t
      (has_of_allowed (Run.Reachable.init.run hallowed hrun) ht).1

/-- A transaction is opened, and its commit is taken up and answered with an error. -/
def committed : List Action :=
  opening ++ ([.call (.finish 0), .advance 1 .notSent, .dispatchSqliteFinish 0,
    .advance 1 (.answered (some .other)), .advance 1 .notSent] : List Action)

theorem committed_leases : ∃ s, Run.run step initial committed = some s ∧
    s.Idle ∧ s.leases = [] := by
  refine ⟨_, rfl, ⟨rfl, rfl, rfl⟩, (leases_iff
    (rfl : Run.run step initial committed = some _) ⟨rfl, rfl, rfl⟩).mpr ?_⟩
  -- Only the last action but one returns from a finishing call.
  refine ⟨fun h => absurd rfl h, fun h => absurd rfl h, fun h => absurd rfl h,
    fun h => absurd rfl h, fun h => absurd rfl h, fun h => absurd rfl h, fun h => absurd rfl h,
    fun h => absurd rfl h, rfl, fun _ ho => ?_, fun h => absurd rfl h, trivial⟩
  cases ho

/-- The commit is not sent. -/
def commitNotSent : List Action :=
  opening ++ ([.call (.finish 0), .advance 1 .notSent, .advance 1 .notSent, .advance 1 .notSent] :
    List Action)

/-- `Sleep` is about to roll the transaction back when `Destroy` passes over it and gets its
intent accepted; the rollback reaches native after that. -/
def destroyedBeforeRollback : List Action :=
  opening ++ ([.sleep, .drain .sleep .notSent, .close, .drain .close .notSent,
    .drain .close .notSent, .closeReturns, .destroyIntent true, .dispatchSqliteFinish 0,
    .drain .sleep (.answered (some .other)), .drain .sleep .notSent, .prepareReturns] :
    List Action)

/-- In both runs the handle has no transaction any more, and the lease stays. -/
theorem commit_not_sent :
    (∃ s, Run.run step initial commitNotSent = some s ∧ s.Idle ∧ s.leases = [0]) ∧
      ∃ s, Run.run step initial destroyedBeforeRollback = some s ∧ s.Idle ∧ s.leases = [0] :=
  ⟨⟨_, rfl, ⟨rfl, rfl, rfl⟩, rfl⟩, _, rfl, ⟨rfl, rfl, rfl⟩, rfl⟩

/-! ### One command for each transaction -/

/-- Nobody has the lease `t` any more. -/
structure Gone (t : Nat) (s : State) : Prop where
  sound : Sound s
  past : s.Past t
  nobody : ¬ s.Has t

theorem gone_step {t : Nat} : Run.Keeps step Run.anyAction (Gone t) := by
  rintro s a s' ⟨hsound, hpast, hnobody⟩ - hs
  have hmove := move_of_step hs
  refine ⟨sound_of_move hsound hmove, hpast.move hmove, fun ht => ?_⟩
  cases leaseMove_of_move hsound hmove with
  | same _ _ _ _ hhas | dispatched _ _ _ _ _ hhas => exact hnobody ((hhas t).mp ht)
  | opened _ _ hop _ _ hhas =>
    rcases (hhas t).mp ht with ht | rfl
    · exact hnobody ht
    · exact hpast.calling _ hop
  | finished _ _ _ _ _ hhas => exact hnobody ((hhas t).mp ht).1

theorem gone_of_finishes {t : Nat} (h : Sound s) (ht : s.finishes a = some t)
    (hs : step s a = some s') : s.Has t ∧ Gone t s' := by
  have hmove := move_of_step hs
  cases leaseMove_of_move h hmove with
  | same hnone | opened hnone => exact absurd (hnone.symm.trans ht) nofun
  | dispatched ha =>
    subst ha
    cases ht
  | finished hv hhas _ _ _ hhas' =>
    obtain rfl := Option.some.inj (hv.symm.trans ht)
    exact ⟨hhas, sound_of_move h hmove, (past_of_has h hhas).move hmove,
      fun ht' => ((hhas' _).mp ht').2 rfl⟩

/-- Whatever the calls and the drains do, no transaction is finished by two commands. -/
theorem finishes_once {u' : State} {b : Action} {t : Nat} (h : Reaches s)
    (ht : s.finishes a = some t) (hs : step s a = some s') (hlater : Later s' u)
    (hb : step u b = some u') : u.finishes b ≠ some t := by
  have hgone := hlater.invariant (gone_of_finishes (sound_of_reaches h) ht hs).2 gone_step
  exact fun ht' => hgone.nobody (gone_of_finishes hgone.sound ht' hb).1

/-- After a commit that was not sent another transaction is opened, and `Sleep` rolls it back. -/
def afterCommit : List Action :=
  [.advance 1 .notSent, .call (.finish 0), .advance 2 .notSent, .advance 2 .notSent, .call .begin,
    .advance 3 .notSent, .advance 3 (.answered none), .advance 3 .notSent, .advance 3 .notSent,
    .advance 3 .notSent, .sleep, .drain .sleep .notSent, .dispatchSqliteFinish 1]

theorem commit_finishes_once : ∃ s s' u u',
    Run.run step initial (commitNotSent.take 8) = some s ∧
      step s (.advance 1 .notSent) = some s' ∧ Run.run step s' afterCommit = some u ∧
      step u (.drain .sleep (.answered none)) = some u' ∧
      u.finishes (.drain .sleep (.answered none)) ≠ some 0 :=
  ⟨_, _, _, _, rfl, rfl, rfl, rfl, finishes_once (a := .advance 1 .notSent)
    (Run.reachable_of_run (commitNotSent.take 8) rfl) rfl rfl
    (Run.reachable_of_run afterCommit rfl) rfl⟩

end RivetGo.Database

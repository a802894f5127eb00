import Mathlib
import RivetGo.Database.Custody

/-!
# The fence of the database handle

Behind the fence the register only loses transactions and the count of active calls
only falls, so a drain that has gone through its transactions and has seen the count
at zero leaves nothing behind, except what the other drain has taken and is still
rolling back: a drain passes over a transaction that is already terminal and waits
only for calls. The fence is what it should be as long as no drain returns while the
other one is in a rollback.
-/

namespace RivetGo.Database

variable {s s' u : State} {a : Action}

/-! ### Behind the fence -/

/-- Nothing new comes in. -/
structure Shrinks (s s' : State) : Prop where
  transactions : s'.transactions ⊆ s.transactions
  terminal : s.terminal ⊆ s'.terminal
  active : s'.active ≤ s.active
  ops : s'.ops.length = s.ops.length

theorem Shrinks.of_eq (htransactions : s'.transactions = s.transactions)
    (hterminal : s'.terminal = s.terminal) (hactive : s'.active = s.active)
    (hops : s'.ops = s.ops) : Shrinks s s' := by
  refine ⟨?_, ?_, hactive.le, by rw [hops]⟩
  · rw [htransactions]
    exact List.Subset.refl _
  · rw [hterminal]
    exact List.Subset.refl _

theorem shrinks_of_opMove {i : Nat} {o : Outcome} {op op' : Op} (hfenced : s.fenced = true)
    (hm : OpMove s o op u op') : Shrinks s { u with ops := s.ops.set i op' } := by
  have hlength : (s.ops.set i op').length = s.ops.length := List.length_set
  cases hm with
  | register hopen => exact absurd (hopen.symm.trans hfenced) (by simp)
  | take => exact ⟨List.Subset.refl _, List.subset_cons_self _ _, le_rfl, hlength⟩
  | finished => exact ⟨List.filter_subset_self _, List.Subset.refl _, le_rfl, hlength⟩
  | leave => exact ⟨List.Subset.refl _, List.Subset.refl _, Nat.sub_le _ _, hlength⟩
  | quiet => exact ⟨List.Subset.refl _, List.Subset.refl _, le_rfl, hlength⟩
  | failed => exact ⟨List.Subset.refl _, List.Subset.refl _, le_rfl, hlength⟩
  | start => exact ⟨List.Subset.refl _, List.Subset.refl _, le_rfl, hlength⟩
  | opened => exact ⟨List.Subset.refl _, List.Subset.refl _, le_rfl, hlength⟩
  | undone => exact ⟨List.Subset.refl _, List.Subset.refl _, le_rfl, hlength⟩

theorem shrinks_of_drainMove {side : Side} {o : Outcome} {d d' : Drain}
    (hm : DrainMove s o d u d') : Shrinks s (u.setDrain side d' o) := by
  cases hm with
  | skip => exact .of_eq rfl rfl rfl rfl
  | take => exact ⟨List.Subset.refl _, List.subset_cons_self _ _, le_rfl, rfl⟩
  | finished => exact ⟨List.filter_subset_self _, List.Subset.refl _, le_rfl, rfl⟩
  | done => exact .of_eq rfl rfl rfl rfl

theorem shrinks_of_move (hfenced : s.fenced = true) (hm : Move s a s') : Shrinks s s' := by
  cases hm with
  | call hopen => exact absurd (hopen.symm.trans hfenced) (by simp)
  | advance _ hm => exact shrinks_of_opMove hfenced hm
  | drain _ hm => exact shrinks_of_drainMove hm
  | refused => exact .of_eq rfl rfl rfl rfl
  | sleepAgain => exact .of_eq rfl rfl rfl rfl
  | sleep => exact .of_eq rfl rfl rfl rfl
  | close => exact .of_eq rfl rfl rfl rfl
  | lift => exact .of_eq rfl rfl rfl rfl
  | prepared => exact .of_eq rfl rfl rfl rfl
  | accepted => exact .of_eq rfl rfl rfl rfl
  | rejected => exact .of_eq rfl rfl rfl rfl
  | closed => exact .of_eq rfl rfl rfl rfl
  | intent => exact .of_eq rfl rfl rfl rfl
  | dispatched => exact .of_eq rfl rfl rfl rfl
  | destroyed => exact .of_eq rfl rfl rfl rfl

/-! ### What a drain has dealt with -/

/-- Every registered transaction is terminal or still to be looked at; at the end of
the drain no call is active. -/
def Drain.Covers (s : State) (d : Drain) : Prop :=
  (∀ t ∈ s.transactions, t ∈ s.terminal ∨ t ∈ d.todo) ∧ (d = .drained → s.active = 0)

theorem Drain.Covers.shrink {d : Drain} (h : d.Covers s) (hs : Shrinks s s') : d.Covers s' := by
  refine ⟨fun t ht => ?_, fun hd => ?_⟩
  · exact (h.1 t (hs.transactions ht)).imp_left fun hterminal => hs.terminal hterminal
  · exact Nat.le_zero.mp (h.2 hd ▸ hs.active)

theorem Drain.Covers.move {o : Outcome} {d d' : Drain} (h : d.Covers s)
    (hm : DrainMove s o d u d') : d'.Covers u := by
  cases hm with
  | skip hterminal =>
    refine ⟨fun t ht => ?_, by simp⟩
    rcases h.1 t ht with hdone | hdone
    · exact .inl hdone
    · rcases List.mem_cons.mp hdone with rfl | hdone
      · exact .inl hterminal
      · exact .inr hdone
  | take hterminal =>
    refine ⟨fun t ht => ?_, by simp⟩
    rcases h.1 t ht with hdone | hdone
    · exact .inl (List.mem_cons_of_mem _ hdone)
    · rcases List.mem_cons.mp hdone with rfl | hdone
      · exact .inl List.mem_cons_self
      · exact .inr hdone
  | finished => exact ⟨fun t ht => h.1 t (List.mem_filter.mp ht).1, by simp⟩
  | done hidle => exact ⟨h.1, fun _ => hidle⟩

/-- The flag that a side sets. -/
def State.flag (s : State) : Side → Bool
  | .sleep => s.sleepPrepared
  | .close => s.closing

/-- Where a side is with its drain; before and after it there is nothing to do. -/
def State.drainAt (s : State) (side : Side) : Drain := (s.drainOf side).getD .drained

structure Fence (s : State) : Prop where
  prepared : s.sleeper ≠ .idle → s.sleepPrepared = true
  closing : s.closer ≠ .idle → s.closing = true
  covers : ∀ side, s.flag side = true → (s.drainAt side).Covers s

theorem fence_initial : Fence initial where
  prepared h := absurd rfl h
  closing h := absurd rfl h
  covers side h := by cases side <;> cases h

theorem fenced_of_flag {side : Side} (h : s.flag side = true) : s.fenced = true := by
  cases side <;> simp_all [State.flag, State.fenced]

/-- A side that does nothing keeps what it has dealt with. -/
theorem Fence.covers_of_same (h : Fence s) (hm : Move s a s') {side : Side}
    (hflag : s'.flag side = true → s.flag side = true)
    (hdrain : s'.drainAt side = s.drainAt side) (hset : s'.flag side = true) :
    (s'.drainAt side).Covers s' := by
  have hset' := hflag hset
  rw [hdrain]
  exact (h.covers side hset').shrink (shrinks_of_move (fenced_of_flag hset') hm)

/-- What a call leaves alone. -/
structure SameFence (s s' : State) : Prop where
  closing : s'.closing = s.closing
  sleepPrepared : s'.sleepPrepared = s.sleepPrepared
  sleeper : s'.sleeper = s.sleeper
  closer : s'.closer = s.closer
  accepted : s'.accepted = s.accepted
  returned : s'.returned = s.returned

theorem sameFence_of_opMove {i : Nat} {o : Outcome} {op op' : Op} (hm : OpMove s o op u op') :
    SameFence s { u with ops := s.ops.set i op' } := by
  cases hm <;> exact ⟨rfl, rfl, rfl, rfl, rfl, rfl⟩

theorem sameFence_of_drainMove {o : Outcome} {d d' : Drain} (hm : DrainMove s o d u d') :
    SameFence s u := by
  cases hm <;> exact ⟨rfl, rfl, rfl, rfl, rfl, rfl⟩

theorem Fence.of_sameFence (h : Fence s) (hm : Move s a s') (hsame : SameFence s s') :
    Fence s' where
  prepared hs := by
    rw [hsame.sleepPrepared]
    exact h.prepared (hsame.sleeper ▸ hs)
  closing hs := by
    rw [hsame.closing]
    exact h.closing (hsame.closer ▸ hs)
  covers side := by
    refine h.covers_of_same hm (fun hset => ?_) ?_
    · cases side with
      | sleep => exact hsame.sleepPrepared.symm.trans hset
      | close => exact hsame.closing.symm.trans hset
    · rw [State.drainAt, drainOf_congr hsame.sleeper hsame.closer, State.drainAt]

theorem drainAt_of_drainOf {side : Side} {d : Drain} (h : s.drainOf side = some d) :
    s.drainAt side = d := by
  rw [State.drainAt, h, Option.getD_some]

theorem flag_of_drainOf (h : Fence s) {side : Side} {d : Drain} (hd : s.drainOf side = some d) :
    s.flag side = true := by
  cases side with
  | sleep =>
    refine h.prepared fun hidle => ?_
    simp [State.drainOf, hidle] at hd
  | close =>
    refine h.closing fun hidle => ?_
    simp [State.drainOf, hidle] at hd

theorem fence_of_drainMove (h : Fence s) {side : Side} {o : Outcome} {d d' : Drain}
    (hd : s.drainOf side = some d) (hm : DrainMove s o d u d')
    (hmove : Move s a (u.setDrain side d' o)) : Fence (u.setDrain side d' o) := by
  have hsame := sameFence_of_drainMove hm
  have hset := flag_of_drainOf h hd
  have hflag : ∀ other, (u.setDrain side d' o).flag other = s.flag other := fun other => by
    cases other with
    | sleep => exact hsame.sleepPrepared
    | close => exact hsame.closing
  refine ⟨fun hs => ?_, fun hs => ?_, fun other => ?_⟩
  · have hflag := hflag .sleep
    rw [State.flag, State.flag] at hflag
    rw [hflag]
    refine h.prepared fun hidle => hs ?_
    simp [State.setDrain, hsame.sleeper, hidle, Sleeper.drainTo]
  · have hflag := hflag .close
    rw [State.flag, State.flag] at hflag
    rw [hflag]
    cases side with
    | sleep =>
      refine h.closing fun hidle => hs ?_
      simp [State.setDrain, hsame.closer, hidle]
    | close => exact hset
  · by_cases hside : other = side
    · subst hside
      intro _
      have hcovers := h.covers other hset
      rw [drainAt_of_drainOf hd] at hcovers
      rw [drainAt_of_drainOf
        (drainOf_setDrain_self ((drainOf_congr hsame.sleeper hsame.closer _).trans hd))]
      have hmoved : d'.Covers u := hcovers.move hm
      exact hmoved
    · refine h.covers_of_same hmove (fun hother => hflag other ▸ hother) ?_
      rw [State.drainAt, drainOf_setDrain_ne hside, drainOf_congr hsame.sleeper hsame.closer,
        State.drainAt]

theorem fence_of_move (h : Fence s) (hm : Move s a s') : Fence s' := by
  have hmove := hm
  cases hm with
  | refused => exact h
  | call => exact h.of_sameFence hmove ⟨rfl, rfl, rfl, rfl, rfl, rfl⟩
  | advance _ hm => exact h.of_sameFence hmove (sameFence_of_opMove hm)
  | intent | dispatched | destroyed => exact h.of_sameFence hmove ⟨rfl, rfl, rfl, rfl, rfl, rfl⟩
  | drain hd hm => exact fence_of_drainMove h hd hm hmove
  | sleepAgain hidle _ hprepared =>
    refine ⟨fun _ => hprepared, h.closing, fun side => h.covers_of_same hmove ?_ ?_⟩
    · cases side <;> exact id
    · cases side <;> simp [State.drainAt, State.drainOf, State.report, hidle]
  | sleep hidle hfenced =>
    refine ⟨fun _ => rfl, h.closing, fun side => ?_⟩
    cases side with
    | sleep => exact fun _ => ⟨fun t ht => .inr ht, by simp [State.drainAt, State.drainOf]⟩
    | close => exact h.covers_of_same hmove id rfl
  | close hidle =>
    refine ⟨h.prepared, fun _ => rfl, fun side => ?_⟩
    cases side with
    | sleep => exact h.covers_of_same hmove id rfl
    | close => exact fun _ => ⟨fun t ht => .inr ht, by simp [State.drainAt, State.drainOf]⟩
  | lift hs =>
    refine ⟨fun hne => absurd rfl hne, h.closing, fun side => h.covers_of_same hmove ?_ ?_⟩
    · cases side with
      | sleep =>
        intro hset
        refine h.prepared ?_
        rcases hs with ⟨hs, -⟩ | ⟨hs, -⟩ <;> simp [hs]
      | close => exact id
    · cases side with
      | sleep => rcases hs with ⟨hs, -⟩ | ⟨hs, -⟩ <;> simp [State.drainAt, State.drainOf, hs]
      | close => rfl
  | prepared hs =>
    refine ⟨fun _ => h.prepared (by simp [hs]), h.closing,
      fun side => h.covers_of_same hmove ?_ ?_⟩
    · cases side <;> exact id
    · cases side <;> simp [State.drainAt, State.drainOf, State.report, hs]
  | accepted hs | rejected hs =>
    refine ⟨fun hne => absurd rfl hne, h.closing, fun side => h.covers_of_same hmove ?_ ?_⟩
    · cases side <;> exact id
    · cases side <;> simp [State.drainAt, State.drainOf, hs]
  | closed hs =>
    refine ⟨h.prepared, fun _ => h.closing ?_, fun side => h.covers_of_same hmove ?_ ?_⟩
    · rcases hs with hs | hs <;> simp [hs]
    · cases side <;> exact id
    · cases side with
      | sleep => rfl
      | close => rcases hs with hs | hs <;> simp [State.drainAt, State.drainOf, hs]

theorem fence_of_reaches (h : Reaches s) : Fence s :=
  h.invariant fence_initial fun _ _ _ hf _ hs => fence_of_move hf (move_of_step hs)

/-! ### What the fence is for -/

/-- No drain returns while the other one is in a rollback. -/
def Spaced (s : State) : Action → Prop
  | .prepareReturns => s.sleeper = .draining .drained false → s.rolling .close = none
  | .closeReturns => s.rolling .sleep = none
  | _ => True

/-- The step does not lift the fence. -/
def Unlifted (s : State) (a : Action) : Prop :=
  ∀ s', step s a = some s' → s.fenced = true → s'.fenced = true

/-- Whenever a fence is reported to be in place, nothing is active or registered and
the handle is fenced. Behind the fence no call is let in; only the `Sleep` that has set
it lifts it, when it fails; and it stays for good once a `Sleep` has succeeded or the
handle is closing. -/
structure FenceHolds (s : State) : Prop where
  returned : ∀ r ∈ s.returned, r.active = 0 ∧ r.transactions = [] ∧ r.fenced = true
  stays : s.fenced = true → ∀ s', Run.Reachable step Unlifted s s' →
    s'.fenced = true ∧ s'.ops.length = s.ops.length
  lifted : ∀ a s', step s a = some s' → s.fenced = true → s'.fenced = false →
    s.sleeper = .draining .drained true ∧ a = .prepareReturns ∨
      s.sleeper = .prepared true ∧ a = .requestSleep false
  final : s.accepted = true ∨ s.closing = true → ∀ s', Later s s' →
    s'.fenced = true ∧ s'.ops.length = s.ops.length

theorem stays_of_unlifted (hfenced : s.fenced = true) (h : Run.Reachable step Unlifted s s') :
    s'.fenced = true ∧ s'.ops.length = s.ops.length := by
  refine h.invariant (P := fun v => v.fenced = true ∧ v.ops.length = s.ops.length)
    ⟨hfenced, rfl⟩ fun v a v' hv hunlifted hs => ?_
  have hshrinks := shrinks_of_move hv.1 (move_of_step hs)
  exact ⟨hunlifted v' hs hv.1, hshrinks.ops.trans hv.2⟩

theorem lift_of_move (hm : Move s a s') (hfenced : s.fenced = true) (hopen : s'.fenced = false) :
    s.sleeper = .draining .drained true ∧ a = .prepareReturns ∨
      s.sleeper = .prepared true ∧ a = .requestSleep false := by
  have hsame : s'.fenced = s.fenced → False := fun he => by
    rw [he, hfenced] at hopen
    cases hopen
  cases hm with
  | lift hs => exact hs
  | refused => exact (hsame rfl).elim
  | call hfenced' => exact absurd (hfenced'.symm.trans hfenced) (by simp)
  | advance _ hm =>
    have hframe := sameFence_of_opMove (i := 0) hm
    exact (hsame (by simp only [State.fenced]; rw [hframe.closing, hframe.sleepPrepared])).elim
  | sleepAgain => exact (hsame rfl).elim
  | sleep _ hfenced' => exact absurd (hfenced'.symm.trans hfenced) (by simp)
  | close => simp [State.fenced] at hopen
  | drain _ hm =>
    have hframe := sameFence_of_drainMove hm
    exact (hsame (by
      simp only [State.fenced, State.setDrain]
      rw [hframe.closing, hframe.sleepPrepared])).elim
  | prepared => exact (hsame rfl).elim
  | accepted => exact (hsame rfl).elim
  | rejected => exact (hsame rfl).elim
  | closed => exact (hsame rfl).elim
  | intent => exact (hsame rfl).elim
  | dispatched => exact (hsame rfl).elim
  | destroyed => exact (hsame rfl).elim

/-! ### The fence that stays -/

/-- After a `Sleep` that succeeded no other one gets to lift the fence. -/
def Held (s : State) : Prop :=
  s.accepted = true →
    s.sleepPrepared = true ∧ (s.sleeper = .idle ∨ s.sleeper = .prepared false)

theorem Held.of_sameFence (h : Held s) (hsame : SameFence s s') : Held s' := by
  rw [Held, hsame.accepted, hsame.sleepPrepared, hsame.sleeper]
  exact h

theorem held_of_move (hf : Fence s) (h : Held s) (hm : Move s a s') : Held s' := by
  cases hm with
  | refused => exact h
  | call => exact h
  | intent => exact h
  | dispatched => exact h
  | destroyed => exact h
  | close => exact h
  | closed => exact h
  | advance _ hm => exact h.of_sameFence (sameFence_of_opMove hm)
  | sleepAgain _ _ hprepared => exact fun _ => ⟨hprepared, .inr rfl⟩
  | sleep _ hfenced =>
    intro haccepted
    have hprepared := (h haccepted).1
    simp [State.fenced, hprepared] at hfenced
  | drain hd hm =>
    rename_i side o d d' v
    have hsame := sameFence_of_drainMove hm
    intro haccepted
    obtain ⟨hprepared, hs⟩ := h (hsame.accepted.symm.trans haccepted)
    cases side with
    | sleep => rcases hs with hs | hs <;> simp [State.drainOf, hs] at hd
    | close =>
      refine ⟨hsame.sleepPrepared.trans hprepared, ?_⟩
      simpa [State.setDrain, hsame.sleeper] using hs
  | lift hs =>
    intro haccepted
    obtain ⟨-, hheld⟩ := h haccepted
    rcases hs with ⟨hs, -⟩ | ⟨hs, -⟩ <;> simp [hs] at hheld
  | prepared hs =>
    intro haccepted
    obtain ⟨-, hheld⟩ := h haccepted
    simp [hs] at hheld
  | accepted hs => exact fun _ => ⟨hf.prepared (by simp [hs]), .inl rfl⟩
  | rejected hs => exact fun _ => ⟨hf.prepared (by simp [hs]), .inl rfl⟩

/-- Neither an accepted intent nor a close is taken back. -/
theorem final_of_move (hm : Move s a s') (h : s.accepted = true ∨ s.closing = true) :
    s'.accepted = true ∨ s'.closing = true := by
  cases hm with
  | advance _ hm =>
    have hsame := sameFence_of_opMove (i := 0) hm
    exact h.imp hsame.accepted.trans hsame.closing.trans
  | drain _ hm =>
    have hsame := sameFence_of_drainMove hm
    exact h.imp hsame.accepted.trans hsame.closing.trans
  | close => exact .inr rfl
  | accepted => exact .inl rfl
  | refused => exact h
  | call => exact h
  | intent => exact h
  | dispatched => exact h
  | destroyed => exact h
  | sleepAgain => exact h
  | sleep => exact h
  | lift => exact h
  | prepared => exact h
  | rejected => exact h
  | closed => exact h

theorem held_of_reaches (h : Reaches s) : Held s := by
  have hboth : Fence s ∧ Held s := by
    refine h.invariant (P := fun v => Fence v ∧ Held v)
      ⟨fence_initial, fun haccepted => absurd haccepted (by simp [initial])⟩ ?_
    intro v a v' hv _ hs
    have hmove := move_of_step hs
    exact ⟨fence_of_move hv.1 hmove, held_of_move hv.1 hv.2 hmove⟩
  exact hboth.2

theorem fenced_of_final (h : Held s) (hfinal : s.accepted = true ∨ s.closing = true) :
    s.fenced = true := by
  rcases hfinal with haccepted | hclosing
  · simp [State.fenced, (h haccepted).1]
  · simp [State.fenced, hclosing]

theorem stays_of_final (h : Reaches s) (hfinal : s.accepted = true ∨ s.closing = true)
    (hlater : Later s s') : s'.fenced = true ∧ s'.ops.length = s.ops.length := by
  have hboth : Reaches s' ∧ (s'.accepted = true ∨ s'.closing = true) ∧
      s'.ops.length = s.ops.length := by
    refine hlater.invariant (P := fun v => Reaches v ∧ (v.accepted = true ∨ v.closing = true) ∧
      v.ops.length = s.ops.length) ⟨h, hfinal, rfl⟩ fun v a v' hv _ hs => ?_
    obtain ⟨hreach, hfinal, hops⟩ := hv
    have hmove := move_of_step hs
    have hfenced := fenced_of_final (held_of_reaches hreach) hfinal
    exact ⟨hreach.next a trivial hs, final_of_move hmove hfinal,
      (shrinks_of_move hfenced hmove).ops.trans hops⟩
  exact ⟨fenced_of_final (held_of_reaches hboth.1) hboth.2.1, hboth.2.2⟩

/-! ### What is left when a drain returns -/

/-- A drain is through and nobody is rolling back. -/
theorem clean_of_drained (side : Side) (h : Sound s) (hf : Fence s) (hset : s.flag side = true)
    (hdrained : s.drainAt side = .drained) (hrolling : ∀ side, s.rolling side = none) :
    s.active = 0 ∧ s.transactions = [] ∧ s.fenced = true := by
  obtain ⟨hcovers, hactive⟩ := hf.covers side hset
  rw [hdrained] at hcovers hactive
  have hactive := hactive rfl
  refine ⟨hactive, ?_, fenced_of_flag hset⟩
  refine h.custody.registered_eq_nil (fun t ht => ?_) fun t w hw => ?_
  · exact (hcovers t ht).resolve_right List.not_mem_nil
  · cases w with
    | op i => exact h.not_owns_op hactive t i hw
    | drain side => exact absurd ((hrolling side).symm.trans hw) (by simp)

/-- When a fence is reported to be in place. -/
inductive Reports (s : State) : Action → Prop where
  | sleepAgain : s.sleeper = .idle → s.closing = false → s.sleepPrepared = true → Reports s .sleep
  | prepared : s.sleeper = .draining .drained false → Reports s .prepareReturns
  | closed : s.closer = .draining .drained ∨ s.closer = .closed → Reports s .closeReturns

theorem returned_of_move (hm : Move s a s') : s'.returned = s.returned ∨
    s'.returned = s.returned ++ [⟨s.active, s.transactions, s.fenced⟩] ∧ Reports s a := by
  cases hm with
  | sleepAgain hidle hclosing hprepared => exact .inr ⟨rfl, .sleepAgain hidle hclosing hprepared⟩
  | prepared hs => exact .inr ⟨rfl, .prepared hs⟩
  | closed hs => exact .inr ⟨rfl, .closed hs⟩
  | advance _ hm => exact .inl (sameFence_of_opMove (i := 0) hm).returned
  | drain _ hm => exact .inl (sameFence_of_drainMove hm).returned
  | refused => exact .inl rfl
  | call => exact .inl rfl
  | intent => exact .inl rfl
  | dispatched => exact .inl rfl
  | destroyed => exact .inl rfl
  | sleep => exact .inl rfl
  | close => exact .inl rfl
  | lift => exact .inl rfl
  | accepted => exact .inl rfl
  | rejected => exact .inl rfl

theorem rolling_close_of_idle (h : s.closer = .idle) : s.rolling .close = none := by
  simp [State.rolling, State.drainOf, h]

theorem clean_of_reports (h : Sound s) (hf : Fence s) (hr : Reports s a) (hspaced : Spaced s a) :
    s.active = 0 ∧ s.transactions = [] ∧ s.fenced = true := by
  cases hr with
  | sleepAgain hidle hclosing hprepared =>
    have hcloser : s.closer = .idle := by
      by_contra hne
      exact absurd (hclosing.symm.trans (hf.closing hne)) (by simp)
    refine clean_of_drained .sleep h hf hprepared (by simp [State.drainAt, State.drainOf, hidle])
      fun side => ?_
    cases side with
    | sleep => exact rolling_sleep_of_idle hidle
    | close => exact rolling_close_of_idle hcloser
  | prepared hs =>
    refine clean_of_drained .sleep h hf (hf.prepared (by simp [hs]))
      (by simp [State.drainAt, State.drainOf, hs]) fun side => ?_
    cases side with
    | sleep => exact rolling_sleep_of_drained hs
    | close => exact hspaced hs
  | closed hs =>
    have hset : s.closing = true := hf.closing (by rcases hs with hs | hs <;> simp [hs])
    refine clean_of_drained .close h hf hset
      (by rcases hs with hs | hs <;> simp [State.drainAt, State.drainOf, hs]) fun side => ?_
    cases side with
    | sleep => exact hspaced
    | close => rcases hs with hs | hs <;> simp [State.rolling, State.drainOf, hs]

/-- What is rolled back is still registered. -/
theorem transactions_ne_nil_of_rolling (h : Sound s) {side : Side}
    (hrolling : s.rolling side ≠ none) : s.transactions ≠ [] := by
  obtain ⟨t, ht⟩ := Option.ne_none_iff_exists'.mp hrolling
  have hmem := h.custody.registered_of_owns (show s.Owns t (.drain side) from ht)
  exact List.ne_nil_of_mem hmem

/-- A drain has returned and left a transaction. -/
def LeftOver (s : State) : Prop := ∃ r ∈ s.returned, r.transactions ≠ []

theorem leftOver_of_not_spaced (h : Reaches s) (hspaced : ¬ Spaced s a)
    (hs : step s a = some s') : LeftOver s' := by
  have hsound := sound_of_reaches h
  have hleft : ∀ v : State, s.transactions ≠ [] → v.returned = s.report.returned →
      LeftOver v := fun v hne he =>
    ⟨⟨s.active, s.transactions, s.fenced⟩, by simp [he, State.report], hne⟩
  cases a with
  | prepareReturns =>
    obtain ⟨hdrained, hrolling⟩ := Classical.not_imp.mp hspaced
    obtain rfl : _ = s' := by simpa [step, hdrained] using hs
    exact hleft _ (transactions_ne_nil_of_rolling hsound hrolling) rfl
  | closeReturns =>
    have hne := transactions_ne_nil_of_rolling hsound hspaced
    simp only [step] at hs
    split at hs
    · obtain rfl := Option.some.inj hs
      exact hleft _ hne rfl
    · obtain rfl := Option.some.inj hs
      exact hleft _ hne rfl
    · cases hs
  | _ => exact absurd trivial hspaced

theorem leftOver_step : Run.Keeps step Run.anyAction LeftOver := by
  rintro s a s' ⟨r, hr, hleft⟩ - hs
  refine ⟨r, ?_, hleft⟩
  rcases returned_of_move (move_of_step hs) with he | ⟨he, -⟩
  · rwa [he]
  · rw [he]
    exact List.mem_append_left _ hr

theorem clean_of_allowed (h : Run.Reachable step Spaced initial s) :
    ∀ r ∈ s.returned, r.active = 0 ∧ r.transactions = [] ∧ r.fenced = true := by
  induction h with
  | init => simp [initial]
  | step hreach hspaced hs ih =>
    have hreach : Reaches _ := hreach.mono fun _ _ _ => trivial
    rcases returned_of_move (move_of_step hs) with he | ⟨he, hr⟩
    · rwa [he]
    · rw [he]
      intro r hmem
      rcases List.mem_append.mp hmem with hmem | hmem
      · exact ih r hmem
      · obtain rfl := List.mem_singleton.mp hmem
        exact clean_of_reports (sound_of_reaches hreach) (fence_of_reaches hreach) hr hspaced

/-- The fence of the handle is what it should be exactly in the runs in which no drain
returns while the other one is in a rollback. -/
theorem fence_iff {as : List Action} (hrun : Run.run step initial as = some s) :
    FenceHolds s ↔ Run.Allowed step Spaced initial as := by
  have hreach : Reaches s := Run.reachable_of_run as hrun
  constructor
  · intro h
    by_contra hnot
    obtain ⟨r, hr, hleft⟩ : LeftOver s := Run.of_not_allowed .init
      (fun _ _ _ hv hbad hs => leftOver_of_not_spaced hv hbad hs) leftOver_step hrun hnot
    exact hleft (h.returned r hr).2.1
  · intro hallowed
    exact
      { returned := clean_of_allowed (Run.Reachable.init.run hallowed hrun)
        stays := fun hfenced s' hs' => stays_of_unlifted hfenced hs'
        lifted := fun a s' hs hfenced hopen => lift_of_move (move_of_step hs) hfenced hopen
        final := fun hfinal s' hs' => stays_of_final hreach hfinal hs' }

/-- A transaction is opened. -/
def opening : List Action :=
  [.call .begin, .advance 0 .notSent, .advance 0 (.answered none), .advance 0 .notSent,
    .advance 0 .notSent, .advance 0 .notSent]

/-- `Sleep` rolls the transaction back, fails to be accepted, and lifts the fence; a
later `Destroy` finds nothing. -/
def rejectedSleep : List Action :=
  opening ++ ([.sleep, .drain .sleep .notSent, .dispatchSqliteFinish 0,
    .drain .sleep (.answered none), .drain .sleep .notSent, .prepareReturns, .requestSleep false,
    .close, .drain .close .notSent, .closeReturns] : List Action)

theorem rejectedSleep_fenced : ∃ s, Run.run step initial rejectedSleep = some s ∧
    s.returned.length = 2 ∧ FenceHolds s := by
  refine ⟨_, rfl, rfl,
    (fence_iff (rfl : Run.run step initial rejectedSleep = some _)).mpr ?_⟩
  refine ⟨trivial, trivial, trivial, trivial, trivial, trivial, trivial, trivial, trivial, trivial,
    trivial, fun _ => rfl, trivial, trivial, trivial, rfl, trivial⟩

/-- `Sleep` has made the transaction terminal and waits for its rollback. `Destroy`
passes over the transaction and finds no call active. -/
def destroyDuringSleep : List Action :=
  opening ++ ([.sleep, .drain .sleep .notSent, .close, .drain .close .notSent,
    .drain .close .notSent, .closeReturns] : List Action)

/-- `closeTransport` has returned, and the transaction is still registered and its
lease still open. -/
theorem destroyed_over_transaction : ∃ s, Run.run step initial destroyDuringSleep = some s ∧
    s.closer = .closed ∧ s.transactions = [0] ∧ s.leases = [0] ∧ ¬ FenceHolds s := by
  refine ⟨_, rfl, rfl, rfl, rfl, fun h => ?_⟩
  have hempty := (h.returned _ (List.mem_singleton.mpr rfl)).2.1
  cases hempty

end RivetGo.Database

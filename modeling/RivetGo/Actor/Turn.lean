import RivetGo.Actor.Worker

/-!
# One callback at a time

The turn keeps the callbacks of the worker and `Run` apart until the worker leaves its
loop. After that the worker calls `OnDisconnect` without the turn, and the only other
callback there is by then is `Run`, if it has not ended.
-/

namespace RivetGo.Actor

variable {s s' : State} {a : Action}

/-! ## Who has the turn -/

/-- The worker has the turn. -/
def Worker.HasTurn : Worker → Prop
  | .executing _ => True
  | .draining => True
  | _ => False

/-- The worker has not left its loop. -/
def Worker.InLoop : Worker → Prop
  | .exiting _ => False
  | .closing _ _ => False
  | .disconnecting _ _ => False
  | .disconnectWaiting _ _ => False
  | .leaving _ => False
  | .returned _ => False
  | _ => True

/-- `Run` has not been started. -/
def Worker.Early : Worker → Prop
  | .starting => True
  | .started _ => True
  | _ => False

/-- As long as the worker is in its loop the turn is locked by the callback that has it. -/
structure Ordered (s : State) : Prop where
  early : s.worker.Early → s.runner = .absent
  turn : s.worker.InLoop → (s.turn = true ↔ s.worker.HasTurn ∨ s.runner = .executing)
  apart : s.worker.HasTurn → s.runner ≠ .executing

theorem ordered_initial (hasRun : Bool) : Ordered (initial hasRun) where
  early _ := rfl
  turn _ := ⟨Bool.noConfusion, Or.rec False.elim Runner.noConfusion⟩
  apart h := h.elim

namespace Shift

variable {w w' : Worker}

theorem hasTurn_iff (h : Shift a w w') : w'.HasTurn ↔ w.HasTurn := by
  cases h <;> rfl

theorem inLoop_of (h : Shift a w w') (hloop : w'.InLoop) : w.InLoop := by
  cases h <;> first | exact hloop.elim | trivial

theorem early_of (h : Shift a w w') (hearly : w'.Early) : w.Early := by
  cases h <;> first | exact hearly.elim | trivial

end Shift

theorem Takes.spec {w w' : Worker} (h : Takes a w w') : w.InLoop ∧ w'.HasTurn ∧ ¬w'.Early := by
  cases h <;> exact ⟨trivial, trivial, not_false⟩

theorem Gives.spec {w w' : Worker} (h : Gives a w w') : w.HasTurn ∧ ¬w'.HasTurn ∧ ¬w'.Early := by
  cases h <;> exact ⟨trivial, not_false, not_false⟩

theorem Meddles.spec {w w' : Worker} (h : Meddles a w w') :
    ¬w'.InLoop ∧ ¬w'.HasTurn ∧ ¬w'.Early := by
  cases h <;> exact ⟨not_false, not_false, not_false⟩

theorem Worker.HasTurn.inLoop {w : Worker} (h : w.HasTurn) : w.InLoop := by
  cases w <;> first | exact h.elim | trivial

theorem Ordered.free (h : Ordered s) (hloop : s.worker.InLoop) (hfree : s.turn = false) :
    ¬s.worker.HasTurn ∧ s.runner ≠ .executing := by
  have hturn := (h.turn hloop).not.mp (Bool.eq_false_iff.mp hfree)
  exact not_or.mp hturn

theorem ordered_step (h : Ordered s) (hs : step s a = some s') : Ordered s' := by
  cases (move_of_step hs).1 with
  | shift _ _ hshift hrunner hturn =>
    refine ⟨fun hearly => ?_, fun hloop => ?_, fun hw => ?_⟩
    · exact hrunner ▸ h.early (hshift.early_of hearly)
    · rw [hturn, hrunner, hshift.hasTurn_iff]
      exact h.turn (hshift.inLoop_of hloop)
    · exact hrunner ▸ h.apart (hshift.hasTurn_iff.mp hw)
  | spawn _ _ hworker hready hrunner hturn =>
    have habsent : s.runner = .absent := h.early (hworker ▸ trivial)
    have hbefore := h.turn (hworker ▸ trivial)
    rw [habsent, hworker, ← hturn] at hbefore
    refine ⟨fun hearly => ?_, fun _ => ?_, fun _ => hrunner⟩
    · rw [hready] at hearly
      exact hearly.elim
    · rw [hbefore, hready]
      exact or_congr Iff.rfl (iff_of_false Runner.noConfusion hrunner)
  | takes _ _ htakes hrunner hfree hturn =>
    obtain ⟨hloop, hhas, hlate⟩ := htakes.spec
    obtain ⟨-, hidle⟩ := h.free hloop hfree
    exact ⟨fun hearly => absurd hearly hlate, fun _ => by simp [hturn, hhas],
      fun _ => hrunner ▸ hidle⟩
  | gives _ _ hgives hrunner hturn =>
    obtain ⟨hhas, hnot, hlate⟩ := hgives.spec
    have hidle := h.apart hhas
    exact ⟨fun hearly => absurd hearly hlate, fun _ => by simp [hturn, hnot, hrunner, hidle],
      fun hw => absurd hw hnot⟩
  | meddles _ _ hmeddles _ =>
    obtain ⟨hout, hnot, hlate⟩ := hmeddles.spec
    exact ⟨fun hearly => absurd hearly hlate, fun hloop => absurd hloop hout,
      fun hw => absurd hw hnot⟩
  | runTakes _ _ _ hbefore hrunner hworker hfree hturn =>
    refine ⟨fun hearly => ?_, fun _ => iff_of_true hturn (.inr hrunner), fun hhas => ?_⟩
    · have habsent := h.early (hworker ▸ hearly)
      rw [habsent] at hbefore
      exact (not_or.mpr ⟨Runner.noConfusion, Runner.noConfusion⟩ hbefore).elim
    · rw [hworker] at hhas
      exact absurd hhas (h.free hhas.inLoop hfree).1
  | runGives _ _ _ hbefore hrunner hworker hturn =>
    have hidle : ¬s.worker.HasTurn := fun hhas => h.apart hhas hbefore
    have hafter : s'.runner ≠ .executing := by
      rcases hrunner with hr | hr <;> rw [hr] <;> exact Runner.noConfusion
    refine ⟨fun hearly => ?_, fun _ => ?_, fun _ => hafter⟩
    · have habsent := h.early (hworker ▸ hearly)
      exact Runner.noConfusion (habsent.symm.trans hbefore)
    · rw [hworker]
      exact iff_of_false (Bool.eq_false_iff.mp hturn) (not_or.mpr ⟨hidle, hafter⟩)

theorem ordered_of_reachable {hasRun : Bool}
    (h : Run.Reachable step Run.anyAction (initial hasRun) s) : Ordered s :=
  h.invariant (P := Ordered) (ordered_initial hasRun) fun _ _ _ ho _ hs => ordered_step ho hs

/-! ## The callbacks that are executing -/

/-- The callback that the worker is in. A callback that waits in the queue is not executing. -/
def Worker.executing? : Worker → Option Callback
  | .starting => some .onStart
  | .executing c => some c
  | .disconnecting _ _ => some .onDisconnect
  | _ => none

def Runner.executing? : Runner → Option Callback
  | .executing => some .run
  | _ => none

def State.executing (s : State) : List Callback :=
  s.worker.executing?.toList ++ s.runner.executing?.toList

/-- At most one callback of the generation is executing. -/
def Exclusive (s : State) : Prop := s.executing.length ≤ 1

instance : DecidablePred Exclusive := fun s => inferInstanceAs (Decidable (s.executing.length ≤ 1))

theorem runner_executing?_eq_none {r : Runner} : r.executing? = none ↔ r ≠ .executing := by
  cases r <;> simp [Runner.executing?]

theorem exclusive_iff :
    Exclusive s ↔ (s.worker.executing? = none ∨ s.runner ≠ .executing) := by
  rw [← runner_executing?_eq_none, Exclusive, State.executing]
  cases s.worker.executing? <;> cases s.runner.executing? <;> simp

/-- The worker is in an `OnDisconnect` of `CloseWebSockets`. -/
def Worker.Telling : Worker → Prop
  | .disconnecting _ _ => True
  | _ => False

/-- `OnDisconnect` starts or goes on outside the turn only while `Run` is not executing, and
`Run` takes the turn only while no such `OnDisconnect` is executing. -/
def Apart (s : State) : Action → Prop
  | .disconnect => s.runner ≠ .executing
  | .disconnectResume => s.runner ≠ .executing
  | .runAcquire => ¬s.worker.Telling
  | .runResume => ¬s.worker.Telling
  | _ => True

theorem executing?_eq_none {w : Worker} (hearly : ¬w.Early) (hturn : ¬w.HasTurn) :
    w.executing? = none ↔ ¬w.Telling := by
  cases w with
  | starting => exact absurd trivial hearly
  | executing c => exact absurd trivial hturn
  | disconnecting e left => exact iff_of_false (Option.some_ne_none _) (not_not_intro trivial)
  | _ => exact iff_of_true rfl not_false

theorem Shift.exclusive_iff (h : Shift a s.worker s'.worker) (hrunner : s'.runner = s.runner) :
    Exclusive s' ↔ Apart s a := by
  rw [Actor.exclusive_iff, hrunner]
  generalize s.worker = w, s'.worker = w' at h
  cases h with
  | disconnect e left => exact or_iff_right (Option.some_ne_none _)
  | _ => exact iff_of_true (.inl rfl) trivial

theorem Meddles.exclusive_iff (h : Meddles a s.worker s'.worker) (hrunner : s'.runner = s.runner) :
    Exclusive s' ↔ Apart s a := by
  rw [Actor.exclusive_iff, hrunner]
  generalize s.worker = w, s'.worker = w' at h
  cases h with
  | disconnectYield e left => exact iff_of_true (.inl rfl) trivial
  | disconnectResume e left => exact or_iff_right (Option.some_ne_none _)

theorem Ordered.exclusive_iff_of_runTakes (h : Ordered s) (ha : a = .runAcquire ∨ a = .runResume)
    (hbefore : s.runner = .spawned ∨ s.runner = .suspended) (hrunner : s'.runner = .executing)
    (hworker : s'.worker = s.worker) (hfree : s.turn = false) : Exclusive s' ↔ Apart s a := by
  have hearly : ¬s.worker.Early := fun hearly => by
    rw [h.early hearly] at hbefore
    exact not_or.mpr ⟨Runner.noConfusion, Runner.noConfusion⟩ hbefore
  have hturn : ¬s.worker.HasTurn := fun hhas => (h.free hhas.inLoop hfree).1 hhas
  have hiff := executing?_eq_none hearly hturn
  rw [exclusive_iff, hworker, hrunner, or_iff_left (not_not_intro rfl), hiff]
  rcases ha with rfl | rfl <;> rfl

theorem Ordered.exclusive_iff_of_step (h : Ordered s) (hs : step s a = some s') :
    Exclusive s' ↔ Apart s a := by
  cases (move_of_step hs).1 with
  | shift _ _ hshift hrunner _ => exact hshift.exclusive_iff hrunner
  | spawn _ _ _ _ hrunner _ => exact iff_of_true (exclusive_iff.mpr (.inr hrunner)) trivial
  | takes _ _ htakes hrunner hfree _ =>
    obtain ⟨hloop, -, -⟩ := htakes.spec
    obtain ⟨-, hidle⟩ := h.free hloop hfree
    refine iff_of_true (exclusive_iff.mpr (.inr (hrunner ▸ hidle))) ?_
    generalize s.worker = w, s'.worker = w' at htakes
    cases htakes <;> trivial
  | gives _ _ hgives hrunner _ =>
    obtain ⟨hhas, -, -⟩ := hgives.spec
    refine iff_of_true (exclusive_iff.mpr (.inr (hrunner ▸ h.apart hhas))) ?_
    generalize s.worker = w, s'.worker = w' at hgives
    cases hgives <;> trivial
  | meddles _ _ hmeddles hrunner => exact hmeddles.exclusive_iff hrunner
  | runTakes _ _ ha hbefore hrunner hworker hfree _ =>
    exact h.exclusive_iff_of_runTakes ha hbefore hrunner hworker hfree
  | runGives _ _ ha _ hrunner _ _ =>
    refine iff_of_true (exclusive_iff.mpr (.inr ?_)) ?_
    · rcases hrunner with hr | hr <;> rw [hr] <;> exact Runner.noConfusion
    · rcases ha with rfl | rfl <;> trivial

/-- The callbacks of a generation never overlap in a run exactly if no `OnDisconnect` of
`CloseWebSockets` meets an executing `Run`. -/
theorem neverOverlap_iff {hasRun : Bool} {as : List Action}
    (hr : Run.run step (initial hasRun) as = some s') :
    Run.Throughout step Exclusive (initial hasRun) as ↔
      Run.Allowed step Apart (initial hasRun) as := by
  refine Run.throughout_iff .init ?_ (fun s a s' hreach _ hs => ?_) hr
  · exact exclusive_iff.mpr (.inr Runner.noConfusion)
  · exact (ordered_of_reachable hreach).exclusive_iff_of_step hs

/-- `Run` waits in the queue, an action runs meanwhile, `Run` ends, and the actor stops with
the socket of a panicked `OnConnect` left. -/
def yieldAndStop : List Action :=
  [.startReturns true, .submitStartResult true, .runAcquire, .runYield, .take .onConnect, .acquire,
    .finish true, .submitResult true, .take .action, .acquire, .yield, .runResume, .runYield,
    .resume, .finish false, .submitResult true, .takeStop false, .runResume, .runFinish,
    .runStopped, .acquire, .finish false, .completeStop, .submitStopResult, .closeWebSockets 1,
    .disconnect, .disconnected, .closed, .exit]

theorem yieldAndStop_neverOverlap : ∃ s, Run.run step (initial true) yieldAndStop = some s ∧
    s.worker = .returned .stopped ∧ Run.Throughout step Exclusive (initial true) yieldAndStop := by
  refine ⟨_, rfl, rfl,
    (neverOverlap_iff (rfl : Run.run step (initial true) yieldAndStop = some _)).mpr ?_⟩
  exact ⟨trivial, trivial, not_false, trivial, trivial, trivial, trivial, trivial, trivial,
    trivial, trivial, not_false, trivial, trivial, trivial, trivial, trivial, not_false, trivial,
    trivial, trivial, trivial, trivial, trivial, trivial, Runner.noConfusion, trivial, trivial,
    trivial, trivial⟩

/-- `OnConnect` panics, which leaves its socket with the adapter and asks for a stop, and
`Run` does not end in time: the worker tells the socket while `Run` is executing. Or
`OnConnect` accepts a socket and an action panics: `Run` takes the turn while the worker
tells the socket. -/
theorem disconnect_during_run :
    (∃ s, Run.run step (initial true)
        [.startReturns true, .submitStartResult true, .take .onConnect, .acquire, .finish true,
          .submitResult true, .runAcquire, .takeStop false, .runTimeout, .submitStopResult,
          .closeWebSockets 1, .disconnect] = some s ∧
      s.executing = [.onDisconnect, .run] ∧ ¬Exclusive s) ∧
    ∃ s, Run.run step (initial true)
        [.startReturns true, .submitStartResult true, .take .onConnect, .acquire, .finish false,
          .submitResult true, .take .action, .acquire, .finish true, .submitResult true,
          .closeWebSockets 1, .disconnect, .runAcquire] = some s ∧
      s.executing = [.onDisconnect, .run] ∧ ¬Exclusive s :=
  ⟨⟨_, rfl, rfl, by decide⟩, ⟨_, rfl, rfl, by decide⟩⟩

end RivetGo.Actor

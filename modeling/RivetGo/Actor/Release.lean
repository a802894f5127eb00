import RivetGo.Actor.Worker

/-!
# What a generation leaves behind

`Stop` of the adapter is the only place that ends the admission of managed work and closes
the database. A worker that returns for another reason than `ActorStop`, or whose `Run` has
not ended in time, has not called it.
-/

namespace RivetGo.Actor

variable {s s' : State} {a : Action}

/-! ## The property -/

/-- Admission has ended, the managed work is cancelled and the database is closed. -/
def Marks.Released (m : Marks) : Prop :=
  m.admissionStopped = true ∧ m.managedCancelled = true ∧ m.dbClosed = true

def Worker.Returned : Worker → Prop
  | .returned _ => True
  | _ => False

/-- Everything is released before `ActorStopResult` is submitted, and when the worker of a
started actor has returned. -/
structure Releases (s : State) : Prop where
  result : s.marks.stopResult = true → s.marks.Released
  returned : s.marks.startSucceeded = true → s.worker.Returned → s.marks.Released

/-- `ActorStopResult` is submitted after `Stop` only, and the worker of a started actor
returns after `Stop` only. -/
def AfterStop (s : State) : Action → Prop
  | .submitStopResult => s.worker ≠ .finishing true
  | .exit => s.startSucceeded = true → s.worker = .leaving .stopped
  | _ => True

/-! ## What holds of every reachable state -/

/-- How the worker leaves, once that is decided. -/
def Worker.exit? : Worker → Option Exit
  | .finishing timedOut => some (if timedOut then .runTimeout else .stopped)
  | .exiting e => some e
  | .closing e _ => some e
  | .disconnecting e _ => some e
  | .disconnectWaiting e _ => some e
  | .leaving e => some e
  | .returned e => some e
  | _ => none

/-- The worker is in `Stop`. -/
def Worker.InStop : Worker → Prop
  | .awaiting c => c = .onStop
  | .executing c => c = .onStop
  | .suspended c => c = .onStop
  | .draining => True
  | _ => False

/-- The database is closed by a `Stop` that has returned, and by nothing else. -/
structure Accounted (s : State) : Prop where
  admission : s.worker.InStop → s.marks.admissionStopped = true
  released : s.worker.exit? = some .stopped → s.marks.Released
  stillOpen : s.worker.exit? ≠ some .stopped → s.marks.dbClosed = false

theorem accounted_initial (hasRun : Bool) : Accounted (initial hasRun) where
  admission h := h.elim
  released h := absurd h.symm (Option.some_ne_none _)
  stillOpen _ := rfl

namespace Marks

variable {m : Marks}

theorem Released.mark (h : m.Released) : (a.mark m).Released := by
  obtain ⟨hadmission, hmanaged, hclosed⟩ := h
  cases a with
  | runStopped => exact ⟨rfl, hmanaged, hclosed⟩
  | completeStop => exact ⟨hadmission, rfl, rfl⟩
  | exit => exact ⟨hadmission, rfl, hclosed⟩
  | _ => exact ⟨hadmission, hmanaged, hclosed⟩

theorem mark_admissionStopped (h : m.admissionStopped = true) :
    (a.mark m).admissionStopped = true := by
  cases a with
  | runStopped => rfl
  | _ => exact h

theorem mark_dbClosed (ha : a ≠ .completeStop) : (a.mark m).dbClosed = m.dbClosed := by
  cases a with
  | completeStop => exact absurd rfl ha
  | _ => rfl

theorem mark_stopResult (ha : a ≠ .submitStopResult) : (a.mark m).stopResult = m.stopResult := by
  cases a with
  | submitStopResult => exact absurd rfl ha
  | _ => rfl

end Marks

/-- How a step moves the worker. -/
inductive Moves : Action → Worker → Worker → Prop
  | shift {a : Action} {w w' : Worker} (h : Shift a w w') : Moves a w w'
  | spawn (ok : Bool) : Moves (.submitStartResult ok) (.started true) .ready
  | takes {a : Action} {w w' : Worker} (h : Takes a w w') : Moves a w w'
  | gives {a : Action} {w w' : Worker} (h : Gives a w w') : Moves a w w'
  | meddles {a : Action} {w w' : Worker} (h : Meddles a w w') : Moves a w w'
  | run (a : Action) (w : Worker) : Moves a w w

theorem Move.moves (h : Move s a s') : Moves a s.worker s'.worker := by
  cases h with
  | shift _ _ h _ _ => exact .shift h
  | spawn ok _ hworker hready _ _ => exact hworker ▸ hready ▸ .spawn ok
  | takes _ _ h _ _ _ => exact .takes h
  | gives _ _ h _ _ => exact .gives h
  | meddles _ _ h _ => exact .meddles h
  | runTakes _ _ _ _ _ hworker _ _ => exact hworker ▸ .run _ _
  | runGives _ _ _ _ _ hworker _ => exact hworker ▸ .run _ _

namespace Moves

variable {w w' : Worker}

/-- Only `completeStop` decides that the worker leaves after `Stop`. -/
theorem stopped_iff (h : Moves a w w') (ha : a ≠ .completeStop) :
    w'.exit? = some .stopped ↔ w.exit? = some .stopped := by
  have hother : ∀ {e : Exit}, e ≠ .stopped →
      (some e = some Exit.stopped ↔ none = some Exit.stopped) :=
    fun he => iff_of_false (fun h => he (Option.some.inj h)) (Option.some_ne_none _).symm
  cases h with
  | shift h =>
    cases h with
    | startEnds _ _ e he => exact hother he
    | giveUp _ _ _ e he => exact hother he
    | takeUnexpected => exact hother Exit.noConfusion
    | cancelled => exact hother Exit.noConfusion
    | runTimeout => exact hother Exit.noConfusion
    | _ => rfl
  | gives h =>
    cases h with
    | completeStop => exact absurd rfl ha
    | _ => rfl
  | takes h => cases h <;> rfl
  | meddles h => cases h <;> rfl
  | _ => rfl

/-- `Stop` is entered by `runStopped`. -/
theorem inStop (h : Moves a w w') (ha : a ≠ .runStopped) (hstop : w'.InStop) : w.InStop := by
  cases h with
  | shift h =>
    cases h with
    | take c hc => exact absurd hstop hc
    | drain => rfl
    | runStopped => exact absurd rfl ha
    | _ => exact hstop.elim
  | spawn => exact hstop.elim
  | takes h => cases h <;> exact hstop
  | gives h =>
    cases h with
    | yield c => exact hstop
    | _ => exact hstop.elim
  | meddles h => cases h <;> exact hstop.elim
  | run => exact hstop

/-- The worker returns by `exit`. -/
theorem returned (h : Moves a w w') (ha : a ≠ .exit) (hreturned : w'.Returned) : w.Returned := by
  cases h with
  | shift h =>
    cases h with
    | exit e => exact absurd rfl ha
    | _ => exact hreturned.elim
  | spawn => exact hreturned.elim
  | takes h => cases h <;> exact hreturned.elim
  | gives h => cases h <;> exact hreturned.elim
  | meddles h => cases h <;> exact hreturned.elim
  | run => exact hreturned

end Moves

theorem workerStep_of_step (ha : a.isRunner = false) (hs : step s a = some s') :
    workerStep s a = some s' := by
  rw [step] at hs
  obtain ⟨-, hs⟩ := Option.ite_none_left_eq_some.mp hs
  rwa [ha] at hs

theorem completeStop_spec (hs : step s .completeStop = some s') :
    s.worker = .draining ∧ s'.worker = .finishing false := by
  have hs := workerStep_of_step rfl hs
  cases hw : s.worker <;> simp only [workerStep, hw, reduceCtorEq] at hs
  obtain rfl := Option.some.inj hs
  exact ⟨rfl, rfl⟩

theorem submitStopResult_spec (hs : step s .submitStopResult = some s') :
    ∃ timedOut, s.worker = .finishing timedOut ∧
      s'.worker = .exiting (if timedOut then .runTimeout else .stopped) := by
  have hs := workerStep_of_step rfl hs
  cases hw : s.worker <;> simp only [workerStep, hw, reduceCtorEq] at hs
  obtain rfl := Option.some.inj hs
  exact ⟨_, rfl, rfl⟩

theorem exit_spec (hs : step s .exit = some s') :
    ∃ e, s.worker = .leaving e ∧ s'.worker = .returned e := by
  have hs := workerStep_of_step rfl hs
  cases hw : s.worker <;> simp only [workerStep, hw, reduceCtorEq] at hs
  obtain rfl := Option.some.inj hs
  exact ⟨_, rfl, rfl⟩

theorem startReturns_spec {ok : Bool} (hs : step s (.startReturns ok) = some s') :
    s'.worker = .started ok := by
  have hs := workerStep_of_step rfl hs
  cases hw : s.worker <;> simp only [workerStep, hw, reduceCtorEq] at hs
  obtain rfl := Option.some.inj hs
  rfl

theorem accounted_completeStop (h : Accounted s) (hs : step s .completeStop = some s') :
    Accounted s' := by
  obtain ⟨hdraining, hfinishing⟩ := completeStop_spec hs
  have hmarks := (move_of_step hs).2
  refine ⟨fun hstop => ?_, fun _ => ?_, fun hne => ?_⟩
  · exact (hfinishing ▸ hstop : Worker.InStop (.finishing false)).elim
  · rw [hmarks]
    exact ⟨h.admission (hdraining ▸ trivial), rfl, rfl⟩
  · exact absurd (hfinishing ▸ rfl) hne

theorem accounted_step (h : Accounted s) (hs : step s a = some s') : Accounted s' := by
  by_cases ha : a = .completeStop
  · subst ha
    exact accounted_completeStop h hs
  obtain ⟨hmove, hmarks⟩ := move_of_step hs
  have hiff := hmove.moves.stopped_iff ha
  refine ⟨fun hstop => ?_, fun he => ?_, fun hne => ?_⟩
  · rw [hmarks]
    by_cases hrun : a = .runStopped
    · subst hrun
      rfl
    · exact Marks.mark_admissionStopped (h.admission (hmove.moves.inStop hrun hstop))
  · rw [hmarks]
    exact (h.released (hiff.mp he)).mark
  · rw [hmarks, Marks.mark_dbClosed ha]
    exact h.stillOpen (hiff.not.mp hne)

theorem accounted_of_reachable {hasRun : Bool}
    (h : Run.Reachable step Run.anyAction (initial hasRun) s) : Accounted s :=
  h.invariant (P := Accounted) (accounted_initial hasRun)
    fun _ _ _ ha _ hs => accounted_step ha hs

/-- The generation is released exactly if its worker leaves after `Stop`. -/
theorem Accounted.released_iff (h : Accounted s) :
    s.marks.Released ↔ s.worker.exit? = some .stopped := by
  refine ⟨fun hreleased => ?_, h.released⟩
  by_contra hne
  exact absurd hreleased.2.2 (Bool.eq_false_iff.mp (h.stillOpen hne))

/-! ## The condition -/

theorem Releases.keeps (h : Releases s) (hs : step s a = some s') (hresult : a ≠ .submitStopResult)
    (hexit : a ≠ .exit) : Releases s' := by
  obtain ⟨hmove, hmarks⟩ := move_of_step hs
  refine ⟨fun hstop => ?_, fun hstart hreturned => ?_⟩
  · rw [hmarks, Marks.mark_stopResult hresult] at hstop
    rw [hmarks]
    exact (h.result hstop).mark
  · have hbefore := hmove.moves.returned hexit hreturned
    rw [hmarks]
    refine (h.returned ?_ hbefore).mark
    cases a with
    | startReturns ok =>
      rw [startReturns_spec hs] at hreturned
      exact hreturned.elim
    | _ =>
      rw [hmarks] at hstart
      exact hstart

theorem Accounted.releases_iff_of_submitStopResult (h' : Accounted s')
    (hs : step s .submitStopResult = some s') : Releases s' ↔ s.worker ≠ .finishing true := by
  obtain ⟨timedOut, hw, hw'⟩ := submitStopResult_spec hs
  have hresult : s'.marks.stopResult = true := by
    rw [(move_of_step hs).2]
    rfl
  have hiff := h'.released_iff
  rw [hw'] at hiff
  rw [hw]
  cases timedOut with
  | false =>
    have hreleased := hiff.mpr rfl
    exact iff_of_true ⟨fun _ => hreleased, fun _ _ => hreleased⟩ (by simp)
  | true =>
    refine iff_of_false (fun h => ?_) (not_not_intro rfl)
    have hexit := hiff.mp (h.result hresult)
    simp [Worker.exit?] at hexit

theorem Accounted.releases_iff_of_exit (h' : Accounted s') (hP : Releases s)
    (hs : step s .exit = some s') :
    Releases s' ↔ (s.startSucceeded = true → s.worker = .leaving .stopped) := by
  obtain ⟨e, hw, hw'⟩ := exit_spec hs
  have hmarks := (move_of_step hs).2
  have hstart : s'.marks.startSucceeded = s.startSucceeded := by
    rw [hmarks]
    rfl
  have hiff : s'.marks.Released ↔ e = .stopped := by
    rw [h'.released_iff, hw']
    exact Option.some_inj
  have hleaving : s.worker = .leaving .stopped ↔ e = .stopped := by rw [hw, Worker.leaving.injEq]
  rw [hleaving, ← hiff, ← hstart]
  refine ⟨fun h hsucceeded => h.returned hsucceeded (hw' ▸ trivial), fun h => ⟨?_, ?_⟩⟩
  · intro hresult
    rw [hmarks] at hresult ⊢
    exact (hP.result hresult).mark
  · exact fun hsucceeded _ => h hsucceeded

theorem Accounted.releases_iff_of_step (h : Accounted s) (hP : Releases s)
    (hs : step s a = some s') : Releases s' ↔ AfterStop s a := by
  have h' := accounted_step h hs
  cases a with
  | submitStopResult => exact h'.releases_iff_of_submitStopResult hs
  | exit => exact h'.releases_iff_of_exit hP hs
  | _ => exact iff_of_true (hP.keeps hs Action.noConfusion Action.noConfusion) trivial

/-- A generation is released in time in a run exactly if `ActorStopResult` is submitted, and
the worker of a started actor returns, after `Stop` only. -/
theorem releasedInTime_iff {hasRun : Bool} {as : List Action}
    (hr : Run.run step (initial hasRun) as = some s') :
    Run.Throughout step Releases (initial hasRun) as ↔
      Run.Allowed step AfterStop (initial hasRun) as := by
  refine Run.throughout_iff .init ?_ (fun s a s' hreach hP hs => ?_) hr
  · exact ⟨fun h => Bool.noConfusion h, fun h => Bool.noConfusion h⟩
  · exact (accounted_of_reachable hreach).releases_iff_of_step hP hs

/-- `Start` succeeds and `ActorStartResult` is submitted. -/
def started (as : List Action) : List Action :=
  .startReturns true :: .submitStartResult true :: as

/-- An actor with `Run` stops, and its `OnStop` panics. -/
def stopAfterRun : List Action :=
  started [.runAcquire, .takeStop false, .runFinish, .runStopped, .acquire, .finish true,
    .completeStop, .submitStopResult, .closeWebSockets 0, .closed, .exit]

theorem stopAfterRun_releasedInTime :
    ∃ s, Run.run step (initial true) stopAfterRun = some s ∧ s.worker = .returned .stopped ∧
      Run.Throughout step Releases (initial true) stopAfterRun := by
  refine ⟨_, rfl, rfl,
    (releasedInTime_iff (rfl : Run.run step (initial true) stopAfterRun = some _)).mpr ?_⟩
  exact ⟨trivial, trivial, trivial, trivial, trivial, trivial, trivial, trivial, trivial,
    fun h => Bool.noConfusion (Worker.finishing.inj h), trivial, trivial, fun _ => rfl, trivial⟩

theorem not_releases_of_open (hstart : s.startSucceeded = true) (hw : s.worker.Returned)
    (hopen : s.dbClosed = false) : ¬Releases s := fun h =>
  absurd (h.returned hstart hw).2.2 (Bool.eq_false_iff.mp hopen)

/-- An actor without `Run` whose worker has returned without `Stop`. -/
def returnedOpen (e : Exit) : State :=
  { hasRun := false, worker := .returned e, startSucceeded := true, managedCancelled := true }

/-- `Run` does not end in time. -/
def timedOut : List Action :=
  started [.runAcquire, .takeStop false, .runTimeout, .submitStopResult]

/-- The worker leaves its loop without `Stop`, and no socket is left. -/
def leaveBy (as : List Action) : List Action :=
  started (as ++ [.closeWebSockets 0, .closed, .exit])

/-- `ActorStopResult` is submitted although `Run` has not ended and nothing is released, and
the worker returns with the database open after a panic of an action, when the submission of
a result or of `ActorStartResult` fails, and when it is cancelled. -/
theorem database_left_open :
    (∃ s, Run.run step (initial true) timedOut = some s ∧ s.stopResult = true ∧
      s.admissionStopped = false ∧ s.managedCancelled = false ∧ s.dbClosed = false ∧
      ¬Releases s) ∧
    (∃ s, Run.run step (initial false)
        (leaveBy [.take .action, .acquire, .finish true, .submitResult true]) = some s ∧
      s.worker = .returned .panicked ∧ ¬Releases s) ∧
    (∃ s, Run.run step (initial false)
        (leaveBy [.take .action, .acquire, .finish false, .submitResult false]) = some s ∧
      s.worker = .returned .submitFailed ∧ ¬Releases s) ∧
    (∃ s, Run.run step (initial false)
        [.startReturns true, .submitStartResult false, .exit] = some s ∧
      s.worker = .returned .submitFailed ∧ ¬Releases s) ∧
    ∃ s, Run.run step (initial false) (leaveBy [.cancelled]) = some s ∧
      s.worker = .returned .cancelled ∧ ¬Releases s := by
  have hopen : ∀ e, ¬Releases (returnedOpen e) := fun e => not_releases_of_open rfl trivial rfl
  refine ⟨⟨_, rfl, rfl, rfl, rfl, rfl, fun h => ?_⟩,
    ⟨returnedOpen .panicked, rfl, rfl, hopen _⟩, ⟨returnedOpen .submitFailed, rfl, rfl, hopen _⟩,
    ⟨returnedOpen .submitFailed, rfl, rfl, hopen _⟩, ⟨returnedOpen .cancelled, rfl, rfl, hopen _⟩⟩
  exact Bool.noConfusion (h.result rfl).2.2

end RivetGo.Actor

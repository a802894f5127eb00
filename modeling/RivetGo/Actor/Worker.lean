import Mathlib
import RivetGo.Data.Run

/-!
# A generation of an actor

The worker of a generation runs the callbacks of its actor one after the other, and the
goroutine of `Run` next to it. Every callback of the worker after `OnStart`, and `Run`,
takes the turn of the actor, which is a mutex. A wait in the queue gives the turn back
for its duration, and so does `KeepAwake` in `Run`.

The worker leaves its loop at the end of `ActorStop`, after a panic of an action or of
`OnFetch`, when a submission fails, when it is cancelled, and on an event it does not
know. Its deferred calls then tell the sockets that are left, unless the actor sleeps,
and they do not take the turn. `Stop` of the adapter is called for `ActorStop` only, and
only if `Run` has ended in time; it ends the admission of managed work, runs `OnStop`,
cancels the managed work and closes the database.
-/

namespace RivetGo.Actor

inductive Callback where
  | onStart
  | run
  | action
  | onAlarm
  | onFetch
  /-- Preflight, open and close of a connection. -/
  | connectionHook
  | onConnect
  | onMessage
  | onDisconnect
  | onStop
  deriving DecidableEq

/-- The return statement by which the worker leaves. -/
inductive Exit where
  | startFailed
  | submitFailed
  | cancelled
  | panicked
  | unexpected
  | stopped
  /-- `ActorStop`, but `Run` has not ended in time. -/
  | runTimeout
  deriving DecidableEq

inductive Worker where
  | starting
  /-- `Start` has returned. -/
  | started (ok : Bool)
  | ready
  | awaiting (c : Callback)
  | executing (c : Callback)
  | suspended (c : Callback)
  /-- The callback has returned and its result is to be submitted. -/
  | reporting (c : Callback) (panicked : Bool)
  /-- `ActorStop`: the worker waits for `Run` to end. -/
  | stopping
  /-- The deferred part of `Stop`, which has the turn. -/
  | draining
  /-- `ActorStopResult` is to be submitted. -/
  | finishing (timedOut : Bool)
  /-- The worker has left its loop. -/
  | exiting (e : Exit)
  /-- `CloseWebSockets` with the sockets that are left. -/
  | closing (e : Exit) (left : Nat)
  | disconnecting (e : Exit) (left : Nat)
  /-- An `OnDisconnect` of `CloseWebSockets` waits in the queue. -/
  | disconnectWaiting (e : Exit) (left : Nat)
  | leaving (e : Exit)
  | returned (e : Exit)
  deriving DecidableEq

/-- The goroutine of `Run`. -/
inductive Runner where
  | absent
  | spawned
  | executing
  /-- `Run` is in a wait of the queue or in `KeepAwake`. -/
  | suspended
  | finished
  deriving DecidableEq

structure State where
  hasRun : Bool
  worker : Worker := .starting
  runner : Runner := .absent
  /-- `turnMu` is locked. -/
  turn : Bool := false
  /-- A mutex was unlocked that is not locked, which ends the process. -/
  crashed : Bool := false
  /-- The reason of `ActorStop` is `sleep`. -/
  sleeps : Bool := false
  startSucceeded : Bool := false
  admissionStopped : Bool := false
  managedCancelled : Bool := false
  dbClosed : Bool := false
  /-- `ActorStopResult` was submitted. -/
  stopResult : Bool := false
  deriving DecidableEq

def initial (hasRun : Bool) : State := { hasRun }

inductive Action where
  | startReturns (ok : Bool)
  | submitStartResult (ok : Bool)
  /-- The worker takes an event that has a callback. -/
  | take (c : Callback)
  | takeUnexpected
  | takeStop (sleeps : Bool)
  | cancelled
  | acquire
  /-- The callback enters a wait of the queue. -/
  | yield
  | resume
  | finish (panicked : Bool)
  | submitResult (ok : Bool)
  | runStopped
  | runTimeout
  /-- `drainManaged` and `completeActorStop`. -/
  | completeStop
  | submitStopResult
  /-- The deferred `CloseWebSockets` collects the sockets. -/
  | closeWebSockets (sockets : Nat)
  | disconnect
  | disconnectYield
  | disconnectResume
  | disconnected
  | closed
  | exit
  | runAcquire
  | runYield
  | runResume
  | runFinish
  deriving DecidableEq

/-- The callbacks that the worker calls for events of the mailbox. -/
def Callback.FromMailbox : Callback → Prop
  | .onStart => False
  | .run => False
  | .onStop => False
  | _ => True

instance : DecidablePred Callback.FromMailbox
  | .onStart => isFalse not_false
  | .run => isFalse not_false
  | .onStop => isFalse not_false
  | .action => isTrue trivial
  | .onAlarm => isTrue trivial
  | .onFetch => isTrue trivial
  | .connectionHook => isTrue trivial
  | .onConnect => isTrue trivial
  | .onMessage => isTrue trivial
  | .onDisconnect => isTrue trivial

/-- After a panic of these the worker returns; after others it asks for a stop. -/
def Callback.ends : Callback → Bool
  | .action => true
  | .onFetch => true
  | _ => false

namespace State

/-- `turnMu.Unlock`. -/
def unlock (s : State) : State :=
  if s.turn then { s with turn := false } else { s with crashed := true }

/-- `turnMu.Lock`, once the turn is free. -/
def lock (s : State) : Option State := if s.turn then none else some { s with turn := true }

def setWorker (s : State) (w : Worker) : State := { s with worker := w }

def setRunner (s : State) (r : Runner) : State := { s with runner := r }

/-- How the worker goes on after the result of a callback. -/
def afterResult (s : State) (c : Callback) (panicked ok : Bool) : State :=
  if ok then s.setWorker (if panicked && c.ends then .exiting .panicked else .ready)
  else s.setWorker (.exiting .submitFailed)

end State

def workerStep (s : State) : Action → Option State
  | .startReturns ok => match s.worker with
    | .starting => some ({ s with startSucceeded := ok }.setWorker (.started ok))
    | _ => none
  | .submitStartResult ok => match s.worker with
    | .started true =>
      if ok then
        some ({ s with runner := if s.hasRun then .spawned else .absent }.setWorker .ready)
      else some (s.setWorker (.leaving .submitFailed))
    | .started false =>
      some (s.setWorker (.leaving (if ok then .startFailed else .submitFailed)))
    | _ => none
  | .take c => match s.worker with
    | .ready => if c.FromMailbox then some (s.setWorker (.awaiting c)) else none
    | _ => none
  | .takeUnexpected => match s.worker with
    | .ready => some (s.setWorker (.exiting .unexpected))
    | _ => none
  | .takeStop sleeps => match s.worker with
    | .ready => some ({ s with sleeps := sleeps }.setWorker .stopping)
    | _ => none
  | .cancelled => match s.worker with
    | .ready => some (s.setWorker (.exiting .cancelled))
    | _ => none
  | .acquire => match s.worker with
    | .awaiting c => s.lock.map (·.setWorker (.executing c))
    | _ => none
  | .yield => match s.worker with
    | .executing c => some (s.unlock.setWorker (.suspended c))
    | _ => none
  | .resume => match s.worker with
    | .suspended c => s.lock.map (·.setWorker (.executing c))
    | _ => none
  | .finish panicked => match s.worker with
    | .executing .onStop => some (s.setWorker .draining)
    | .executing c => some (s.unlock.setWorker (.reporting c panicked))
    | _ => none
  | .submitResult ok => match s.worker with
    -- `OnDisconnect` has no result.
    | .reporting c panicked =>
      if ok = false ∧ c = .onDisconnect then none else some (s.afterResult c panicked ok)
    | _ => none
  | .runStopped => match s.worker with
    | .stopping =>
      if s.runner = .absent ∨ s.runner = .finished then
        some ({ s with admissionStopped := true }.setWorker (.awaiting .onStop))
      else none
    | _ => none
  | .runTimeout => match s.worker with
    -- `Run` may have returned, and `ActorRunResult` not have been submitted yet.
    | .stopping => if s.runner = .absent then none else some (s.setWorker (.finishing true))
    | _ => none
  | .completeStop => match s.worker with
    | .draining =>
      some ({ s with managedCancelled := true, dbClosed := true }.unlock.setWorker
        (.finishing false))
    | _ => none
  | .submitStopResult => match s.worker with
    | .finishing timedOut =>
      some ({ s with stopResult := true }.setWorker
        (.exiting (if timedOut then .runTimeout else .stopped)))
    | _ => none
  | .closeWebSockets sockets => match s.worker with
    | .exiting e => some (s.setWorker (if s.sleeps then .leaving e else .closing e sockets))
    | _ => none
  | .disconnect => match s.worker with
    | .closing e (left + 1) => some (s.setWorker (.disconnecting e left))
    | _ => none
  | .disconnectYield => match s.worker with
    | .disconnecting e left => some (s.unlock.setWorker (.disconnectWaiting e left))
    | _ => none
  | .disconnectResume => match s.worker with
    | .disconnectWaiting e left => s.lock.map (·.setWorker (.disconnecting e left))
    | _ => none
  | .disconnected => match s.worker with
    | .disconnecting e left => some (s.setWorker (.closing e left))
    | _ => none
  | .closed => match s.worker with
    | .closing e 0 => some (s.setWorker (.leaving e))
    | _ => none
  -- The context of the managed work is derived from the worker's.
  | .exit => match s.worker with
    | .leaving e => some ({ s with managedCancelled := true }.setWorker (.returned e))
    | _ => none
  | _ => none

def runnerStep (s : State) : Action → Option State
  | .runAcquire => if s.runner = .spawned then s.lock.map (·.setRunner .executing) else none
  | .runYield => if s.runner = .executing then some (s.unlock.setRunner .suspended) else none
  | .runResume => if s.runner = .suspended then s.lock.map (·.setRunner .executing) else none
  | .runFinish => if s.runner = .executing then some (s.unlock.setRunner .finished) else none
  | _ => none

def Action.isRunner : Action → Bool
  | .runAcquire => true
  | .runYield => true
  | .runResume => true
  | .runFinish => true
  | _ => false

def step (s : State) (a : Action) : Option State :=
  if s.crashed then none else if a.isRunner then runnerStep s a else workerStep s a

/-! ## What a step can do -/

variable {s s' : State} {a : Action}

/-- What has been done for the generation. -/
structure Marks where
  startSucceeded : Bool
  admissionStopped : Bool
  managedCancelled : Bool
  dbClosed : Bool
  stopResult : Bool

def State.marks (s : State) : Marks where
  startSucceeded := s.startSucceeded
  admissionStopped := s.admissionStopped
  managedCancelled := s.managedCancelled
  dbClosed := s.dbClosed
  stopResult := s.stopResult

def Action.mark (m : Marks) : Action → Marks
  | .startReturns ok => { m with startSucceeded := ok }
  | .runStopped => { m with admissionStopped := true }
  | .completeStop => { m with managedCancelled := true, dbClosed := true }
  | .submitStopResult => { m with stopResult := true }
  | .exit => { m with managedCancelled := true }
  | _ => m

/-- The moves of the worker that leave the turn alone. -/
inductive Shift : Action → Worker → Worker → Prop
  | startReturns (ok : Bool) : Shift (.startReturns ok) .starting (.started ok)
  | startEnds (ok ok' : Bool) (e : Exit) (he : e ≠ .stopped) :
      Shift (.submitStartResult ok) (.started ok') (.leaving e)
  | take (c : Callback) (hc : c ≠ .onStop) : Shift (.take c) .ready (.awaiting c)
  | takeUnexpected : Shift .takeUnexpected .ready (.exiting .unexpected)
  | takeStop (sleeps : Bool) : Shift (.takeStop sleeps) .ready .stopping
  | cancelled : Shift .cancelled .ready (.exiting .cancelled)
  | drain (panicked : Bool) : Shift (.finish panicked) (.executing .onStop) .draining
  | again (ok panicked : Bool) (c : Callback) :
      Shift (.submitResult ok) (.reporting c panicked) .ready
  | giveUp (ok panicked : Bool) (c : Callback) (e : Exit) (he : e ≠ .stopped) :
      Shift (.submitResult ok) (.reporting c panicked) (.exiting e)
  | runStopped : Shift .runStopped .stopping (.awaiting .onStop)
  | runTimeout : Shift .runTimeout .stopping (.finishing true)
  | submitStopResult (timedOut : Bool) : Shift .submitStopResult (.finishing timedOut)
      (.exiting (if timedOut then .runTimeout else .stopped))
  | sleep (sockets : Nat) (e : Exit) : Shift (.closeWebSockets sockets) (.exiting e) (.leaving e)
  | close (sockets : Nat) (e : Exit) :
      Shift (.closeWebSockets sockets) (.exiting e) (.closing e sockets)
  | disconnect (e : Exit) (left : Nat) :
      Shift .disconnect (.closing e (left + 1)) (.disconnecting e left)
  | disconnected (e : Exit) (left : Nat) :
      Shift .disconnected (.disconnecting e left) (.closing e left)
  | closed (e : Exit) : Shift .closed (.closing e 0) (.leaving e)
  | exit (e : Exit) : Shift .exit (.leaving e) (.returned e)

/-- The worker takes the turn for a callback. -/
inductive Takes : Action → Worker → Worker → Prop
  | acquire (c : Callback) : Takes .acquire (.awaiting c) (.executing c)
  | resume (c : Callback) : Takes .resume (.suspended c) (.executing c)

/-- The worker gives the turn back. -/
inductive Gives : Action → Worker → Worker → Prop
  | yield (c : Callback) : Gives .yield (.executing c) (.suspended c)
  | finish (c : Callback) (panicked : Bool) :
      Gives (.finish panicked) (.executing c) (.reporting c panicked)
  | completeStop : Gives .completeStop .draining (.finishing false)

/-- The waits of an `OnDisconnect` that does not have the turn. -/
inductive Meddles : Action → Worker → Worker → Prop
  | disconnectYield (e : Exit) (left : Nat) :
      Meddles .disconnectYield (.disconnecting e left) (.disconnectWaiting e left)
  | disconnectResume (e : Exit) (left : Nat) :
      Meddles .disconnectResume (.disconnectWaiting e left) (.disconnecting e left)

/-- A step, as far as the worker, `Run` and the turn are concerned. -/
inductive Move (s : State) : Action → State → Prop
  | shift (a : Action) (s' : State) (h : Shift a s.worker s'.worker)
      (hrunner : s'.runner = s.runner) (hturn : s'.turn = s.turn) : Move s a s'
  | spawn (ok : Bool) (s' : State) (hworker : s.worker = .started true)
      (hready : s'.worker = .ready) (hrunner : s'.runner ≠ .executing) (hturn : s'.turn = s.turn) :
      Move s (.submitStartResult ok) s'
  | takes (a : Action) (s' : State) (h : Takes a s.worker s'.worker)
      (hrunner : s'.runner = s.runner) (hfree : s.turn = false) (hturn : s'.turn = true) :
      Move s a s'
  | gives (a : Action) (s' : State) (h : Gives a s.worker s'.worker)
      (hrunner : s'.runner = s.runner) (hturn : s'.turn = false) : Move s a s'
  | meddles (a : Action) (s' : State) (h : Meddles a s.worker s'.worker)
      (hrunner : s'.runner = s.runner) : Move s a s'
  | runTakes (a : Action) (s' : State) (ha : a = .runAcquire ∨ a = .runResume)
      (hbefore : s.runner = .spawned ∨ s.runner = .suspended) (hrunner : s'.runner = .executing)
      (hworker : s'.worker = s.worker) (hfree : s.turn = false) (hturn : s'.turn = true) :
      Move s a s'
  | runGives (a : Action) (s' : State) (ha : a = .runYield ∨ a = .runFinish)
      (hbefore : s.runner = .executing) (hrunner : s'.runner = .suspended ∨ s'.runner = .finished)
      (hworker : s'.worker = s.worker) (hturn : s'.turn = false) : Move s a s'

@[simp] theorem unlock_marks (s : State) : s.unlock.marks = s.marks := by
  rw [State.unlock]
  split_ifs <;> rfl

@[simp] theorem unlock_turn (s : State) : s.unlock.turn = false := by
  rw [State.unlock]
  split_ifs with h
  · rfl
  · exact Bool.eq_false_iff.mpr h

@[simp] theorem unlock_runner (s : State) : s.unlock.runner = s.runner := by
  rw [State.unlock]
  split_ifs <;> rfl

@[simp] theorem unlock_worker (s : State) : s.unlock.worker = s.worker := by
  rw [State.unlock]
  split_ifs <;> rfl

theorem lock_eq_some : s.lock = some s' ↔ s.turn = false ∧ s' = { s with turn := true } := by
  rw [State.lock]
  split_ifs with h
  · simp [h]
  · simp [Bool.eq_false_iff.mpr h, eq_comm]

theorem move_of_workerStep (hs : workerStep s a = some s') :
    Move s a s' ∧ s'.marks = a.mark s.marks := by
  cases a with
  | startReturns ok =>
    cases hw : s.worker <;> simp only [workerStep, hw, reduceCtorEq] at hs
    obtain rfl := Option.some.inj hs
    exact ⟨.shift _ _ (hw ▸ .startReturns ok) rfl rfl, rfl⟩
  | submitStartResult ok =>
    rw [workerStep] at hs
    split at hs
    case h_1 hw =>
      split_ifs at hs <;> obtain rfl := Option.some.inj hs
      · exact ⟨.spawn _ _ hw rfl Runner.noConfusion rfl, rfl⟩
      · exact ⟨.spawn _ _ hw rfl Runner.noConfusion rfl, rfl⟩
      · exact ⟨.shift _ _ (hw ▸ .startEnds _ _ _ Exit.noConfusion) rfl rfl, rfl⟩
    case h_2 hw =>
      obtain rfl := Option.some.inj hs
      refine ⟨.shift _ _ (hw ▸ .startEnds _ _ _ ?_) rfl rfl, rfl⟩
      split_ifs <;> exact Exit.noConfusion
    case h_3 => exact absurd hs (Option.some_ne_none _).symm
  | take c =>
    cases hw : s.worker <;> simp only [workerStep, hw, reduceCtorEq] at hs
    obtain ⟨hc, rfl⟩ := Run.guard_eq_some.mp hs
    have hstop : c ≠ .onStop := by
      rintro rfl
      exact hc
    exact ⟨.shift _ _ (hw ▸ .take c hstop) rfl rfl, rfl⟩
  | takeUnexpected =>
    cases hw : s.worker <;> simp only [workerStep, hw, reduceCtorEq] at hs
    obtain rfl := Option.some.inj hs
    exact ⟨.shift _ _ (hw ▸ .takeUnexpected) rfl rfl, rfl⟩
  | takeStop sleeps =>
    cases hw : s.worker <;> simp only [workerStep, hw, reduceCtorEq] at hs
    obtain rfl := Option.some.inj hs
    exact ⟨.shift _ _ (hw ▸ .takeStop sleeps) rfl rfl, rfl⟩
  | cancelled =>
    cases hw : s.worker <;> simp only [workerStep, hw, reduceCtorEq] at hs
    obtain rfl := Option.some.inj hs
    exact ⟨.shift _ _ (hw ▸ .cancelled) rfl rfl, rfl⟩
  | acquire =>
    cases hw : s.worker <;> simp only [workerStep, hw, reduceCtorEq] at hs
    obtain ⟨t, hlock, rfl⟩ := Option.map_eq_some_iff.mp hs
    obtain ⟨hfree, rfl⟩ := lock_eq_some.mp hlock
    exact ⟨.takes _ _ (hw ▸ .acquire _) rfl hfree rfl, rfl⟩
  | yield =>
    cases hw : s.worker <;> simp only [workerStep, hw, reduceCtorEq] at hs
    obtain rfl := Option.some.inj hs
    exact ⟨.gives _ _ (hw ▸ .yield _) (unlock_runner s) (unlock_turn s), unlock_marks _⟩
  | resume =>
    cases hw : s.worker <;> simp only [workerStep, hw, reduceCtorEq] at hs
    obtain ⟨t, hlock, rfl⟩ := Option.map_eq_some_iff.mp hs
    obtain ⟨hfree, rfl⟩ := lock_eq_some.mp hlock
    exact ⟨.takes _ _ (hw ▸ .resume _) rfl hfree rfl, rfl⟩
  | finish panicked =>
    rw [workerStep] at hs
    split at hs
    case h_1 hw =>
      obtain rfl := Option.some.inj hs
      exact ⟨.shift _ _ (hw ▸ .drain panicked) rfl rfl, rfl⟩
    case h_2 c _ hw =>
      obtain rfl := Option.some.inj hs
      exact ⟨.gives _ _ (hw ▸ .finish c panicked) (unlock_runner s) (unlock_turn s),
        unlock_marks s⟩
    case h_3 => exact absurd hs (Option.some_ne_none _).symm
  | submitResult ok =>
    cases hw : s.worker <;> simp only [workerStep, hw, reduceCtorEq] at hs
    obtain ⟨-, hs⟩ := Option.ite_none_left_eq_some.mp hs
    obtain rfl := Option.some.inj hs
    rw [State.afterResult]
    split_ifs
    · exact ⟨.shift _ _ (hw ▸ .giveUp _ _ _ _ Exit.noConfusion) rfl rfl, rfl⟩
    · exact ⟨.shift _ _ (hw ▸ .again _ _ _) rfl rfl, rfl⟩
    · exact ⟨.shift _ _ (hw ▸ .giveUp _ _ _ _ Exit.noConfusion) rfl rfl, rfl⟩
  | runStopped =>
    cases hw : s.worker <;> simp only [workerStep, hw, reduceCtorEq] at hs
    obtain ⟨-, rfl⟩ := Run.guard_eq_some.mp hs
    exact ⟨.shift _ _ (hw ▸ .runStopped) rfl rfl, rfl⟩
  | runTimeout =>
    cases hw : s.worker <;> simp only [workerStep, hw, reduceCtorEq] at hs
    obtain ⟨-, hs⟩ := Option.ite_none_left_eq_some.mp hs
    obtain rfl := Option.some.inj hs
    exact ⟨.shift _ _ (hw ▸ .runTimeout) rfl rfl, rfl⟩
  | completeStop =>
    cases hw : s.worker <;> simp only [workerStep, hw, reduceCtorEq] at hs
    obtain rfl := Option.some.inj hs
    exact ⟨.gives _ _ (hw ▸ .completeStop) (unlock_runner _) (unlock_turn _), unlock_marks _⟩
  | submitStopResult =>
    cases hw : s.worker <;> simp only [workerStep, hw, reduceCtorEq] at hs
    obtain rfl := Option.some.inj hs
    exact ⟨.shift _ _ (hw ▸ .submitStopResult _) rfl rfl, rfl⟩
  | closeWebSockets sockets =>
    cases hw : s.worker <;> simp only [workerStep, hw, reduceCtorEq] at hs
    split_ifs at hs <;> obtain rfl := Option.some.inj hs
    · exact ⟨.shift _ _ (hw ▸ .sleep _ _) rfl rfl, rfl⟩
    · exact ⟨.shift _ _ (hw ▸ .close _ _) rfl rfl, rfl⟩
  | disconnect =>
    rw [workerStep] at hs
    split at hs
    case h_1 e left hw =>
      obtain rfl := Option.some.inj hs
      exact ⟨.shift _ _ (hw ▸ .disconnect e left) rfl rfl, rfl⟩
    case h_2 => exact absurd hs (Option.some_ne_none _).symm
  | disconnectYield =>
    cases hw : s.worker <;> simp only [workerStep, hw, reduceCtorEq] at hs
    obtain rfl := Option.some.inj hs
    exact ⟨.meddles _ _ (hw ▸ .disconnectYield _ _) (unlock_runner s), unlock_marks s⟩
  | disconnectResume =>
    cases hw : s.worker <;> simp only [workerStep, hw, reduceCtorEq] at hs
    obtain ⟨t, hlock, rfl⟩ := Option.map_eq_some_iff.mp hs
    obtain ⟨-, rfl⟩ := lock_eq_some.mp hlock
    exact ⟨.meddles _ _ (hw ▸ .disconnectResume _ _) rfl, rfl⟩
  | disconnected =>
    cases hw : s.worker <;> simp only [workerStep, hw, reduceCtorEq] at hs
    obtain rfl := Option.some.inj hs
    exact ⟨.shift _ _ (hw ▸ .disconnected _ _) rfl rfl, rfl⟩
  | closed =>
    rw [workerStep] at hs
    split at hs
    case h_1 e hw =>
      obtain rfl := Option.some.inj hs
      exact ⟨.shift _ _ (hw ▸ .closed e) rfl rfl, rfl⟩
    case h_2 => exact absurd hs (Option.some_ne_none _).symm
  | exit =>
    cases hw : s.worker <;> simp only [workerStep, hw, reduceCtorEq] at hs
    obtain rfl := Option.some.inj hs
    exact ⟨.shift _ _ (hw ▸ .exit _) rfl rfl, rfl⟩
  | _ => exact absurd hs (Option.some_ne_none _).symm

theorem runTakes_of_lock {r : Runner} (ha : a = .runAcquire ∨ a = .runResume)
    (hbefore : r = .spawned ∨ r = .suspended)
    (hs : (if s.runner = r then s.lock.map (·.setRunner .executing) else none) = some s') :
    Move s a s' ∧ s'.marks = s.marks := by
  obtain ⟨hr, hs⟩ := Option.ite_none_right_eq_some.mp hs
  obtain ⟨t, hlock, rfl⟩ := Option.map_eq_some_iff.mp hs
  obtain ⟨hfree, rfl⟩ := lock_eq_some.mp hlock
  exact ⟨.runTakes _ _ ha (hr ▸ hbefore) rfl rfl hfree rfl, rfl⟩

theorem runGives_of_unlock {r : Runner} (ha : a = .runYield ∨ a = .runFinish)
    (hafter : r = .suspended ∨ r = .finished)
    (hs : (if s.runner = .executing then some (s.unlock.setRunner r) else none) = some s') :
    Move s a s' ∧ s'.marks = s.marks := by
  obtain ⟨hr, rfl⟩ := Run.guard_eq_some.mp hs
  exact ⟨.runGives _ _ ha hr hafter (unlock_worker s) (unlock_turn s), unlock_marks s⟩

theorem move_of_runnerStep (hs : runnerStep s a = some s') :
    Move s a s' ∧ s'.marks = a.mark s.marks := by
  cases a with
  | runAcquire => exact runTakes_of_lock (.inl rfl) (.inl rfl) hs
  | runYield => exact runGives_of_unlock (.inl rfl) (.inl rfl) hs
  | runResume => exact runTakes_of_lock (.inr rfl) (.inr rfl) hs
  | runFinish => exact runGives_of_unlock (.inr rfl) (.inr rfl) hs
  | _ => exact absurd hs (Option.some_ne_none _).symm

theorem move_of_step (hs : step s a = some s') :
    Move s a s' ∧ s'.marks = a.mark s.marks := by
  rw [step] at hs
  obtain ⟨-, hs⟩ := Option.ite_none_left_eq_some.mp hs
  split_ifs at hs
  · exact move_of_runnerStep hs
  · exact move_of_workerStep hs

end RivetGo.Actor

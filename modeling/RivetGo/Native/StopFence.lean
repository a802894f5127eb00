import Mathlib
import RivetGo.Data.Run
import RivetGo.Native.Command

/-!
# The stop fence of native

Every operation that the proxy admits for a generation holds a guard, and
`ActorOperations` counts the guards. The result of a stop shuts the admission and
resolves the stop only after `wait_idle` has returned. Managed work has an
admission of its own: the flag is behind a lock that a registration keeps until
its work is in the table.

A guard is dropped in two steps: the count goes down, and then, if it is zero,
`notify_waiters` wakes every waiter that has its `notified` future. A waiter makes
that future before it looks at the count.

The dispatcher handles the commands of the generation one by one. The tasks that
it spawns, the drops of the guards and the loop of the generation run beside it.
A command keeps the actor that it found, also when the actor is taken out of the
table meanwhile.
-/

namespace RivetGo.StopFence

open Native (WireError)

structure ActorOperations where
  inFlight : Nat := 0
  stopping : Bool := false
  deriving DecidableEq

namespace ActorOperations

def begin (o : ActorOperations) : Option ActorOperations :=
  if o.stopping then none else some { o with inFlight := o.inFlight + 1 }

def beginStop (o : ActorOperations) : ActorOperations := { o with stopping := true }

/-- A guard is dropped. The flag says that it was the last. -/
def drop (o : ActorOperations) : ActorOperations × Bool :=
  ({ o with inFlight := o.inFlight - 1 }, o.inFlight - 1 = 0)

end ActorOperations

/-- The admission of managed work; `held` is its lock. -/
structure ManagedWorkAdmission where
  stopping : Bool := false
  held : Bool := false
  deriving DecidableEq

namespace ManagedWorkAdmission

/-- The lock is taken and kept, unless the flag is set. -/
def begin (a : ManagedWorkAdmission) : Option ManagedWorkAdmission :=
  if a.stopping then none else some { a with held := true }

def release (a : ManagedWorkAdmission) : ManagedWorkAdmission := { a with held := false }

def beginStop (a : ManagedWorkAdmission) : ManagedWorkAdmission := { a with stopping := true }

/-- The operation runs under the lock; `result` is what it returns. -/
def stopOnSuccess {ε α : Type} (a : ManagedWorkAdmission) (result : Except ε α) :
    ManagedWorkAdmission × Except ε α :=
  (match result with
    | .ok _ => { a with stopping := true }
    | .error _ => a, result)

end ManagedWorkAdmission

/-- What a waiter does when the generation is idle: it resolves the stop with the
result of Go, or it lets the actor sleep. -/
inductive Task where
  | stop (error : Option WireError)
  | sleep
  deriving DecidableEq

/-- Where `wait_idle` is. A waiter that has its `notified` future can be woken. -/
inductive Phase where
  | looping
  | checking (notified : Bool)
  | sleeping (notified : Bool)
  | idle
  | finished
  deriving DecidableEq

structure Waiter where
  task : Task
  phase : Phase := .looping
  deriving DecidableEq

/-- `notify_waiters`. -/
def Waiter.notify (w : Waiter) : Waiter :=
  match w.phase with
  | .checking _ => { w with phase := .checking true }
  | .sleeping _ => { w with phase := .sleeping true }
  | _ => w

/-- A command that the dispatcher is in: it is about to shut the admission of the
operations and to spawn the waiter of a stop, or it registers managed work. -/
inductive Dispatcher where
  | ready
  | fencing (stop : Option (Option WireError))
  | registering (workId : UInt64) (kind : String)
  deriving DecidableEq

/-- The stop was resolved; `registered` says whether the actor was in the table
when the result came. -/
structure Stopped where
  registered : Bool
  error : Option WireError
  deriving DecidableEq

structure State where
  operations : ActorOperations := {}
  /-- The guards of the operations in flight. -/
  guards : Nat := 0
  /-- Last guards whose drop has not notified yet. -/
  notifications : Nat := 0
  waiters : List Waiter := []
  admission : ManagedWorkAdmission := {}
  dispatcher : Dispatcher := .ready
  managedWork : List UInt64 := []
  registered : Bool := true
  stopped : List Stopped := []
  deriving DecidableEq

def initial : State := {}

inductive Action where
  /-- A command or a task begins an operation. -/
  | begin
  | drop
  | notify
  /-- The `i`-th waiter goes on. -/
  | wait (i : Nat)
  | gracefulCleanup
  | actorStopResult (error : Option WireError)
  | destroyIntent (result : Except WireError Unit)
  | fence
  | sleepIntent
  | managedWorkBegin (workId : UInt64) (kind : String)
  | register
  | managedWorkEnd (workId : UInt64)
  | unregister
  | clearManagedWork

/-- One step of a waiter. A waiter that sleeps needs a notification. -/
def Waiter.next (w : Waiter) (inFlight : Nat) : Option Waiter :=
  match w.phase with
  | .looping => some { w with phase := .checking false }
  | .checking notified =>
    some { w with phase := if inFlight = 0 then .idle else .sleeping notified }
  | .sleeping true => some { w with phase := .looping }
  | .sleeping false => none
  | .idle => some { w with phase := .finished }
  | .finished => none

/-- What a waiter resolves in its step. -/
def Waiter.resolves (w : Waiter) : List Stopped :=
  match w.phase, w.task with
  | .idle, .stop error => [⟨true, error⟩]
  | _, _ => []

def workKinds : List String := ["wait_until", "keep_awake"]

def step (s : State) : Action → Option State
  | .begin => s.operations.begin.map fun o => { s with operations := o, guards := s.guards + 1 }
  | .drop =>
    if s.guards = 0 then none
    else
      some { s with
        operations := s.operations.drop.1
        guards := s.guards - 1
        notifications := s.notifications + if s.operations.drop.2 then 1 else 0 }
  | .notify =>
    if s.notifications = 0 then none
    else
      some { s with
        notifications := s.notifications - 1
        waiters := s.waiters.map Waiter.notify }
  | .wait i => do
      let w ← s.waiters[i]?
      let w' ← w.next s.operations.inFlight
      return { s with waiters := s.waiters.set i w', stopped := s.stopped ++ w.resolves }
  | .gracefulCleanup =>
    if s.admission.held then none else some { s with admission := s.admission.beginStop }
  | .actorStopResult error =>
    if s.dispatcher ≠ .ready then none
    else if s.registered then
      some { s with admission := s.admission.beginStop, dispatcher := .fencing (some error) }
    else some { s with stopped := s.stopped ++ [⟨false, error⟩] }
  | .destroyIntent result =>
    if s.dispatcher ≠ .ready then none
    else
      let (admission, result) := s.admission.stopOnSuccess result
      some { s with
        admission := admission
        dispatcher := match result with
          | .ok _ => .fencing none
          | .error _ => .ready }
  | .fence =>
    match s.dispatcher with
    | .fencing stop =>
      some { s with
        operations := s.operations.beginStop
        dispatcher := .ready
        waiters := s.waiters ++ stop.toList.map fun error => ⟨.stop error, .looping⟩ }
    | _ => none
  | .sleepIntent =>
    if s.dispatcher ≠ .ready then none
    else some { s with waiters := s.waiters ++ [⟨.sleep, .looping⟩] }
  | .managedWorkBegin workId kind =>
    if s.dispatcher ≠ .ready then none
    else
      match s.admission.begin with
      | none => some s
      | some a => some { s with admission := a, dispatcher := .registering workId kind }
  | .register =>
    match s.dispatcher with
    | .registering workId kind =>
      let s := { s with admission := s.admission.release, dispatcher := .ready }
      -- an unknown kind and a work ID in use are refused
      if kind ∈ workKinds ∧ workId ∉ s.managedWork then
        some { s with managedWork := workId :: s.managedWork }
      else some s
    | _ => none
  | .managedWorkEnd workId =>
    if s.dispatcher ≠ .ready then none
    else some { s with managedWork := s.managedWork.filter (· ≠ workId) }
  | .unregister => some { s with registered := false }
  | .clearManagedWork => some { s with managedWork := [] }

abbrev Reaches (s : State) : Prop := Run.Reachable step Run.anyAction initial s

abbrev Later (s s' : State) : Prop := Run.Reachable step Run.anyAction s s'

variable {s s' : State} {a : Action}

/-! ### What a step can do -/

/-- Everything a step can do. -/
inductive Move (s : State) : State → Prop where
  | begin : s.operations.stopping = false →
      Move s { s with
        operations := { s.operations with inFlight := s.operations.inFlight + 1 }
        guards := s.guards + 1 }
  | drop : s.guards ≠ 0 →
      Move s { s with
        operations := s.operations.drop.1
        guards := s.guards - 1
        notifications := s.notifications + if s.operations.drop.2 then 1 else 0 }
  | notify :
      Move s { s with
        notifications := s.notifications - 1
        waiters := s.waiters.map Waiter.notify }
  | wait {i : Nat} {w w' : Waiter} : s.waiters[i]? = some w →
      w.next s.operations.inFlight = some w' →
      Move s { s with waiters := s.waiters.set i w', stopped := s.stopped ++ w.resolves }
  /-- The flag of the admission is set under its lock. -/
  | shut (dispatcher : Dispatcher) : s.admission.held = false →
      (∀ workId kind, dispatcher = .registering workId kind → s.dispatcher = dispatcher) →
      Move s { s with admission := s.admission.beginStop, dispatcher := dispatcher }
  | stale (error : Option WireError) :
      Move s { s with stopped := s.stopped ++ [⟨false, error⟩] }
  | fence {stop : Option (Option WireError)} : s.dispatcher = .fencing stop →
      Move s { s with
        operations := s.operations.beginStop
        dispatcher := .ready
        waiters := s.waiters ++ stop.toList.map fun error => ⟨.stop error, .looping⟩ }
  | sleep : Move s { s with waiters := s.waiters ++ [⟨.sleep, .looping⟩] }
  | same : Move s s
  | admitted (workId : UInt64) (kind : String) : s.admission.stopping = false →
      Move s { s with
        admission := { stopping := false, held := true }
        dispatcher := .registering workId kind }
  | register {workId : UInt64} {kind : String} (work : List UInt64) :
      s.dispatcher = .registering workId kind →
      Move s { s with
        admission := s.admission.release, dispatcher := .ready, managedWork := work }
  | forget (registered : Bool) {work : List UInt64} : work ⊆ s.managedWork →
      Move s { s with registered := registered, managedWork := work }

theorem move_of_step (hfree : s.dispatcher = .ready → s.admission.held = false)
    (hs : step s a = some s') : Move s s' := by
  cases a with
  | begin =>
    obtain ⟨o, ho, rfl⟩ := Option.map_eq_some_iff.mp hs
    obtain ⟨hopen, rfl⟩ : s.operations.stopping = false ∧ _ = o := by
      simpa [ActorOperations.begin] using ho
    exact .begin hopen
  | drop =>
    obtain ⟨hguards, rfl⟩ : s.guards ≠ 0 ∧ _ = s' := by simpa [step] using hs
    exact .drop hguards
  | notify =>
    obtain ⟨-, rfl⟩ : s.notifications ≠ 0 ∧ _ = s' := by simpa [step] using hs
    exact .notify
  | wait i =>
    obtain ⟨w, hw, hs⟩ := Option.bind_eq_some_iff.mp hs
    obtain ⟨w', hnext, hs⟩ := Option.bind_eq_some_iff.mp hs
    obtain rfl := Option.some.inj hs
    exact .wait hw hnext
  | gracefulCleanup =>
    obtain ⟨hheld, rfl⟩ : s.admission.held = false ∧ _ = s' := by simpa [step] using hs
    exact .shut s.dispatcher hheld (fun _ _ _ => rfl)
  | actorStopResult error =>
    obtain ⟨hready, hs⟩ := Option.ite_none_left_eq_some.mp hs
    have hready := not_not.mp hready
    obtain rfl := Option.some.inj ((apply_ite some _ _ _).trans hs)
    split_ifs
    · exact .shut (.fencing (some error)) (hfree hready) (by simp)
    · exact .stale error
  | destroyIntent result =>
    obtain ⟨hready, hs⟩ := Option.ite_none_left_eq_some.mp hs
    have hready := not_not.mp hready
    obtain rfl := Option.some.inj hs
    cases result with
    | ok u => exact .shut (.fencing none) (hfree hready) (by simp)
    | error e =>
      rw [show ({ s with dispatcher := .ready } : State) = s by rw [← hready]]
      exact .same
  | fence =>
    cases hd : s.dispatcher with
    | fencing stop =>
      obtain rfl : _ = s' := by simpa [step, hd] using hs
      exact .fence hd
    | _ => simp [step, hd] at hs
  | sleepIntent =>
    obtain ⟨-, rfl⟩ : s.dispatcher = .ready ∧ _ = s' := by simpa [step] using hs
    exact .sleep
  | managedWorkBegin workId kind =>
    obtain ⟨-, hs⟩ := Option.ite_none_left_eq_some.mp hs
    cases hstop : s.admission.stopping with
    | true =>
      obtain rfl : s = s' := by simpa [ManagedWorkAdmission.begin, hstop] using hs
      exact .same
    | false =>
      obtain rfl : _ = s' := by
        simpa only [ManagedWorkAdmission.begin, hstop, Bool.false_eq_true, if_false,
          Option.some.injEq] using hs
      exact .admitted workId kind hstop
  | register =>
    cases hd : s.dispatcher with
    | registering workId kind =>
      simp only [step, hd] at hs
      obtain rfl := Option.some.inj ((apply_ite some _ _ _).trans hs)
      split_ifs
      · exact .register (workId :: s.managedWork) hd
      · exact .register s.managedWork hd
    | _ => simp [step, hd] at hs
  | managedWorkEnd workId =>
    obtain ⟨-, rfl⟩ : s.dispatcher = .ready ∧ _ = s' := by simpa [step] using hs
    exact .forget s.registered (List.filter_subset_self _)
  | unregister =>
    obtain rfl := Option.some.inj hs
    exact .forget false (List.Subset.refl _)
  | clearManagedWork =>
    obtain rfl := Option.some.inj hs
    exact .forget s.registered (List.nil_subset _)

/-! ### The invariant -/

def Task.isStop : Task → Bool
  | .stop _ => true
  | .sleep => false

/-- `wait_idle` has returned. -/
def Phase.returned : Phase → Bool
  | .idle => true
  | .finished => true
  | _ => false

/-- The waiter of a stop waits at a fence, and when it has returned nothing is in
flight. A waiter that sleeps will be woken: an operation is in flight, or a
notification is due. -/
structure Waiter.Sound (o : ActorOperations) (notifications : Nat) (w : Waiter) : Prop where
  fenced : w.task.isStop = true → o.stopping = true
  returned : w.task.isStop = true → w.phase.returned = true → o.inFlight = 0
  asleep : w.phase = .sleeping false → 0 < o.inFlight ∨ 0 < notifications

structure Fenced (s : State) : Prop where
  count : s.operations.inFlight = s.guards
  waiters : ∀ w ∈ s.waiters, w.Sound s.operations s.notifications
  stopped : ∀ e, ⟨true, e⟩ ∈ s.stopped → s.operations.stopping = true ∧ s.guards = 0
  held : s.admission.held = true ↔ ∃ workId kind, s.dispatcher = .registering workId kind
  admitted : s.admission.held = true → s.admission.stopping = false

theorem fenced_initial : Fenced initial := by
  constructor <;> simp [initial]

/-- Steps of the dispatcher that leave the operations alone. -/
theorem Fenced.frame (h : Fenced s) (hops : s'.operations = s.operations)
    (hguards : s'.guards = s.guards) (hnotes : s'.notifications = s.notifications)
    (hwaiters : ∀ w ∈ s'.waiters, w ∈ s.waiters ∨ w = ⟨.sleep, .looping⟩)
    (hstopped : ∀ e, ⟨true, e⟩ ∈ s'.stopped → ⟨true, e⟩ ∈ s.stopped)
    (hheld : s'.admission.held = true ↔ ∃ workId kind, s'.dispatcher = .registering workId kind)
    (hadmitted : s'.admission.held = true → s'.admission.stopping = false) : Fenced s' where
  count := by rw [hops, hguards, h.count]
  waiters w hw := by
    rw [hops, hnotes]
    obtain hw | rfl := hwaiters w hw
    · exact h.waiters w hw
    · exact ⟨by simp [Task.isStop], by simp [Task.isStop], by simp⟩
  stopped e he := by
    rw [hops, hguards]
    exact h.stopped e (hstopped e he)
  held := hheld
  admitted := hadmitted

theorem Fenced.begin (h : Fenced s) (hopen : s.operations.stopping = false) :
    Fenced { s with
      operations := { s.operations with inFlight := s.operations.inFlight + 1 }
      guards := s.guards + 1 } where
  count := by simp [h.count]
  waiters w hw := by
    have hnot : w.task.isStop = true → False := fun hstop => by
      simpa [hopen] using (h.waiters w hw).fenced hstop
    exact ⟨fun hstop => (hnot hstop).elim, fun hstop => (hnot hstop).elim,
      fun _ => .inl (Nat.succ_pos _)⟩
  stopped e he := by simpa [hopen] using (h.stopped e he).1
  held := h.held
  admitted := h.admitted

theorem Fenced.drop (h : Fenced s) (hguards : s.guards ≠ 0) :
    Fenced { s with
      operations := s.operations.drop.1
      guards := s.guards - 1
      notifications := s.notifications + if s.operations.drop.2 then 1 else 0 } where
  count := by simp [ActorOperations.drop, h.count]
  waiters w hw := by
    have hold := h.waiters w hw
    refine ⟨hold.fenced, fun hstop hreturned => ?_, fun hasleep => ?_⟩
    · have hzero := hold.returned hstop hreturned
      rw [h.count] at hzero
      exact absurd hzero hguards
    · by_cases hlast : s.operations.inFlight - 1 = 0
      · exact .inr (by simp [ActorOperations.drop, hlast])
      · exact .inl (Nat.pos_of_ne_zero hlast)
  stopped e he := absurd (h.stopped e he).2 hguards
  held := h.held
  admitted := h.admitted

theorem Fenced.notify (h : Fenced s) :
    Fenced { s with
      notifications := s.notifications - 1
      waiters := s.waiters.map Waiter.notify } where
  count := h.count
  waiters w' hw' := by
    obtain ⟨w, hw, rfl⟩ := List.mem_map.mp hw'
    have hold := h.waiters w hw
    obtain ⟨task, phase⟩ := w
    cases phase with
    | checking n =>
      exact ⟨hold.fenced, by simp [Waiter.notify, Phase.returned], by simp [Waiter.notify]⟩
    | sleeping n =>
      exact ⟨hold.fenced, by simp [Waiter.notify, Phase.returned], by simp [Waiter.notify]⟩
    | _ => exact ⟨hold.fenced, hold.returned, by simp [Waiter.notify]⟩
  stopped := h.stopped
  held := h.held
  admitted := h.admitted

/-- A waiter goes on. It returns only if it has seen that nothing is in flight. -/
theorem Waiter.Sound.next {o : ActorOperations} {n : Nat} {w w' : Waiter} (h : w.Sound o n)
    (hnext : w.next o.inFlight = some w') : w'.Sound o n := by
  obtain ⟨task, phase⟩ := w
  cases phase with
  | looping =>
    obtain rfl : _ = w' := by simpa [Waiter.next] using hnext
    exact ⟨h.fenced, by simp [Phase.returned], by simp⟩
  | checking notified =>
    obtain rfl : _ = w' := by simpa [Waiter.next] using hnext
    by_cases hidle : o.inFlight = 0
    · exact ⟨h.fenced, fun _ _ => hidle, by simp [hidle]⟩
    · exact ⟨h.fenced, by simp [hidle, Phase.returned], fun _ => .inl (Nat.pos_of_ne_zero hidle)⟩
  | sleeping notified =>
    cases notified with
    | true =>
      obtain rfl : _ = w' := by simpa [Waiter.next] using hnext
      exact ⟨h.fenced, by simp [Phase.returned], by simp⟩
    | false => simp [Waiter.next] at hnext
  | idle =>
    obtain rfl : _ = w' := by simpa [Waiter.next] using hnext
    exact ⟨h.fenced, fun hstop _ => h.returned hstop rfl, by simp⟩
  | finished => simp [Waiter.next] at hnext

theorem Fenced.wait (h : Fenced s) {i : Nat} {w w' : Waiter} (hw : s.waiters[i]? = some w)
    (hnext : w.next s.operations.inFlight = some w') :
    Fenced { s with waiters := s.waiters.set i w', stopped := s.stopped ++ w.resolves } where
  count := h.count
  waiters v hv := by
    obtain hv | rfl := List.mem_or_eq_of_mem_set hv
    · exact h.waiters v hv
    · exact (h.waiters w (List.mem_of_getElem? hw)).next hnext
  stopped e he := by
    obtain he | he := List.mem_append.mp he
    · exact h.stopped e he
    · have hsound := h.waiters w (List.mem_of_getElem? hw)
      obtain ⟨task, phase⟩ := w
      cases phase with
      | idle =>
        cases task with
        | stop error =>
          refine ⟨hsound.fenced rfl, ?_⟩
          rw [← h.count]
          exact hsound.returned rfl rfl
        | sleep => simp [Waiter.resolves] at he
      | _ => simp [Waiter.resolves] at he
  held := h.held
  admitted := h.admitted

/-- The admission of the operations is shut, and the waiter of a stop begins. -/
theorem Fenced.fence (h : Fenced s) (stop : Option (Option WireError))
    (hdispatcher : s.dispatcher = .fencing stop) :
    Fenced { s with
      operations := s.operations.beginStop
      dispatcher := .ready
      waiters := s.waiters ++ stop.toList.map fun error => ⟨.stop error, .looping⟩ } where
  count := h.count
  waiters w hw := by
    obtain hw | hw := List.mem_append.mp hw
    · have hold := h.waiters w hw
      exact ⟨fun _ => rfl, hold.returned, hold.asleep⟩
    · obtain ⟨error, -, rfl⟩ := List.mem_map.mp hw
      exact ⟨fun _ => rfl, by simp [Phase.returned], by simp⟩
  stopped e he := ⟨rfl, (h.stopped e he).2⟩
  held := by
    have hfree : s.admission.held ≠ true := fun hheld => by
      obtain ⟨workId, kind, hregistering⟩ := h.held.mp hheld
      simp [hdispatcher] at hregistering
    simp [hfree]
  admitted := h.admitted

/-- The lock of the admission is free while the dispatcher is ready. -/
theorem Fenced.free (h : Fenced s) (hready : s.dispatcher = .ready) :
    s.admission.held = false := by
  refine Bool.eq_false_iff.mpr fun hheld => ?_
  obtain ⟨workId, kind, hregistering⟩ := h.held.mp hheld
  simp [hready] at hregistering

theorem fenced_step : Run.Keeps step Run.anyAction Fenced := by
  intro s a s' h _ hs
  cases move_of_step h.free hs with
  | begin hopen => exact h.begin hopen
  | drop hguards => exact h.drop hguards
  | notify => exact h.notify
  | wait hw hnext => exact h.wait hw hnext
  | shut dispatcher hfree hregistering =>
    refine h.frame rfl rfl rfl (fun _ hw => .inl hw) (fun _ he => he) ?_
      (by simp [ManagedWorkAdmission.beginStop, hfree])
    simp only [ManagedWorkAdmission.beginStop, hfree, Bool.false_eq_true, false_iff, not_exists]
    intro workId kind hd
    have hheld := h.held.mpr ⟨workId, kind, (hregistering workId kind hd).trans hd⟩
    simp [hfree] at hheld
  | stale error => exact h.frame rfl rfl rfl (fun _ hw => .inl hw) (by simp) h.held h.admitted
  | fence hd => exact h.fence _ hd
  | sleep => exact h.frame rfl rfl rfl (by simp) (fun _ he => he) h.held h.admitted
  | same => exact h
  | admitted workId kind hopen =>
    exact h.frame rfl rfl rfl (fun _ hw => .inl hw) (fun _ he => he) (by simp) fun _ => rfl
  | register work hd =>
    exact h.frame rfl rfl rfl (fun _ hw => .inl hw) (fun _ he => he)
      (by simp [ManagedWorkAdmission.release]) (by simp [ManagedWorkAdmission.release])
  | forget registered hwork =>
    exact h.frame rfl rfl rfl (fun _ hw => .inl hw) (fun _ he => he) h.held h.admitted

theorem Fenced.of_reaches (h : Reaches s) : Fenced s := h.invariant fenced_initial fenced_step

/-! ### What stays -/

/-- The stop of a registered actor was resolved. -/
def State.Resolved (s : State) : Prop := ∃ e, ⟨true, e⟩ ∈ s.stopped

theorem resolved_step : Run.Keeps step Run.anyAction fun s => Fenced s ∧ s.Resolved := by
  intro s a s' ⟨h, e, he⟩ _ hs
  refine ⟨fenced_step s a s' h trivial hs, e, ?_⟩
  cases move_of_step h.free hs with
  | wait hw hnext => exact List.mem_append_left _ he
  | stale error => exact List.mem_append_left _ he
  | _ => exact he

/-- The admission of managed work is shut, and all the work was registered before. -/
def Sealed (work : List UInt64) (s : State) : Prop :=
  s.admission.stopping = true ∧ s.managedWork ⊆ work

theorem sealed_step (work : List UInt64) :
    Run.Keeps step Run.anyAction fun s => Fenced s ∧ Sealed work s := by
  intro s a s' ⟨h, hstop, hwork⟩ _ hs
  refine ⟨fenced_step s a s' h trivial hs, ?_⟩
  cases move_of_step h.free hs with
  | shut dispatcher hfree hregistering => exact ⟨rfl, hwork⟩
  | admitted workId kind hopen => simp [hstop] at hopen
  | register work' hd =>
    -- a registration holds the lock, and the flag is not set under it
    have hopen := h.admitted (h.held.mpr ⟨_, _, hd⟩)
    simp [hstop] at hopen
  | forget registered hless => exact ⟨hstop, List.Subset.trans hless hwork⟩
  | _ => exact ⟨hstop, hwork⟩

theorem ManagedWorkAdmission.stopping_stopOnSuccess {ε α : Type} (a : ManagedWorkAdmission)
    (result : Except ε α) :
    (a.stopOnSuccess result).1.stopping = (a.stopping || result.isOk) ∧
      (a.stopOnSuccess result).2 = result := by
  cases result with
  | ok u => simp [stopOnSuccess, Except.isOk, Except.toBool]
  | error e => simp [stopOnSuccess, Except.isOk, Except.toBool]

/-- In every run: from the resolution of the stop of a registered actor on, no
operation is in flight and none begins; once the admission of managed work is
shut, no work is registered; a request to destroy shuts it exactly if core accepts
it; and a waiter sleeps only while an operation is in flight or a notification is
due. -/
theorem stop_fence (h : Reaches s) :
    (s.Resolved → ∀ s', Later s s' → s'.guards = 0 ∧ s'.operations.begin = none) ∧
    (s.admission.stopping = true → ∀ s', Later s s' → s'.managedWork ⊆ s.managedWork) ∧
    (∀ result s', s.admission.stopping = false → step s (.destroyIntent result) = some s' →
      (s'.admission.stopping = true ↔ result.isOk = true)) ∧
    ∀ w ∈ s.waiters, w.phase = .sleeping false → 0 < s.guards ∨ 0 < s.notifications := by
  have hfenced := Fenced.of_reaches h
  refine ⟨?_, ?_, ?_, ?_⟩
  · intro hresolved s' hlater
    obtain ⟨h', e, he⟩ := hlater.invariant ⟨hfenced, hresolved⟩ resolved_step
    obtain ⟨hstopping, hguards⟩ := h'.stopped e he
    exact ⟨hguards, by simp [ActorOperations.begin, hstopping]⟩
  · intro hstop s' hlater
    have hsealed := hlater.invariant ⟨hfenced, hstop, List.Subset.refl _⟩
      (sealed_step s.managedWork)
    exact hsealed.2.2
  · intro result s' hopen hs
    obtain ⟨-, hs⟩ := Option.ite_none_left_eq_some.mp hs
    obtain rfl := Option.some.inj hs
    rw [show (_ : State).admission = (s.admission.stopOnSuccess result).1 from rfl,
      (s.admission.stopping_stopOnSuccess result).1, hopen, Bool.false_or]
  · intro w hw hasleep
    rw [← hfenced.count]
    exact (hfenced.waiters w hw).asleep hasleep

/-- Two operations are in flight when the stop is reported; its waiter sleeps until
the second is over. -/
def stopWithTwoOperations : List Action :=
  [.begin, .managedWorkBegin 1 "wait_until", .register, .begin, .actorStopResult none, .fence,
    .wait 0, .wait 0, .drop, .drop, .notify, .wait 0, .wait 0, .wait 0, .wait 0]

theorem stopWithTwoOperations_fenced : ∃ s,
    Run.run step initial stopWithTwoOperations = some s ∧ s.stopped = [⟨true, none⟩] ∧
      s.managedWork = [1] ∧ s.guards = 0 ∧ s.operations.begin = none := by
  refine ⟨_, rfl, rfl, rfl, ?_⟩
  have hreaches := Run.reachable_of_run _
    (rfl : Run.run step initial stopWithTwoOperations = some _)
  exact (stop_fence hreaches).1 ⟨none, .head _⟩ _ .init

end RivetGo.StopFence

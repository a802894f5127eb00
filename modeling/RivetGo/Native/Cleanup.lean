import Mathlib
import RivetGo.Data.Run

/-!
# What a generation leaves in the native tables

`run_actor` ends by clearing what its identity has in `actors`, `connections`,
`sqlite_transactions`, `queue_waits`, `queue_messages` and `managed_work`. A command of the
identity finds the actor in `actors`, passes the gate of its record, touches its table and may
start a task that awaits core and touches the table again. Only a queue message is entered with
a look at `actors` in that second half.

The commands, the tasks and `run_actor` share the one worker thread of the runner, so what lies
between two awaits is one step: a command, the end of a task, and the whole cleanup from the
return of `run_actor_inner` on. What remains open is which tasks are in flight when the cleanup
comes. A graceful stop waits for the tasks that hold a guard of `operations`; an actor that ends
with an error does not. The model is of one identity; the tables hold what belongs to it.
-/

namespace RivetGo.Cleanup

/-- The tables that commands enter something in. -/
structure Tables where
  sqliteTransactions : Finset String := ∅
  queueWaits : Finset Nat := ∅
  queueMessages : Finset Nat := ∅
  managedWork : Finset Nat := ∅
  deriving DecidableEq

inductive Command where
  | sqliteBegin (leaseKey : String)
  | sqliteFinish (leaseKey : String)
  | queueEnqueueWait (opId : Nat)
  | queueNext (opId : Nat)
  | queueComplete (messageId : Nat)
  | queueRetry (messageId : Nat)
  /-- `known` says that the kind of the work is `wait_until` or `keep_awake`. -/
  | beginManagedWork (workId : Nat) (known : Bool)
  deriving DecidableEq

/-- What the task of a command awaits. -/
inductive Task where
  | beginning (leaseKey : String)
  /-- The transaction was taken out of the table. -/
  | finishing
  | enqueued (opId : Nat)
  | waiting (opId : Nat)
  /-- The message was taken out of the table. -/
  | completing (messageId : Nat)
  deriving DecidableEq

/-- How what a task awaits ends. -/
inductive Outcome where
  | succeeded
  | failed
  /-- `next` returns a message that is to be completed. -/
  | message (messageId : Nat)
  deriving DecidableEq

structure State where
  /-- `actors` has the identity, and `run_actor_inner` has not returned. -/
  live : Bool := true
  connections : Finset String
  tables : Tables := {}
  /-- `operations` takes no more. -/
  stopping : Bool := false
  /-- `managed_work_admission` takes no more. -/
  admissionStopped : Bool := false
  /-- `ActorStopResult` was handled, and its task waits for the operations. -/
  stopAnswered : Bool := false
  /-- That task has seen no operation in flight. -/
  drained : Bool := false
  tasks : List Task := []
  deriving DecidableEq

/-- The actor has been entered, with the connections it wakes up with. -/
def initial (restored : Finset String) : State := { connections := restored }

-- `next` gives its guard back before it starts its task, and managed work has none.
def Task.guarded : Task → Bool
  | .waiting _ => false
  | _ => true

/-- `mutate_actor_scoped_state_if_live`, for a queue message. -/
def Tables.retainQueueMessageIfActorActive (t : Tables) (live : Bool) (messageId : Nat) : Tables :=
  if live then { t with queueMessages := insert messageId t.queueMessages } else t

/-- A command that was admitted, up to the start of its task. -/
def Command.handle (t : Tables) : Command → Tables × Option Task
  | .sqliteBegin leaseKey =>
    (t, if leaseKey ∈ t.sqliteTransactions then none else some (.beginning leaseKey))
  | .sqliteFinish leaseKey =>
    ({ t with sqliteTransactions := t.sqliteTransactions.erase leaseKey },
      if leaseKey ∈ t.sqliteTransactions then some .finishing else none)
  | .queueEnqueueWait opId =>
    ({ t with queueWaits := insert opId t.queueWaits }, some (.enqueued opId))
  | .queueNext opId => ({ t with queueWaits := insert opId t.queueWaits }, some (.waiting opId))
  | .queueComplete messageId =>
    ({ t with queueMessages := t.queueMessages.erase messageId },
      if messageId ∈ t.queueMessages then some (.completing messageId) else none)
  | .queueRetry messageId =>
    ({ t with queueMessages := t.queueMessages.erase messageId }, none)
  | .beginManagedWork workId known =>
    (if known then { t with managedWork := insert workId t.managedWork } else t, none)

/-- What a task does when core has answered. -/
def Task.resume (t : Tables) (live : Bool) : Task → Outcome → Tables
  | .beginning leaseKey, .succeeded =>
    { t with sqliteTransactions := insert leaseKey t.sqliteTransactions }
  | .beginning _, _ => t
  | .finishing, _ => t
  | .enqueued opId, _ => { t with queueWaits := t.queueWaits.erase opId }
  | .waiting opId, .message messageId =>
    { t with queueWaits := t.queueWaits.erase opId }.retainQueueMessageIfActorActive live
      messageId
  | .waiting opId, _ => { t with queueWaits := t.queueWaits.erase opId }
  | .completing messageId, .failed => t.retainQueueMessageIfActorActive live messageId
  | .completing _, _ => t

inductive Action where
  | handleCommand (command : Command)
  | resume (i : Nat) (outcome : Outcome)
  | endManagedWork (workId : Nat)
  /-- The runner has stopped and its transactions are dropped. -/
  | drainShutdown
  | connectionOpen (connectionId : String)
  | connectionClosed (connectionId : String)
  | runGracefulCleanup
  /-- `DestroyIntent`, and whether core takes it. -/
  | destroyIntent (accepted : Bool)
  | actorStopResult
  /-- The task of `ActorStopResult` goes on. -/
  | waitIdle
  /-- `run_actor_inner` returns, and `run_actor` clears the tables. -/
  | returns
  deriving DecidableEq

namespace State

/-- No guard of `operations` is held. -/
def Idle (s : State) : Prop := ∀ task ∈ s.tasks, task.guarded = false

instance (s : State) : Decidable s.Idle := inferInstanceAs (Decidable (∀ task ∈ s.tasks, _))

def admits (s : State) : Command → Bool
  | .beginManagedWork _ _ => !s.admissionStopped
  | _ => !s.stopping

def handleCommand (s : State) (command : Command) : State :=
  let next := command.handle s.tables
  { s with tables := next.1, tasks := s.tasks ++ next.2.toList }

def cleanup (s : State) : State :=
  { s with
    live := false
    connections := ∅
    tables :=
      { sqliteTransactions := ∅, queueWaits := ∅, queueMessages := ∅, managedWork := ∅ } }

end State

def step (s : State) : Action → Option State
  | .handleCommand command =>
    if s.live = true ∧ s.admits command = true then some (s.handleCommand command) else some s
  | .resume i outcome => s.tasks[i]?.map fun task =>
    { s with
      tables := task.resume s.tables s.live outcome
      tasks := s.tasks.eraseIdx i }
  | .endManagedWork workId =>
    some { s with tables := { s.tables with managedWork := s.tables.managedWork.erase workId } }
  | .drainShutdown => some { s with tables := { s.tables with sqliteTransactions := ∅ } }
  | .connectionOpen connectionId =>
    if s.live = true then some { s with connections := insert connectionId s.connections }
    else none
  | .connectionClosed connectionId =>
    if s.live = true then some { s with connections := s.connections.erase connectionId }
    else none
  | .runGracefulCleanup =>
    if s.live = true then some { s with admissionStopped := true } else none
  | .destroyIntent accepted =>
    if s.live = true ∧ accepted = true then
      some { s with admissionStopped := true, stopping := true }
    else some s
  | .actorStopResult =>
    if s.live = true then
      some { s with admissionStopped := true, stopping := true, stopAnswered := true }
    else some s
  | .waitIdle =>
    if s.stopAnswered = true ∧ s.Idle then some { s with drained := true } else none
  | .returns => if s.live = true then some s.cleanup else none

variable {s s' : State} {a : Action} {restored : Finset String}

/-- No table has anything of the identity. -/
structure Gone (s : State) : Prop where
  actors : s.live = false
  connections : s.connections = ∅
  tables : s.tables = {}

/-- Nor will any of them have, whatever happens from now on. -/
def GoneForGood (s : State) : Prop := ∀ later t, Run.run step s later = some t → Gone t

/-! ## The tasks in flight at the cleanup -/

/-- No `SqliteBegin` awaits core. -/
def State.NoneBeginning (s : State) : Prop := ∀ leaseKey, Task.beginning leaseKey ∉ s.tasks

/-- With the actor gone, a task other than a begin only takes things out. -/
theorem Task.resume_empty {task : Task} (h : ∀ leaseKey, task ≠ .beginning leaseKey)
    (outcome : Outcome) : task.resume {} false outcome = {} := by
  cases task with
  | beginning leaseKey => exact absurd rfl (h leaseKey)
  | _ => cases outcome <;> simp [Task.resume, Tables.retainQueueMessageIfActorActive]

/-- Nothing is there, and nothing is on its way. -/
structure Settled (s : State) : Prop where
  gone : Gone s
  none : s.NoneBeginning

theorem settled_cleanup (h : s.NoneBeginning) : Settled s.cleanup := ⟨⟨rfl, rfl, rfl⟩, h⟩

theorem settled_step (h : Settled s) (hs : step s a = some s') : Settled s' := by
  obtain ⟨⟨hactors, hconnections, htables⟩, hnone⟩ := h
  have hdead : ¬ s.live = true := by rw [hactors]; exact Bool.false_ne_true
  cases a with
  | handleCommand command =>
    rw [step, if_neg fun hh => hdead hh.1] at hs
    obtain rfl := Option.some.inj hs
    exact ⟨⟨hactors, hconnections, htables⟩, hnone⟩
  | resume i outcome =>
    obtain ⟨task, htask, rfl⟩ := Option.map_eq_some_iff.mp hs
    have hmem := List.mem_of_getElem? htask
    refine ⟨⟨hactors, hconnections, ?_⟩, fun leaseKey hl => ?_⟩
    · rw [hactors, htables]
      exact Task.resume_empty (fun leaseKey heq => hnone leaseKey (heq ▸ hmem)) outcome
    · exact hnone leaseKey (List.mem_of_mem_eraseIdx hl)
  | endManagedWork workId =>
    obtain rfl := Option.some.inj hs
    refine ⟨⟨hactors, hconnections, ?_⟩, hnone⟩
    simp only [htables, Finset.erase_empty]
  | drainShutdown =>
    obtain rfl := Option.some.inj hs
    exact ⟨⟨hactors, hconnections, by simp only [htables]⟩, hnone⟩
  | destroyIntent accepted =>
    rw [step, if_neg fun hh => hdead hh.1] at hs
    obtain rfl := Option.some.inj hs
    exact ⟨⟨hactors, hconnections, htables⟩, hnone⟩
  | actorStopResult =>
    rw [step, if_neg hdead] at hs
    obtain rfl := Option.some.inj hs
    exact ⟨⟨hactors, hconnections, htables⟩, hnone⟩
  | waitIdle =>
    obtain ⟨-, rfl⟩ := Run.guard_eq_some.mp hs
    exact ⟨⟨hactors, hconnections, htables⟩, hnone⟩
  | connectionOpen connectionId | connectionClosed connectionId | runGracefulCleanup | returns =>
    exact absurd (Run.guard_eq_some.mp hs).1 hdead

theorem Settled.goneForGood (h : Settled s) : GoneForGood s := fun later _ hrun =>
  ((Run.reachable_of_run later hrun).invariant h fun _ _ _ hinv _ hs =>
    settled_step hinv hs).gone

/-- A begin that was in flight at the cleanup can succeed after it. -/
theorem not_goneForGood_of_beginning {leaseKey : String} (h : Task.beginning leaseKey ∈ s.tasks) :
    ¬ GoneForGood s.cleanup := by
  intro hgood
  obtain ⟨i, hi⟩ := List.mem_iff_getElem?.mp h
  have hrun : Run.run step s.cleanup [.resume i .succeeded] = some
      { s.cleanup with
        tables := (Task.beginning leaseKey).resume {} false .succeeded
        tasks := s.tasks.eraseIdx i } := by
    simp only [Run.run, step, State.cleanup, hi, Option.map_some, Option.bind_some]
  have htransactions := congrArg Tables.sqliteTransactions (hgood _ _ hrun).tables
  exact absurd htransactions (Finset.insert_ne_empty leaseKey ∅)

/-- Once `run_actor` has cleaned up, the identity is in no table for good, exactly if no
`SqliteBegin` was awaiting core when `run_actor_inner` returned. -/
theorem goneForGood_iff (hs : step s .returns = some s') :
    GoneForGood s' ↔ s.NoneBeginning := by
  obtain ⟨-, rfl⟩ := Run.guard_eq_some.mp hs
  refine ⟨fun hgood leaseKey hmem => ?_, fun hnone => (settled_cleanup hnone).goneForGood⟩
  exact not_goneForGood_of_beginning hmem hgood

/-- A statement is being finished, a message completed and another one awaited, and managed work
is under way when an action panics. -/
def panicAtWork : List Action :=
  [.handleCommand (.sqliteBegin "lease"), .resume 0 .succeeded, .handleCommand (.queueNext 1),
    .resume 0 (.message 7), .handleCommand (.queueNext 2), .handleCommand (.queueComplete 7),
    .handleCommand (.sqliteFinish "lease"), .handleCommand (.beginManagedWork 3 true),
    .connectionOpen "conn"]

theorem panicAtWork_goneForGood :
    ∃ s s', Run.run step (initial {"restored"}) panicAtWork = some s ∧
      s.tasks = [.waiting 2, .completing 7, .finishing] ∧ s.tables.managedWork = {3} ∧
      step s .returns = some s' ∧ GoneForGood s' := by
  obtain ⟨s, hrun, htasks, hwork, hlive⟩ :
      ∃ s, Run.run step (initial {"restored"}) panicAtWork = some s ∧
        s.tasks = [.waiting 2, .completing 7, .finishing] ∧ s.tables.managedWork = {3} ∧
        s.live = true := ⟨_, rfl, rfl, rfl, rfl⟩
  have hstep : step s .returns = some s.cleanup := by rw [step, if_pos hlive]
  refine ⟨s, s.cleanup, hrun, htasks, hwork, hstep, (goneForGood_iff hstep).mpr ?_⟩
  intro leaseKey
  rw [htasks]
  simp

/-! ## Graceful stops -/

/-- Once the operations have been seen idle behind a closed gate, they stay so. -/
structure Drains (s : State) : Prop where
  answered : s.stopAnswered = true → s.stopping = true
  drained : s.drained = true → s.stopping = true ∧ s.Idle

theorem drains_initial : Drains (initial restored) := ⟨Bool.noConfusion, Bool.noConfusion⟩

/-- Behind the gate of `operations` only managed work is admitted, which starts no task. -/
theorem State.handle_of_stopping {command : Command} (hstopping : s.stopping = true)
    (hadmits : s.admits command = true) : (command.handle s.tables).2 = none := by
  cases command with
  | beginManagedWork workId known => rfl
  | _ =>
    have hopen : (!s.stopping) = true := hadmits
    rw [hstopping] at hopen
    exact absurd hopen Bool.noConfusion

theorem drains_step (h : Drains s) (hs : step s a = some s') : Drains s' := by
  obtain ⟨hanswered, hdrained⟩ := h
  cases a with
  | handleCommand command =>
    rw [step] at hs
    split_ifs at hs with hadmitted
    · obtain rfl := Option.some.inj hs
      refine ⟨hanswered, fun hd => ?_⟩
      obtain ⟨hstopping, hidle⟩ := hdrained hd
      refine ⟨hstopping, fun task htask => hidle task ?_⟩
      have hnone := State.handle_of_stopping hstopping hadmitted.2
      simpa [State.handleCommand, hnone] using htask
    · obtain rfl := Option.some.inj hs
      exact ⟨hanswered, hdrained⟩
  | resume i outcome =>
    obtain ⟨task, -, rfl⟩ := Option.map_eq_some_iff.mp hs
    refine ⟨hanswered, fun hd => ⟨(hdrained hd).1, fun task' htask' => ?_⟩⟩
    exact (hdrained hd).2 task' (List.mem_of_mem_eraseIdx htask')
  | endManagedWork workId | drainShutdown =>
    obtain rfl := Option.some.inj hs
    exact ⟨hanswered, hdrained⟩
  | connectionOpen connectionId | connectionClosed connectionId | runGracefulCleanup | returns =>
    obtain ⟨-, rfl⟩ := Run.guard_eq_some.mp hs
    exact ⟨hanswered, hdrained⟩
  | destroyIntent accepted =>
    rw [step] at hs
    split_ifs at hs <;> obtain rfl := Option.some.inj hs
    · exact ⟨fun _ => rfl, fun hd => ⟨rfl, (hdrained hd).2⟩⟩
    · exact ⟨hanswered, hdrained⟩
  | actorStopResult =>
    rw [step] at hs
    split_ifs at hs <;> obtain rfl := Option.some.inj hs
    · exact ⟨fun _ => rfl, fun hd => ⟨rfl, (hdrained hd).2⟩⟩
    · exact ⟨hanswered, hdrained⟩
  | waitIdle =>
    obtain ⟨⟨hstop, hidle⟩, rfl⟩ := Run.guard_eq_some.mp hs
    exact ⟨hanswered, fun _ => ⟨hanswered hstop, hidle⟩⟩

/-- A generation that ends after a graceful stop has drained it leaves nothing behind. -/
theorem goneForGood_of_drained (hreach : Run.Reachable step Run.anyAction (initial restored) s)
    (hdrained : s.drained = true) (hs : step s .returns = some s') : GoneForGood s' := by
  have hdrains : Drains s :=
    hreach.invariant drains_initial fun _ _ _ hinv _ hs => drains_step hinv hs
  obtain ⟨-, hidle⟩ := hdrains.drained hdrained
  obtain ⟨-, rfl⟩ := Run.guard_eq_some.mp hs
  refine (settled_cleanup fun leaseKey hmem => ?_).goneForGood
  exact absurd (hidle _ hmem) Bool.noConfusion

/-- The actor ends with an error while a transaction is being begun, and core begins it. -/
def lateBegin : List Action :=
  [.handleCommand (.sqliteBegin "lease"), .returns, .resume 0 .succeeded]

theorem lease_survives :
    (∃ s, Run.run step (initial ∅) lateBegin = some s ∧ s.live = false ∧
      s.tables.sqliteTransactions = {"lease"}) ∧
    ∃ s s', Run.Reachable step Run.anyAction (initial ∅) s ∧ step s .returns = some s' ∧
      ¬ GoneForGood s' := by
  refine ⟨⟨_, rfl, rfl, rfl⟩, _, _,
    Run.reachable_of_run [.handleCommand (.sqliteBegin "lease")] rfl, rfl, ?_⟩
  have hbegins : Task.beginning "lease" ∈ [Task.beginning "lease"] := List.mem_cons_self
  exact not_goneForGood_of_beginning hbegins

end RivetGo.Cleanup

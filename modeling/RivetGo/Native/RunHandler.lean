import Mathlib
import RivetGo.Data.Run

/-!
# The run handler of a generation

Core counts the run handlers of an actor. The command loop begins one when it handles
`ActorStartResult`, and ends it when it handles `ActorRunResult`; the cleanup of `run_actor`
ends it if the result did not come. Whoever ends it has taken the flag `run_active` before.

The command loop and the actor task run on the one worker thread of the runner. Neither
`handle_command` nor the part of `run_actor` that follows its last await gives up the thread,
so each command and the cleanup is one step, and only their order is open: a start may time
out before, after or between the commands, and a command may come long after the cleanup.
-/

namespace RivetGo.RunHandler

/-- How far `run_actor` has got. -/
inductive Task where
  | created
  /-- The actor is registered and `ActorStart` was sent. -/
  | starting
  | looping
  | over
  deriving DecidableEq

/-- The calls of core. -/
inductive Call where
  | began
  | ended
  deriving DecidableEq

structure State where
  task : Task := .created
  /-- The actor's record in `actors`, of which only `run_active` is read here. -/
  actor : Option Bool := none
  /-- What the correlation of the start was resolved with: whether it succeeded. -/
  answer : Option Bool := none
  /-- `ActorStartResult` was handled. -/
  started : Bool := false
  calls : List Call := []
  deriving DecidableEq

def initial : State := {}

namespace State

def insertActor (s : State) : State :=
  { s with task := .starting, actor := some false }

/-- The first half of `ActorStartResult`. -/
def beginRunHandler (s : State) : State :=
  match s.actor with
  | none => s
  | some runActive => { s with
      actor := some true
      calls := if runActive then s.calls else s.calls ++ [.began] }

/-- `pending.resolve`, or the expiry of the correlation: the first one counts. -/
def resolveStart (s : State) (ok : Bool) : State :=
  { s with answer := s.answer.or (some ok) }

def actorStartResult (s : State) (error run : Bool) : State :=
  let begun := if !error && run then s.beginRunHandler else s
  { begun.resolveStart (!error) with started := true }

def actorRunResult (s : State) : State :=
  match s.actor with
  | none => s
  | some runActive => { s with
      actor := some false
      calls := if runActive then s.calls ++ [.ended] else s.calls }

/-- What `run_actor` does with the flag and the actor once `run_actor_inner` has returned. -/
def cleanup (s : State) : State :=
  let runWasActive := s.actor.getD false
  { s with
    task := .over
    actor := none
    calls := if runWasActive then s.calls ++ [.ended] else s.calls }

end State

inductive Action where
  | insertActor
  | startResult (error run : Bool)
  /-- The start times out, or the runner shuts down. -/
  | startExpires
  | startReady
  | runResult
  /-- `run_actor_inner` returns, and the cleanup follows. -/
  | returns
  deriving DecidableEq

-- Go submits one `ActorStartResult` for an `ActorStart`. An `ActorRunResult` may come at any
-- time and any number of times: nothing below depends on when Go sends it.
def step (s : State) : Action → Option State
  | .insertActor => if s.task = .created then some s.insertActor else none
  | .startResult error run =>
    if s.task ≠ .created ∧ s.started = false then some (s.actorStartResult error run) else none
  | .startExpires => if s.task = .starting then some (s.resolveStart false) else none
  | .startReady =>
    if s.task = .starting ∧ s.answer = some true then some { s with task := .looping } else none
  | .runResult => some s.actorRunResult
  | .returns =>
    if s.task = .looping ∨ s.task = .starting ∧ s.answer = some false then some s.cleanup
    else none

variable {s s' : State} {a : Action}

/-! ## Balance -/

namespace State

variable (s : State)

def begun : Nat := s.calls.count .began

def ended : Nat := s.calls.count .ended

/-- An end is due. -/
def active : Bool := s.actor.getD false

end State

/-- The handler is begun at most once, and no end comes before the begin. When the cleanup is
over it has been ended as often as it was begun. -/
structure Balanced (s : State) : Prop where
  once : s.begun ≤ 1
  order : ∀ before, before ++ [.ended] <+: s.calls → .began ∈ before
  most : s.ended ≤ s.begun
  settled : s.task = .over → s.ended = s.begun

/-- No end was called before its begin. -/
structure Ordered (calls : List Call) : Prop where
  order : ∀ before, before ++ [.ended] <+: calls → .began ∈ before
  most : calls.count .ended ≤ calls.count .began

theorem ordered_nil : Ordered [] := by
  refine ⟨fun before h => ?_, Nat.le_refl 0⟩
  rw [List.prefix_nil] at h
  exact absurd h (List.append_ne_nil_of_right_ne_nil _ (List.cons_ne_nil _ _))

theorem Ordered.began {calls : List Call} (h : Ordered calls) : Ordered (calls ++ [.began]) := by
  refine ⟨fun before hprefix => ?_, ?_⟩
  · rcases List.prefix_concat_iff.mp hprefix with heq | hprefix
    · obtain ⟨-, hlast⟩ := List.append_inj' heq rfl
      exact Call.noConfusion (List.singleton_inj.mp hlast)
    · exact h.order before hprefix
  · rw [List.count_append, List.count_append]
    exact Nat.add_le_add h.most (Nat.zero_le _)

theorem Ordered.ended {calls : List Call} (h : Ordered calls)
    (hdue : calls.count .ended < calls.count .began) : Ordered (calls ++ [.ended]) := by
  refine ⟨fun before hprefix => ?_, ?_⟩
  · rcases List.prefix_concat_iff.mp hprefix with heq | hprefix
    · obtain ⟨rfl, -⟩ := List.append_inj' heq rfl
      exact List.count_pos_iff.mp (Nat.lt_of_le_of_lt (Nat.zero_le _) hdue)
    · exact h.order before hprefix
  · rw [List.count_append, List.count_append]
    exact Nat.succ_le_of_lt hdue

/-- The flag is set exactly while an end is due, and only a registered actor has a flag. -/
structure Accounts (s : State) : Prop where
  ordered : Ordered s.calls
  owner : s.begun = s.ended + s.active.toNat
  start : s.begun ≤ s.started.toNat
  absent : s.actor.isSome = true → s.task ≠ .created ∧ s.task ≠ .over

theorem accounts_initial : Accounts initial :=
  ⟨ordered_nil, rfl, Nat.le_refl 0, Bool.noConfusion⟩

theorem Accounts.insertActor (h : Accounts s) (htask : s.task = .created) :
    Accounts s.insertActor := by
  have hnone : s.actor = none := by
    refine Option.not_isSome_iff_eq_none.mp fun hsome => ?_
    exact (h.absent hsome).1 htask
  have howner := h.owner
  rw [State.active, hnone] at howner
  exact ⟨h.ordered, howner, h.start, fun _ => ⟨Task.noConfusion, Task.noConfusion⟩⟩

-- The bound on the begins is raised, which `actorStartResult` pays for by setting `started`.
theorem Accounts.beginRunHandler (h : Accounts s) (hstarted : s.started = false) :
    Accounts { s.beginRunHandler with started := true } := by
  obtain ⟨hordered, howner, hstart, habsent⟩ := h
  rw [hstarted] at hstart
  have hnever : s.calls.count .began = 0 := Nat.le_zero.mp hstart
  cases hactor : s.actor with
  | none =>
    have hsame : s.beginRunHandler = s := by rw [State.beginRunHandler, hactor]
    rw [hsame]
    exact ⟨hordered, howner, hstart.trans (Nat.zero_le _), habsent⟩
  | some runActive =>
    have hunset : runActive = false := by
      simp only [State.begun, State.active, hactor, Option.getD_some] at howner
      cases runActive with
      | false => rfl
      | true =>
        rw [hnever, Bool.toNat_true] at howner
        omega
    subst hunset
    have hnew : s.beginRunHandler =
        { s with actor := some true, calls := s.calls ++ [.began] } := by
      rw [State.beginRunHandler, hactor]
      rfl
    have hended : s.calls.count .ended = 0 := by
      have hmost := hordered.most
      omega
    rw [hnew]
    refine ⟨hordered.began, ?_, ?_, fun _ => habsent (by rw [hactor]; rfl)⟩
    · simp [State.begun, State.ended, State.active, hnever, hended]
    · simp [State.begun, hnever]

theorem Accounts.resolveStart (h : Accounts s) (ok : Bool) : Accounts (s.resolveStart ok) :=
  ⟨h.ordered, h.owner, h.start, h.absent⟩

theorem Accounts.actorStartResult (h : Accounts s) (hstarted : s.started = false)
    (error run : Bool) : Accounts (s.actorStartResult error run) := by
  rw [State.actorStartResult]
  split
  · exact (h.beginRunHandler hstarted).resolveStart _
  · exact ⟨h.ordered, h.owner, h.start.trans (by rw [hstarted]; exact Nat.zero_le _), h.absent⟩

/-- Taking the flag and ending the handler, as both `ActorRunResult` and the cleanup do. -/
theorem Accounts.endRunHandler (h : Accounts s) (task : Task) (actor : Option Bool)
    (hactor : actor.getD false = false)
    (habsent : actor.isSome = true → task ≠ .created ∧ task ≠ .over) :
    Accounts { s with
      task, actor, calls := if s.active then s.calls ++ [.ended] else s.calls } := by
  obtain ⟨hordered, howner, hstart, -⟩ := h
  cases hactive : s.active with
  | false =>
    rw [hactive] at howner
    refine ⟨hordered, ?_, hstart, habsent⟩
    rw [State.active, hactor]
    exact howner
  | true =>
    rw [hactive, Bool.toNat_true] at howner
    have hdue : s.ended < s.begun := by omega
    refine ⟨hordered.ended hdue, ?_, ?_, habsent⟩
    · simp only [State.begun, State.ended] at howner
      simp [State.begun, State.ended, State.active, hactor, howner]
    · simpa [State.begun] using hstart

theorem Accounts.actorRunResult (h : Accounts s) : Accounts s.actorRunResult := by
  cases hactor : s.actor with
  | none =>
    rw [State.actorRunResult, hactor]
    exact h
  | some runActive =>
    have hnew := h.endRunHandler s.task (some false) rfl
      fun _ => h.absent (by rw [hactor]; rfl)
    rw [State.active, hactor] at hnew
    rw [State.actorRunResult, hactor]
    exact hnew

theorem Accounts.cleanup (h : Accounts s) : Accounts s.cleanup :=
  h.endRunHandler .over none rfl Bool.noConfusion

theorem accounts_step (h : Accounts s) (hs : step s a = some s') : Accounts s' := by
  cases a with
  | insertActor =>
    obtain ⟨htask, rfl⟩ := Run.guard_eq_some.mp hs
    exact h.insertActor htask
  | startResult error run =>
    obtain ⟨⟨-, hstarted⟩, rfl⟩ := Run.guard_eq_some.mp hs
    exact h.actorStartResult hstarted error run
  | startExpires =>
    obtain ⟨-, rfl⟩ := Run.guard_eq_some.mp hs
    exact h.resolveStart false
  | startReady =>
    obtain ⟨-, rfl⟩ := Run.guard_eq_some.mp hs
    exact ⟨h.ordered, h.owner, h.start, fun _ => ⟨Task.noConfusion, Task.noConfusion⟩⟩
  | runResult =>
    obtain rfl := Option.some.inj hs
    exact h.actorRunResult
  | returns =>
    obtain ⟨-, rfl⟩ := Run.guard_eq_some.mp hs
    exact h.cleanup

/-- Once the actor is removed there is no flag, so nothing is left to be ended. -/
theorem Accounts.balanced (h : Accounts s) : Balanced s := by
  have hstarted : s.started.toNat ≤ 1 := Bool.toNat_le _
  refine ⟨h.start.trans hstarted, h.ordered.order, h.ordered.most, fun hover => ?_⟩
  have hnone : s.actor = none := by
    refine Option.not_isSome_iff_eq_none.mp fun hsome => ?_
    exact (h.absent hsome).2 hover
  have howner := h.owner
  rw [State.active, hnone] at howner
  exact howner.symm

/-- In every run of the command loop and the actor task the run handler is balanced. -/
theorem runHandler_balanced (h : Run.Reachable step Run.anyAction initial s) : Balanced s :=
  Accounts.balanced (h.invariant accounts_initial fun _ _ _ hinv _ hs => accounts_step hinv hs)

/-- The start has timed out when `ActorStartResult` begins the run handler; the cleanup ends it,
and the result of `Run` comes afterwards. -/
def lateStartResult : List Action :=
  [.insertActor, .startExpires, .startResult false true, .returns, .runResult]

theorem lateStartResult_balanced : ∃ s, Run.run step initial lateStartResult = some s ∧
    s.task = .over ∧ s.calls = [.began, .ended] ∧ Balanced s :=
  ⟨_, rfl, rfl, rfl, runHandler_balanced (Run.reachable_of_run lateStartResult rfl)⟩

end RivetGo.RunHandler

import Mathlib
import RivetGo.Data.Custody
import RivetGo.Data.Run

/-!
# The database handle of a generation

A `DB` counts the calls that it has let in and registers the transaction that
`Begin` has opened. `Sleep` and `Destroy` fence it: no call is let in any more, the
transactions found open are rolled back, and the fence waits until the last call has
gone. `Sleep` lifts its fence again when the drain or the intent fails. `close` is
what `Destroy` and the end of the actor call; its fence stays.

A step of a goroutine ends at its next access to what is shared. `leases` is the
table `sqlite_transactions` of the native side for this generation, as the FFI
transport fills it: a lease enters it when a begin succeeds. A command that finishes
the transaction is taken up by the native side at some moment before the call that
has sent it returns. The lease leaves the table then, whatever comes of the command,
unless `Destroy` has closed the gate of `operations` before: then the command is
answered with `actor_stopping` and the table is left alone. A lease has its sequence
number for a name. The session of the generation is alive all the time.

The native side answers an accepted sleep intent before it acts on it. `intents` are
those that it has not acted on yet; that it waits for the operations of the actor
first only delays it. `dispatched`, `handed`, `accepted` and `returned` are not in the
code. They record the leases whose finishing command native has taken up, the
transactions that callers have been given, whether a `Sleep` has returned nil, and what
held each time when `prepareForSleep` returned without error or `closeTransport`
returned.
-/

namespace RivetGo.Database

/-- The errors of a finished transaction that a drain expects, and the others. -/
inductive SqliteError where
  | transactionExpired
  | invalidLeaseKey
  | other
  deriving DecidableEq

/-- What became of a call of the backend. A command is not sent if the context or its
deadline is over or the submission fails. -/
inductive Outcome where
  | notSent
  | answered (error : Option SqliteError)
  deriving DecidableEq

def expectedCloseRollbackError : Outcome → Bool
  | .notSent => false
  | .answered none => true
  | .answered (some e) => e = .transactionExpired || e = .invalidLeaseKey

/-- Where `Begin` is; `t` is the lease that it asks for. -/
inductive BeginPhase where
  | admitted
  | calling (t : Nat)
  | begun (t : Nat)
  | undoing (t : Nat)
  | resetting
  deriving DecidableEq

/-- A call of the handle or of one of its transactions, after it was let in. -/
inductive Op where
  /-- `Exec` or `Query`. -/
  | statement
  | begin (phase : BeginPhase)
  /-- `Commit` or `Rollback`; `taken` if it has made the transaction terminal. -/
  | finish (t : Nat) (taken : Bool)
  | leaving
  | returned
  deriving DecidableEq

/-- The transaction that a call has its backend finish. -/
def Op.finishes : Op → Option Nat
  | .finish t true => some t
  | .begin (.undoing t) => some t
  | _ => none

/-- Where `drainOperations` is. -/
inductive Drain where
  | sweeping (todo : List Nat)
  | rollingBack (t : Nat) (todo : List Nat)
  | drained
  deriving DecidableEq

/-- The `Sleep` that holds `sleepIntentMu`. `failed` if a rollback has failed, `now`
if this call has set the fence. -/
inductive Sleeper where
  | idle
  | draining (d : Drain) (failed : Bool)
  | prepared (now : Bool)
  deriving DecidableEq

/-- The drain goes on to `d`. The errors of its rollbacks are collected. -/
def Sleeper.drainTo (d : Drain) (o : Outcome) : Sleeper → Sleeper
  | .draining (.rollingBack _ _) failed =>
    .draining d (failed || !expectedCloseRollbackError o)
  | .draining _ failed => .draining d failed
  | sleeper => sleeper

/-- The one run of the body of `closeOnce`. -/
inductive Closer where
  | idle
  | draining (d : Drain)
  | closed
  deriving DecidableEq

/-- The two that drain. -/
inductive Side where
  | sleep
  | close
  deriving DecidableEq

/-- What held when a fence was reported to be in place. -/
structure Return where
  active : Nat
  transactions : List Nat
  fenced : Bool
  deriving DecidableEq

structure State where
  closing : Bool := false
  sleepPrepared : Bool := false
  active : Nat := 0
  beginning : Bool := false
  transactions : List Nat := []
  /-- The transactions whose flag `terminal` is set. -/
  terminal : List Nat := []
  sequence : Nat := 0
  ops : List Op := []
  sleeper : Sleeper := .idle
  closer : Closer := .idle
  leases : List Nat := []
  dispatched : List Nat := []
  /-- The gate of native's `operations` is closed. -/
  stopping : Bool := false
  intents : Nat := 0
  asleep : Bool := false
  handed : List Nat := []
  accepted : Bool := false
  returned : List Return := []
  deriving DecidableEq

def initial : State := {}

namespace State

/-- The fence, as the calls see it. -/
def fenced (s : State) : Bool := s.closing || s.sleepPrepared

def beginOperation (s : State) : Option State :=
  if s.fenced then none else some { s with active := s.active + 1 }

def finishOperation (s : State) : State := { s with active := s.active - 1 }

def unregisterTransaction (s : State) (t : Nat) : State :=
  { s with transactions := s.transactions.filter (· ≠ t) }

/-- `dispatch_sqlite_finish`: the gate comes first. -/
def dispatchSqliteFinish (s : State) (t : Nat) : State :=
  { s with
    leases := if s.stopping then s.leases else s.leases.filter (· ≠ t)
    dispatched := t :: s.dispatched }

/-- A call that finishes `t` returns: with an answer if native has taken the command up,
and without one if the command was not sent. -/
def returns (s : State) (t : Nat) : Outcome → Bool
  | .notSent => t ∉ s.dispatched
  | .answered _ => t ∈ s.dispatched

def resumeAfterSleepFailure (s : State) : State :=
  { s with sleepPrepared := if s.closing then s.sleepPrepared else false }

def report (s : State) : State :=
  { s with returned := s.returned ++ [⟨s.active, s.transactions, s.fenced⟩] }

/-- The next step of a call; `o` is what its backend call comes to. -/
def advance (s : State) (o : Outcome) : Op → Option (State × Op)
  | .statement => some (s, .leaving)
  | .begin .admitted =>
    if s.beginning || s.transactions ≠ [] then some (s, .leaving)
    else
      some ({ s with beginning := true, sequence := s.sequence + 1 },
        .begin (.calling s.sequence))
  | .begin (.calling t) =>
    match o with
    | .answered none => some ({ s with leases := t :: s.leases }, .begin (.begun t))
    | _ => some (s, .begin .resetting)
  | .begin (.begun t) =>
    if s.fenced then some (s, .begin (.undoing t))
    else
      some ({ s with transactions := t :: s.transactions, handed := t :: s.handed },
        .begin .resetting)
  | .begin (.undoing t) => if s.returns t o then some (s, .begin .resetting) else none
  | .begin .resetting => some ({ s with beginning := false }, .leaving)
  | .finish t false =>
    if t ∈ s.terminal then some (s, .leaving)
    else some ({ s with terminal := t :: s.terminal }, .finish t true)
  | .finish t true => if s.returns t o then some (s.unregisterTransaction t, .leaving) else none
  | .leaving => some (s.finishOperation, .returned)
  | .returned => none

/-- The next step of `drainOperations`. -/
def drainOperations (s : State) (o : Outcome) : Drain → Option (State × Drain)
  | .sweeping [] => if s.active = 0 then some (s, .drained) else none
  | .sweeping (t :: todo) =>
    if t ∈ s.terminal then some (s, .sweeping todo)
    else some ({ s with terminal := t :: s.terminal }, .rollingBack t todo)
  | .rollingBack t todo =>
    if s.returns t o then some (s.unregisterTransaction t, .sweeping todo) else none
  | .drained => none

def drainOf (s : State) : Side → Option Drain
  | .sleep =>
    match s.sleeper with
    | .draining d _ => some d
    | _ => none
  | .close =>
    match s.closer with
    | .draining d => some d
    | _ => none

/-- The transaction that a drain is rolling back. -/
def rolling (s : State) (side : Side) : Option Nat :=
  match s.drainOf side with
  | some (.rollingBack t _) => some t
  | _ => none

/-- A backend call that finishes `t` is under way. -/
def finishing (s : State) (t : Nat) : Bool :=
  s.ops.any (fun op => op.finishes = some t) || s.rolling .sleep = some t ||
    s.rolling .close = some t

/-- A drain goes on to `d`, with `o` for what its backend call came to. -/
def setDrain (s : State) (side : Side) (d : Drain) (o : Outcome) : State :=
  { s with
    sleeper := if side = .sleep then s.sleeper.drainTo d o else s.sleeper
    closer := if side = .close then .draining d else s.closer }

end State

/-- What the task of an accepted sleep intent meets. -/
structure Transition where
  alarmTransportDirty : Bool
  listed : Bool
  confirmed : Bool
  slept : Bool
  deriving DecidableEq

/-- Whether the task gets core to put the actor to sleep. -/
def dispatchSleepIntent (w : Transition) : Bool :=
  let alarmConfirmed :=
    if w.alarmTransportDirty then (if w.listed then w.confirmed else false) else true
  if alarmConfirmed then w.slept else false

/-- A call of the public interface that is counted. -/
inductive Call where
  | statement
  | begin
  | finish (t : Nat)
  deriving DecidableEq

def Call.op : Call → Op
  | .statement => .statement
  | .begin => .begin .admitted
  | .finish t => .finish t false

/-- A caller can only finish a transaction that it was given. -/
def Call.possible (handed : List Nat) : Call → Bool
  | .finish t => t ∈ handed
  | _ => true

inductive Action where
  | call (c : Call)
  /-- The `i`-th call goes on. -/
  | advance (i : Nat) (o : Outcome)
  /-- `Sleep` takes `sleepIntentMu` and enters `prepareForSleep`. -/
  | sleep
  /-- `Destroy` or the end of the actor enters `closeTransport`. -/
  | close
  | drain (side : Side) (o : Outcome)
  | prepareReturns
  | requestSleep (accepted : Bool)
  | closeReturns
  /-- The native side acts on an accepted intent. -/
  | intent (w : Transition)
  /-- The native side takes up the command that finishes `t`. -/
  | dispatchSqliteFinish (t : Nat)
  /-- The native side takes up the intent of a `Destroy`, which core accepts or not. -/
  | destroyIntent (accepted : Bool)
  deriving DecidableEq

def step (s : State) : Action → Option State
  | .call c =>
    if c.possible s.handed then
      match s.beginOperation with
      | none => some s
      | some s' => some { s' with ops := s.ops ++ [c.op] }
    else none
  | .advance i o => do
      let op ← s.ops[i]?
      let r ← s.advance o op
      return { r.1 with ops := s.ops.set i r.2 }
  | .sleep =>
    if s.sleeper = .idle then
      if s.closing then some s
      else if s.sleepPrepared then some { s.report with sleeper := .prepared false }
      else
        some { s with
          sleepPrepared := true
          sleeper := .draining (.sweeping s.transactions) false }
    else none
  | .close =>
    if s.closer = .idle then
      some { s with closing := true, closer := .draining (.sweeping s.transactions) }
    else some s
  | .drain side o => do
      let d ← s.drainOf side
      let r ← s.drainOperations o d
      return r.1.setDrain side r.2 o
  | .prepareReturns =>
    match s.sleeper with
    | .draining .drained true => some { s.resumeAfterSleepFailure with sleeper := .idle }
    | .draining .drained false => some { s.report with sleeper := .prepared true }
    | _ => none
  | .requestSleep accepted =>
    match s.sleeper with
    | .prepared now =>
      if accepted then
        some { s with sleeper := .idle, intents := s.intents + 1, accepted := true }
      else if now then some { s.resumeAfterSleepFailure with sleeper := .idle }
      else some { s with sleeper := .idle }
    | _ => none
  | .closeReturns =>
    match s.closer with
    | .draining .drained => some { s.report with closer := .closed }
    | .closed => some s.report
    | _ => none
  | .intent w =>
    match s.intents with
    | 0 => none
    | n + 1 => some { s with intents := n, asleep := s.asleep || dispatchSleepIntent w }
  | .dispatchSqliteFinish t =>
    if s.finishing t = true ∧ t ∉ s.dispatched then some (s.dispatchSqliteFinish t) else none
  -- `Destroy` submits its intent when `closeTransport` has returned.
  | .destroyIntent accepted =>
    if s.closer = .closed then some { s with stopping := s.stopping || accepted } else none

abbrev Reaches (s : State) : Prop := Run.Reachable step Run.anyAction initial s

abbrev Later (s s' : State) : Prop := Run.Reachable step Run.anyAction s s'

variable {s s' : State} {a : Action}

/-! ### What a step can do -/

/-- The lease of a `Begin` that is not through with it. -/
def Op.pending : Op → Option Nat
  | .begin (.calling t) => some t
  | .begin (.begun t) => some t
  | .begin (.undoing t) => some t
  | _ => none

/-- The lease that a `Begin` has opened and not registered. -/
def Op.holds : Op → Option Nat
  | .begin (.begun t) => some t
  | .begin (.undoing t) => some t
  | _ => none

/-- The transaction that a call finishes. -/
def Op.taken : Op → Option Nat
  | .finish t true => some t
  | _ => none

/-- What a call does by itself: it neither returns nor touches a transaction. -/
structure Op.Quiet (op op' : Op) : Prop where
  active : op ≠ .returned
  active' : op' ≠ .returned
  taken : op.taken = none
  taken' : op'.taken = none
  pending : op'.pending = op.pending
  holds : op'.holds = op.holds
  entered : ∀ t, op' ≠ .finish t false
  calling : ∀ t, op' ≠ .begin (.calling t)
  waiting : ∀ t, op ≠ .begin (.undoing t)

/-- What one step of the call in state `op` does to the handle. -/
inductive OpMove (s : State) (o : Outcome) : Op → State → Op → Prop where
  | quiet {op op' : Op} (beginning : Bool) : op.Quiet op' →
      OpMove s o op { s with beginning := beginning } op'
  | failed {t : Nat} : o ≠ .answered none →
      OpMove s o (.begin (.calling t)) s (.begin .resetting)
  | start : s.beginning = false → s.transactions = [] →
      OpMove s o (.begin .admitted) { s with beginning := true, sequence := s.sequence + 1 }
        (.begin (.calling s.sequence))
  | opened {t : Nat} :
      OpMove s o (.begin (.calling t)) { s with leases := t :: s.leases } (.begin (.begun t))
  | register {t : Nat} : s.fenced = false →
      OpMove s o (.begin (.begun t))
        { s with transactions := t :: s.transactions, handed := t :: s.handed }
        (.begin .resetting)
  | undone {t : Nat} : s.returns t o = true →
      OpMove s o (.begin (.undoing t)) s (.begin .resetting)
  | take {t : Nat} : t ∉ s.terminal →
      OpMove s o (.finish t false) { s with terminal := t :: s.terminal } (.finish t true)
  | finished {t : Nat} : s.returns t o = true →
      OpMove s o (.finish t true) (s.unregisterTransaction t) .leaving
  | leave : OpMove s o .leaving s.finishOperation .returned

theorem opMove_of_advance {o : Outcome} {op op' : Op} (h : s.advance o op = some (s', op')) :
    OpMove s o op s' op' := by
  cases op with
  | statement =>
    obtain ⟨rfl, rfl⟩ : s = s' ∧ .leaving = op' := by simpa [State.advance] using h
    exact .quiet s.beginning ⟨by simp, by simp, rfl, rfl, rfl, rfl, by simp, by simp, by simp⟩
  | begin phase =>
    cases phase with
    | admitted =>
      simp only [State.advance] at h
      split at h
      case isTrue hopen =>
        obtain ⟨rfl, rfl⟩ : s = s' ∧ .leaving = op' := by simpa using h
        exact .quiet s.beginning
          ⟨by simp, by simp, rfl, rfl, rfl, rfl, by simp, by simp, by simp⟩
      case isFalse hopen =>
        obtain ⟨rfl, rfl⟩ : _ = s' ∧ _ = op' := by simpa using h
        simp only [ne_eq, decide_not, Bool.or_eq_true, Bool.not_eq_eq_eq_not,
          Bool.not_true, decide_eq_false_iff_not, not_or, Bool.not_eq_true,
          Decidable.not_not] at hopen
        exact .start hopen.1 hopen.2
    | calling t =>
      simp only [State.advance] at h
      split at h
      · obtain ⟨rfl, rfl⟩ : _ = s' ∧ _ = op' := by simpa using h
        exact .opened
      · obtain ⟨rfl, rfl⟩ : s = s' ∧ _ = op' := by simpa using h
        exact .failed ‹_›
    | begun t =>
      simp only [State.advance] at h
      split at h
      case isTrue hfenced =>
        obtain ⟨rfl, rfl⟩ : s = s' ∧ _ = op' := by simpa using h
        exact .quiet s.beginning
          ⟨by simp, by simp, rfl, rfl, rfl, rfl, by simp, by simp, by simp⟩
      case isFalse hfenced =>
        obtain ⟨rfl, rfl⟩ : _ = s' ∧ _ = op' := by simpa using h
        exact .register (by simpa using hfenced)
    | undoing t =>
      obtain ⟨hreturns, h⟩ := Option.ite_none_right_eq_some.mp h
      obtain ⟨rfl, rfl⟩ : _ = s' ∧ _ = op' := by simpa using h
      exact .undone hreturns
    | resetting =>
      obtain ⟨rfl, rfl⟩ : _ = s' ∧ _ = op' := by simpa [State.advance] using h
      exact .quiet false ⟨by simp, by simp, rfl, rfl, rfl, rfl, by simp, by simp, by simp⟩
  | finish t taken =>
    cases taken with
    | false =>
      simp only [State.advance] at h
      split at h
      case isTrue hterminal =>
        obtain ⟨rfl, rfl⟩ : s = s' ∧ _ = op' := by simpa using h
        exact .quiet s.beginning
          ⟨by simp, by simp, rfl, rfl, rfl, rfl, by simp, by simp, by simp⟩
      case isFalse hterminal =>
        obtain ⟨rfl, rfl⟩ : _ = s' ∧ _ = op' := by simpa using h
        exact .take hterminal
    | true =>
      obtain ⟨hreturns, h⟩ := Option.ite_none_right_eq_some.mp h
      obtain ⟨rfl, rfl⟩ : _ = s' ∧ _ = op' := by simpa using h
      exact .finished hreturns
  | leaving =>
    obtain ⟨rfl, rfl⟩ : _ = s' ∧ _ = op' := by simpa [State.advance] using h
    exact .leave
  | returned => cases h

/-- What one step of a drain does to the handle. -/
inductive DrainMove (s : State) (o : Outcome) : Drain → State → Drain → Prop where
  | skip {t : Nat} {todo : List Nat} : t ∈ s.terminal →
      DrainMove s o (.sweeping (t :: todo)) s (.sweeping todo)
  | take {t : Nat} {todo : List Nat} : t ∉ s.terminal →
      DrainMove s o (.sweeping (t :: todo)) { s with terminal := t :: s.terminal }
        (.rollingBack t todo)
  | finished {t : Nat} {todo : List Nat} : s.returns t o = true →
      DrainMove s o (.rollingBack t todo) (s.unregisterTransaction t) (.sweeping todo)
  | done : s.active = 0 → DrainMove s o (.sweeping []) s .drained

theorem drainMove_of_drainOperations {o : Outcome} {d d' : Drain}
    (h : s.drainOperations o d = some (s', d')) : DrainMove s o d s' d' := by
  cases d with
  | sweeping todo =>
    cases todo with
    | nil =>
      obtain ⟨hactive, rfl, rfl⟩ : s.active = 0 ∧ s = s' ∧ .drained = d' := by
        simpa [State.drainOperations] using h
      exact .done hactive
    | cons t todo =>
      simp only [State.drainOperations] at h
      split at h
      case isTrue hterminal =>
        obtain ⟨rfl, rfl⟩ : s = s' ∧ _ = d' := by simpa using h
        exact .skip hterminal
      case isFalse hterminal =>
        obtain ⟨rfl, rfl⟩ : _ = s' ∧ _ = d' := by simpa using h
        exact .take hterminal
  | rollingBack t todo =>
    obtain ⟨hreturns, h⟩ := Option.ite_none_right_eq_some.mp h
    obtain ⟨rfl, rfl⟩ : _ = s' ∧ _ = d' := by simpa using h
    exact .finished hreturns
  | drained => cases h

/-- What a call is when it is let in. -/
structure Op.Fresh (op : Op) (handed : List Nat) : Prop where
  active : op ≠ .returned
  taken : op.taken = none
  pending : op.pending = none
  handed : ∀ t, op = .finish t false → t ∈ handed

theorem Call.fresh {c : Call} {handed : List Nat} (h : c.possible handed = true) :
    c.op.Fresh handed := by
  cases c with
  | statement => exact ⟨by simp [Call.op], rfl, rfl, by simp [Call.op]⟩
  | begin => exact ⟨by simp [Call.op], rfl, rfl, by simp [Call.op]⟩
  | finish t =>
    refine ⟨by simp [Call.op], rfl, rfl, fun u hu => ?_⟩
    obtain rfl : t = u := by simpa [Call.op] using hu
    simpa [Call.possible] using h

/-- Where a goroutine comes in. -/
def Action.enters : Action → Bool
  | .call _ => true
  | .sleep => true
  | .close => true
  | _ => false

/-- Everything a step can do. -/
inductive Move (s : State) : Action → State → Prop where
  | refused {a : Action} : a.enters = true → Move s a s
  | call {c : Call} : s.fenced = false → c.op.Fresh s.handed →
      Move s (.call c) { s with active := s.active + 1, ops := s.ops ++ [c.op] }
  | advance {i : Nat} {o : Outcome} {op op' : Op} {u : State} : s.ops[i]? = some op →
      OpMove s o op u op' → Move s (.advance i o) { u with ops := s.ops.set i op' }
  | sleepAgain : s.sleeper = .idle → s.closing = false → s.sleepPrepared = true →
      Move s .sleep { s.report with sleeper := .prepared false }
  | sleep : s.sleeper = .idle → s.fenced = false →
      Move s .sleep { s with
        sleepPrepared := true
        sleeper := .draining (.sweeping s.transactions) false }
  | close : s.closer = .idle →
      Move s .close { s with closing := true, closer := .draining (.sweeping s.transactions) }
  | drain {side : Side} {o : Outcome} {d d' : Drain} {u : State} : s.drainOf side = some d →
      DrainMove s o d u d' → Move s (.drain side o) (u.setDrain side d' o)
  | lift {a : Action} : s.sleeper = .draining .drained true ∧ a = .prepareReturns ∨
        s.sleeper = .prepared true ∧ a = .requestSleep false →
      Move s a { s.resumeAfterSleepFailure with sleeper := .idle }
  | prepared : s.sleeper = .draining .drained false →
      Move s .prepareReturns { s.report with sleeper := .prepared true }
  | accepted {now : Bool} : s.sleeper = .prepared now →
      Move s (.requestSleep true)
        { s with sleeper := .idle, intents := s.intents + 1, accepted := true }
  | rejected : s.sleeper = .prepared false →
      Move s (.requestSleep false) { s with sleeper := .idle }
  | closed : s.closer = .draining .drained ∨ s.closer = .closed →
      Move s .closeReturns { s.report with closer := .closed }
  | intent {w : Transition} {n : Nat} : s.intents = n + 1 →
      Move s (.intent w) { s with intents := n, asleep := s.asleep || dispatchSleepIntent w }
  | dispatched {t : Nat} : s.finishing t = true → t ∉ s.dispatched →
      Move s (.dispatchSqliteFinish t) (s.dispatchSqliteFinish t)
  | destroyed {accepted : Bool} : s.closer = .closed →
      Move s (.destroyIntent accepted) { s with stopping := s.stopping || accepted }

theorem move_of_step (h : step s a = some s') : Move s a s' := by
  cases a with
  | call c =>
    obtain ⟨hc, h⟩ := Option.ite_none_right_eq_some.mp h
    rw [State.beginOperation] at h
    cases hfenced : s.fenced with
    | true =>
      obtain rfl : s = s' := by simpa [hfenced] using h
      exact .refused rfl
    | false =>
      obtain rfl : _ = s' := by simpa [hfenced] using h
      exact .call hfenced (Call.fresh hc)
  | advance i o =>
    obtain ⟨op, hop, h⟩ := Option.bind_eq_some_iff.mp h
    obtain ⟨⟨u, op'⟩, hu, h⟩ := Option.bind_eq_some_iff.mp h
    obtain rfl := Option.some.inj h
    exact .advance hop (opMove_of_advance hu)
  | sleep =>
    obtain ⟨hidle, h⟩ := Option.ite_none_right_eq_some.mp h
    split_ifs at h with hclosing hprepared
    · obtain rfl := Option.some.inj h
      exact .refused rfl
    · obtain rfl := Option.some.inj h
      exact .sleepAgain hidle (by simpa using hclosing) hprepared
    · obtain rfl := Option.some.inj h
      exact .sleep hidle (by simp [State.fenced, hclosing, hprepared])
  | close =>
    simp only [step] at h
    split at h
    case isTrue hidle =>
      obtain rfl := Option.some.inj h
      exact .close hidle
    case isFalse =>
      obtain rfl := Option.some.inj h
      exact .refused rfl
  | drain side o =>
    obtain ⟨d, hd, h⟩ := Option.bind_eq_some_iff.mp h
    obtain ⟨⟨u, d'⟩, hu, h⟩ := Option.bind_eq_some_iff.mp h
    obtain rfl := Option.some.inj h
    exact .drain hd (drainMove_of_drainOperations hu)
  | prepareReturns =>
    simp only [step] at h
    split at h
    case h_1 hs =>
      obtain rfl := Option.some.inj h
      exact .lift (.inl ⟨hs, rfl⟩)
    case h_2 hs =>
      obtain rfl := Option.some.inj h
      exact .prepared hs
    case h_3 => cases h
  | requestSleep accepted =>
    simp only [step] at h
    split at h
    case h_1 now hs =>
      split_ifs at h with haccepted hnow
      · obtain rfl := Option.some.inj h
        obtain rfl := haccepted
        exact .accepted hs
      · obtain rfl := Option.some.inj h
        obtain rfl := Bool.eq_false_of_not_eq_true haccepted
        exact .lift (.inr ⟨hnow ▸ hs, rfl⟩)
      · obtain rfl := Option.some.inj h
        obtain rfl := Bool.eq_false_of_not_eq_true haccepted
        exact .rejected (by rw [hs, Bool.eq_false_of_not_eq_true hnow])
    case h_2 => cases h
  | closeReturns =>
    simp only [step] at h
    split at h
    case h_1 hs =>
      obtain rfl := Option.some.inj h
      exact .closed (.inl hs)
    case h_2 hs =>
      obtain rfl := Option.some.inj h
      have hsame : s.report = { s.report with closer := .closed } := by
        rw [← hs]
        rfl
      exact hsame ▸ .closed (.inr hs)
    case h_3 => cases h
  | intent w =>
    simp only [step] at h
    split at h
    case h_1 => cases h
    case h_2 n hn =>
      obtain rfl := Option.some.inj h
      exact .intent hn
  | dispatchSqliteFinish t =>
    obtain ⟨⟨hfinishing, hnew⟩, rfl⟩ := Run.guard_eq_some.mp h
    exact .dispatched hfinishing hnew
  | destroyIntent accepted =>
    obtain ⟨hclosed, rfl⟩ := Run.guard_eq_some.mp h
    exact .destroyed hclosed

end RivetGo.Database

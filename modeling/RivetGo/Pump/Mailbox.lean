import RivetGo.Data.Mutex
import RivetGo.Data.Run

/-!
# The mailbox of an actor

Goroutines put events into the mailbox and one goroutine takes them out. A put appends its event
under the lock, and after it has given the lock back it sends on the channel `signal`, which has
room for one value, unless there is one already. A take looks into the queue under the lock; if
there is nothing it gives the lock back and waits for the signal or for the end of its context, and
after a signal it looks again. A signal may be left over from an event that has been taken.

A step is what one goroutine does between two points at which another one can run. The goroutines
that put are any type, and so are the events. `appended` and `taken` are not part of the code: they
record the events in the order in which they were appended, and those that were returned.
-/

namespace RivetGo.Mailbox

open Run (Reachable)

variable {γ α : Type}

/-- Where a goroutine is. The first part is `put`, the second `take`. -/
inductive Phase (α : Type) where
  | idle
  | putLocking (e : α)
  | putLocked (e : α)
  | putAppended
  | putSignal
  | takeLocking
  | takeLocked
  | takePopped (e : α)
  | takeEmpty
  | takeWaiting

/-- The goroutine has the lock. -/
def Phase.holding : Phase α → Bool
  | .putLocked _ => true
  | .putAppended => true
  | .takeLocked => true
  | .takePopped _ => true
  | .takeEmpty => true
  | _ => false

/-- Between the append and the signal of a put. -/
def Phase.between : Phase α → Bool
  | .putAppended => true
  | .putSignal => true
  | _ => false

/-- The event that a take is about to return. -/
def Phase.hand : Phase α → List α
  | .takePopped e => [e]
  | _ => []

/-- The taker is `none`. -/
structure State (γ α : Type) where
  phase : Option γ → Phase α := fun _ => .idle
  lock : Option (Option γ) := none
  queue : List α := []
  /-- The channel has a value. -/
  signal : Bool := false
  /-- The context of the taker has ended. -/
  cancelled : Bool := false
  appended : List α := []
  taken : List α := []

def initial : State γ α := {}

section Code

variable [DecidableEq γ]

inductive Action (γ α : Type) where
  | put (g : γ) (e : α)
  | lockPut (g : γ)
  | append (g : γ)
  | unlockPut (g : γ)
  | signal (g : γ)
  | take
  | lockTake
  | look
  | unlockTake
  | wake
  | cancel
  | giveUp

def State.go (s : State γ α) (k : Option γ) (p : Phase α) : State γ α :=
  { s with phase := Function.update s.phase k p }

def step (s : State γ α) : Action γ α → Option (State γ α)
  | .put g e =>
    match s.phase (some g) with
    | .idle => some (s.go (some g) (.putLocking e))
    | _ => none
  | .lockPut g =>
    match s.phase (some g), s.lock with
    | .putLocking e, none => some { s.go (some g) (.putLocked e) with lock := some (some g) }
    | _, _ => none
  | .append g =>
    match s.phase (some g) with
    | .putLocked e =>
      some { s.go (some g) .putAppended with
        queue := s.queue ++ [e], appended := s.appended ++ [e] }
    | _ => none
  | .unlockPut g =>
    match s.phase (some g) with
    | .putAppended => some { s.go (some g) .putSignal with lock := none }
    | _ => none
  | .signal g =>
    match s.phase (some g) with
    -- a full channel takes the `default` of the `select`
    | .putSignal => some { s.go (some g) .idle with signal := true }
    | _ => none
  | .take =>
    match s.phase none with
    | .idle => some (s.go none .takeLocking)
    | _ => none
  | .lockTake =>
    match s.phase none, s.lock with
    | .takeLocking, none => some { s.go none .takeLocked with lock := some none }
    | _, _ => none
  | .look =>
    match s.phase none, s.queue with
    | .takeLocked, e :: rest => some { s.go none (.takePopped e) with queue := rest }
    | .takeLocked, [] => some (s.go none .takeEmpty)
    | _, _ => none
  | .unlockTake =>
    match s.phase none with
    | .takePopped e => some { s.go none .idle with lock := none, taken := s.taken ++ [e] }
    | .takeEmpty => some { s.go none .takeWaiting with lock := none }
    | _ => none
  | .wake =>
    match s.phase none, s.signal with
    | .takeWaiting, true => some { s.go none .takeLocking with signal := false }
    | _, _ => none
  | .cancel => some { s with cancelled := true }
  | .giveUp =>
    match s.phase none, s.cancelled with
    | .takeWaiting, true => some (s.go none .idle)
    | _, _ => none

end Code

/-! ## Properties -/

/-- Nobody will wake the taker although there is something for it. -/
structure LostWakeup (s : State γ α) : Prop where
  queue : s.queue ≠ []
  waiting : s.phase none = .takeWaiting
  signal : s.signal = false
  puts : ∀ g, (s.phase (some g)).between = false

/-- What has been appended and not been returned. -/
def State.pending (s : State γ α) : List α := (s.phase none).hand ++ s.queue

/-- Everything that was appended has been returned or is pending, in the order in which it was
appended. -/
def InOrder (s : State γ α) : Prop := s.appended = s.taken ++ s.pending

/-- Somebody will wake the taker. -/
def Awake (s : State γ α) : Prop :=
  s.signal = true ∨ ∃ g, (s.phase (some g)).between = true

structure Inv (s : State γ α) : Prop where
  owned : Mutex.Owned Phase.holding s.phase s.lock
  inOrder : InOrder s
  /-- The queue stays empty until the taker gives the lock back. -/
  empty : s.phase none = .takeEmpty → s.queue = []
  awake : s.phase none = .takeWaiting → s.queue ≠ [] → Awake s

theorem inv_initial : Inv (initial : State γ α) where
  owned := fun k => by simp [initial, Phase.holding]
  inOrder := rfl
  empty := fun _ => rfl
  awake := fun _ h => absurd rfl h

/-! ## Steps -/

section Steps

variable [DecidableEq γ] {s s' : State γ α} {a : Action γ α} {p : Phase α}

@[simp] theorem go_phase_self (s : State γ α) (k : Option γ) (p : Phase α) :
    (s.go k p).phase k = p := Function.update_self ..

@[simp] theorem go_some_phase_none (s : State γ α) (g : γ) (p : Phase α) :
    (s.go (some g) p).phase none = s.phase none :=
  Function.update_of_ne (Option.some_ne_none g).symm p s.phase

theorem go_some_phase_some (s : State γ α) {g g' : γ} (h : g' ≠ g) (p : Phase α) :
    (s.go (some g) p).phase (some g') = s.phase (some g') := by
  have hne : some g' ≠ some g := fun heq => h (Option.some.inj heq)
  exact Function.update_of_ne hne p s.phase

@[simp] theorem go_queue (s : State γ α) (k : Option γ) (p : Phase α) :
    (s.go k p).queue = s.queue := rfl

/-- What a step does, with the phase it starts from. -/
inductive Steps (s : State γ α) : Action γ α → State γ α → Prop where
  | put {g : γ} {e : α} : s.phase (some g) = .idle →
      Steps s (.put g e) (s.go (some g) (.putLocking e))
  | lockPut {g : γ} {e : α} : s.phase (some g) = .putLocking e → s.lock = none →
      Steps s (.lockPut g) { s.go (some g) (.putLocked e) with lock := some (some g) }
  | append {g : γ} {e : α} : s.phase (some g) = .putLocked e →
      Steps s (.append g) { s.go (some g) .putAppended with
        queue := s.queue ++ [e], appended := s.appended ++ [e] }
  | unlockPut {g : γ} : s.phase (some g) = .putAppended →
      Steps s (.unlockPut g) { s.go (some g) .putSignal with lock := none }
  | signal {g : γ} : s.phase (some g) = .putSignal →
      Steps s (.signal g) { s.go (some g) .idle with signal := true }
  | take : s.phase none = .idle → Steps s .take (s.go none .takeLocking)
  | lockTake : s.phase none = .takeLocking → s.lock = none →
      Steps s .lockTake { s.go none .takeLocked with lock := some none }
  | pop {e : α} {rest : List α} : s.phase none = .takeLocked → s.queue = e :: rest →
      Steps s .look { s.go none (.takePopped e) with queue := rest }
  | nothing : s.phase none = .takeLocked → s.queue = [] →
      Steps s .look (s.go none .takeEmpty)
  | deliver {e : α} : s.phase none = .takePopped e →
      Steps s .unlockTake { s.go none .idle with lock := none, taken := s.taken ++ [e] }
  | wait : s.phase none = .takeEmpty →
      Steps s .unlockTake { s.go none .takeWaiting with lock := none }
  | wake : s.phase none = .takeWaiting → s.signal = true →
      Steps s .wake { s.go none .takeLocking with signal := false }
  | cancel : Steps s .cancel { s with cancelled := true }
  | giveUp : s.phase none = .takeWaiting → s.cancelled = true →
      Steps s .giveUp (s.go none .idle)

theorem steps_of_step (h : step s a = some s') : Steps s a s' := by
  cases a with
  | put g e =>
    simp only [step] at h
    split at h
    case h_1 hphase => exact Option.some.inj h ▸ .put hphase
    case h_2 => cases h
  | lockPut g =>
    simp only [step] at h
    split at h
    case h_1 hphase hlock => exact Option.some.inj h ▸ .lockPut hphase hlock
    case h_2 => cases h
  | append g =>
    simp only [step] at h
    split at h
    case h_1 hphase => exact Option.some.inj h ▸ .append hphase
    case h_2 => cases h
  | unlockPut g =>
    simp only [step] at h
    split at h
    case h_1 hphase => exact Option.some.inj h ▸ .unlockPut hphase
    case h_2 => cases h
  | signal g =>
    simp only [step] at h
    split at h
    case h_1 hphase => exact Option.some.inj h ▸ .signal hphase
    case h_2 => cases h
  | take =>
    simp only [step] at h
    split at h
    case h_1 hphase => exact Option.some.inj h ▸ .take hphase
    case h_2 => cases h
  | lockTake =>
    simp only [step] at h
    split at h
    case h_1 hphase hlock => exact Option.some.inj h ▸ .lockTake hphase hlock
    case h_2 => cases h
  | look =>
    simp only [step] at h
    split at h
    case h_1 hphase hqueue => exact Option.some.inj h ▸ .pop hphase hqueue
    case h_2 hphase hqueue => exact Option.some.inj h ▸ .nothing hphase hqueue
    case h_3 => cases h
  | unlockTake =>
    simp only [step] at h
    split at h
    case h_1 hphase => exact Option.some.inj h ▸ .deliver hphase
    case h_2 hphase => exact Option.some.inj h ▸ .wait hphase
    case h_3 => cases h
  | wake =>
    simp only [step] at h
    split at h
    case h_1 hphase hsignal => exact Option.some.inj h ▸ .wake hphase hsignal
    case h_2 => cases h
  | cancel => exact Option.some.inj h ▸ .cancel
  | giveUp =>
    simp only [step] at h
    split at h
    case h_1 hphase hcancelled => exact Option.some.inj h ▸ .giveUp hphase hcancelled
    case h_2 => cases h

/-! ## What is kept -/

/-- The lock is with the goroutine whose phase says so. -/
theorem Steps.owned (h : Steps s a s') (hs : Mutex.Owned Phase.holding s.phase s.lock) :
    Mutex.Owned Phase.holding s'.phase s'.lock := by
  have hfree {k : Option γ} (hk : (s.phase k).holding = false) : s.lock ≠ some k := fun hlock =>
    Bool.false_ne_true (hk.symm.trans ((hs k).mpr hlock))
  have hheld {k : Option γ} (hk : (s.phase k).holding = true) : s.lock = some k := (hs k).mp hk
  cases h with
  | put hphase => exact hs.outside (hfree (by rw [hphase]; rfl)) rfl
  | lockPut hphase hlock => exact (hlock ▸ hs).acquire rfl
  | append hphase => exact hs.within (hheld (by rw [hphase]; rfl)) rfl
  | unlockPut hphase => exact hs.release (hheld (by rw [hphase]; rfl)) rfl
  | signal hphase => exact hs.outside (hfree (by rw [hphase]; rfl)) rfl
  | take hphase => exact hs.outside (hfree (by rw [hphase]; rfl)) rfl
  | lockTake hphase hlock => exact (hlock ▸ hs).acquire rfl
  | pop hphase hqueue => exact hs.within (hheld (by rw [hphase]; rfl)) rfl
  | nothing hphase hqueue => exact hs.within (hheld (by rw [hphase]; rfl)) rfl
  | deliver hphase => exact hs.release (hheld (by rw [hphase]; rfl)) rfl
  | wait hphase => exact hs.release (hheld (by rw [hphase]; rfl)) rfl
  | wake hphase hsignal => exact hs.outside (hfree (by rw [hphase]; rfl)) rfl
  | cancel => exact hs
  | giveUp hphase hcancelled => exact hs.outside (hfree (by rw [hphase]; rfl)) rfl

/-- To the rest of the pump the mailbox is a list: a step adds one event at the end, takes the first
one, or leaves the list alone. -/
theorem Steps.refines (h : Steps s a s') :
    (s'.pending = s.pending ∧ s'.appended = s.appended ∧ s'.taken = s.taken) ∨
    (∃ e, s'.pending = s.pending ++ [e] ∧ s'.appended = s.appended ++ [e] ∧ s'.taken = s.taken) ∨
    ∃ e, s.pending = e :: s'.pending ∧ s'.appended = s.appended ∧ s'.taken = s.taken ++ [e] := by
  unfold State.pending
  cases h with
  | @append g e hphase => exact .inr (.inl ⟨e, by simp, rfl, rfl⟩)
  | @deliver e hphase => exact .inr (.inr ⟨e, by simp [hphase, Phase.hand], rfl, rfl⟩)
  | put hphase => exact .inl ⟨by simp, rfl, rfl⟩
  | lockPut hphase hlock => exact .inl ⟨by simp, rfl, rfl⟩
  | unlockPut hphase => exact .inl ⟨by simp, rfl, rfl⟩
  | signal hphase => exact .inl ⟨by simp, rfl, rfl⟩
  | take hphase => exact .inl ⟨by simp [hphase, Phase.hand], rfl, rfl⟩
  | lockTake hphase hlock => exact .inl ⟨by simp [hphase, Phase.hand], rfl, rfl⟩
  | pop hphase hqueue => exact .inl ⟨by simp [hphase, hqueue, Phase.hand], rfl, rfl⟩
  | nothing hphase hqueue => exact .inl ⟨by simp [hphase, Phase.hand], rfl, rfl⟩
  | wait hphase => exact .inl ⟨by simp [hphase, Phase.hand], rfl, rfl⟩
  | wake hphase hsignal => exact .inl ⟨by simp [hphase, Phase.hand], rfl, rfl⟩
  | cancel => exact .inl ⟨rfl, rfl, rfl⟩
  | giveUp hphase hcancelled => exact .inl ⟨by simp [hphase, Phase.hand], rfl, rfl⟩

theorem Steps.inOrder (h : Steps s a s') (hs : InOrder s) : InOrder s' := by
  unfold InOrder at hs ⊢
  obtain ⟨hpending, happended, htaken⟩ | ⟨e, hpending, happended, htaken⟩ |
    ⟨e, hpending, happended, htaken⟩ := h.refines
  · rw [happended, htaken, hpending, hs]
  · rw [happended, htaken, hpending, hs, List.append_assoc]
  · rw [happended, htaken, hs, hpending, List.append_assoc, List.singleton_append]

/-- While the taker has the lock nobody appends. -/
theorem Steps.empty (h : Steps s a s') (howned : Mutex.Owned Phase.holding s.phase s.lock)
    (hs : s.phase none = .takeEmpty → s.queue = []) (htaker : s'.phase none = .takeEmpty) :
    s'.queue = [] := by
  cases h with
  | put hphase => exact hs (by simpa using htaker)
  | lockPut hphase hlock => exact hs (by simpa using htaker)
  | @append g e hphase =>
    have htaker : s.phase none = .takeEmpty := by simpa using htaker
    have hput : s.lock = some (some g) := (howned (some g)).mp (by rw [hphase]; rfl)
    have htake : s.lock = some none := (howned none).mp (by rw [htaker]; rfl)
    exact absurd (hput.symm.trans htake) (by simp)
  | unlockPut hphase => exact hs (by simpa using htaker)
  | signal hphase => exact hs (by simpa using htaker)
  | nothing hphase hqueue => exact hqueue
  | cancel => exact hs htaker
  | take hphase => simp at htaker
  | lockTake hphase hlock => simp at htaker
  | pop hphase hqueue => simp at htaker
  | deliver hphase => simp at htaker
  | wait hphase => simp at htaker
  | wake hphase hsignal => simp at htaker
  | giveUp hphase hcancelled => simp at htaker

/-- A put that goes on and does not leave the part between its append and its signal. -/
theorem Awake.go {g : γ} (h : Awake s)
    (hp : (s.phase (some g)).between = true → p.between = true) : Awake (s.go (some g) p) := by
  obtain hsignal | ⟨g', hg'⟩ := h
  · exact .inl hsignal
  · refine .inr ⟨g', ?_⟩
    by_cases heq : g' = g
    · subst heq
      rw [go_phase_self]
      exact hp hg'
    · rw [go_some_phase_some s heq]
      exact hg'

theorem Steps.awake (h : Steps s a s') (hempty : s.phase none = .takeEmpty → s.queue = [])
    (hs : s.phase none = .takeWaiting → s.queue ≠ [] → Awake s)
    (htaker : s'.phase none = .takeWaiting) (hqueue : s'.queue ≠ []) : Awake s' := by
  cases h with
  | put hphase => exact (hs (by simpa using htaker) hqueue).go (by simp [hphase, Phase.between])
  | lockPut hphase hlock =>
    exact (hs (by simpa using htaker) hqueue).go (by simp [hphase, Phase.between])
  | @append g e hphase => exact .inr ⟨g, by simp [Phase.between]⟩
  | @unlockPut g hphase => exact .inr ⟨g, by simp [Phase.between]⟩
  | signal hphase => exact .inl rfl
  | wait hphase => exact absurd (hempty hphase) hqueue
  | cancel => exact hs htaker hqueue
  | take hphase => simp at htaker
  | lockTake hphase hlock => simp at htaker
  | pop hphase hqueue => simp at htaker
  | nothing hphase hqueue => simp at htaker
  | deliver hphase => simp at htaker
  | wake hphase hsignal => simp at htaker
  | giveUp hphase hcancelled => simp at htaker

theorem inv_step : Run.Keeps (step (γ := γ) (α := α)) Run.anyAction Inv := by
  intro s a s' hs _ hstep
  have h := steps_of_step hstep
  exact ⟨h.owned hs.owned, h.inOrder hs.inOrder, h.empty hs.owned hs.empty,
    h.awake hs.empty hs.awake⟩

end Steps

section Results

variable [DecidableEq γ]

/-- In every run events are taken in the order in which they were appended, each once and none is
lost, and the taker never waits for a signal that nobody will send. -/
theorem mailbox_delivers {s : State γ α} (h : Reachable step Run.anyAction initial s) :
    InOrder s ∧ ¬ LostWakeup s := by
  have hs : Inv s := h.invariant inv_initial inv_step
  refine ⟨hs.inOrder, fun hlost => ?_⟩
  obtain hsignal | ⟨g, hg⟩ := hs.awake hlost.waiting hlost.queue
  · exact Bool.false_ne_true (hlost.signal.symm.trans hsignal)
  · exact Bool.false_ne_true ((hlost.puts g).symm.trans hg)

end Results

/-- Two puts of which only one signal is needed: the other one stays in the channel. -/
def twoPuts : List (Action Nat Nat) :=
  [.take, .lockTake, .look, .unlockTake, .put 0 10, .lockPut 0, .append 0, .put 1 11,
    .unlockPut 0, .lockPut 1, .append 1, .unlockPut 1, .signal 0, .wake, .signal 1, .lockTake,
    .look, .unlockTake]

theorem twoPuts_delivers :
    ∃ s, Run.run step initial twoPuts = some s ∧ s.taken = [10] ∧ s.queue = [11] ∧
      s.signal = true ∧ InOrder s ∧ ¬ LostWakeup s := by
  have hrun : ∃ s, Run.run step initial twoPuts = some s ∧ s.taken = [10] ∧ s.queue = [11] ∧
      s.signal = true := ⟨_, rfl, rfl, rfl, rfl⟩
  obtain ⟨s, hs, htaken, hqueue, hsignal⟩ := hrun
  exact ⟨s, hs, htaken, hqueue, hsignal, mailbox_delivers (Run.reachable_of_run twoPuts hs)⟩

end RivetGo.Mailbox

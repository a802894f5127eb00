import Mathlib
import RivetGo.Database.Fence

/-!
# An accepted sleep

The native side accepts a sleep intent first and acts on it later. If it then cannot
list the schedules of the actor or confirm its alarm, or if core refuses, it leaves the
generation awake and tells nobody, and the fence of the accepted `Sleep` stays.
-/

namespace RivetGo.Database

variable {s s' : State} {a : Action} {w : Transition}

/-- The generation is awake, and its database refuses every call from now on. -/
def Stranded (s : State) : Prop :=
  s.asleep = false ∧ ∀ s', Later s s' → s'.beginOperation = none

/-- What the sleep transition needs to succeed. -/
def Transition.Succeeds (w : Transition) : Prop :=
  (w.alarmTransportDirty = true → w.listed = true ∧ w.confirmed = true) ∧ w.slept = true

theorem dispatchSleepIntent_iff (w : Transition) :
    dispatchSleepIntent w = true ↔ w.Succeeds := by
  obtain ⟨dirty, listed, confirmed, slept⟩ := w
  cases dirty <;> cases listed <;> cases confirmed <;>
    simp [dispatchSleepIntent, Transition.Succeeds]

/-- The native side acts on intents that a `Sleep` got accepted. -/
theorem accepted_of_move (hm : Move s a s') (h : 0 < s.intents → s.accepted = true) :
    0 < s'.intents → s'.accepted = true := by
  cases hm with
  | accepted => exact fun _ => rfl
  | intent hn => exact fun _ => h (hn ▸ Nat.succ_pos _)
  | advance _ hm => cases hm <;> exact h
  | drain _ hm => cases hm <;> exact h
  | refused => exact h
  | call => exact h
  | sleepAgain => exact h
  | sleep => exact h
  | close => exact h
  | lift => exact h
  | prepared => exact h
  | rejected => exact h
  | closed => exact h
  | dispatched => exact h
  | destroyed => exact h

theorem accepted_of_intents (h : Reaches s) (hpos : 0 < s.intents) : s.accepted = true :=
  h.invariant (P := fun v => 0 < v.intents → v.accepted = true)
    (fun hpos => absurd hpos (Nat.lt_irrefl 0))
    (fun _ _ _ hv _ hs => accepted_of_move (move_of_step hs) hv) hpos

theorem beginOperation_of_fenced (h : s.fenced = true) : s.beginOperation = none := by
  simp [State.beginOperation, h]

/-- The task of an accepted intent leaves the generation stranded, unless the sleep
transition succeeds or the generation has gone to sleep already. -/
theorem not_stranded_iff (h : Reaches s) (hs : step s (.intent w) = some s') :
    ¬ Stranded s' ↔ s.asleep = true ∨ w.Succeeds := by
  have hreach : Reaches s' := h.next _ trivial hs
  obtain ⟨n, hn, rfl⟩ : ∃ n, s.intents = n + 1 ∧
      { s with intents := n, asleep := s.asleep || dispatchSleepIntent w } = s' := by
    simp only [step] at hs
    split at hs
    case h_1 => cases hs
    case h_2 n hn => exact ⟨n, hn, Option.some.inj hs⟩
  have haccepted : s.accepted = true := accepted_of_intents h (hn ▸ Nat.succ_pos n)
  have hrefused : ∀ v,
      Later { s with intents := n, asleep := s.asleep || dispatchSleepIntent w } v →
        v.beginOperation = none := fun v hv =>
    beginOperation_of_fenced (stays_of_final hreach (.inl haccepted) hv).1
  rw [← dispatchSleepIntent_iff, ← Bool.or_eq_true, ← Bool.not_eq_false]
  exact not_congr ⟨And.left, fun hawake => ⟨hawake, hrefused⟩⟩

/-- A `Sleep` that is accepted. -/
def acceptedSleep : List Action :=
  [.sleep, .drain .sleep .notSent, .prepareReturns, .requestSleep true]

theorem acceptedSleep_not_stranded : ∃ s s', Run.run step initial acceptedSleep = some s ∧
    step s (.intent ⟨true, true, true, true⟩) = some s' ∧ s.asleep = false ∧ ¬ Stranded s' := by
  refine ⟨_, _, rfl, rfl, rfl, (not_stranded_iff (w := ⟨true, true, true, true⟩)
    (Run.reachable_of_run acceptedSleep rfl) rfl).mpr (.inr ?_)⟩
  exact ⟨fun _ => ⟨rfl, rfl⟩, rfl⟩

/-- The schedules cannot be listed: the actor goes on and its database is lost. -/
theorem sleep_strands : ∃ s, Run.run step initial
      (acceptedSleep ++ [.intent ⟨true, false, false, false⟩]) = some s ∧
    s.intents = 0 ∧ Stranded s := by
  refine ⟨_, rfl, rfl, rfl, fun v hv => ?_⟩
  exact beginOperation_of_fenced (stays_of_final
    (Run.reachable_of_run (acceptedSleep ++ [.intent ⟨true, false, false, false⟩]) rfl)
    (.inl rfl) hv).1

end RivetGo.Database

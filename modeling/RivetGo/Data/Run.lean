import Mathlib.Logic.Basic

/-!
# Runs of a transition function

`step s a` is the state after action `a` in state `s`, or `none` if the action
cannot be taken there. A run is restricted by a predicate on the actions it
takes, which may look at the state before the action. What holds at the start
and is kept by every action of a restricted run holds in every state it reaches.
-/

namespace Run

variable {σ α : Type}

/-- An action with a guard is taken if the guard holds. -/
theorem guard_eq_some {p : Prop} [Decidable p] {s s' : σ} :
    (if p then some s else none) = some s' ↔ p ∧ s = s' := by
  rw [Option.ite_none_right_eq_some, Option.some.injEq]

/-- The states that runs from `init` reach by actions that are `allowed` in the
state where they are taken. -/
inductive Reachable (step : σ → α → Option σ) (allowed : σ → α → Prop) (init : σ) : σ → Prop where
  | init : Reachable step allowed init init
  | step {s s' : σ} {a : α} : Reachable step allowed init s → allowed s a → step s a = some s' →
      Reachable step allowed init s'

/-- No restriction on the actions of a run. -/
def anyAction (_ : σ) (_ : α) : Prop := True

/-- The property is kept by every allowed action. -/
def Keeps (step : σ → α → Option σ) (allowed : σ → α → Prop) (P : σ → Prop) : Prop :=
  ∀ s a s', P s → allowed s a → step s a = some s' → P s'

variable {step : σ → α → Option σ} {allowed allowed' : σ → α → Prop} {init s : σ} {P Q : σ → Prop}

theorem Reachable.invariant (h : Reachable step allowed init s) (h0 : P init)
    (hP : Keeps step allowed P) : P s := by
  induction h with
  | init => exact h0
  | step _ ha hs ih => exact hP _ _ _ ih ha hs

/-- One more action, given by name. -/
theorem Reachable.next {s' : σ} (h : Reachable step allowed init s) (a : α) (ha : allowed s a)
    (hs : step s a = some s') : Reachable step allowed init s' :=
  .step h ha hs

theorem Reachable.trans {s' : σ} (h : Reachable step allowed init s)
    (h' : Reachable step allowed s s') : Reachable step allowed init s' := by
  induction h' with
  | init => exact h
  | step _ ha hs ih => exact .step ih ha hs

theorem Reachable.mono (h : Reachable step allowed init s)
    (hle : ∀ s a, allowed s a → allowed' s a) : Reachable step allowed' init s := by
  induction h with
  | init => exact .init
  | step _ ha hs ih => exact .step ih (hle _ _ ha) hs

/-- The state after a list of actions. -/
def run (step : σ → α → Option σ) (s : σ) : List α → Option σ
  | [] => some s
  | a :: as => (step s a).bind fun s' => run step s' as

theorem run_append (s : σ) (as bs : List α) :
    run step s (as ++ bs) = (run step s as).bind fun s' => run step s' bs := by
  induction as generalizing s with
  | nil => rfl
  | cons a as ih =>
    rw [List.cons_append, run, run, Option.bind_assoc]
    exact Option.bind_congr fun s' _ => ih s'

/-- Every action of the list is allowed where it is taken. -/
def Allowed (step : σ → α → Option σ) (allowed : σ → α → Prop) (s : σ) : List α → Prop
  | [] => True
  | a :: as => allowed s a ∧ (step s a).elim True fun s' => Allowed step allowed s' as

theorem Reachable.run {s' : σ} {as : List α} (h : Reachable step allowed init s)
    (ha : Allowed step allowed s as) (hr : run step s as = some s') :
    Reachable step allowed init s' := by
  induction as generalizing s with
  | nil =>
    obtain rfl : s = s' := by simpa [Run.run] using hr
    exact h
  | cons a as ih =>
    obtain ⟨u, hu, hrest⟩ := Option.bind_eq_some_iff.mp hr
    obtain ⟨hallowed, hlater⟩ := ha
    rw [hu] at hlater
    exact ih (.step h hallowed hu) hlater hrest

/-- Actions that are allowed in every state. -/
theorem allowed_of_forall {as : List α} (h : ∀ a ∈ as, ∀ s, allowed s a) :
    Allowed step allowed s as := by
  induction as generalizing s with
  | nil => trivial
  | cons a as ih =>
    refine ⟨h a List.mem_cons_self s, ?_⟩
    cases step s a with
    | none => trivial
    | some u => exact ih fun b hb => h b (List.mem_cons_of_mem a hb)

/-- What is established by every action that is not allowed, and kept by all
actions, holds after a list with such an action. -/
theorem of_not_allowed {s' : σ} {as : List α} (hs : Reachable step anyAction init s)
    (hbad : ∀ s a s', Reachable step anyAction init s → ¬ allowed s a → step s a = some s' → P s')
    (hkeeps : Keeps step anyAction P) (hr : run step s as = some s')
    (h : ¬ Allowed step allowed s as) : P s' := by
  induction as generalizing s with
  | nil => exact absurd trivial h
  | cons a as ih =>
    obtain ⟨u, hu, hrest⟩ := Option.bind_eq_some_iff.mp hr
    by_cases ha : allowed s a
    · refine ih (hs.next a trivial hu) hrest fun hlater => h ⟨ha, ?_⟩
      rw [hu]
      exact hlater
    · exact (Reachable.init.run (allowed_of_forall fun _ _ _ => trivial) hrest).invariant
        (hbad s a u hs ha hu) hkeeps

/-- The property holds at the start and after every action of the list. -/
def Throughout (step : σ → α → Option σ) (P : σ → Prop) (s : σ) : List α → Prop
  | [] => P s
  | a :: as => P s ∧ (step s a).elim True fun s' => Throughout step P s' as

/-- If, as long as `I` holds, an action keeps the property exactly when it is allowed, and
keeps `I` with the property, then the property holds throughout a run exactly when all its
actions are allowed. -/
theorem throughout_iff_of_invariant {s' : σ} {as : List α} (hI : Q s) (hP : ∀ s, Q s → P s)
    (hstep : ∀ s a s', Q s → step s a = some s' → (P s' ↔ allowed s a) ∧ (P s' → Q s'))
    (hr : run step s as = some s') : Throughout step P s as ↔ Allowed step allowed s as := by
  induction as generalizing s with
  | nil => exact ⟨fun _ => trivial, fun _ => hP s hI⟩
  | cons a as ih =>
    obtain ⟨u, hu, hrest⟩ := Option.bind_eq_some_iff.mp hr
    rw [Throughout, Allowed, hu]
    obtain ⟨hiff, hnext⟩ := hstep s a u hI hu
    constructor
    · rintro ⟨-, hlater⟩
      have hPu : P u := by
        cases as with
        | nil => exact hlater
        | cons b bs => exact hlater.1
      exact ⟨hiff.mp hPu, (ih (hnext hPu) hrest).mp hlater⟩
    · rintro ⟨hallowed, hlater⟩
      have hPu := hiff.mpr hallowed
      exact ⟨hP s hI, (ih (hnext hPu) hrest).mpr hlater⟩

/-- The same for reachable states. -/
theorem throughout_iff {s' : σ} {as : List α} (hs : Reachable step anyAction init s) (hP : P s)
    (hstep : ∀ s a s', Reachable step anyAction init s → P s → step s a = some s' →
      (P s' ↔ allowed s a)) (hr : run step s as = some s') :
    Throughout step P s as ↔ Allowed step allowed s as := by
  refine throughout_iff_of_invariant (Q := fun s => Reachable step anyAction init s ∧ P s)
    ⟨hs, hP⟩ (fun _ h => h.2) ?_ hr
  rintro s a s' ⟨hreach, hP⟩ hstep'
  exact ⟨hstep s a s' hreach hP hstep', fun hP' => ⟨hreach.next a trivial hstep', hP'⟩⟩

/-- What a list of actions reaches, some run without restrictions reaches. -/
theorem reachable_of_run (as : List α) (h : run step init as = some s) :
    Reachable step anyAction init s :=
  Reachable.init.run (allowed_of_forall fun _ _ _ => trivial) h

end Run

import Mathlib.Logic.Function.Basic

/-!
# A lock and the phases of its threads

Where a thread is, its phase, says whether it has the lock. `Owned` says that the lock agrees.
A step of one thread keeps the agreement if it takes the lock when it is free, gives back a lock
that it has, or goes on with the lock or without it.
-/

namespace Mutex

variable {ι φ : Type} [DecidableEq ι]

/-- The lock is with the thread whose phase says so, and free if there is none. -/
def Owned (holding : φ → Bool) (phase : ι → φ) (lock : Option ι) : Prop :=
  ∀ k, holding (phase k) = true ↔ lock = some k

variable {holding : φ → Bool} {phase : ι → φ} {lock : Option ι} {k j : ι} {p : φ}

omit [DecidableEq ι] in
theorem Owned.not_holding (h : Owned holding phase lock) (hj : lock ≠ some j) :
    holding (phase j) = false :=
  Bool.eq_false_iff.mpr fun hh => hj ((h j).mp hh)

omit [DecidableEq ι] in
/-- There is one lock: another thread does not have it. -/
theorem Owned.not_holding_of_ne (h : Owned holding phase lock) (hk : lock = some k) (hj : j ≠ k) :
    holding (phase j) = false :=
  h.not_holding fun hlock => hj (Option.some.inj (hlock.symm.trans hk))

omit [DecidableEq ι] in
theorem Owned.not_holding_of_free (h : Owned holding phase none) (j : ι) :
    holding (phase j) = false :=
  h.not_holding (Option.some_ne_none j).symm

/-- A thread goes on with the lock. -/
theorem Owned.within (h : Owned holding phase lock) (hk : lock = some k) (hp : holding p = true) :
    Owned holding (Function.update phase k p) lock := by
  intro j
  by_cases hj : j = k
  · subst hj
    rw [Function.update_self]
    exact ⟨fun _ => hk, fun _ => hp⟩
  · rw [Function.update_of_ne hj]
    exact h j

/-- A thread goes on without the lock. -/
theorem Owned.outside (h : Owned holding phase lock) (hk : lock ≠ some k)
    (hp : holding p = false) : Owned holding (Function.update phase k p) lock := by
  intro j
  by_cases hj : j = k
  · subst hj
    rw [Function.update_self, hp]
    exact ⟨fun hh => absurd hh Bool.noConfusion, fun hh => absurd hh hk⟩
  · rw [Function.update_of_ne hj]
    exact h j

/-- A thread takes the free lock. -/
theorem Owned.acquire (h : Owned holding phase none) (hp : holding p = true) :
    Owned holding (Function.update phase k p) (some k) := by
  intro j
  by_cases hj : j = k
  · subst hj
    rw [Function.update_self]
    exact ⟨fun _ => rfl, fun _ => hp⟩
  · rw [Function.update_of_ne hj, h.not_holding_of_free j]
    exact ⟨fun hh => absurd hh Bool.noConfusion,
      fun hh => absurd (Option.some.inj hh) (Ne.symm hj)⟩

/-- The thread that has the lock gives it back. -/
theorem Owned.release (h : Owned holding phase lock) (hk : lock = some k)
    (hp : holding p = false) : Owned holding (Function.update phase k p) none := by
  intro j
  have hj : holding (Function.update phase k p j) = false := by
    by_cases hj : j = k
    · subst hj
      rw [Function.update_self, hp]
    · rw [Function.update_of_ne hj]
      exact h.not_holding_of_ne hk hj
  rw [hj]
  exact ⟨fun hh => absurd hh Bool.noConfusion, fun hh => absurd hh.symm (Option.some_ne_none j)⟩

end Mutex

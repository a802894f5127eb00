import Mathlib.Data.List.Basic

/-!
# Sequences of checks

A validator is a sequence of checks that stops at the first one that fails and
reports its message. The lemmas below turn acceptance by such a sequence into
the conjunction of the conditions it checks, so that a validator is read off
its definition by `simp` and its messages never matter to that.
-/

variable {α β ε : Type}

/-- A check passes, or fails with a message. -/
abbrev Check := Except String Unit

namespace Check

/-- Fail with a message unless a condition holds. -/
def require (holds : Prop) [Decidable holds] (message : String) : Check :=
  if holds then .ok () else .error message

@[simp] theorem require_eq_ok {p : Prop} [Decidable p] {message : String} :
    require p message = .ok () ↔ p := by
  unfold require
  split <;> simp_all

/-- A computation that may fail succeeds when both of its parts do. -/
@[simp] theorem bind_eq_ok {x : Except ε α} {f : α → Except ε β} {b : β} :
    (x >>= f) = .ok b ↔ ∃ a, x = .ok a ∧ f a = .ok b := by
  cases x <;> simp [bind, Except.bind]

/-- One check after another: both have to pass. -/
@[simp high] theorem seq_eq_ok {x : Except ε Unit} {f : Unit → Except ε β} {b : β} :
    (x >>= f) = .ok b ↔ x = .ok () ∧ f () = .ok b := by
  cases x <;> simp [bind, Except.bind]

@[simp] theorem mapError_eq_ok {x : Except String α} {f : String → String} {a : α} :
    x.mapError f = .ok a ↔ x = .ok a := by
  cases x <;> simp [Except.mapError]

@[simp] theorem map_eq_ok {x : Except ε α} {f : α → β} {b : β} :
    f <$> x = .ok b ↔ ∃ a, x = .ok a ∧ f a = b := by
  cases x <;> simp [Functor.map, Except.map]

/-- Discarding a result keeps only whether there was one. -/
@[simp] theorem discard_eq_ok {x : Except ε α} :
    discard x = .ok () ↔ ∃ a, x = .ok a := by
  cases x <;> simp [discard, Functor.discard, Functor.mapConst, Except.map]

@[simp high] theorem map_unit_eq_ok {x : Except ε Unit} {f : Unit → β} {b : β} :
    f <$> x = .ok b ↔ x = .ok () ∧ f () = b := by
  cases x <;> simp [Functor.map, Except.map]

/-- Every element passes when the whole list does. -/
@[simp] theorem forM_eq_ok {xs : List α} {f : α → Check} :
    forM xs f = .ok () ↔ ∀ x ∈ xs, f x = .ok () := by
  induction xs with
  | nil => simp [pure, Except.pure]
  | cons x xs ih => simp [ih]

@[simp] theorem pure_eq_ok {a b : α} : (pure a : Except ε α) = .ok b ↔ a = b := by
  simp [pure, Except.pure]

/-- A guard that fails leaves the rest. -/
theorem ite_error_eq_ok {p : Prop} [Decidable p] {e : ε} {x : Except ε α} {a : α} :
    (if p then .error e else x) = .ok a ↔ ¬p ∧ x = .ok a := by
  split <;> simp_all

/-- Every element of a mapped list is the result of some element. -/
theorem mem_of_mapM_eq_ok {xs : List α} {f : α → Except ε β} {ys : List β}
    (h : xs.mapM f = .ok ys) : ys.length = xs.length ∧ ∀ y ∈ ys, ∃ x ∈ xs, f x = .ok y := by
  induction xs generalizing ys with
  | nil =>
    simp only [List.mapM_nil, pure_eq_ok] at h
    simp [← h]
  | cons x xs ih =>
    simp only [List.mapM_cons, bind_eq_ok, pure_eq_ok] at h
    obtain ⟨y, hy, rest, hrest, rfl⟩ := h
    obtain ⟨hlength, hmem⟩ := ih hrest
    refine ⟨by simp [hlength], ?_⟩
    intro z hz
    obtain rfl | hz := List.mem_cons.mp hz
    · exact ⟨x, List.mem_cons_self, hy⟩
    · obtain ⟨x', hx', hfx'⟩ := hmem z hz
      exact ⟨x', List.mem_cons_of_mem x hx', hfx'⟩

/-- The same for a partial function. -/
theorem mem_of_mapM_eq_some {xs : List α} {f : α → Option β} {ys : List β}
    (h : xs.mapM f = some ys) : ys.length = xs.length ∧ ∀ y ∈ ys, ∃ x ∈ xs, f x = some y := by
  induction xs generalizing ys with
  | nil =>
    simp only [List.mapM_nil, Option.pure_def, Option.some.injEq] at h
    simp [← h]
  | cons x xs ih =>
    simp only [List.mapM_cons, Option.bind_eq_bind, Option.bind_eq_some_iff, Option.pure_def,
      Option.some.injEq] at h
    obtain ⟨y, hy, rest, hrest, rfl⟩ := h
    obtain ⟨hlength, hmem⟩ := ih hrest
    refine ⟨by simp [hlength], ?_⟩
    intro z hz
    obtain rfl | hz := List.mem_cons.mp hz
    · exact ⟨x, List.mem_cons_self, hy⟩
    · obtain ⟨x', hx', hfx'⟩ := hmem z hz
      exact ⟨x', List.mem_cons_of_mem x hx', hfx'⟩

/-- Checks that count their elements only for their messages. -/
theorem forM_zipIdx_eq_ok {xs : List α} {f : α × Nat → Check} {p : α → Prop}
    (h : ∀ x, f x = .ok () ↔ p x.1) : forM xs.zipIdx f = .ok () ↔ ∀ x ∈ xs, p x := by
  rw [forM_eq_ok]
  constructor
  · intro hall x hx
    obtain ⟨i, hi⟩ := List.mem_iff_getElem?.mp hx
    exact (h (x, i)).mp (hall (x, i) (List.mem_zipIdx_iff_getElem?.mpr hi))
  · intro hall x hx
    exact (h x).mpr (hall x.1 (List.fst_mem_of_mem_zipIdx hx))

end Check

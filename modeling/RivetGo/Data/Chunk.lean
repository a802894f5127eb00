import Mathlib.Data.List.Basic

/-!
# Chunks of a list

`chunks n xs` cuts a list into pieces of `n` elements, the last of which may be
shorter. The pieces are never empty, together they are the list, and there are
as many of them as the length divided by `n`, rounded up.
-/

namespace Chunk

variable {α : Type}

/-- At most `pieces` pieces of `n` elements. -/
def chunksUpTo (n : Nat) : Nat → List α → List (List α)
  | 0, _ => []
  | _, [] => []
  | pieces + 1, x :: xs => (x :: xs).take n :: chunksUpTo n pieces ((x :: xs).drop n)

/-- The list in pieces of `n` elements. -/
def chunks (n : Nat) (xs : List α) : List (List α) := chunksUpTo n xs.length xs

@[simp] theorem chunksUpTo_nil (n pieces : Nat) : chunksUpTo n pieces ([] : List α) = [] := by
  cases pieces <;> rfl

@[simp] theorem chunks_nil (n : Nat) : chunks n ([] : List α) = [] := rfl

/-- A piece is not empty and has at most `n` elements. -/
theorem of_mem_chunksUpTo {n pieces : Nat} (hn : 0 < n) {xs c : List α}
    (h : c ∈ chunksUpTo n pieces xs) : c ≠ [] ∧ c.length ≤ n := by
  induction pieces generalizing xs with
  | zero => cases h
  | succ pieces ih =>
    cases xs with
    | nil => cases h
    | cons x xs =>
      rw [chunksUpTo, List.mem_cons] at h
      obtain rfl | h := h
      · exact ⟨by simp [Nat.pos_iff_ne_zero.mp hn], List.length_take_le n _⟩
      · exact ih h

theorem of_mem_chunks {n : Nat} (hn : 0 < n) {xs c : List α} (h : c ∈ chunks n xs) :
    c ≠ [] ∧ c.length ≤ n :=
  of_mem_chunksUpTo hn h

/-- Together the pieces are the list. -/
theorem flatten_chunksUpTo {n pieces : Nat} (hn : 0 < n) {xs : List α} (h : xs.length ≤ pieces) :
    (chunksUpTo n pieces xs).flatten = xs := by
  induction pieces generalizing xs with
  | zero => exact (List.length_eq_zero_iff.mp (Nat.le_zero.mp h)).symm
  | succ pieces ih =>
    cases xs with
    | nil => rfl
    | cons x xs =>
      have hdrop : ((x :: xs).drop n).length ≤ pieces := by
        simp only [List.length_drop, List.length_cons] at h ⊢
        omega
      rw [chunksUpTo, List.flatten_cons, ih hdrop, List.take_append_drop]

theorem flatten_chunks {n : Nat} (hn : 0 < n) (xs : List α) : (chunks n xs).flatten = xs :=
  flatten_chunksUpTo hn (Nat.le_refl _)

theorem length_chunksUpTo {n pieces : Nat} (hn : 0 < n) {xs : List α} (h : xs.length ≤ pieces) :
    (chunksUpTo n pieces xs).length = (xs.length + n - 1) / n := by
  induction pieces generalizing xs with
  | zero =>
    obtain rfl := List.length_eq_zero_iff.mp (Nat.le_zero.mp h)
    simp [chunksUpTo, Nat.div_eq_of_lt (Nat.sub_lt hn Nat.one_pos)]
  | succ pieces ih =>
    cases xs with
    | nil => simp [Nat.div_eq_of_lt (Nat.sub_lt hn Nat.one_pos)]
    | cons x xs =>
      have hdrop : ((x :: xs).drop n).length = (x :: xs).length - n := List.length_drop
      rw [chunksUpTo, List.length_cons, ih (by simp only [List.length_cons] at h hdrop; omega),
        hdrop]
      generalize hk : (x :: xs).length = k
      have hpos : 0 < k := by simp [← hk]
      by_cases hle : k ≤ n
      · have hlast : (k - n + n - 1) / n = 0 :=
          Nat.div_eq_of_lt (by omega)
        have hone : (k + n - 1) / n = 1 :=
          Nat.div_eq_of_lt_le (by omega) (by omega)
        rw [hlast, hone]
      · have hsplit : k + n - 1 = (k - n + n - 1) + n := by omega
        rw [hsplit, Nat.add_div_right _ hn]

theorem length_chunks {n : Nat} (hn : 0 < n) (xs : List α) :
    (chunks n xs).length = (xs.length + n - 1) / n :=
  length_chunksUpTo hn (Nat.le_refl _)

end Chunk

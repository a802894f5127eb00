import Mathlib.Data.List.AList

/-!
# Tables with owners

A table whose entries have an owner each, and what it means that an operation on it
leaves the entries of all owners but one alone.
-/

namespace Owned

/-- A value that somebody owns. -/
structure Entry (γ ν : Type) where
  owner : γ
  value : ν
  deriving DecidableEq

abbrev Table (κ γ ν : Type) := AList fun _ : κ => Entry γ ν

variable {κ γ ν : Type} [DecidableEq κ] {t t' : Table κ γ ν} {g : γ} {k : κ} {e : Entry γ ν}

/-- The entries that are not `g`'s are the same in both tables. -/
def KeepsOthers (g : γ) (t t' : Table κ γ ν) : Prop :=
  ∀ k (e : Entry γ ν), e.owner ≠ g → (t'.lookup k = some e ↔ t.lookup k = some e)

theorem KeepsOthers.refl (g : γ) (t : Table κ γ ν) : KeepsOthers g t t := fun _ _ _ => Iff.rfl

theorem keepsOthers_erase_iff [DecidableEq γ] :
    KeepsOthers g t (t.erase k) ↔ ∀ e, t.lookup k = some e → e.owner = g := by
  constructor
  · intro h e he
    by_contra howner
    have hkept := (h k e howner).mpr he
    rw [AList.lookup_erase] at hkept
    exact Option.some_ne_none _ hkept.symm
  · intro h j e howner
    by_cases hj : j = k
    · subst hj
      rw [AList.lookup_erase]
      exact iff_of_false (Option.some_ne_none _).symm fun he => howner (h e he)
    · rw [AList.lookup_erase_ne hj]

/-- An entry gets another value and keeps its owner. -/
theorem keepsOthers_insert_iff [DecidableEq γ] {v : ν} (he : t.lookup k = some e) :
    KeepsOthers g t (t.insert k ⟨e.owner, v⟩) ↔ e.owner = g ∨ v = e.value := by
  constructor
  · intro h
    by_cases howner : e.owner = g
    · exact .inl howner
    · have hkept := (h k e howner).mpr he
      rw [AList.lookup_insert] at hkept
      exact .inr (congrArg Entry.value (Option.some.inj hkept))
  · intro h j e' howner
    by_cases hj : j = k
    · subst hj
      rw [AList.lookup_insert, he]
      rcases h with hg | rfl
      · refine iff_of_false (fun heq => howner ?_) (fun heq => howner ?_)
        · rw [← Option.some.inj heq]
          exact hg
        · rw [← Option.some.inj heq]
          exact hg
      · exact Iff.rfl
    · rw [AList.lookup_insert_ne hj]

theorem keepsOthers_empty_iff [DecidableEq γ] :
    KeepsOthers g t ∅ ↔ ∀ k e, t.lookup k = some e → e.owner = g := by
  constructor
  · intro h k e he
    by_contra howner
    have hkept := (h k e howner).mpr he
    rw [AList.lookup_empty] at hkept
    exact Option.some_ne_none _ hkept.symm
  · intro h k e howner
    rw [AList.lookup_empty]
    exact iff_of_false (Option.some_ne_none _).symm fun he => howner (h k e he)

end Owned

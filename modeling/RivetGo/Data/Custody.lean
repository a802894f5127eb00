import Mathlib.Data.List.Basic

/-!
# Custody of registered entries

Entries stand in a register. Who wants to remove one marks it first, and a mark is
set only once: the one who has set it owns the entry until the entry is off the
register. An entry that is registered and marked then has exactly one owner, and an
entry that nobody has marked is still registered.
-/

namespace Custody

variable {κ ω : Type}

/-- `known` are the entries that were ever registered. -/
structure Sound (registered marked known : List κ) (owns : κ → ω → Prop) : Prop where
  unique : ∀ {k w w'}, owns k w → owns k w' → w = w'
  registered_of_owns : ∀ {k w}, owns k w → k ∈ registered
  marked_of_owns : ∀ {k w}, owns k w → k ∈ marked
  owner : ∀ {k}, k ∈ registered → k ∈ marked → ∃ w, owns k w
  registered_of_not_marked : ∀ {k}, k ∈ known → k ∉ marked → k ∈ registered
  known_of_registered : ∀ {k}, k ∈ registered → k ∈ known
  known_of_marked : ∀ {k}, k ∈ marked → k ∈ known

namespace Sound

variable {registered marked known : List κ} {owns owns' : κ → ω → Prop} {k : κ} {w : ω}

theorem empty : Sound [] [] [] fun (_ : κ) (_ : ω) => False where
  unique h := h.elim
  registered_of_owns h := h.elim
  marked_of_owns h := h.elim
  owner h := absurd h List.not_mem_nil
  registered_of_not_marked h := absurd h List.not_mem_nil
  known_of_registered h := h
  known_of_marked h := h

theorem congr (h : Sound registered marked known owns) (howns : ∀ j v, owns' j v ↔ owns j v) :
    Sound registered marked known owns' := by
  obtain rfl : owns' = owns := funext fun j => funext fun v => propext (howns j v)
  exact h

/-- An entry that is not marked gets its mark and an owner. -/
theorem mark (h : Sound registered marked known owns) (hknown : k ∈ known) (hfree : k ∉ marked)
    (howns : ∀ j v, owns' j v ↔ owns j v ∨ j = k ∧ v = w) :
    Sound registered (k :: marked) known owns' where
  unique {j v v'} hv hv' := by
    rcases (howns j v).mp hv with hv | ⟨rfl, rfl⟩ <;>
        rcases (howns j v').mp hv' with hv' | ⟨hj, rfl⟩
    · exact h.unique hv hv'
    · exact absurd (h.marked_of_owns hv) (hj ▸ hfree)
    · exact absurd (h.marked_of_owns hv') hfree
    · rfl
  registered_of_owns {j v} hv := by
    rcases (howns j v).mp hv with hv | ⟨rfl, -⟩
    · exact h.registered_of_owns hv
    · exact h.registered_of_not_marked hknown hfree
  marked_of_owns {j v} hv := by
    rcases (howns j v).mp hv with hv | ⟨rfl, -⟩
    · exact List.mem_cons_of_mem _ (h.marked_of_owns hv)
    · exact List.mem_cons_self
  owner {j} hj hmarked := by
    rcases List.mem_cons.mp hmarked with rfl | hmarked
    · exact ⟨w, (howns j w).mpr (.inr ⟨rfl, rfl⟩)⟩
    · obtain ⟨v, hv⟩ := h.owner hj hmarked
      exact ⟨v, (howns j v).mpr (.inl hv)⟩
  registered_of_not_marked hj hmark :=
    h.registered_of_not_marked hj fun hm => hmark (List.mem_cons_of_mem _ hm)
  known_of_registered := h.known_of_registered
  known_of_marked {j} hj := by
    rcases List.mem_cons.mp hj with rfl | hj
    · exact hknown
    · exact h.known_of_marked hj

/-- The owner of an entry takes it off the register. -/
theorem release [DecidableEq κ] (h : Sound registered marked known owns) (hk : owns k w)
    (howns : ∀ j v, owns' j v ↔ owns j v ∧ j ≠ k) :
    Sound (registered.filter (· ≠ k)) marked known owns' where
  unique {j v v'} hv hv' := h.unique ((howns j v).mp hv).1 ((howns j v').mp hv').1
  registered_of_owns {j v} hv := by
    obtain ⟨hv, hj⟩ := (howns j v).mp hv
    exact List.mem_filter.mpr ⟨h.registered_of_owns hv, by simpa using hj⟩
  marked_of_owns {j v} hv := h.marked_of_owns ((howns j v).mp hv).1
  owner {j} hj hmarked := by
    obtain ⟨hj, hne⟩ := List.mem_filter.mp hj
    obtain ⟨v, hv⟩ := h.owner hj hmarked
    exact ⟨v, (howns j v).mpr ⟨hv, by simpa using hne⟩⟩
  registered_of_not_marked {j} hj hmark := by
    refine List.mem_filter.mpr ⟨h.registered_of_not_marked hj hmark, ?_⟩
    have hne : j ≠ k := by
      rintro rfl
      exact hmark (h.marked_of_owns hk)
    simpa using hne
  known_of_registered hj := h.known_of_registered (List.mem_filter.mp hj).1
  known_of_marked := h.known_of_marked

theorem register (h : Sound registered marked known owns) (hk : k ∉ known)
    (howns : ∀ j v, owns' j v ↔ owns j v) :
    Sound (k :: registered) marked (k :: known) owns' where
  unique {j v v'} hv hv' := h.unique ((howns j v).mp hv) ((howns j v').mp hv')
  registered_of_owns {j v} hv :=
    List.mem_cons_of_mem _ (h.registered_of_owns ((howns j v).mp hv))
  marked_of_owns {j v} hv := h.marked_of_owns ((howns j v).mp hv)
  owner {j} hj hmarked := by
    rcases List.mem_cons.mp hj with rfl | hj
    · exact absurd (h.known_of_marked hmarked) hk
    · obtain ⟨v, hv⟩ := h.owner hj hmarked
      exact ⟨v, (howns j v).mpr hv⟩
  registered_of_not_marked {j} hj hmark := by
    rcases List.mem_cons.mp hj with rfl | hj
    · exact List.mem_cons_self
    · exact List.mem_cons_of_mem _ (h.registered_of_not_marked hj hmark)
  known_of_registered {j} hj := by
    rcases List.mem_cons.mp hj with rfl | hj
    · exact List.mem_cons_self
    · exact List.mem_cons_of_mem _ (h.known_of_registered hj)
  known_of_marked hj := List.mem_cons_of_mem _ (h.known_of_marked hj)

/-- All entries are marked and nobody owns one: the register is empty. -/
theorem registered_eq_nil (h : Sound registered marked known owns)
    (hmarked : ∀ k ∈ registered, k ∈ marked) (hfree : ∀ k w, ¬ owns k w) : registered = [] := by
  refine List.eq_nil_iff_forall_not_mem.mpr fun k hk => ?_
  obtain ⟨w, hw⟩ := h.owner hk (hmarked k hk)
  exact hfree k w hw

end Sound

end Custody

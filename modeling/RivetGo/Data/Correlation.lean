import Mathlib

/-!
# Correlating answers with callers

A caller that sends a request registers itself under a fresh identifier, which
the request carries and the answer repeats. The table has an entry for every
identifier in use: the caller that waits, or a tombstone if nobody does any more.

`held` remembers who may still be answered under which identifier. It is not part
of the implementation. A desk is sound if everything held has its entry in the
table, and then an answer never reaches anybody but the one who asked.
Registering, giving up and answering keep it sound, and so does withdrawing a
request that will not be answered. Forgetting an entry gives up on whoever is
held under it.
-/

namespace Correlation

variable {ι γ : Type} [DecidableEq ι]

/-- The first free identifier after `c`, among the next `fuel` ones. -/
def draw (next : ι → ι) (free : ι → Bool) : Nat → ι → Option ι
  | 0, _ => none
  | fuel + 1, c => if free (next c) then some (next c) else draw next free fuel (next c)

omit [DecidableEq ι] in
theorem free_of_draw {next : ι → ι} {free : ι → Bool} {fuel : Nat} {c id : ι}
    (h : draw next free fuel c = some id) : free id = true := by
  induction fuel generalizing c with
  | zero => cases h
  | succ fuel ih =>
    rw [draw] at h
    split at h
    case isTrue hfree =>
      obtain rfl := Option.some.inj h
      exact hfree
    case isFalse => exact ih h

omit [DecidableEq ι] in
theorem draw_of_free {next : ι → ι} {free : ι → Bool} {fuel : Nat} {c : ι} (hfuel : 0 < fuel)
    (h : free (next c) = true) : draw next free fuel c = some (next c) := by
  obtain ⟨fuel, rfl⟩ := Nat.exists_eq_succ_of_ne_zero (Nat.pos_iff_ne_zero.mp hfuel)
  exact if_pos h

omit [DecidableEq ι] in
theorem draw_of_not_free {next : ι → ι} {free : ι → Bool} {fuel : Nat} {c : ι} (hfuel : 0 < fuel)
    (h : free (next c) = false) : draw next free fuel c = draw next free (fuel - 1) (next c) := by
  obtain ⟨fuel, rfl⟩ := Nat.exists_eq_succ_of_ne_zero (Nat.pos_iff_ne_zero.mp hfuel)
  exact if_neg (by simp [h])

omit [DecidableEq ι] in
/-- A free identifier within reach is enough. -/
theorem draw_ne_none {next : ι → ι} {free : ι → Bool} {fuel k : Nat} {c : ι} (hk : k < fuel)
    (h : free (next^[k + 1] c) = true) : draw next free fuel c ≠ none := by
  induction fuel generalizing c k with
  | zero => exact absurd hk (Nat.not_lt_zero k)
  | succ fuel ih =>
    rw [draw]
    split
    case isTrue => exact Option.some_ne_none _
    case isFalse hfirst =>
      cases k with
      | zero => exact absurd h hfirst
      | succ k =>
        rw [Function.iterate_succ_apply] at h
        exact ih (Nat.lt_of_succ_lt_succ hk) h

/-- Identifiers in use, each with the caller that waits or a tombstone. -/
abbrev Entries (ι γ : Type) := AList fun _ : ι => Option γ

/-- The callers that wait. -/
def waiters (t : Entries ι γ) : List γ := t.entries.filterMap fun e => e.2

structure Desk (ι γ : Type) where
  counter : ι
  entries : Entries ι γ := ∅
  held : List (ι × γ) := []

namespace Desk

variable (d : Desk ι γ)

/-- A caller enters under the next identifier that is neither `zero` nor in use. -/
def register (next : ι → ι) (zero : ι) (fuel : Nat) (who : γ) : Option (ι × Desk ι γ) :=
  (draw next (fun id => id ≠ zero ∧ id ∉ d.entries) fuel d.counter).map fun id =>
    (id, ⟨id, d.entries.insert id (some who), (id, who) :: d.held⟩)

/-- The entry goes, and nobody may be answered under the identifier any more. -/
def settle [DecidableEq γ] (id : ι) (who : γ) : Desk ι γ :=
  { d with entries := d.entries.erase id, held := d.held.erase (id, who) }

/-- A tombstone takes the place of the entry. -/
def abandon (id : ι) : Desk ι γ :=
  if id ∈ d.entries then { d with entries := d.entries.insert id none } else d

/-- The entry goes, and whoever may still be answered under it is not held any more. -/
def forget (id : ι) : Desk ι γ :=
  { d with entries := d.entries.erase id, held := d.held.filter (·.1 ≠ id) }

/-- All entries go. -/
def reset : Desk ι γ := { d with entries := ∅ }

/-- The caller that waits under an identifier. -/
def waiting (id : ι) : Option γ := (d.entries.lookup id).join

@[simp] theorem held_abandon (id : ι) : (d.abandon id).held = d.held := by
  unfold abandon
  split <;> rfl

end Desk

/-- Everything held has its entry, and only its own. -/
structure Sound (d : Desk ι γ) : Prop where
  keys : ∀ p ∈ d.held, p.1 ∈ d.entries
  owner : ∀ id who, d.waiting id = some who → (id, who) ∈ d.held
  unique : (d.held.map Prod.fst).Nodup

section

variable {d d' : Desk ι γ} {id : ι} {who who' : γ}

theorem Sound.empty (c : ι) : Sound (⟨c, ∅, []⟩ : Desk ι γ) where
  keys := by simp
  owner := by
    intro id who h
    simp [Desk.waiting] at h
  unique := List.nodup_nil

/-- Two that are held under one identifier are the same. -/
theorem Sound.held_inj (h : Sound d) (hwho : (id, who) ∈ d.held) (hwho' : (id, who') ∈ d.held) :
    who = who' :=
  (Prod.ext_iff.mp (List.inj_on_of_nodup_map h.unique hwho hwho' rfl)).2

/-- An answer finds nobody but the one who asked. -/
theorem Sound.waiting_eq (h : Sound d) (hheld : (id, who) ∈ d.held)
    (hwaiting : d.waiting id = some who') : who' = who :=
  h.held_inj (h.owner id who' hwaiting) hheld

theorem Desk.register_eq_some {next : ι → ι} {zero : ι} {fuel : Nat}
    (h : d.register next zero fuel who = some (id, d')) :
    id ≠ zero ∧ id ∉ d.entries ∧
      d' = ⟨id, d.entries.insert id (some who), (id, who) :: d.held⟩ := by
  obtain ⟨id', hdraw, heq⟩ := Option.map_eq_some_iff.mp h
  obtain ⟨rfl, rfl⟩ := Prod.ext_iff.mp heq
  have hfree := free_of_draw hdraw
  simp only [decide_eq_true_eq] at hfree
  exact ⟨hfree.1, hfree.2, rfl⟩

/-- The next identifier is taken if it is free. -/
theorem Desk.register_of_free (d : Desk ι γ) (next : ι → ι) (zero : ι) {fuel : Nat}
    (hfuel : 0 < fuel) (hne : next d.counter ≠ zero) (hfree : next d.counter ∉ d.entries)
    (who : γ) :
    d.register next zero fuel who =
      some (next d.counter, ⟨next d.counter, d.entries.insert (next d.counter) (some who),
        (next d.counter, who) :: d.held⟩) := by
  have hdraw : draw next (fun id => id ≠ zero ∧ id ∉ d.entries) fuel d.counter =
      some (next d.counter) := by
    apply draw_of_free hfuel
    exact decide_eq_true ⟨hne, hfree⟩
  rw [Desk.register, hdraw]
  rfl

/-- `zero` is skipped. -/
theorem Desk.register_of_zero (d : Desk ι γ) (next : ι → ι) (zero : ι) {fuel : Nat}
    (hfuel : 1 < fuel) (hzero : next d.counter = zero) (hne : next zero ≠ zero)
    (hfree : next zero ∉ d.entries) (who : γ) :
    d.register next zero fuel who =
      some (next zero, ⟨next zero, d.entries.insert (next zero) (some who),
        (next zero, who) :: d.held⟩) := by
  have hdraw : draw next (fun id => id ≠ zero ∧ id ∉ d.entries) fuel d.counter =
      some (next zero) := by
    rw [draw_of_not_free (Nat.lt_of_succ_lt hfuel) (by simp [hzero]), hzero]
    apply draw_of_free (Nat.sub_pos_of_lt hfuel)
    exact decide_eq_true ⟨hne, hfree⟩
  rw [Desk.register, hdraw]
  rfl

/-- Whoever enters and is settled at once leaves an empty table behind. -/
theorem erase_insert_empty (id : ι) (v : Option γ) :
    ((∅ : Entries ι γ).insert id v).erase id = ∅ := by
  apply AList.ext
  simp [AList.erase]

theorem waiting_insert (id id' : ι) (v : Option γ) :
    (⟨d.counter, d.entries.insert id v, d.held⟩ : Desk ι γ).waiting id' =
      if id' = id then v else d.waiting id' := by
  by_cases heq : id' = id
  · subst heq
    simp [Desk.waiting]
  · simp [Desk.waiting, heq, AList.lookup_insert_ne heq]

/-- A fresh identifier is held by nobody. -/
theorem Sound.register (h : Sound d) {next : ι → ι} {zero : ι} {fuel : Nat}
    (hregister : d.register next zero fuel who = some (id, d')) : Sound d' := by
  obtain ⟨-, hfresh, rfl⟩ := Desk.register_eq_some hregister
  refine ⟨?_, ?_, ?_⟩
  · intro p hp
    obtain rfl | hp := List.mem_cons.mp hp
    · exact (AList.mem_insert _).mpr (.inl rfl)
    · exact (AList.mem_insert _).mpr (.inr (h.keys p hp))
  · intro id' who' hwaiting
    have hcases := (waiting_insert (d := d) id id' (some who)).symm.trans hwaiting
    split at hcases
    case isTrue heq =>
      subst heq
      obtain rfl := Option.some.inj hcases
      exact List.mem_cons_self
    case isFalse => exact List.mem_cons_of_mem _ (h.owner id' who' hcases)
  · rw [List.map_cons, List.nodup_cons]
    refine ⟨?_, h.unique⟩
    intro hmem
    obtain ⟨p, hp, rfl⟩ := List.mem_map.mp hmem
    exact hfresh (h.keys p hp)

theorem Sound.abandon (h : Sound d) (id : ι) : Sound (d.abandon id) := by
  unfold Desk.abandon
  split
  case isFalse => exact h
  case isTrue hmem =>
    refine ⟨fun p hp => (AList.mem_insert _).mpr (.inr (h.keys p hp)), ?_, h.unique⟩
    intro id' who' hwaiting
    have hcases := (waiting_insert (d := d) id id' none).symm.trans hwaiting
    split at hcases
    case isTrue => cases hcases
    case isFalse => exact h.owner id' who' hcases

/-- What is answered or withdrawn is settled. -/
theorem Sound.settle [DecidableEq γ] (h : Sound d) (hheld : (id, who) ∈ d.held) :
    Sound (d.settle id who) := by
  refine ⟨?_, ?_, h.unique.sublist (List.erase_sublist.map _)⟩
  · intro p hp
    refine AList.mem_erase.mpr ⟨?_, h.keys p (List.mem_of_mem_erase hp)⟩
    rintro rfl
    have hnodup : d.held.Nodup := .of_map _ h.unique
    have hne := (hnodup.mem_erase_iff.mp hp).1
    exact hne (Prod.ext rfl (h.held_inj (List.mem_of_mem_erase hp) hheld))
  · intro id' who' hwaiting
    by_cases heq : id' = id
    · subst heq
      simp [Desk.waiting, Desk.settle] at hwaiting
    · have howner := h.owner id' who' (by
        simpa [Desk.waiting, Desk.settle, AList.lookup_erase_ne heq] using hwaiting)
      refine (List.mem_erase_of_ne ?_).mpr howner
      intro hpair
      exact heq (Prod.ext_iff.mp hpair).1

/-- What is not held any more needs no entry. -/
theorem Sound.forget (h : Sound d) (id : ι) : Sound (d.forget id) := by
  have hmem : ∀ p, p ∈ (d.forget id).held ↔ p ∈ d.held ∧ p.1 ≠ id := fun p => by
    simp [Desk.forget]
  refine ⟨fun p hp => ?_, fun id' who' hwaiting => ?_,
    h.unique.sublist (List.filter_sublist.map _)⟩
  · obtain ⟨hheld, hne⟩ := (hmem p).mp hp
    exact AList.mem_erase.mpr ⟨hne, h.keys p hheld⟩
  · by_cases heq : id' = id
    · subst heq
      simp [Desk.waiting, Desk.forget] at hwaiting
    · refine (hmem _).mpr ⟨h.owner id' who' ?_, heq⟩
      simpa [Desk.waiting, Desk.forget, AList.lookup_erase_ne heq] using hwaiting

/-! ### Who waits -/

theorem mem_waiters {t : Entries ι γ} :
    who ∈ waiters t ↔ ∃ id, t.lookup id = some (some who) := by
  simp only [waiters, List.mem_filterMap]
  constructor
  · rintro ⟨⟨id, v⟩, hmem, rfl⟩
    exact ⟨id, AList.mem_lookup_iff.mpr hmem⟩
  · rintro ⟨id, hlookup⟩
    exact ⟨⟨id, some who⟩, AList.mem_lookup_iff.mp hlookup, rfl⟩

theorem mem_waiters_of_waiting (h : d.waiting id = some who) : who ∈ waiters d.entries :=
  mem_waiters.mpr ⟨id, Option.join_eq_some_iff.mp h⟩

omit [DecidableEq ι] in
@[simp] theorem waiters_empty : waiters (∅ : Entries ι γ) = [] := rfl

theorem waiters_insert {t : Entries ι γ} (h : id ∉ t) :
    waiters (t.insert id (some who)) = who :: waiters t := by
  rw [waiters, AList.entries_insert_of_notMem h]
  rfl

theorem waiters_erase_sublist (t : Entries ι γ) (id : ι) :
    (waiters (t.erase id)).Sublist (waiters t) :=
  (List.kerase_sublist id t.entries).filterMap _

theorem waiters_abandon_sublist (d : Desk ι γ) (id : ι) :
    (waiters (d.abandon id).entries).Sublist (waiters d.entries) := by
  unfold Desk.abandon
  split
  case isFalse => exact List.Sublist.refl _
  case isTrue =>
    have hinsert : waiters (d.entries.insert id none) = waiters (d.entries.erase id) := by
      simp [waiters, AList.entries_insert, AList.erase]
    rw [hinsert]
    exact waiters_erase_sublist d.entries id

/-- The one who is found leaves the table. -/
theorem waiters_perm_erase (h : d.waiting id = some who) :
    (waiters d.entries).Perm (who :: waiters (d.entries.erase id)) := by
  have hlookup : d.entries.lookup id = some (some who) := Option.join_eq_some_iff.mp h
  have hmem := AList.mem_lookup_iff.mp hlookup
  obtain ⟨v, before, after, -, hentries, hkerase⟩ :=
    List.exists_of_kerase (List.mem_keys_of_mem hmem)
  have hv : ⟨id, v⟩ ∈ d.entries.entries := by rw [hentries]; simp
  obtain rfl := List.NodupKeys.eq_of_mk_mem d.entries.nodupKeys hv hmem
  have herase : (d.entries.erase id).entries = before ++ after := hkerase
  rw [waiters, waiters, herase, hentries]
  simp only [List.filterMap_append, List.filterMap_cons]
  exact List.perm_middle

end

end Correlation

import Mathlib.Order.WellFounded
import RivetGo.Data.Run

/-!
# Progress

A party is given by its actions. It makes progress to a goal if, until the goal
is reached, it can always act, each of its actions lowers a rank, and no other
action raises it. Then its own actions lead to the goal, and the goal is reached
on every run without an end that is fair to the party.
-/

namespace Run

variable {σ α : Type} {step : σ → α → Option σ}

/-- The party can act. -/
def Enabled (step : σ → α → Option σ) (party : α → Prop) (s : σ) : Prop :=
  ∃ a s', party a ∧ step s a = some s'

/-- A run without an end. -/
structure Path (step : σ → α → Option σ) where
  state : Nat → σ
  action : Nat → α
  next : ∀ i, step (state i) (action i) = some (state (i + 1))

/-- If the party can act from some time on, it acts. -/
def Path.Fair (p : Path step) (party : α → Prop) : Prop :=
  ∀ i, (∀ j, i ≤ j → Enabled step party (p.state j)) → ∃ j, i ≤ j ∧ party (p.action j)

/-- What every action keeps holds from then on. -/
theorem Path.always (p : Path step) {P : σ → Prop} (hkeeps : Keeps step anyAction P) {i j : Nat}
    (hij : i ≤ j) (h : P (p.state i)) : P (p.state j) := by
  induction j, hij using Nat.le_induction with
  | base => exact h
  | succ j _ ih => exact hkeeps _ _ _ ih trivial (p.next j)

/-- The party makes progress to the goal as long as `P` holds. -/
structure Progress {β : Type} [Preorder β] (step : σ → α → Option σ) (party : α → Prop)
    (P goal : σ → Prop) (rank : σ → β) : Prop where
  keeps : Keeps step anyAction P
  enabled : ∀ s, P s → ¬ goal s → Enabled step party s
  lowers : ∀ s a s', P s → party a → step s a = some s' → rank s' < rank s
  le : ∀ s a s', P s → step s a = some s' → rank s' ≤ rank s

namespace Progress

variable {β : Type} [Preorder β] {party : α → Prop} {P goal : σ → Prop} {rank : σ → β}

theorem rank_le (h : Progress step party P goal rank) (p : Path step) {i j : Nat} (hij : i ≤ j)
    (hP : P (p.state i)) : rank (p.state j) ≤ rank (p.state i) := by
  induction j, hij using Nat.le_induction with
  | base => exact le_refl _
  | succ j hij ih => exact (h.le _ _ _ (p.always h.keeps hij hP) (p.next j)).trans ih

variable [WellFoundedLT β]

/-- The party can get to the goal by itself. -/
theorem exists_run (h : Progress step party P goal rank) {s : σ} (hP : P s) :
    ∃ as s', (∀ a ∈ as, party a) ∧ run step s as = some s' ∧ P s' ∧ goal s' := by
  induction hs : rank s using WellFoundedLT.induction generalizing s with
  | _ r ih =>
    by_cases hgoal : goal s
    · exact ⟨[], s, nofun, rfl, hP, hgoal⟩
    · obtain ⟨a, u, ha, hu⟩ := h.enabled s hP hgoal
      obtain ⟨as, s', has, hrun, hlast⟩ :=
        ih _ (hs ▸ h.lowers s a u hP ha hu) (h.keeps s a u hP trivial hu) rfl
      refine ⟨a :: as, s', List.forall_mem_cons.mpr ⟨ha, has⟩, ?_, hlast⟩
      rw [run, hu]
      exact hrun

/-- The party gets to the goal if it is treated fairly. -/
theorem reaches (h : Progress step party P goal rank) {p : Path step} (hfair : p.Fair party)
    {i : Nat} (hP : P (p.state i)) : ∃ j, i ≤ j ∧ goal (p.state j) := by
  induction hi : rank (p.state i) using WellFoundedLT.induction generalizing i with
  | _ r ih =>
    by_contra hnone
    have hnot : ∀ k, i ≤ k → ¬ goal (p.state k) := fun k hk hgoal => hnone ⟨k, hk, hgoal⟩
    obtain ⟨j, hij, hact⟩ :=
      hfair i fun k hk => h.enabled _ (p.always h.keeps hk hP) (hnot k hk)
    have hlower := h.lowers _ _ _ (p.always h.keeps hij hP) hact (p.next j)
    have hlt : rank (p.state (j + 1)) < r := hi ▸ hlower.trans_le (h.rank_le p hij hP)
    have hij' : i ≤ j + 1 := Nat.le_succ_of_le hij
    obtain ⟨k, hjk, hgoal⟩ := ih _ hlt (p.always h.keeps hij' hP) rfl
    exact hnot k (hij'.trans hjk) hgoal

end Progress

end Run

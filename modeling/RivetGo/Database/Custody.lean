import Mathlib
import RivetGo.Database.Handle

/-!
# Who finishes a transaction

A transaction becomes terminal once, and the one who made it so, a `Commit` or
`Rollback` or one of the two drains, takes it off the register afterwards. The count
of the active calls is right, and the leases that `Begin` is still at work on are its
own.
-/

namespace RivetGo.Database

variable {s s' u : State} {a : Action}

/-- Who can have made a transaction terminal. -/
inductive Owner where
  | op (i : Nat)
  | drain (side : Side)
  deriving DecidableEq

def State.Owns (s : State) (t : Nat) : Owner → Prop
  | .op i => ∃ op, s.ops[i]? = some op ∧ op.taken = some t
  | .drain side => s.rolling side = some t

def Drain.todo : Drain → List Nat
  | .sweeping todo => todo
  | .rollingBack _ todo => todo
  | .drained => []

def Op.isActive (op : Op) : Bool := op ≠ .returned

/-- The leases that `Begin` is at work on. -/
structure Pending (s : State) : Prop where
  handed_lt : ∀ t ∈ s.handed, t < s.sequence
  lt : ∀ {i : Nat} {op : Op} {t : Nat}, s.ops[i]? = some op → op.pending = some t →
    t < s.sequence
  fresh : ∀ {i : Nat} {op : Op} {t : Nat}, s.ops[i]? = some op → op.pending = some t →
    t ∉ s.handed
  unique : ∀ {i j : Nat} {op op' : Op} {t : Nat}, s.ops[i]? = some op → s.ops[j]? = some op' →
    op.pending = some t → op'.pending = some t → i = j

structure Sound (s : State) : Prop where
  count : s.active = s.ops.countP Op.isActive
  custody : Custody.Sound s.transactions s.terminal s.handed s.Owns
  pending : Pending s
  handed_of_finish : ∀ {i t : Nat}, s.ops[i]? = some (.finish t false) → t ∈ s.handed
  handed_of_todo : ∀ {side : Side} {d : Drain}, s.drainOf side = some d →
    ∀ t ∈ d.todo, t ∈ s.handed

theorem sound_initial : Sound initial where
  count := rfl
  custody := by
    refine Custody.Sound.empty.congr fun t w => ?_
    cases w with
    | op i => simp [State.Owns, initial]
    | drain side => cases side <;> simp [State.Owns, initial, State.rolling, State.drainOf]
  pending := ⟨by simp [initial], by simp [initial], by simp [initial], by simp [initial]⟩
  handed_of_finish := by simp [initial]
  handed_of_todo {side d} h := by
    cases side <;> simp [initial, State.drainOf] at h

/-! ### Leases at work -/

theorem getElem?_set_cases {l : List Op} {i j : Nat} {x y : Op} (h : (l.set i x)[j]? = some y) :
    j = i ∧ y = x ∨ j ≠ i ∧ l[j]? = some y := by
  rw [List.getElem?_set] at h
  split_ifs at h with hij hlt
  · exact .inl ⟨hij.symm, (Option.some.inj h).symm⟩
  · exact .inr ⟨Ne.symm hij, h⟩

/-- What is pending was so before, in the same call. -/
theorem Pending.of_sub (h : Pending s) (hhanded : s'.handed = s.handed)
    (hsequence : s'.sequence = s.sequence)
    (hsub : ∀ {j : Nat} {x : Op} {t : Nat}, s'.ops[j]? = some x → x.pending = some t →
      ∃ y, s.ops[j]? = some y ∧ y.pending = some t) : Pending s' where
  handed_lt := by rw [hhanded, hsequence]; exact h.handed_lt
  lt hx ht := by
    obtain ⟨y, hy, ht⟩ := hsub hx ht
    rw [hsequence]
    exact h.lt hy ht
  fresh hx ht := by
    obtain ⟨y, hy, ht⟩ := hsub hx ht
    rw [hhanded]
    exact h.fresh hy ht
  unique hx hx' ht ht' := by
    obtain ⟨y, hy, ht⟩ := hsub hx ht
    obtain ⟨y', hy', ht'⟩ := hsub hx' ht'
    exact h.unique hy hy' ht ht'

/-- `Begin` asks for a new lease. -/
theorem Pending.start (h : Pending s) {i : Nat} {op : Op} (hop : s.ops[i]? = some op)
    (hhanded : s'.handed = s.handed) (hsequence : s'.sequence = s.sequence + 1)
    (hops : s'.ops = s.ops.set i (.begin (.calling s.sequence))) : Pending s' := by
  have hcases : ∀ {j : Nat} {x : Op} {t : Nat}, s'.ops[j]? = some x → x.pending = some t →
      j = i ∧ t = s.sequence ∨ ∃ y, s.ops[j]? = some y ∧ y.pending = some t := by
    intro j x t hx ht
    rw [hops] at hx
    rcases getElem?_set_cases hx with ⟨rfl, rfl⟩ | ⟨-, hx⟩
    · exact .inl ⟨rfl, (Option.some.inj ht).symm⟩
    · exact .inr ⟨x, hx, ht⟩
  refine ⟨fun t ht => ?_, fun hx ht => ?_, fun hx ht => ?_, fun hx hx' ht ht' => ?_⟩
  · rw [hhanded] at ht
    rw [hsequence]
    exact Nat.lt_succ_of_lt (h.handed_lt t ht)
  · rw [hsequence]
    rcases hcases hx ht with ⟨-, rfl⟩ | ⟨y, hy, ht⟩
    · exact Nat.lt_succ_self _
    · exact Nat.lt_succ_of_lt (h.lt hy ht)
  · rw [hhanded]
    rcases hcases hx ht with ⟨-, rfl⟩ | ⟨y, hy, ht⟩
    · exact fun hmem => Nat.lt_irrefl _ (h.handed_lt _ hmem)
    · exact h.fresh hy ht
  · rcases hcases hx ht with ⟨rfl, rfl⟩ | ⟨y, hy, ht⟩ <;>
      rcases hcases hx' ht' with ⟨rfl, ht'⟩ | ⟨y', hy', ht'⟩
    · rfl
    · exact absurd (h.lt hy' ht') (Nat.lt_irrefl _)
    · exact absurd (h.lt hy ht) (by omega)
    · exact h.unique hy hy' ht ht'

/-- The lease of a `Begin` is registered and handed out. -/
theorem Pending.register (h : Pending s) {i t : Nat} (hop : s.ops[i]? = some (.begin (.begun t)))
    (hhanded : s'.handed = t :: s.handed) (hsequence : s'.sequence = s.sequence)
    (hops : s'.ops = s.ops.set i (.begin .resetting)) : Pending s' := by
  have hcases : ∀ {j : Nat} {x : Op} {v : Nat}, s'.ops[j]? = some x → x.pending = some v →
      j ≠ i ∧ s.ops[j]? = some x := by
    intro j x v hx hv
    rw [hops] at hx
    rcases getElem?_set_cases hx with ⟨rfl, rfl⟩ | hx
    · simp [Op.pending] at hv
    · exact hx
  refine ⟨fun v hv => ?_, fun hx hv => ?_, fun hx hv => ?_, fun hx hx' hv hv' => ?_⟩
  · rw [hsequence]
    rcases List.mem_cons.mp (hhanded ▸ hv) with rfl | hv
    · exact h.lt hop rfl
    · exact h.handed_lt v hv
  · rw [hsequence]
    exact h.lt (hcases hx hv).2 hv
  · rw [hhanded]
    obtain ⟨hne, hx⟩ := hcases hx hv
    intro hmem
    rcases List.mem_cons.mp hmem with rfl | hmem
    · exact hne (h.unique hx hop hv rfl)
    · exact h.fresh hx hv hmem
  · exact h.unique (hcases hx hv).2 (hcases hx' hv').2 hv hv'

/-! ### One call or one drain goes on -/

/-- The transaction that an owner is to take off the register. -/
def State.holding (s : State) : Owner → Option Nat
  | .op i => s.ops[i]?.bind Op.taken
  | .drain side => s.rolling side

theorem owns_iff {t : Nat} {w : Owner} : s.Owns t w ↔ s.holding w = some t := by
  cases w with
  | op i => exact Option.bind_eq_some_iff.symm
  | drain side => exact Iff.rfl

theorem owns_op {i t : Nat} {op : Op} (hop : s.ops[i]? = some op) (ht : op.taken = some t) :
    s.Owns t (.op i) :=
  ⟨op, hop, ht⟩

theorem owns_congr (h : ∀ w, s'.holding w = s.holding w) (t : Nat) (w : Owner) :
    s'.Owns t w ↔ s.Owns t w := by
  rw [owns_iff, owns_iff, h]

section One

variable {t : Nat} {w : Owner} (hother : ∀ v ≠ w, s'.holding v = s.holding v)
include hother

theorem owns_of_take (hold : s.holding w = none) (hnew : s'.holding w = some t) (j : Nat)
    (v : Owner) : s'.Owns j v ↔ s.Owns j v ∨ j = t ∧ v = w := by
  rw [owns_iff, owns_iff]
  by_cases hv : v = w
  · subst hv
    simp [hold, hnew, eq_comm]
  · simp [hother v hv, hv]

theorem owns_of_finished (h : Sound s) (hold : s.holding w = some t) (hnew : s'.holding w = none)
    (j : Nat) (v : Owner) : s'.Owns j v ↔ s.Owns j v ∧ j ≠ t := by
  by_cases hv : v = w
  · subst hv
    simp [owns_iff, hold, hnew, eq_comm]
  · rw [owns_iff, hother v hv, ← owns_iff]
    refine ⟨fun hj => ⟨hj, ?_⟩, And.left⟩
    rintro rfl
    exact hv (h.custody.unique hj (owns_iff.mpr hold))

end One

theorem drainOf_setDrain_self {side : Side} {d d' : Drain} {o : Outcome}
    (h : s.drainOf side = some d) : (s.setDrain side d' o).drainOf side = some d' := by
  cases side with
  | sleep =>
    cases hs : s.sleeper with
    | draining e failed =>
      cases e <;> simp [State.drainOf, State.setDrain, hs, Sleeper.drainTo]
    | idle => simp [State.drainOf, hs] at h
    | prepared now => simp [State.drainOf, hs] at h
  | close => simp [State.drainOf, State.setDrain]

theorem drainOf_setDrain_ne {side other : Side} {d' : Drain} {o : Outcome} (h : other ≠ side) :
    (s.setDrain side d' o).drainOf other = s.drainOf other := by
  cases side <;> cases other <;> simp [State.drainOf, State.setDrain] at h ⊢

def Drain.rolling : Drain → Option Nat
  | .rollingBack t _ => some t
  | _ => none

theorem rolling_of_drainOf {side : Side} {d : Drain} (h : s.drainOf side = some d) :
    s.rolling side = d.rolling := by
  rw [State.rolling, h]
  cases d <;> rfl

theorem drainOf_congr (hsleep : s'.sleeper = s.sleeper) (hclose : s'.closer = s.closer)
    (side : Side) : s'.drainOf side = s.drainOf side := by
  cases side <;> simp [State.drainOf, hsleep, hclose]

/-! ### A step of a call -/

section Set

variable {i : Nat} {o : Outcome} {op op' : Op}

theorem holding_op (hop : s.ops[i]? = some op) : s.holding (.op i) = op.taken := by
  rw [State.holding, hop]
  rfl

theorem holding_set (hop : s.ops[i]? = some op) (hops : s'.ops = s.ops.set i op') {x : Option Nat}
    (htaken' : op'.taken = x) : s'.holding (.op i) = x := by
  obtain ⟨hlt, -⟩ := List.getElem?_eq_some_iff.mp hop
  exact (holding_op (by rw [hops, List.getElem?_set_self hlt])).trans htaken'

theorem holding_set_ne (hops : s'.ops = s.ops.set i op')
    (hrolling : ∀ side, s'.rolling side = s.rolling side) :
    ∀ w ≠ .op i, s'.holding w = s.holding w := by
  intro w hw
  cases w with
  | op j =>
    have hne : i ≠ j := fun he => hw (he ▸ rfl)
    rw [State.holding, hops, List.getElem?_set_ne hne, State.holding]
  | drain side => exact hrolling side

/-- The call at `i` neither had nor gets a transaction to finish. -/
theorem owns_set_of_not_taken (hop : s.ops[i]? = some op) (htaken : op.taken = none)
    (htaken' : op'.taken = none) (hops : s'.ops = s.ops.set i op')
    (hrolling : ∀ side, s'.rolling side = s.rolling side) :
    ∀ t w, s'.Owns t w ↔ s.Owns t w := by
  refine owns_congr fun w => ?_
  by_cases hw : w = .op i
  · rw [hw, holding_set hop hops htaken', holding_op hop, htaken]
  · exact holding_set_ne hops hrolling w hw

theorem pending_set (hop : s.ops[i]? = some op)
    (hsub : ∀ t, op'.pending = some t → op.pending = some t) {j t : Nat} {x : Op}
    (hx : (s.ops.set i op')[j]? = some x) (ht : x.pending = some t) :
    ∃ y, s.ops[j]? = some y ∧ y.pending = some t := by
  rcases getElem?_set_cases hx with ⟨rfl, rfl⟩ | ⟨-, hx⟩
  · exact ⟨op, hop, hsub t ht⟩
  · exact ⟨x, hx, ht⟩

theorem countP_set (hop : s.ops[i]? = some op) (op' : Op) :
    (s.ops.set i op').countP Op.isActive + (if op.isActive then 1 else 0) =
      s.ops.countP Op.isActive + if op'.isActive then 1 else 0 := by
  obtain ⟨hlt, rfl⟩ := List.getElem?_eq_some_iff.mp hop
  have hpos : (if s.ops[i].isActive then 1 else 0) ≤ s.ops.countP Op.isActive := by
    split_ifs with hactive
    · exact List.countP_pos_iff.mpr ⟨s.ops[i], List.getElem_mem hlt, hactive⟩
    · exact Nat.zero_le _
  rw [List.countP_set hlt]
  omega

/-- What is left to show after a step of the call at `i`. -/
theorem Sound.of_set (h : Sound s) (hop : s.ops[i]? = some op) (hops : s'.ops = s.ops.set i op')
    (hsleep : s'.sleeper = s.sleeper) (hclose : s'.closer = s.closer)
    (hentered : ∀ t, op' ≠ .finish t false) (hhanded : s.handed ⊆ s'.handed)
    (hactive : s'.active + (if op.isActive then 1 else 0) =
      s.active + if op'.isActive then 1 else 0)
    (hcustody : Custody.Sound s'.transactions s'.terminal s'.handed s'.Owns)
    (hpending : Pending s') : Sound s' where
  count := by
    have hset := countP_set hop op'
    have hcount := h.count
    rw [hops]
    omega
  custody := hcustody
  pending := hpending
  handed_of_finish {j t} hj := by
    rw [hops] at hj
    rcases getElem?_set_cases hj with ⟨-, he⟩ | ⟨-, hj⟩
    · exact absurd he.symm (hentered t)
    · exact hhanded (h.handed_of_finish hj)
  handed_of_todo hd t ht := by
    rw [drainOf_congr hsleep hclose] at hd
    exact hhanded (h.handed_of_todo hd t ht)

theorem sound_of_opMove (h : Sound s) (hop : s.ops[i]? = some op) (hm : OpMove s o op u op') :
    Sound { u with ops := s.ops.set i op' } := by
  cases hm with
  | quiet beginning hq =>
    refine h.of_set hop rfl rfl rfl hq.entered (List.Subset.refl _) ?_ ?_ ?_
    · simp [Op.isActive, hq.active, hq.active']
    · exact h.custody.congr (owns_set_of_not_taken hop hq.taken hq.taken' rfl fun _ => rfl)
    · exact h.pending.of_sub rfl rfl (pending_set hop fun t ht => hq.pending ▸ ht)
  | failed hne | opened | undone =>
    refine h.of_set hop rfl rfl rfl (by simp) (List.Subset.refl _) rfl ?_ ?_
    · exact h.custody.congr (owns_set_of_not_taken hop rfl rfl rfl fun _ => rfl)
    · exact h.pending.of_sub rfl rfl (pending_set hop (by simp [Op.pending]))
  | start hfree hnone =>
    refine h.of_set hop rfl rfl rfl (by simp) (List.Subset.refl _) rfl ?_ ?_
    · exact h.custody.congr (owns_set_of_not_taken hop rfl rfl rfl fun _ => rfl)
    · exact h.pending.start hop rfl rfl rfl
  | register hfenced =>
    refine h.of_set hop rfl rfl rfl (by simp) (List.subset_cons_self _ _) rfl ?_ ?_
    · exact h.custody.register (h.pending.fresh hop rfl)
        (owns_set_of_not_taken hop rfl rfl rfl fun _ => rfl)
    · exact h.pending.register hop rfl rfl rfl
  | take hterminal =>
    refine h.of_set hop rfl rfl rfl (by simp) (List.Subset.refl _) rfl ?_ ?_
    · exact h.custody.mark (h.handed_of_finish hop) hterminal
        (owns_of_take (holding_set_ne rfl fun _ => rfl) (holding_op hop)
          (holding_set hop rfl rfl))
    · exact h.pending.of_sub rfl rfl (pending_set hop (by simp [Op.pending]))
  | finished =>
    refine h.of_set hop rfl rfl rfl (by simp) (List.Subset.refl _) rfl ?_ ?_
    · exact h.custody.release (owns_op hop rfl)
        (owns_of_finished (holding_set_ne rfl fun _ => rfl) h (holding_op hop)
          (holding_set hop rfl rfl))
    · exact h.pending.of_sub rfl rfl (pending_set hop (by simp [Op.pending]))
  | leave =>
    refine h.of_set hop rfl rfl rfl (by simp) (List.Subset.refl _) ?_ ?_ ?_
    · have hpos : 0 < s.active := by
        rw [h.count]
        exact List.countP_pos_iff.mpr ⟨_, List.mem_of_getElem? hop, rfl⟩
      exact Nat.sub_add_cancel hpos
    · exact h.custody.congr (owns_set_of_not_taken hop rfl rfl rfl fun _ => rfl)
    · exact h.pending.of_sub rfl rfl (pending_set hop (by simp [Op.pending]))

end Set

/-! ### A step of a drain -/

section Drain

variable {side : Side} {o : Outcome} {d d' : Drain}

theorem todo_of_drainMove (hm : DrainMove s o d u d') : d'.todo ⊆ d.todo := by
  cases hm with
  | skip => exact List.subset_cons_self _ _
  | take => exact List.subset_cons_self _ _
  | finished => exact List.Subset.refl _
  | done => exact List.Subset.refl _

/-- What is left to show after a step of a drain. -/
theorem Sound.of_setDrain (h : Sound s) (hd : s.drainOf side = some d)
    (hm : DrainMove s o d u d') (hsleep : u.sleeper = s.sleeper) (hclose : u.closer = s.closer)
    (hops : u.ops = s.ops) (hactive : u.active = s.active) (hhanded : u.handed = s.handed)
    (hsequence : u.sequence = s.sequence)
    (hcustody : Custody.Sound u.transactions u.terminal u.handed (u.setDrain side d' o).Owns) :
    Sound (u.setDrain side d' o) where
  count := by
    have hcount := h.count
    rw [← hactive, ← hops] at hcount
    exact hcount
  custody := hcustody
  pending := h.pending.of_sub hhanded hsequence fun {j x t} hx ht => ⟨x, hops ▸ hx, ht⟩
  handed_of_finish {j t} hj := by
    have hmem := h.handed_of_finish (hops ▸ hj : s.ops[j]? = _)
    rwa [← hhanded] at hmem
  handed_of_todo {other e} he t ht := by
    have hmem : t ∈ s.handed := by
      by_cases hside : other = side
      · subst hside
        rw [drainOf_setDrain_self ((drainOf_congr hsleep hclose _).trans hd)] at he
        obtain rfl := Option.some.inj he
        exact h.handed_of_todo hd t (todo_of_drainMove hm ht)
      · rw [drainOf_setDrain_ne hside, drainOf_congr hsleep hclose] at he
        exact h.handed_of_todo he t ht
    rwa [← hhanded] at hmem

theorem sound_of_drainMove (h : Sound s) (hd : s.drainOf side = some d)
    (hm : DrainMove s o d u d') : Sound (u.setDrain side d' o) := by
  have hself : s.holding (.drain side) = d.rolling := rolling_of_drainOf hd
  have hself' (v : State) (hsleep : v.sleeper = s.sleeper) (hclose : v.closer = s.closer) :
      (v.setDrain side d' o).holding (.drain side) = d'.rolling :=
    rolling_of_drainOf (drainOf_setDrain_self ((drainOf_congr hsleep hclose _).trans hd))
  have hother (v : State) (hsleep : v.sleeper = s.sleeper) (hclose : v.closer = s.closer)
      (hops : v.ops = s.ops) :
      ∀ w ≠ .drain side, (v.setDrain side d' o).holding w = s.holding w := by
    intro w hw
    cases w with
    | op i => exact congrArg (fun ops : List Op => ops[i]?.bind Op.taken) hops
    | drain other =>
      have hne : other ≠ side := fun he => hw (he ▸ rfl)
      rw [State.holding, State.rolling, drainOf_setDrain_ne hne, drainOf_congr hsleep hclose]
      rfl
  have hsame (he : d'.rolling = d.rolling) (w : Owner) :
      (s.setDrain side d' o).holding w = s.holding w := by
    by_cases hw : w = .drain side
    · rw [hw, hself' s rfl rfl, he, hself]
    · exact hother s rfl rfl rfl w hw
  have hm' := hm
  cases hm with
  | skip hterminal | done hidle =>
    exact h.of_setDrain hd hm' rfl rfl rfl rfl rfl rfl (h.custody.congr (owns_congr (hsame rfl)))
  | take hterminal =>
    refine h.of_setDrain hd hm' rfl rfl rfl rfl rfl rfl ?_
    exact h.custody.mark (h.handed_of_todo hd _ List.mem_cons_self) hterminal
      (owns_of_take (hother _ rfl rfl rfl) hself (hself' _ rfl rfl))
  | finished =>
    refine h.of_setDrain hd hm' rfl rfl rfl rfl rfl rfl ?_
    exact h.custody.release (owns_iff.mpr hself)
      (owns_of_finished (hother _ rfl rfl rfl) h hself (hself' _ rfl rfl))

end Drain

/-! ### A step of the handle -/

/-- A step that leaves the register and the calls alone. Where a drain begins or ends,
it is not rolling back. -/
theorem Sound.frame (h : Sound s) (hops : s'.ops = s.ops) (hactive : s'.active = s.active)
    (htransactions : s'.transactions = s.transactions) (hterminal : s'.terminal = s.terminal)
    (hhanded : s'.handed = s.handed) (hsequence : s'.sequence = s.sequence)
    (hdrain : ∀ side, s'.drainOf side = s.drainOf side ∨
      s.rolling side = none ∧ s'.rolling side = none ∧
        ∀ d, s'.drainOf side = some d → d.todo ⊆ s.handed) : Sound s' where
  count := by rw [hactive, hops, h.count]
  custody := by
    rw [htransactions, hterminal, hhanded]
    refine h.custody.congr (owns_congr fun w => ?_)
    cases w with
    | op i => rw [State.holding, hops, State.holding]
    | drain side =>
      rcases hdrain side with he | ⟨hnone, hnone', -⟩
      · rw [State.holding, State.rolling, he, State.holding, State.rolling]
      · exact hnone'.trans hnone.symm
  pending := h.pending.of_sub hhanded hsequence fun {j x t} hx ht => ⟨x, hops ▸ hx, ht⟩
  handed_of_finish hj := by
    rw [hhanded]
    exact h.handed_of_finish (hops ▸ hj)
  handed_of_todo {side d} hd t ht := by
    rw [hhanded]
    rcases hdrain side with he | ⟨-, -, htodo⟩
    · exact h.handed_of_todo (he ▸ hd) t ht
    · exact htodo d hd ht

/-- A step of `Sleep` that is not one of its drain. -/
theorem Sound.frame_sleeper (h : Sound s) (hops : s'.ops = s.ops) (hactive : s'.active = s.active)
    (htransactions : s'.transactions = s.transactions) (hterminal : s'.terminal = s.terminal)
    (hhanded : s'.handed = s.handed) (hsequence : s'.sequence = s.sequence)
    (hclose : s'.closer = s.closer) (hrolling : s.rolling .sleep = none)
    (hrolling' : s'.rolling .sleep = none)
    (htodo : ∀ d, s'.drainOf .sleep = some d → d.todo ⊆ s.handed) : Sound s' := by
  refine h.frame hops hactive htransactions hterminal hhanded hsequence fun side => ?_
  cases side with
  | sleep => exact .inr ⟨hrolling, hrolling', htodo⟩
  | close => exact .inl (by simp [State.drainOf, hclose])

theorem rolling_sleep_of_idle (h : s.sleeper = .idle) : s.rolling .sleep = none := by
  simp [State.rolling, State.drainOf, h]

theorem rolling_sleep_of_prepared {now : Bool} (h : s.sleeper = .prepared now) :
    s.rolling .sleep = none := by
  simp [State.rolling, State.drainOf, h]

theorem rolling_sleep_of_drained {failed : Bool} (h : s.sleeper = .draining .drained failed) :
    s.rolling .sleep = none := by
  simp [State.rolling, State.drainOf, h]

theorem getElem?_append_cases {l : List Op} {x y : Op} {j : Nat}
    (h : (l ++ [x])[j]? = some y) : l[j]? = some y ∨ y = x := by
  rw [List.getElem?_append] at h
  split at h
  · exact .inl h
  · have hmem := List.mem_of_getElem? h
    exact .inr (List.mem_singleton.mp hmem)

theorem getElem?_append_of_some {l : List Op} {x y : Op} {j : Nat} (h : l[j]? = some y) :
    (l ++ [x])[j]? = some y := by
  obtain ⟨hlt, -⟩ := List.getElem?_eq_some_iff.mp h
  rwa [List.getElem?_append_left hlt]

theorem sound_call {c : Call} (h : Sound s) (hfresh : c.op.Fresh s.handed) :
    Sound { s with active := s.active + 1, ops := s.ops ++ [c.op] } where
  count := by
    have hactive : c.op.isActive = true := by simpa [Op.isActive] using hfresh.active
    simp [List.countP_append, hactive, h.count]
  custody := by
    refine h.custody.congr fun t w => ?_
    cases w with
    | op j =>
      constructor
      · rintro ⟨x, hx, ht⟩
        rcases getElem?_append_cases hx with hx | rfl
        · exact owns_op hx ht
        · exact absurd (hfresh.taken.symm.trans ht) (by simp)
      · rintro ⟨x, hx, ht⟩
        exact ⟨x, getElem?_append_of_some hx, ht⟩
    | drain side => exact Iff.rfl
  pending := h.pending.of_sub rfl rfl fun {j x t} hx ht => by
    rcases getElem?_append_cases hx with hx | rfl
    · exact ⟨x, hx, ht⟩
    · exact absurd (hfresh.pending.symm.trans ht) (by simp)
  handed_of_finish {j t} hj := by
    rcases getElem?_append_cases hj with hj | hj
    · exact h.handed_of_finish hj
    · exact hfresh.handed t hj.symm
  handed_of_todo := h.handed_of_todo

theorem sound_of_move (h : Sound s) (hm : Move s a s') : Sound s' := by
  have hregistered : s.transactions ⊆ s.handed := fun t ht => h.custody.known_of_registered ht
  cases hm with
  | refused => exact h
  | call _ hfresh => exact sound_call h hfresh
  | advance hop hm => exact sound_of_opMove h hop hm
  | drain hd hm => exact sound_of_drainMove h hd hm
  | sleepAgain hidle _ _ =>
    exact h.frame_sleeper rfl rfl rfl rfl rfl rfl rfl (rolling_sleep_of_idle hidle)
      (rolling_sleep_of_prepared rfl) (by simp [State.drainOf])
  | sleep hidle _ =>
    refine h.frame_sleeper rfl rfl rfl rfl rfl rfl rfl (rolling_sleep_of_idle hidle) rfl ?_
    intro d hd
    obtain rfl := Option.some.inj hd
    exact hregistered
  | close hidle =>
    refine h.frame rfl rfl rfl rfl rfl rfl fun side => ?_
    cases side with
    | sleep => exact .inl rfl
    | close =>
      refine .inr ⟨by simp [State.rolling, State.drainOf, hidle], rfl, fun d hd => ?_⟩
      obtain rfl := Option.some.inj hd
      exact hregistered
  | lift hs =>
    have hrolling : s.rolling .sleep = none := by
      rcases hs with ⟨hs, -⟩ | ⟨hs, -⟩
      · exact rolling_sleep_of_drained hs
      · exact rolling_sleep_of_prepared hs
    exact h.frame_sleeper rfl rfl rfl rfl rfl rfl rfl hrolling (rolling_sleep_of_idle rfl)
      (by simp [State.drainOf])
  | prepared hs =>
    exact h.frame_sleeper rfl rfl rfl rfl rfl rfl rfl (rolling_sleep_of_drained hs)
      (rolling_sleep_of_prepared rfl) (by simp [State.drainOf])
  | accepted hs | rejected hs =>
    exact h.frame_sleeper rfl rfl rfl rfl rfl rfl rfl (rolling_sleep_of_prepared hs)
      (rolling_sleep_of_idle rfl) (by simp [State.drainOf])
  | closed hs =>
    refine h.frame rfl rfl rfl rfl rfl rfl fun side => ?_
    cases side with
    | sleep => exact .inl rfl
    | close =>
      refine .inr ⟨?_, rfl, by simp [State.drainOf]⟩
      rcases hs with hs | hs <;> simp [State.rolling, State.drainOf, hs]
  | intent | dispatched | destroyed =>
    exact h.frame rfl rfl rfl rfl rfl rfl fun side => .inl (drainOf_congr rfl rfl side)

theorem sound_step : Run.Keeps step Run.anyAction Sound :=
  fun _ _ _ h _ hs => sound_of_move h (move_of_step hs)

theorem sound_of_reaches (h : Reaches s) : Sound s := h.invariant sound_initial sound_step

/-- While no call is active no call owns a transaction. -/
theorem Sound.not_owns_op (h : Sound s) (hactive : s.active = 0) (t i : Nat) :
    ¬ s.Owns t (.op i) := by
  rintro ⟨op, hop, ht⟩
  have hcount := h.count
  rw [hactive, eq_comm, List.countP_eq_zero] at hcount
  have hreturned : op = .returned := by
    simpa [Op.isActive] using hcount op (List.mem_of_getElem? hop)
  rw [hreturned] at ht
  cases ht

end RivetGo.Database

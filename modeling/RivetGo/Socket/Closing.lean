import Mathlib.Data.Prod.Lex
import RivetGo.Data.Fair
import RivetGo.Socket.Replies

/-!
# After the client was closed

Nobody has to wait for room in a channel, so that `Close` goes on to its end
whatever the calls do. When it has ended, every call can go on as well, and each
of its steps brings it nearer to its own end.
-/

namespace RivetGo.Socket

open Correlation (waiters)
open Run (Enabled Path Progress)

variable {mayWrite : Nat → Bool} {s s' : State} {a : Action} {k : Nat}

abbrev Reaches (mayWrite : Nat → Bool) (s : State) : Prop :=
  Run.Reachable (step mayWrite) Run.anyAction initial s

theorem Reaches.rights (h : Reaches mayWrite s) : Rights s :=
  h.invariant rights_initial fun _ _ _ hs _ hstep => hs.move (move_of_step hstep)

/-- Who has a right to a reply has room for it. -/
theorem Rights.room (h : Rights s) {who : Nat} (hwho : who ∈ s.rights) :
    (s.channel who).length < channelCapacity := by
  rw [h.empty who hwho]
  exact Nat.one_pos

/-- The read loop does not wait for a waiter. -/
theorem Rights.deliver (h : Rights s) {who : Nat} {reply : Reply}
    (hr : s.reader = .sending who reply) : ∃ s', step mayWrite s .deliver = some s' := by
  have hwho : who ∈ s.rights := by simp [State.rights, hr, Reader.targets]
  simp only [step, hr, if_pos (h.room hwho)]
  exact ⟨_, rfl⟩

/-- Nor does whoever closes the client, which may be the read loop. -/
theorem Rights.tell (h : Rights s) (mayWrite : Nat → Bool) {rest : List Nat}
    (hc : s.closer = .failing rest) {i : Nat} (hi : i < rest.length) :
    ∃ s', step mayWrite s (.tell i) = some s' := by
  have hwho : rest[i] ∈ s.rights := by simp [State.rights, hc, Closer.targets]
  simp only [step, hc, List.getElem?_eq_getElem hi, Option.bind_some, if_pos (h.room hwho)]
  exact ⟨_, rfl⟩

/-! ### The steps of `Close` -/

/-- How much of `Close` is left. The number of calls to be told is known when the
table has been emptied. -/
def Closer.rank : Closer → Nat ×ₗ Nat
  | .open => toLex (4, 0)
  | .disconnected => toLex (3, 0)
  | .signalled => toLex (2, 0)
  | .failing rest => toLex (1, rest.length)
  | .finished => toLex (0, 0)

/-- The client was closed and stays so. -/
theorem closer_ne_open (hmove : Move mayWrite s a s') (h : s.closer ≠ .open) :
    s'.closer ≠ .open := by
  cases hmove with
  | close hcloses =>
    generalize s.closer = c at hcloses
    cases hcloses <;> nofun
  | empty hc => nofun
  | tell i hc hwho => nofun
  | _ => exact h

/-- Nobody else has a hand in closing. -/
theorem closer_eq (hmove : Move mayWrite s a s') (h : s.closer ≠ .open)
    (ha : a.closes = false) : s'.closer = s.closer := by
  cases hmove with
  | close hcloses =>
    generalize hc : s.closer = c at hcloses
    cases hcloses with
    | disconnect => exact absurd hc h
    | signal => cases ha
    | finish => cases ha
  | empty hc => cases ha
  | tell i hc hwho => cases ha
  | _ => rfl

theorem closer_rank_lt (hmove : Move mayWrite s a s') (ha : a.closes = true) :
    s'.closer.rank < s.closer.rank := by
  cases hmove with
  | close hcloses =>
    generalize s.closer = c at hcloses
    cases hcloses with
    | disconnect => cases ha
    | signal => exact Prod.Lex.toLex_lt_toLex.mpr (.inl (by decide))
    | finish => exact Prod.Lex.toLex_lt_toLex.mpr (.inl (by decide))
  | empty hc =>
    rw [hc]
    exact Prod.Lex.toLex_lt_toLex.mpr (.inl Nat.one_lt_two)
  | tell i hc hwho =>
    obtain ⟨hi, -⟩ := List.getElem?_eq_some_iff.mp hwho
    rw [hc]
    refine Prod.Lex.toLex_lt_toLex.mpr (.inr ⟨rfl, ?_⟩)
    rw [List.length_eraseIdx_of_lt hi]
    exact Nat.sub_lt (Nat.zero_lt_of_lt hi) Nat.one_pos
  | «local» k writer hlocal hcall => cases a <;> cases ha <;> cases hcall
  | withdraw k hwithdraws hcall => cases a <;> cases ha <;> cases hcall
  | _ => cases ha

theorem closer_finished (hmove : Move mayWrite s a s') (h : s.closer = .finished) :
    s'.closer = .finished := by
  cases hmove with
  | close hcloses =>
    rw [h] at hcloses
    cases hcloses
  | empty hc => exact absurd (h.symm.trans hc) nofun
  | tell i hc hwho => exact absurd (h.symm.trans hc) nofun
  | _ => exact h

/-- `Close` never gets stuck. -/
theorem Rights.closes (h : Rights s) (hclosed : s.closer ≠ .open) (hgoal : s.closer ≠ .finished) :
    Enabled (step mayWrite) (·.closes = true) s := by
  cases hc : s.closer with
  | «open» => exact absurd hc hclosed
  | finished => exact absurd hc hgoal
  | disconnected => exact ⟨.signal, _, rfl, by rw [step, if_pos hc]⟩
  | signalled => exact ⟨.empty, _, rfl, by rw [step, if_pos hc]⟩
  | failing rest =>
    cases rest with
    | nil => exact ⟨.finish, _, rfl, by rw [step, if_pos hc]⟩
    | cons who rest =>
      obtain ⟨s', hs'⟩ := h.tell mayWrite hc (Nat.succ_pos rest.length)
      exact ⟨.tell 0, s', rfl, hs'⟩

/-- The closed client, in a run. -/
def Closed (mayWrite : Nat → Bool) (s : State) : Prop := Reaches mayWrite s ∧ s.closer ≠ .open

/-- `Close` gets to its end. -/
theorem close_progress (mayWrite : Nat → Bool) :
    Progress (step mayWrite) (·.closes = true) (Closed mayWrite) (·.closer = .finished)
      (·.closer.rank) where
  keeps := by
    rintro s a s' ⟨hreaches, hclosed⟩ - hs
    exact ⟨hreaches.next a trivial hs, closer_ne_open (move_of_step hs) hclosed⟩
  enabled s hs hgoal := hs.1.rights.closes hs.2 hgoal
  lowers s a s' _ ha hs := closer_rank_lt (move_of_step hs) ha
  le s a s' hclosed hs := by
    cases ha : a.closes with
    | true => exact (closer_rank_lt (move_of_step hs) ha).le
    | false => rw [closer_eq (move_of_step hs) hclosed.2 ha]

/-! ### The steps of a call -/

/-- How many steps of its own a call has at most before it. -/
def Phase.rank : Phase → Nat
  | .idle => 5
  | .registered _ => 4
  | .writing _ => 3
  | .failing _ _ _ => 2
  | .closing _ => 1
  | .waiting _ cancelled => if cancelled then 1 else 2
  | .done _ => 0

theorem Local.rank_lt {p q : Phase} (h : Local mayWrite s k p q) : q.rank < p.rank := by
  cases h with
  | seeClosed id cancelled => cases cancelled <;> simp [Phase.rank]
  | _ => simp [Phase.rank]

theorem Withdraws.rank_lt {id : UInt32} {p q : Phase} (h : Withdraws id p q) :
    q.rank < p.rank := by
  cases h <;> simp [Phase.rank]

/-- Every step of a call brings it nearer to its end. -/
theorem phase_rank_lt (hmove : Move mayWrite s a s') (ha : a.call = some k) :
    (s'.phase k).rank < (s.phase k).rank := by
  cases hmove with
  | «local» k' writer hlocal hcall =>
    obtain rfl : k' = k := Option.some.inj (hcall.symm.trans ha)
    rw [setPhase_phase_self]
    exact hlocal.rank_lt
  | withdraw k' hwithdraws hcall =>
    obtain rfl : k' = k := Option.some.inj (hcall.symm.trans ha)
    rw [setPhase_phase_self]
    exact hwithdraws.rank_lt
  | register k' hidle _ | write k' hidle _ | abandon k' hidle _ =>
    obtain rfl : k' = k := Option.some.inj ha
    simp [setPhase_phase_self, hidle, Phase.rank]
  | @receive k' id cancelled r rest hk _ =>
    obtain rfl : k' = k := Option.some.inj ha
    cases cancelled <;> simp [setPhase_phase_self, hk, Phase.rank]
  | close hcloses =>
    generalize s.closer = c at hcloses
    cases hcloses <;> cases ha
  | _ => cases ha

/-- A step of another call, or of no call, does not concern it. -/
theorem phase_eq (hmove : Move mayWrite s a s') (ha : a.call ≠ some k) :
    s'.phase k = s.phase k := by
  cases hmove with
  | «local» k' writer hlocal hcall =>
    exact setPhase_phase_of_ne _ _ fun heq => ha (heq ▸ hcall)
  | withdraw k' hwithdraws hcall =>
    exact setPhase_phase_of_ne _ _ fun heq => ha (heq ▸ hcall)
  | register k' | write k' | abandon k' | receive k' =>
    exact setPhase_phase_of_ne _ _ fun heq => ha (heq ▸ rfl)
  | _ => rfl

/-- Nothing makes a call begin again, or come farther from its end. -/
theorem phase_rank_le (hmove : Move mayWrite s a s') : (s'.phase k).rank ≤ (s.phase k).rank := by
  by_cases ha : a.call = some k
  · exact (phase_rank_lt hmove ha).le
  · rw [phase_eq hmove ha]

theorem Phase.ne_idle_iff {p : Phase} : p ≠ .idle ↔ p.rank < Phase.idle.rank := by
  cases p with
  | waiting id cancelled => cases cancelled <;> simp [Phase.rank]
  | _ => simp [Phase.rank]

theorem begun_step : Run.Keeps (step mayWrite) Run.anyAction fun s => s.phase k ≠ .idle := by
  intro s a s' hbegun _ hs
  rw [Phase.ne_idle_iff] at hbegun ⊢
  exact (phase_rank_le (move_of_step hs)).trans_lt hbegun

/-- A call that has begun can go on when the client has been closed. -/
theorem call_enabled (hfinished : s.closer = .finished) (hbegun : s.phase k ≠ .idle)
    (hgoal : ¬ ∃ outcome, s.phase k = .done outcome) :
    Enabled (step mayWrite) (·.call = some k) s := by
  have hsignalled : s.closer.hasSignalled = true := by rw [hfinished]; rfl
  cases hp : s.phase k with
  | idle => exact absurd hp hbegun
  | registered id => exact ⟨.seeClosedEarly k, by simp [step, hp, hsignalled, Action.call]⟩
  | writing id => exact ⟨.failWrite k, by simp [step, hp, Action.call]⟩
  | failing id started outcome => exact ⟨.remove k, by simp [step, hp, Action.call]⟩
  | closing outcome => exact ⟨.returnClosed k, by simp [step, hp, hfinished, Action.call]⟩
  | waiting id cancelled => exact ⟨.seeClosed k, by simp [step, hp, hsignalled, Action.call]⟩
  | done outcome => exact absurd ⟨outcome, hp⟩ hgoal

/-- `Close` has ended, and the call has begun. -/
def Released (k : Nat) (s : State) : Prop := s.closer = .finished ∧ s.phase k ≠ .idle

/-- The call gets to its end. -/
theorem call_progress (mayWrite : Nat → Bool) (k : Nat) :
    Progress (step mayWrite) (·.call = some k) (Released k) (∃ outcome, ·.phase k = .done outcome)
      (fun s => (s.phase k).rank) where
  keeps := by
    rintro s a s' ⟨hfinished, hbegun⟩ - hs
    exact ⟨closer_finished (move_of_step hs) hfinished, begun_step s a s' hbegun trivial hs⟩
  enabled s hs hgoal := call_enabled hs.1 hs.2 hgoal
  lowers s a s' _ ha hs := phase_rank_lt (move_of_step hs) ha
  le s a s' _ hs := phase_rank_le (move_of_step hs)

/-! ### Calls end -/

/-- The call can end by its own steps and those of `Close`. -/
def State.CanEnd (mayWrite : Nat → Bool) (s : State) (k : Nat) : Prop :=
  ∃ as s' outcome, (∀ a ∈ as, a.closes = true ∨ a.call = some k) ∧
    Run.run (step mayWrite) s as = some s' ∧ s'.phase k = .done outcome

/-- The call ends in every run without an end that is fair to `Close` and to the call. -/
def State.Ends (mayWrite : Nat → Bool) (s : State) (k : Nat) : Prop :=
  ∀ p : Path (step mayWrite), p.state 0 = s → p.Fair (·.closes = true) →
    p.Fair (·.call = some k) → ∃ i outcome, (p.state i).phase k = .done outcome

theorem Closed.canEnd (h : Closed mayWrite s) (hbegun : s.phase k ≠ .idle) :
    s.CanEnd mayWrite k := by
  obtain ⟨as, u, has, hu, -, hfinished⟩ := (close_progress mayWrite).exists_run h
  have hreleased : Released k u :=
    ⟨hfinished, (Run.reachable_of_run as hu).invariant hbegun begun_step⟩
  obtain ⟨bs, v, hbs, hv, -, outcome, hdone⟩ := (call_progress mayWrite k).exists_run hreleased
  refine ⟨as ++ bs, v, outcome, ?_, ?_, hdone⟩
  · rintro a ha
    exact (List.mem_append.mp ha).imp (has a) (hbs a)
  · rw [Run.run_append, hu]
    exact hv

theorem Closed.ends (h : Closed mayWrite s) (hbegun : s.phase k ≠ .idle) : s.Ends mayWrite k := by
  rintro p rfl hclose hcall
  obtain ⟨i, hi, hfinished⟩ := (close_progress mayWrite).reaches hclose h
  have hreleased : Released k (p.state i) := ⟨hfinished, p.always begun_step hi hbegun⟩
  obtain ⟨j, -, outcome, hdone⟩ := (call_progress mayWrite k).reaches hcall hreleased
  exact ⟨j, outcome, hdone⟩

end RivetGo.Socket

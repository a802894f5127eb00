import RivetGo.Socket.Closing

/-!
# Correlation of the client

The results about the table and the replies, for every run of a client. The IDs
of requests that may still be answered are not used again until the table is
emptied: closing the client forgets the tombstones with everything else, and a
closed client still gives out IDs. A call that gets such an ID returns an error.
-/

namespace RivetGo.Socket

open Correlation (Desk Sound)

section

variable {mayWrite : Nat → Bool} {s : State}

theorem Reaches.held (h : Reaches mayWrite s) : Held s :=
  h.invariant held_initial fun _ _ _ hs _ hstep => hs.move (move_of_step hstep)

theorem Reaches.own (h : Reaches mayWrite s) : Own s := by
  have hboth : Held s ∧ Own s := by
    refine h.invariant (P := fun s => Held s ∧ Own s) ⟨held_initial, own_initial⟩ ?_
    rintro s a s' ⟨hheld, hown⟩ - hstep
    exact ⟨hheld.move (move_of_step hstep), hown.move hheld (move_of_step hstep)⟩
  exact hboth.2

/-- The call uses the ID: its frame may still be written, or answered. -/
def State.Uses (s : State) (id : UInt32) (k : Nat) : Prop :=
  (s.phase k).unwritten = some id ∨ (id, k) ∈ s.frames

theorem Held.of_uses (h : Held s) {id : UInt32} {k : Nat} (huses : s.Uses id k) :
    (id, k) ∈ s.desk.held := by
  obtain hunwritten | hframe := huses
  · exact h.calls k id hunwritten
  · exact h.frames _ hframe

end

/-- In every state of every run: a call returns no response but its own, and until
the table is emptied no other one comes into its channel; IDs are not zero; until
the table is emptied no ID is used by two calls; neither the read loop nor whoever
closes the client is ever blocked by a waiter; and once the client is being closed
every call that has begun can end, and does so. -/
theorem client_correlates (mayWrite : Nat → Bool) (s : State) (h : Reaches mayWrite s) :
    (∀ k owner payload, s.phase k = .done (.answered owner payload) → owner = k) ∧
    (s.closer.hasEmptied = false →
      ∀ k owner payload, .response owner payload ∈ s.channel k → owner = k) ∧
    (∀ k id, (s.phase k).id? = some id → id ≠ 0) ∧
    (s.closer.hasEmptied = false → ∀ id j k, s.Uses id j → s.Uses id k → j = k) ∧
    (∀ who reply, s.reader = .sending who reply → ∃ s', step mayWrite s .deliver = some s') ∧
    (∀ rest, s.closer = .failing rest →
      ∀ i, i < rest.length → ∃ s', step mayWrite s (.tell i) = some s') ∧
    (s.closer ≠ .open → ∀ k, s.phase k ≠ .idle → s.CanEnd mayWrite k ∧ s.Ends mayWrite k) := by
  refine ⟨?_, ?_, h.held.nonzero, ?_, ?_, ?_, ?_⟩
  · intro k owner payload hk
    exact h.own.outcome k owner payload (by rw [hk]; rfl)
  · intro hopen k owner payload hmem
    exact h.own.channel k owner payload (.inl hopen) hmem
  · intro hopen id j k hj hk
    exact (h.held.sound hopen).held_inj (h.held.of_uses hj) (h.held.of_uses hk)
  · intro who reply hr
    exact h.rights.deliver hr
  · intro rest hc i hi
    exact h.rights.tell mayWrite hc hi
  · intro hclosed k hbegun
    have hs : Closed mayWrite s := ⟨h, hclosed⟩
    exact ⟨hs.canEnd hbegun, hs.ends hbegun⟩

/-- Call 0 got its response, and call 1 waits when the client is closed. -/
theorem answered_call_correlates :
    ∃ s, Reaches (fun _ => true) s ∧ s.phase 0 = .done (.answered 0 .result) ∧
      s.closer = .failing [1] ∧ s.phase 1 = .waiting 2 false ∧
      (∀ k owner payload, s.phase k = .done (.answered owner payload) → owner = k) ∧
      (∃ s', step (fun _ => true) s (.tell 0) = some s') ∧
      s.CanEnd (fun _ => true) 1 ∧ s.Ends (fun _ => true) 1 := by
  have hs : Reaches (fun _ => true) _ := Run.reachable_of_run
    [.register 0, .acquire 0, .write 0, .answer 0 .result, .read, .lookup, .deliver, .receive 0,
      .register 1, .acquire 1, .write 1, .disconnect, .signal, .empty] rfl
  obtain ⟨hown, -, -, -, -, htell, hends⟩ := client_correlates (fun _ => true) _ hs
  exact ⟨_, hs, rfl, rfl, rfl, hown, htell [1] rfl 0 Nat.one_pos, hends nofun 1 nofun⟩

/-! ### A closed client -/

theorem step_register {mayWrite : Nat → Bool} {s : State} {k : Nat} {id : UInt32}
    {desk : Desk UInt32 Nat} (hidle : s.phase k = .idle) (hcancelled : s.cancelled k = false)
    (hregister : s.desk.register (· + 1) 0 (2 ^ 32) k = some (id, desk)) :
    step mayWrite s (.register k) =
      some ({ s with desk := desk }.setPhase k (.registered id)) := by
  simp only [step, hidle, hcancelled, hregister]
  rfl

theorem step_reject {mayWrite : Nat → Bool} {s : State} {k : Nat} {id : UInt32}
    (h : s.phase k = .registered id) :
    step mayWrite s (.reject k) =
      some ({ s with desk := s.desk.settle id k }.setPhase k (.done .failed)) := by
  simp [step, h]

/-- Call 0 was abandoned without an answer, the client was closed, and after that
`n` requests have been made. -/
structure ClosedAfter (n : Nat) (s : State) : Prop where
  counter : s.desk.counter = UInt32.ofNat (n + 1)
  entries : s.desk.entries = ∅
  received : s.received = [(1, 0)]
  idle : ∀ k, n < k → s.phase k = .idle ∧ s.cancelled k = false

theorem ofNat_succ_ne_zero {n : Nat} (h : n + 1 < 2 ^ 32) : UInt32.ofNat (n + 1) ≠ 0 := by
  intro hzero
  have hnat := congrArg UInt32.toNat hzero
  rw [UInt32.toNat_ofNat_of_lt' h] at hnat
  exact Nat.succ_ne_zero n hnat

theorem reaches_closed : ∃ s, Reaches (fun _ => false) s ∧ ClosedAfter 0 s := by
  refine ⟨_, Run.reachable_of_run [.register 0, .acquire 0, .write 0, .cancel 0, .notice 0,
    .disconnect, .signal, .empty, .finish] rfl, rfl, rfl, rfl, ?_⟩
  intro k hk
  have hne : k ≠ 0 := Nat.pos_iff_ne_zero.mp hk
  simp [State.setPhase, hne, initial]

/-- One more request takes the next ID and is rejected. -/
theorem ClosedAfter.next {n : Nat} {s : State} (h : ClosedAfter n s) (hn : n + 2 < 2 ^ 32)
    (hs : Reaches (fun _ => false) s) :
    ∃ s', Reaches (fun _ => false) s' ∧ ClosedAfter (n + 1) s' := by
  obtain ⟨hidle, hcancelled⟩ := h.idle (n + 1) (Nat.lt_succ_self n)
  have hnext : s.desk.counter + 1 = UInt32.ofNat (n + 1 + 1) := by
    rw [h.counter, UInt32.ofNat_add (n + 1)]
    rfl
  have hne : s.desk.counter + 1 ≠ 0 := by
    rw [hnext]
    exact ofNat_succ_ne_zero hn
  have hregister := s.desk.register_of_free (· + 1) 0 (by decide : 0 < 2 ^ 32) hne
    (by simp [h.entries]) (n + 1)
  refine ⟨_, (hs.next _ trivial (step_register hidle hcancelled hregister)).next _ trivial
    (step_reject (setPhase_phase_self _ _ _)), hnext, ?_, h.received, ?_⟩
  · show ((s.desk.entries.insert _ _).erase _) = ∅
    rw [h.entries]
    exact Correlation.erase_insert_empty _ _
  · intro k hk
    have hk' := h.idle k (by omega)
    rw [setPhase_phase_of_ne _ _ (by omega), setPhase_phase_of_ne _ _ (by omega)]
    exact hk'

/-- The IDs up to the last one are used up, one by one. -/
theorem reaches_closedAfter {n : Nat} (hn : n + 1 < 2 ^ 32) :
    ∃ s, Reaches (fun _ => false) s ∧ ClosedAfter n s := by
  induction n with
  | zero => exact reaches_closed
  | succ n ih =>
    obtain ⟨s, hs, hclosed⟩ := ih (by omega)
    exact hclosed.next hn hs

/-- The ID of call 0 is given to another call, although the server has not
answered the frame. -/
theorem id_reused_after_close :
    ¬ ∀ s, Reaches (fun _ => false) s → ∀ id j k, s.Uses id j → s.Uses id k → j = k := by
  intro hunique
  obtain ⟨s, hs, hclosed⟩ := reaches_closedAfter (n := 2 ^ 32 - 2) (by decide)
  obtain ⟨hidle, hcancelled⟩ := hclosed.idle (2 ^ 32 - 1) (by decide)
  have hzero : s.desk.counter + 1 = 0 := by
    rw [hclosed.counter]
    rfl
  have hregister := s.desk.register_of_zero (· + 1) 0 (by decide : 1 < 2 ^ 32) hzero (by decide)
    (by simp [hclosed.entries]) (2 ^ 32 - 1)
  have hreused := hs.next _ trivial (step_register hidle hcancelled hregister)
  have hsame := hunique _ hreused 1 0 (2 ^ 32 - 1)
    (.inr (by simp [State.frames, State.setPhase, hclosed.received]))
    (.inl (by rw [setPhase_phase_self]; rfl))
  cases hsame

end RivetGo.Socket

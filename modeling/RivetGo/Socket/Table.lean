import RivetGo.Socket.Steps

/-!
# Who is in the table of a client

`frames` are the complete frames that may still be answered. Each of them, and
each call that has not written its frame yet, is held at the desk, which is sound
until the client is closed and its table emptied. `rights` are those whom
somebody is about to send a reply, or will be if a response comes: each of them
once, and with an empty channel.
-/

namespace RivetGo.Socket

open Correlation (Desk Sound waiters)

/-- The response that the read loop has in hand. -/
def Reader.frames : Reader → List Frame
  | .holding frame _ => [frame]
  | _ => []

/-- The waiter to whom the read loop is about to send. -/
def Reader.targets : Reader → List Nat
  | .sending who _ => [who]
  | _ => []

/-- Those who still have to be told that the client is closed. -/
def Closer.targets : Closer → List Nat
  | .failing rest => rest
  | _ => []

/-- The complete frames whose responses the client has not looked up. -/
def State.frames (s : State) : List Frame :=
  s.received ++ s.responses.map Prod.fst ++ s.reader.frames

/-- Those who have a right to a reply. -/
def State.rights (s : State) : List Nat :=
  waiters s.desk.entries ++ s.reader.targets ++ s.closer.targets

/-- The ID of a call that is in the table and has not written a complete frame. -/
def Phase.unwritten : Phase → Option UInt32
  | .registered id => some id
  | .writing id => some id
  | .failing id _ _ => some id
  | _ => none

/-- The call wrote its frame. -/
def Phase.Written : Phase → Prop
  | .waiting _ _ => True
  | .done _ => True
  | _ => False

/-- The ID of a call. -/
def Phase.id? : Phase → Option UInt32
  | .waiting id _ => some id
  | p => p.unwritten

@[simp] theorem setPhase_phase_self (s : State) (k : Nat) (p : Phase) :
    (s.setPhase k p).phase k = p := by
  simp [State.setPhase]

theorem setPhase_phase_of_ne (s : State) {k k' : Nat} (p : Phase) (h : k' ≠ k) :
    (s.setPhase k p).phase k' = s.phase k' := by
  simp [State.setPhase, h]

theorem idle_of_setPhase {s : State} {k k' : Nat} {p : Phase} (hp : p ≠ .idle)
    (h : (s.setPhase k p).phase k' = .idle) : s.phase k' = .idle := by
  by_cases heq : k' = k
  · subst heq
    rw [setPhase_phase_self] at h
    exact absurd h hp
  · rwa [setPhase_phase_of_ne _ _ heq] at h

/-- What the desk holds, and the frames. -/
structure Held (s : State) : Prop where
  written : ∀ f ∈ s.frames, (s.phase f.2).Written
  once : (s.frames.map Prod.snd).Nodup
  frames : ∀ f ∈ s.frames, f ∈ s.desk.held
  calls : ∀ k id, (s.phase k).unwritten = some id → (id, k) ∈ s.desk.held
  sound : s.closer.hasEmptied = false → Sound s.desk
  single : (s.desk.held.map Prod.snd).Nodup
  begun : ∀ p ∈ s.desk.held, s.phase p.2 ≠ .idle
  nonzero : ∀ k id, (s.phase k).id? = some id → id ≠ 0

theorem held_initial : Held initial where
  written := nofun
  once := List.nodup_nil
  frames := nofun
  calls := nofun
  sound _ := Sound.empty 0
  single := List.nodup_nil
  begun := nofun
  nonzero := nofun

section

variable {mayWrite : Nat → Bool} {s s' : State} {a : Action}

theorem not_written {p : Phase} {id : UInt32} (h : p.unwritten = some id) : ¬ p.Written := by
  cases p <;> simp [Phase.Written, Phase.unwritten] at h ⊢

/-- A step of one call that leaves the desk and the frames alone. -/
theorem Held.setPhase (h : Held s) {k : Nat} {p : Phase} (hp : p ≠ .idle)
    (hwritten : (s.phase k).Written → p.Written)
    (hunwritten : ∀ id, p.unwritten = some id → (s.phase k).unwritten = some id)
    (hid : ∀ id, p.id? = some id → (s.phase k).id? = some id) : Held (s.setPhase k p) := by
  refine ⟨?_, h.once, h.frames, ?_, h.sound, h.single,
    fun q hq hidle => h.begun q hq (idle_of_setPhase hp hidle), ?_⟩
  · intro f hf
    by_cases heq : f.2 = k
    · rw [heq, setPhase_phase_self]
      exact hwritten (heq ▸ h.written f hf)
    · rw [setPhase_phase_of_ne _ _ heq]
      exact h.written f hf
  · intro k' id hk'
    by_cases heq : k' = k
    · subst heq
      rw [setPhase_phase_self] at hk'
      exact h.calls k' id (hunwritten id hk')
    · rw [setPhase_phase_of_ne _ _ heq] at hk'
      exact h.calls k' id hk'
  · intro k' id hk'
    by_cases heq : k' = k
    · subst heq
      rw [setPhase_phase_self] at hk'
      exact h.nonzero k' id (hid id hk')
    · rw [setPhase_phase_of_ne _ _ heq] at hk'
      exact h.nonzero k' id hk'

/-- A change that keeps the desk, the phases and the frames up to their order. -/
theorem Held.frame (h : Held s) (hdesk : s'.desk = s.desk) (hphase : s'.phase = s.phase)
    (hframes : s'.frames.Perm s.frames)
    (hcloser : s'.closer.hasEmptied = false → s.closer.hasEmptied = false) : Held s' where
  written f hf := by
    rw [hphase]
    exact h.written f (hframes.subset hf)
  once := (hframes.map _).nodup_iff.mpr h.once
  frames f hf := by
    rw [hdesk]
    exact h.frames f (hframes.subset hf)
  calls k id hk := by
    rw [hdesk]
    rw [hphase] at hk
    exact h.calls k id hk
  sound hopen := by
    rw [hdesk]
    exact h.sound (hcloser hopen)
  single := by
    rw [hdesk]
    exact h.single
  begun p hp := by
    rw [hphase]
    exact h.begun p (hdesk ▸ hp)
  nonzero k id hk := by
    rw [hphase] at hk
    exact h.nonzero k id hk

/-- The desk settles a call that has no frame. -/
theorem Held.withdraw (h : Held s) {k : Nat} {id : UInt32}
    (hk : (s.phase k).unwritten = some id) {p : Phase} (hidle : p ≠ .idle) (hp : p.id? = none) :
    Held ({ s with desk := s.desk.settle id k }.setPhase k p) := by
  have hheld := h.calls k id hk
  have hnot := not_written hk
  have hother : ∀ f ∈ s.frames, f.2 ≠ k := by
    rintro f hf rfl
    exact hnot (h.written f hf)
  refine ⟨?_, h.once, ?_, ?_, fun hopen => (h.sound hopen).settle hheld,
    h.single.sublist (List.erase_sublist.map _),
    fun q hq hq' => h.begun q (List.mem_of_mem_erase hq) (idle_of_setPhase hidle hq'), ?_⟩
  · intro f hf
    rw [setPhase_phase_of_ne _ _ (hother f hf)]
    exact h.written f hf
  · intro f hf
    refine (List.mem_erase_of_ne ?_).mpr (h.frames f hf)
    rintro rfl
    exact hother _ hf rfl
  · intro k' id' hk'
    by_cases heq : k' = k
    · subst heq
      rw [setPhase_phase_self] at hk'
      cases p <;> simp [Phase.id?, Phase.unwritten] at hp hk'
    · rw [setPhase_phase_of_ne _ _ heq] at hk'
      refine (List.mem_erase_of_ne ?_).mpr (h.calls k' id' hk')
      intro hpair
      exact heq (Prod.ext_iff.mp hpair).2
  · intro k' id' hk'
    by_cases heq : k' = k
    · subst heq
      rw [setPhase_phase_self, hp] at hk'
      cases hk'
    · rw [setPhase_phase_of_ne _ _ heq] at hk'
      exact h.nonzero k' id' hk'

/-- The desk settles the response in hand. -/
theorem Held.lookup (h : Held s) {id : UInt32} {owner : Nat} {payload : Payload} {r : Reader}
    (hr : s.reader = .holding (id, owner) payload) (hnone : r.frames = []) :
    Held { s with desk := s.desk.settle id owner, reader := r } := by
  have hframes : s.frames =
      ({ s with desk := s.desk.settle id owner, reader := r } : State).frames ++ [(id, owner)] := by
    simp only [State.frames, hr, hnone, List.append_nil]
    rfl
  have hmem : (id, owner) ∈ s.frames := by
    rw [hframes]
    simp
  have honce := h.once
  rw [hframes, List.map_append, List.nodup_append] at honce
  have hsub : ∀ f ∈ ({ s with desk := s.desk.settle id owner, reader := r } : State).frames,
      f ∈ s.frames := by
    intro f hf
    rw [hframes]
    exact List.mem_append_left _ hf
  refine ⟨fun f hf => h.written f (hsub f hf), honce.1, ?_, ?_, ?_,
    h.single.sublist (List.erase_sublist.map _),
    fun q hq => h.begun q (List.mem_of_mem_erase hq), h.nonzero⟩
  · intro f hf
    refine (List.mem_erase_of_ne ?_).mpr (h.frames f (hsub f hf))
    rintro rfl
    exact honce.2.2 owner (List.mem_map_of_mem hf) owner (by simp) rfl
  · intro k id' hk
    refine (List.mem_erase_of_ne ?_).mpr (h.calls k id' hk)
    intro hpair
    obtain ⟨-, rfl⟩ := Prod.ext_iff.mp hpair
    exact not_written hk (h.written _ hmem)
  · intro hopen
    exact (h.sound hopen).settle (h.frames _ hmem)

theorem Held.register (h : Held s) {k : Nat} {id : UInt32} {desk : Desk UInt32 Nat}
    (hk : s.phase k = .idle) (hregister : s.desk.register (· + 1) 0 (2 ^ 32) k = some (id, desk)) :
    Held ({ s with desk := desk }.setPhase k (.registered id)) := by
  obtain ⟨hne, -, rfl⟩ := Desk.register_eq_some hregister
  have hother : ∀ f ∈ s.frames, f.2 ≠ k := by
    rintro f hf rfl
    have hwritten := h.written f hf
    rw [hk] at hwritten
    exact hwritten
  refine ⟨?_, h.once, fun f hf => List.mem_cons_of_mem _ (h.frames f hf), ?_,
    fun hopen => (h.sound hopen).register hregister, ?_, ?_, ?_⟩
  · intro f hf
    rw [setPhase_phase_of_ne _ _ (hother f hf)]
    exact h.written f hf
  · intro k' id' hk'
    by_cases heq : k' = k
    · subst heq
      rw [setPhase_phase_self] at hk'
      obtain rfl := Option.some.inj hk'
      exact List.mem_cons_self
    · rw [setPhase_phase_of_ne _ _ heq] at hk'
      exact List.mem_cons_of_mem _ (h.calls k' id' hk')
  · refine List.nodup_cons.mpr ⟨?_, h.single⟩
    intro hmem
    obtain ⟨q, hq, rfl⟩ := List.mem_map.mp hmem
    exact h.begun q hq hk
  · intro q hq hidle
    obtain rfl | hq := List.mem_cons.mp hq
    · rw [setPhase_phase_self] at hidle
      cases hidle
    · exact h.begun q hq (idle_of_setPhase (by nofun) hidle)
  · intro k' id' hk'
    by_cases heq : k' = k
    · subst heq
      rw [setPhase_phase_self] at hk'
      obtain rfl := Option.some.inj hk'
      exact hne
    · rw [setPhase_phase_of_ne _ _ heq] at hk'
      exact h.nonzero k' id' hk'

theorem frames_write (s : State) (k : Nat) (id : UInt32) :
    (({ s with writer := none, received := s.received ++ [(id, k)] }.setPhase k
      (.waiting id false)).frames).Perm ((id, k) :: s.frames) := by
  simp only [State.frames, State.setPhase, List.append_assoc]
  exact List.perm_middle

theorem Held.write (h : Held s) {k : Nat} {id : UInt32} (hk : s.phase k = .writing id) :
    Held ({ s with writer := none, received := s.received ++ [(id, k)] }.setPhase k
      (.waiting id false)) := by
  have hunwritten : (s.phase k).unwritten = some id := by rw [hk]; rfl
  have hother : ∀ f ∈ s.frames, f.2 ≠ k := by
    rintro f hf rfl
    exact not_written hunwritten (h.written f hf)
  have hperm := frames_write s k id
  refine ⟨?_, ?_, ?_, ?_, h.sound, h.single,
    fun q hq hidle => h.begun q hq (idle_of_setPhase (by nofun) hidle), ?_⟩
  · intro f hf
    obtain rfl | hf := List.mem_cons.mp (hperm.subset hf)
    · rw [setPhase_phase_self]
      trivial
    · rw [setPhase_phase_of_ne _ _ (hother f hf)]
      exact h.written f hf
  · rw [(hperm.map _).nodup_iff, List.map_cons, List.nodup_cons]
    refine ⟨?_, h.once⟩
    intro hmem
    obtain ⟨f, hf, heq⟩ := List.mem_map.mp hmem
    exact hother f hf heq
  · intro f hf
    obtain rfl | hf := List.mem_cons.mp (hperm.subset hf)
    · exact h.calls k id hunwritten
    · exact h.frames f hf
  · intro k' id' hk'
    by_cases heq : k' = k
    · subst heq
      rw [setPhase_phase_self] at hk'
      cases hk'
    · rw [setPhase_phase_of_ne _ _ heq] at hk'
      exact h.calls k' id' hk'
  · intro k' id' hk'
    by_cases heq : k' = k
    · subst heq
      rw [setPhase_phase_self] at hk'
      exact h.nonzero k' id' (by rw [hk]; exact hk')
    · rw [setPhase_phase_of_ne _ _ heq] at hk'
      exact h.nonzero k' id' hk'

/-- A tombstone holds the identifier as the caller did. -/
theorem Held.abandon (h : Held s) (id : UInt32) :
    Held { s with desk := s.desk.abandon id } where
  written := h.written
  once := h.once
  frames f hf := by
    rw [Desk.held_abandon]
    exact h.frames f hf
  calls k id' hk := by
    rw [Desk.held_abandon]
    exact h.calls k id' hk
  sound hopen := (h.sound hopen).abandon id
  single := by
    rw [Desk.held_abandon]
    exact h.single
  begun p hp := by
    rw [Desk.held_abandon] at hp
    exact h.begun p hp
  nonzero := h.nonzero

/-- A step of a call keeps what the desk needs to know about it. -/
theorem Held.local (h : Held s) {k : Nat} {p : Phase} (hlocal : Local mayWrite s k (s.phase k) p) :
    Held (s.setPhase k p) := by
  generalize hk : s.phase k = q at hlocal
  apply h.setPhase
  · cases hlocal <;> nofun
  all_goals
    rw [hk]
    cases hlocal <;> simp [Phase.Written, Phase.unwritten, Phase.id?]

/-- An answered frame is still to be looked up. -/
theorem frames_answer {i : Nat} {frame : Frame} (hframe : s.received[i]? = some frame)
    (payload : Payload) (executed : List Nat) :
    (({ s with
        received := s.received.eraseIdx i
        responses := s.responses ++ [(frame, payload)]
        executed := executed } : State).frames).Perm s.frames := by
  obtain ⟨hi, rfl⟩ := List.getElem?_eq_some_iff.mp hframe
  have hperm := List.getElem_cons_eraseIdx_perm hi
  simp only [State.frames, List.map_append, List.map_cons, List.map_nil]
  refine List.Perm.append_right _ ?_
  rw [← List.append_assoc]
  exact (List.perm_append_singleton _ _).trans (hperm.append_right _)

theorem frames_read {frame : Frame} {payload : Payload} {rest : List (Frame × Payload)}
    (hr : s.reader = .idle) (hs : s.responses = (frame, payload) :: rest) :
    (({ s with reader := .holding frame payload, responses := rest } : State).frames).Perm
      s.frames := by
  simp only [State.frames, hr, hs, Reader.frames, List.map_cons, List.append_nil,
    List.append_assoc]
  exact List.Perm.append_left _ (List.perm_append_singleton _ _)

theorem Closes.hasEmptied_eq {c c' : Closer} (h : Closes a c c') :
    c'.hasEmptied = c.hasEmptied := by
  cases h <;> rfl

theorem Closes.targets_eq {c c' : Closer} (h : Closes a c c') : c'.targets = c.targets := by
  cases h <;> rfl

theorem Held.move (h : Held s) (hmove : Move mayWrite s a s') : Held s' := by
  cases hmove with
  | cancel k => exact h.frame rfl rfl (.refl _) id
  | «local» k writer hlocal => exact (h.local hlocal).frame rfl rfl (.refl _) id
  | register k hk hregister => exact h.register hk hregister
  | withdraw k hwithdraws =>
    generalize hk : s.phase k = q at hwithdraws
    cases hwithdraws with
    | reject => exact h.withdraw (by rw [hk]; rfl) nofun rfl
    | close outcome => exact h.withdraw (by rw [hk]; rfl) nofun rfl
    | remove outcome => exact h.withdraw (by rw [hk]; rfl) nofun rfl
  | write k hk hopen => exact h.write hk
  | abandon k hk hwrite =>
    refine (h.abandon _).setPhase nofun ?_ ?_ ?_ <;>
      simp [Phase.Written, Phase.unwritten, Phase.id?]
  | receive k hk hc =>
    refine (h.setPhase (k := k) (p := .done _) nofun ?_ ?_ ?_).frame rfl rfl (.refl _) id
    · simp [Phase.Written]
    · simp [Phase.unwritten]
    · simp [Phase.id?, Phase.unwritten]
  | answer i payload hframe =>
    exact h.frame rfl rfl (frames_answer hframe payload _) id
  | read hr hs =>
    exact h.frame rfl rfl (frames_read hr hs) id
  | drop hr hw => exact h.lookup hr rfl
  | find hr hw => exact h.lookup hr rfl
  | deliver hr =>
    refine h.frame rfl rfl ?_ id
    simp [State.frames, State.send, hr, Reader.frames]
  | exit hr =>
    refine h.frame rfl rfl ?_ id
    simp [State.frames, hr, Reader.frames]
  | close hcloses =>
    exact h.frame rfl rfl (.refl _) fun hopen => hcloses.hasEmptied_eq.symm.trans hopen
  | empty hc =>
    exact ⟨h.written, h.once, h.frames, h.calls, nofun, h.single, h.begun, h.nonzero⟩
  | tell i hc hwho =>
    refine h.frame rfl rfl (.refl _) ?_
    simp [Closer.hasEmptied]

end

end RivetGo.Socket

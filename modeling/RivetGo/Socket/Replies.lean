import RivetGo.Socket.Table

/-!
# Replies reach the right calls

Nobody is sent a second reply, so that no send waits for room in a channel. Until
the table is emptied a response goes to the call that wrote the frame. After that
a response may still go to a call that entered the table since, but such a call
cannot write a frame any more and returns without looking at its channel.
-/

namespace RivetGo.Socket

open Correlation (Desk Sound waiters)

/-- Each right is there once, and only with an empty channel. -/
structure Rights (s : State) : Prop where
  once : s.rights.Nodup
  empty : ∀ k ∈ s.rights, s.channel k = []
  begun : ∀ k ∈ s.rights, s.phase k ≠ .idle
  fresh : ∀ k, s.phase k = .idle → s.channel k = []

theorem rights_initial : Rights initial where
  once := List.nodup_nil
  empty := nofun
  begun := nofun
  fresh _ _ := rfl

section

variable {mayWrite : Nat → Bool} {s s' : State} {a : Action}

/-- No new right, no change to a channel, and no call that is idle again. -/
theorem Rights.frame (h : Rights s) (hrights : s'.rights.Subperm s.rights)
    (hchannel : s'.channel = s.channel) (hphase : ∀ k, s'.phase k = .idle → s.phase k = .idle) :
    Rights s' where
  once := by
    obtain ⟨l, hperm, hsub⟩ := hrights
    exact hperm.nodup_iff.mp (h.once.sublist hsub)
  empty k hk := by
    rw [hchannel]
    exact h.empty k (hrights.subset hk)
  begun k hk hidle := h.begun k (hrights.subset hk) (hphase k hidle)
  fresh k hk := by
    rw [hchannel]
    exact h.fresh k (hphase k hk)

theorem Rights.setPhase (h : Rights s) (k : Nat) {p : Phase} (hp : p ≠ .idle) :
    Rights (s.setPhase k p) :=
  h.frame (.refl _) rfl fun _ => idle_of_setPhase hp

/-- Nobody enters the table. -/
theorem Rights.desk (h : Rights s) {desk : Desk UInt32 Nat}
    (hsub : (waiters desk.entries).Sublist (waiters s.desk.entries)) :
    Rights { s with desk := desk } :=
  h.frame ((hsub.append_right _).append_right _).subperm rfl fun _ => id

/-- A right is used. -/
theorem Rights.send (h : Rights s) {who : Nat} {reply : Reply}
    (hrights : (who :: s'.rights).Perm s.rights)
    (hchannel : s'.channel = (s.send who reply).channel) (hphase : s'.phase = s.phase) :
    Rights s' := by
  have honce := hrights.nodup_iff.mpr h.once
  rw [List.nodup_cons] at honce
  have hwho : who ∈ s.rights := hrights.subset List.mem_cons_self
  have hother : ∀ k, k ≠ who → s'.channel k = s.channel k := by
    intro k hk
    rw [hchannel]
    simp [State.send, hk]
  refine ⟨honce.2, ?_, ?_, ?_⟩
  · intro k hk
    rw [hother k (fun heq => honce.1 (heq ▸ hk))]
    exact h.empty k (hrights.subset (List.mem_cons_of_mem _ hk))
  · intro k hk
    rw [hphase]
    exact h.begun k (hrights.subset (List.mem_cons_of_mem _ hk))
  · intro k hk
    rw [hphase] at hk
    rw [hother k (fun heq => h.begun who hwho (heq ▸ hk))]
    exact h.fresh k hk

theorem Rights.register (h : Rights s) {k : Nat} {id : UInt32} {desk : Desk UInt32 Nat}
    (hk : s.phase k = .idle) (hregister : s.desk.register (· + 1) 0 (2 ^ 32) k = some (id, desk)) :
    Rights ({ s with desk := desk }.setPhase k (.registered id)) := by
  obtain ⟨-, hfresh, rfl⟩ := Desk.register_eq_some hregister
  have hrights : ({ s with desk := ⟨id, s.desk.entries.insert id (some k), (id, k) :: s.desk.held⟩ }
      : State).rights = k :: s.rights := by
    simp only [State.rights, Correlation.waiters_insert hfresh, List.cons_append]
  have hnot : k ∉ s.rights := fun hmem => h.begun k hmem hk
  refine ⟨?_, ?_, ?_, ?_⟩
  · have hnodup := List.nodup_cons.mpr ⟨hnot, h.once⟩
    rw [← hrights] at hnodup
    exact hnodup
  · intro k' hk'
    obtain rfl | hk' := List.mem_cons.mp (hrights ▸ hk')
    · exact h.fresh k' hk
    · exact h.empty k' hk'
  · intro k' hk' hidle
    obtain rfl | hk' := List.mem_cons.mp (hrights ▸ hk')
    · rw [setPhase_phase_self] at hidle
      cases hidle
    · exact h.begun k' hk' (idle_of_setPhase (by nofun) hidle)
  · intro k' hk'
    exact h.fresh k' (idle_of_setPhase (by nofun) hk')

theorem Rights.receive (h : Rights s) {k : Nat} {r : Reply} {rest : List Reply} {p : Phase}
    (hc : s.channel k = r :: rest) (hp : p ≠ .idle) :
    Rights ({ s with channel := Function.update s.channel k rest }.setPhase k p) := by
  have hnot : ∀ k' ∈ s.rights, k' ≠ k := by
    rintro k' hk' rfl
    have hempty := h.empty k' hk'
    rw [hc] at hempty
    cases hempty
  refine ⟨h.once, ?_, ?_, ?_⟩
  · intro k' hk'
    show Function.update s.channel k rest k' = []
    rw [Function.update_of_ne (hnot k' hk')]
    exact h.empty k' hk'
  · intro k' hk' hidle
    exact h.begun k' hk' (idle_of_setPhase hp hidle)
  · intro k' hk'
    have hidle : s.phase k' = .idle := idle_of_setPhase hp hk'
    have hne : k' ≠ k := by
      rintro rfl
      have hempty := h.fresh k' hidle
      rw [hc] at hempty
      cases hempty
    show Function.update s.channel k rest k' = []
    rw [Function.update_of_ne hne]
    exact h.fresh k' hidle

theorem Rights.move (h : Rights s) (hmove : Move mayWrite s a s') : Rights s' := by
  cases hmove with
  | cancel k => exact h.frame (.refl _) rfl fun _ => id
  | «local» k writer hlocal =>
    refine (h.frame (.refl _) rfl fun _ => id : Rights { s with writer := writer }).setPhase k ?_
    generalize s.phase k = q at hlocal
    cases hlocal <;> nofun
  | register k hk hregister => exact h.register hk hregister
  | withdraw k hwithdraws =>
    refine (h.desk (Correlation.waiters_erase_sublist _ _)).setPhase k ?_
    generalize s.phase k = q at hwithdraws
    cases hwithdraws <;> nofun
  | write k hk hopen => exact h.frame (.refl _) rfl fun k' => idle_of_setPhase (by nofun)
  | abandon k hk hwrite =>
    exact (h.desk (Correlation.waiters_abandon_sublist _ _)).setPhase k (by nofun)
  | receive k hk hc => exact h.receive hc (by nofun)
  | answer i payload hframe => exact h.frame (.refl _) rfl fun _ => id
  | read hr hs =>
    refine h.frame ?_ rfl fun _ => id
    simp only [State.rights, hr]
    exact .refl _
  | drop hr hw =>
    refine h.frame ?_ rfl fun _ => id
    simp only [State.rights, hr]
    exact (((Correlation.waiters_erase_sublist _ _).append_right _).append_right _).subperm
  | find hr hw =>
    refine h.frame ?_ rfl fun _ => id
    simp only [State.rights, hr, Reader.targets, List.append_nil]
    refine (List.Perm.append_right _ ?_).subperm
    exact (List.perm_append_singleton _ _).trans (Correlation.waiters_perm_erase hw).symm
  | deliver hr =>
    refine h.send ?_ rfl rfl
    simp only [State.rights, State.send, hr, Reader.targets, List.append_nil, List.append_assoc]
    exact List.perm_middle.symm
  | exit hr =>
    refine h.frame ?_ rfl fun _ => id
    simp only [State.rights, hr]
    exact .refl _
  | close hcloses =>
    refine h.frame ?_ rfl fun _ => id
    simp only [State.rights, hcloses.targets_eq]
    exact .refl _
  | empty hc =>
    refine h.frame ?_ rfl fun _ => id
    simp only [State.rights, hc, Closer.targets, Desk.reset, Correlation.waiters_empty,
      List.nil_append, List.append_nil]
    exact List.perm_append_comm.subperm
  | tell i hc hwho =>
    refine h.send ?_ rfl rfl
    obtain ⟨hi, rfl⟩ := List.getElem?_eq_some_iff.mp hwho
    simp only [State.rights, State.send, hc, Closer.targets]
    exact List.perm_middle.symm.trans
      (List.Perm.append_left _ (List.getElem_cons_eraseIdx_perm hi))

end

/-! ### Whose response it is -/

/-- The call waits for its response. -/
def Phase.Waits : Phase → Prop
  | .waiting _ _ => True
  | _ => False

/-- The outcome that a call has, or will have when it has cleaned up. -/
def Phase.outcome : Phase → Option Outcome
  | .failing _ _ outcome => some outcome
  | .closing outcome => some outcome
  | .done outcome => some outcome
  | _ => none

/-- The responses that come to the call are its own. -/
def State.Trusted (s : State) (k : Nat) : Prop :=
  s.closer.hasEmptied = false ∨ (s.phase k).Waits

/-- Responses are with the calls that wrote the frames. -/
structure Own (s : State) : Prop where
  channel : ∀ k owner payload, s.Trusted k → .response owner payload ∈ s.channel k → owner = k
  reader : ∀ k owner payload, s.Trusted k → s.reader = .sending k (.response owner payload) →
    owner = k
  emptied : ∀ k, s.closer.hasEmptied = true → (s.phase k).Waits → k ∉ waiters s.desk.entries
  outcome : ∀ k owner payload, (s.phase k).outcome = some (.answered owner payload) → owner = k

theorem own_initial : Own initial where
  channel := nofun
  reader := nofun
  emptied := nofun
  outcome := nofun

section

variable {mayWrite : Nat → Bool} {s s' : State} {a : Action}

/-- Nothing new is sent, and nobody new waits or enters the table. -/
theorem Own.frame (h : Own s) (htrusted : ∀ k, s'.Trusted k → s.Trusted k)
    (hchannel : ∀ k, s'.channel k ⊆ s.channel k)
    (hreader : ∀ who reply, s'.reader = .sending who reply → s.reader = .sending who reply)
    (hemptied : ∀ k, s'.closer.hasEmptied = true → (s'.phase k).Waits →
      k ∉ waiters s'.desk.entries)
    (houtcome : ∀ k owner payload, (s'.phase k).outcome = some (.answered owner payload) →
      owner = k) : Own s' where
  channel k owner payload hk hmem := h.channel k owner payload (htrusted k hk) (hchannel k hmem)
  reader k owner payload hk hr := h.reader k owner payload (htrusted k hk) (hreader _ _ hr)
  emptied := hemptied
  outcome := houtcome

/-- A call goes on, and does not begin to wait. -/
theorem Own.setPhase (h : Own s) {k : Nat} {p : Phase} (hwaits : p.Waits → (s.phase k).Waits)
    (houtcome : ∀ owner payload, p.outcome = some (.answered owner payload) → owner = k) :
    Own (s.setPhase k p) := by
  have hphase : ∀ k', ((s.setPhase k p).phase k').Waits → (s.phase k').Waits := by
    intro k' hk'
    by_cases heq : k' = k
    · subst heq
      rw [setPhase_phase_self] at hk'
      exact hwaits hk'
    · rwa [setPhase_phase_of_ne _ _ heq] at hk'
  refine h.frame (fun k' => Or.imp_right (hphase k')) (fun _ => List.Subset.refl _)
    (fun _ _ => id) (fun k' hemptied hk' => h.emptied k' hemptied (hphase k' hk')) ?_
  intro k' owner payload hk'
  by_cases heq : k' = k
  · subst heq
    rw [setPhase_phase_self] at hk'
    exact houtcome owner payload hk'
  · rw [setPhase_phase_of_ne _ _ heq] at hk'
    exact h.outcome k' owner payload hk'

/-- Nobody enters the table. -/
theorem Own.desk (h : Own s) {desk : Desk UInt32 Nat}
    (hsub : (waiters desk.entries).Sublist (waiters s.desk.entries)) :
    Own { s with desk := desk } :=
  h.frame (fun _ => id) (fun _ => List.Subset.refl _) (fun _ _ => id)
    (fun k hemptied hk hmem => h.emptied k hemptied hk (hsub.subset hmem)) h.outcome

theorem Own.register (h : Own s) {k : Nat} {id : UInt32} {desk : Desk UInt32 Nat}
    (hk : s.phase k = .idle) (hregister : s.desk.register (· + 1) 0 (2 ^ 32) k = some (id, desk)) :
    Own ({ s with desk := desk }.setPhase k (.registered id)) := by
  obtain ⟨-, hfresh, rfl⟩ := Desk.register_eq_some hregister
  have hphase := h.setPhase (k := k) (p := .registered id) nofun nofun
  refine hphase.frame (fun _ h => h) (fun _ => List.Subset.refl _) (fun _ _ h => h) ?_
    hphase.outcome
  intro k' hemptied hk' hmem
  obtain rfl | hmem := List.mem_cons.mp (Correlation.waiters_insert hfresh ▸ hmem)
  · rw [setPhase_phase_self] at hk'
    exact hk'
  · exact hphase.emptied k' hemptied hk' hmem

/-- Only a call that found the connection open begins to wait. -/
theorem Own.write (h : Own s) {k : Nat} {id : UInt32} (hopen : s.closer = .open) :
    Own ({ s with writer := none, received := s.received ++ [(id, k)] }.setPhase k
      (.waiting id false)) := by
  have hnot : s.closer.hasEmptied = false := by rw [hopen]; rfl
  refine h.frame (fun _ _ => .inl hnot) (fun _ => List.Subset.refl _) (fun _ _ h => h) ?_ ?_
  · intro k' hemptied
    exact absurd hemptied (by simp [State.setPhase, hnot])
  · intro k' owner payload hk'
    by_cases heq : k' = k
    · subst heq
      rw [setPhase_phase_self] at hk'
      cases hk'
    · rw [setPhase_phase_of_ne _ _ heq] at hk'
      exact h.outcome k' owner payload hk'

/-- The waiter of a response is the call that wrote the frame. -/
theorem Own.find (h : Own s) (hheld : Held s) {id : UInt32} {owner who : Nat} {payload : Payload}
    (hr : s.reader = .holding (id, owner) payload) (hw : s.desk.waiting id = some who) :
    Own { s with
      desk := s.desk.settle id owner
      reader := .sending who (.response owner payload) } := by
  have hsub := Correlation.waiters_erase_sublist s.desk.entries id
  refine ⟨h.channel, ?_, fun k hemptied hk hmem => h.emptied k hemptied hk (hsub.subset hmem),
    h.outcome⟩
  intro k owner' payload' htrusted hsending
  obtain ⟨rfl, rfl, -⟩ : who = k ∧ owner = owner' ∧ payload = payload' := by simpa using hsending
  have hframe : (id, owner) ∈ s.frames := by simp [State.frames, hr, Reader.frames]
  by_cases hemptied : s.closer.hasEmptied = true
  · have hwaits := htrusted.resolve_left (by simp [hemptied])
    exact absurd (Correlation.mem_waiters_of_waiting hw) (h.emptied who hemptied hwaits)
  · have hsound := hheld.sound (Bool.eq_false_iff.mpr hemptied)
    exact (hsound.waiting_eq (hheld.frames _ hframe) hw).symm

/-- A reply that is the receiver's own comes into its channel. -/
theorem Own.send (h : Own s) {who : Nat} {reply : Reply} {r : Reader} {c : Closer}
    (hreply : ∀ owner payload, s.Trusted who → reply = .response owner payload → owner = who)
    (hr : ∀ who reply, r = .sending who reply → s.reader = .sending who reply)
    (hc : c.hasEmptied = s.closer.hasEmptied) :
    Own { s.send who reply with reader := r, closer := c } := by
  have htrusted : ∀ k, ({ s.send who reply with reader := r, closer := c } : State).Trusted k →
      s.Trusted k := by
    intro k hk
    rwa [State.Trusted, hc] at hk
  refine ⟨?_, ?_, ?_, h.outcome⟩
  · intro k owner payload hk' hmem
    have hk := htrusted k hk'
    by_cases heq : k = who
    · subst heq
      have hmem : .response owner payload ∈ s.channel k ++ [reply] := by
        simpa [State.send] using hmem
      obtain hmem | hmem := List.mem_append.mp hmem
      · exact h.channel k owner payload hk hmem
      · exact hreply owner payload hk (List.mem_singleton.mp hmem).symm
    · have hmem : .response owner payload ∈ s.channel k := by
        simpa [State.send, heq] using hmem
      exact h.channel k owner payload hk hmem
  · intro k owner payload hk hsending
    exact h.reader k owner payload (htrusted k hk) (hr _ _ hsending)
  · intro k hemptied hk
    exact h.emptied k (hc ▸ hemptied) hk

/-- A call goes on by itself. -/
theorem Own.local (h : Own s) {k : Nat} {p : Phase} (hlocal : Local mayWrite s k (s.phase k) p) :
    Own (s.setPhase k p) := by
  generalize hk : s.phase k = q at hlocal
  refine h.setPhase ?_ ?_
  · rw [hk]
    cases hlocal <;> simp [Phase.Waits]
  · intro owner payload hp
    cases hlocal with
    | refuse => cases hp
    | acquire id => cases hp
    | giveUp id started hnone => exact absurd (Option.some.inj hp) (hnone owner payload)
    | failWrite id started hnone => exact absurd (Option.some.inj hp) (hnone owner payload)
    | returnClosed outcome =>
      refine h.outcome k owner payload ?_
      rw [hk]
      exact hp
    | notice id hwrite => cases hp
    | seeClosed id cancelled => cases hp

theorem response_of_outcome {r : Reply} {cancelled : Bool} {owner : Nat} {payload : Payload}
    (h : r.outcome cancelled = .answered owner payload) : r = .response owner payload := by
  cases r with
  | closed => cases cancelled <;> cases h
  | response owner' payload' =>
    cases payload' <;> cases cancelled <;> simp_all [Reply.outcome]

/-- The response that a call returns was in its channel while it waited. -/
theorem Own.receive (h : Own s) {k : Nat} {id : UInt32} {cancelled : Bool} {r : Reply}
    {rest : List Reply} (hk : s.phase k = .waiting id cancelled) (hc : s.channel k = r :: rest) :
    Own ({ s with channel := Function.update s.channel k rest }.setPhase k
      (.done (r.outcome cancelled))) := by
  have hwaits : (s.phase k).Waits := by rw [hk]; trivial
  have hphase := h.setPhase (k := k) (p := .done (r.outcome cancelled)) nofun (by
    intro owner payload hp
    have hr := response_of_outcome (Option.some.inj hp)
    exact h.channel k owner payload (.inr hwaits) (by rw [hc, hr]; exact List.mem_cons_self))
  refine hphase.frame (fun _ h => h) ?_ (fun _ _ h => h) hphase.emptied hphase.outcome
  intro k'
  by_cases heq : k' = k
  · subst heq
    simp [State.setPhase, hc]
  · simp [State.setPhase, heq]

theorem Own.move (h : Own s) (hheld : Held s) (hmove : Move mayWrite s a s') : Own s' := by
  cases hmove with
  | cancel k =>
    exact h.frame (fun _ => id) (fun _ => List.Subset.refl _) (fun _ _ => id) h.emptied h.outcome
  | «local» k writer hlocal =>
    exact (h.local hlocal).frame (fun _ h => h) (fun _ => List.Subset.refl _) (fun _ _ h => h)
      (h.local hlocal).emptied (h.local hlocal).outcome
  | register k hk hregister => exact h.register hk hregister
  | withdraw k hwithdraws =>
    refine (h.desk (Correlation.waiters_erase_sublist _ _)).setPhase ?_ ?_
    · generalize s.phase k = q at hwithdraws
      cases hwithdraws <;> nofun
    · intro owner payload hp
      refine h.outcome k owner payload ?_
      generalize s.phase k = q at hwithdraws
      cases hwithdraws with
      | reject => cases hp
      | close outcome => exact hp
      | remove outcome => exact hp
  | write k hk hopen => exact h.write hopen
  | abandon k hk hwrite =>
    exact (h.desk (Correlation.waiters_abandon_sublist _ _)).setPhase nofun nofun
  | receive k hk hc => exact h.receive hk hc
  | answer i payload hframe =>
    exact h.frame (fun _ => id) (fun _ => List.Subset.refl _) (fun _ _ => id) h.emptied h.outcome
  | read hr hs =>
    exact h.frame (fun _ => id) (fun _ => List.Subset.refl _) nofun h.emptied h.outcome
  | drop hr hw =>
    have hsub := Correlation.waiters_erase_sublist s.desk.entries
    exact h.frame (fun _ => id) (fun _ => List.Subset.refl _) nofun
      (fun k hemptied hk hmem => h.emptied k hemptied hk ((hsub _).subset hmem)) h.outcome
  | find hr hw => exact h.find hheld hr hw
  | deliver hr =>
    refine h.send (c := s.closer) ?_ nofun rfl
    rintro owner payload htrusted rfl
    exact h.reader _ owner payload htrusted hr
  | exit hr =>
    exact h.frame (fun _ => id) (fun _ => List.Subset.refl _) nofun h.emptied h.outcome
  | close hcloses =>
    have hsame := hcloses.hasEmptied_eq
    refine h.frame ?_ (fun _ => List.Subset.refl _) (fun _ _ => id) ?_ h.outcome
    · intro k hk
      rwa [State.Trusted, hsame] at hk
    · intro k hemptied
      exact h.emptied k (hsame ▸ hemptied)
  | empty hc =>
    refine h.frame ?_ (fun _ => List.Subset.refl _) (fun _ _ => id) ?_ h.outcome
    · intro k hk
      exact .inr (hk.resolve_left nofun)
    · intro k _ _
      exact List.not_mem_nil
  | tell i hc hwho =>
    exact h.send (r := s.reader) nofun (fun _ _ => id) (by rw [hc]; rfl)

end

end RivetGo.Socket

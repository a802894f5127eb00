import RivetGo.Socket.Correlated

/-!
# Executed requests and the context of their callers

A call that may write waits for its reply even if its context ends, and then
returns the context error in the place of an error reply. There are three kinds
of those: the response to a request that was not executed, the report that the
result of an executed one is too large, and the news that the client was closed,
which says nothing about the request. Without the last two a call whose request
was executed does not return the context error.
-/

namespace RivetGo.Socket

open Correlation (Desk Sound waiters)

/-- Runs in which a response to a request that may write is never too large, and
in which the client is not closed while such a request has no answer. -/
def Settles (mayWrite : Nat → Bool) (s : State) : Action → Prop
  | .answer i payload =>
    payload = .tooLarge → ∀ frame, s.received[i]? = some frame → mayWrite frame.2 = false
  | .empty => ∀ frame ∈ s.frames, mayWrite frame.2 = false
  | _ => True

/-- The responses on their way, and the one in hand. -/
def State.answers (s : State) : List (Frame × Payload) :=
  s.responses ++
    match s.reader with
    | .holding frame payload => [(frame, payload)]
    | _ => []

/-- The response is in a channel, or about to be. -/
def State.Replied (s : State) (owner : Nat) (payload : Payload) : Prop :=
  ∃ k, .response owner payload ∈ s.channel k ∨ s.reader = .sending k (.response owner payload)

/-- The call learns that the client was closed. -/
def State.Told (s : State) (k : Nat) : Prop :=
  k ∈ s.closer.targets ∨ .closed ∈ s.channel k ∨ s.reader = .sending k .closed

/-- The call has not been executed and never will be. -/
def State.Unexecuted (s : State) (k : Nat) : Prop :=
  k ∉ s.executed ∧ ∀ frame ∈ s.frames, frame.2 ≠ k

/-- What is known about the calls that may write. -/
structure Committed (mayWrite : Nat → Bool) (s : State) : Prop where
  written : ∀ k ∈ s.executed, (s.phase k).Written
  received : ∀ frame ∈ s.received, frame.2 ∉ s.executed
  answers : ∀ p ∈ s.answers, mayWrite p.1.2 = true → p.1.2 ∈ s.executed → p.2 = .result
  replied : ∀ owner payload, s.Replied owner payload → mayWrite owner = true →
    owner ∈ s.executed → payload = .result
  once : ∀ owner payload, s.Replied owner payload →
    (s.phase owner).Written ∧ ∀ frame ∈ s.frames, frame.2 ≠ owner
  told : ∀ k, s.Told k → mayWrite k = true → s.Unexecuted k
  late : ∀ k, s.Told k → s.closer.hasEmptied = true
  failed : ∀ k, (s.phase k).outcome = some .contextError → mayWrite k = true → s.Unexecuted k
  waits : s.closer.hasEmptied = false → ∀ k ∈ s.executed, k ∈ waiters s.desk.entries →
    ∃ frame ∈ s.frames, frame.2 = k

theorem committed_initial (mayWrite : Nat → Bool) : Committed mayWrite initial where
  written := nofun
  received := nofun
  answers := nofun
  replied owner payload h := by simp [State.Replied, initial] at h
  once owner payload h := by simp [State.Replied, initial] at h
  told k h := by simp [State.Told, initial, Closer.targets] at h
  late k h := by simp [State.Told, initial, Closer.targets] at h
  failed := nofun
  waits := nofun

section

variable {mayWrite : Nat → Bool} {s s' : State}

/-- Nothing is executed, written, answered or sent, and nobody is told or fails. -/
theorem Committed.frame (h : Committed mayWrite s) (hexecuted : s'.executed = s.executed)
    (hwritten : ∀ k, (s.phase k).Written → (s'.phase k).Written)
    (hreceived : s'.received ⊆ s.received) (hanswers : s'.answers ⊆ s.answers)
    (hframes : s'.frames ⊆ s.frames)
    (hreplied : ∀ owner payload, s'.Replied owner payload → s.Replied owner payload)
    (htold : ∀ k, s'.Told k → s.Told k)
    (hemptied : s.closer.hasEmptied = true → s'.closer.hasEmptied = true)
    (hfailed : ∀ k, (s'.phase k).outcome = some .contextError → mayWrite k = true →
      s.Unexecuted k)
    (hwaits : s'.closer.hasEmptied = false → ∀ k ∈ s.executed, k ∈ waiters s'.desk.entries →
      ∃ frame ∈ s'.frames, frame.2 = k) : Committed mayWrite s' := by
  have hun : ∀ k, s.Unexecuted k → s'.Unexecuted k := by
    rintro k ⟨hnot, hother⟩
    exact ⟨hexecuted ▸ hnot, fun frame hframe => hother frame (hframes hframe)⟩
  refine ⟨?_, ?_, ?_, ?_, ?_, fun k hk hwrite => hun k (h.told k (htold k hk) hwrite),
    fun k hk => hemptied (h.late k (htold k hk)), fun k hk hwrite => hun k (hfailed k hk hwrite),
    fun hopen k hk => hwaits hopen k (hexecuted ▸ hk)⟩
  · intro k hk
    exact hwritten k (h.written k (hexecuted ▸ hk))
  · intro frame hframe
    rw [hexecuted]
    exact h.received frame (hreceived hframe)
  · intro p hp hwrite hmem
    exact h.answers p (hanswers hp) hwrite (hexecuted ▸ hmem)
  · intro owner payload hr hwrite hmem
    exact h.replied owner payload (hreplied owner payload hr) hwrite (hexecuted ▸ hmem)
  · intro owner payload hr
    obtain ⟨hw, hother⟩ := h.once owner payload (hreplied owner payload hr)
    exact ⟨hwritten owner hw, fun frame hframe => hother frame (hframes hframe)⟩

/-- A call that has not written its frame is not executed. -/
theorem Committed.unexecuted (h : Committed mayWrite s) (hheld : Held s) {k : Nat}
    (hk : ¬ (s.phase k).Written) : s.Unexecuted k := by
  refine ⟨fun hmem => hk (h.written k hmem), ?_⟩
  rintro frame hframe rfl
  exact hk (hheld.written frame hframe)

/-- A call goes on, and may fail if it is not executed. -/
theorem Committed.setPhase (h : Committed mayWrite s) {k : Nat} {p : Phase}
    (hwritten : (s.phase k).Written → p.Written)
    (hfailed : p.outcome = some .contextError → mayWrite k = true → s.Unexecuted k) :
    Committed mayWrite (s.setPhase k p) := by
  refine h.frame rfl ?_ (List.Subset.refl _) (List.Subset.refl _) (List.Subset.refl _)
    (fun _ _ => id) (fun _ => id) id ?_ h.waits
  · intro k' hk'
    by_cases heq : k' = k
    · subst heq
      rw [setPhase_phase_self]
      exact hwritten hk'
    · rwa [setPhase_phase_of_ne _ _ heq]
  · intro k' hk'
    by_cases heq : k' = k
    · subst heq
      rw [setPhase_phase_self] at hk'
      exact hfailed hk'
    · rw [setPhase_phase_of_ne _ _ heq] at hk'
      exact h.failed k' hk'

/-- Nobody enters the table. -/
theorem Committed.desk (h : Committed mayWrite s) {desk : Desk UInt32 Nat}
    (hsub : (waiters desk.entries).Sublist (waiters s.desk.entries)) :
    Committed mayWrite { s with desk := desk } :=
  h.frame rfl (fun _ => id) (List.Subset.refl _) (List.Subset.refl _) (List.Subset.refl _)
    (fun _ _ => id) (fun _ => id) id h.failed
    (fun hopen k hk hmem => h.waits hopen k hk (hsub.subset hmem))

theorem Committed.local (h : Committed mayWrite s) (hheld : Held s) {k : Nat} {p : Phase}
    (hlocal : Local mayWrite s k (s.phase k) p) : Committed mayWrite (s.setPhase k p) := by
  generalize hk : s.phase k = q at hlocal
  refine h.setPhase ?_ ?_
  · rw [hk]
    cases hlocal <;> simp [Phase.Written]
  · intro hp hwrite
    cases hlocal with
    | refuse => exact h.unexecuted hheld (by rw [hk]; exact id)
    | acquire id => cases hp
    | giveUp id started hnone => exact h.unexecuted hheld (by rw [hk]; exact not_false)
    | failWrite id started hnone => exact h.unexecuted hheld (by rw [hk]; exact not_false)
    | returnClosed outcome => exact h.failed k (by rw [hk]; exact hp) hwrite
    | notice id hwrite => cases hp
    | seeClosed id cancelled => cases hp

theorem Committed.withdraw (h : Committed mayWrite s) {k : Nat} {id : UInt32} {p : Phase}
    (hwithdraws : Withdraws id (s.phase k) p) :
    Committed mayWrite ({ s with desk := s.desk.settle id k }.setPhase k p) := by
  generalize hk : s.phase k = q at hwithdraws
  refine (h.desk (Correlation.waiters_erase_sublist _ _)).setPhase ?_ ?_
  · show (s.phase k).Written → p.Written
    rw [hk]
    cases hwithdraws <;> simp [Phase.Written]
  · intro hp hwrite
    refine h.failed k ?_ hwrite
    rw [hk]
    cases hwithdraws with
    | reject => cases hp
    | close outcome => exact hp
    | remove outcome => exact hp

/-- A call that enters the table is not executed yet. -/
theorem Committed.register (h : Committed mayWrite s) {k : Nat} {id : UInt32}
    {desk : Desk UInt32 Nat} (hk : s.phase k = .idle)
    (hregister : s.desk.register (· + 1) 0 (2 ^ 32) k = some (id, desk)) :
    Committed mayWrite ({ s with desk := desk }.setPhase k (.registered id)) := by
  obtain ⟨-, hfresh, rfl⟩ := Desk.register_eq_some hregister
  have hphase := h.setPhase (k := k) (p := .registered id) (by rw [hk]; exact False.elim)
    nofun
  refine hphase.frame rfl (fun _ h => h) (List.Subset.refl _) (List.Subset.refl _)
    (List.Subset.refl _) (fun _ _ h => h) (fun _ h => h) (fun h => h) hphase.failed ?_
  intro hopen k' hk' hmem
  obtain rfl | hmem := List.mem_cons.mp (Correlation.waiters_insert hfresh ▸ hmem)
  · have hwritten := h.written k' hk'
    rw [hk] at hwritten
    exact hwritten.elim
  · exact h.waits hopen k' hk' hmem

theorem Committed.write (h : Committed mayWrite s) (hheld : Held s) {k : Nat} {id : UInt32}
    (hk : s.phase k = .writing id) (hopen : s.closer = .open) :
    Committed mayWrite ({ s with writer := none, received := s.received ++ [(id, k)] }.setPhase k
      (.waiting id false)) := by
  have hperm := frames_write s k id
  have hnot : ¬ (s.phase k).Written := by rw [hk]; exact not_false
  have hun := h.unexecuted hheld hnot
  have htold : ∀ k', ¬ s.Told k' := by
    intro k' hk'
    have hemptied := h.late k' hk'
    rw [hopen] at hemptied
    cases hemptied
  have hphase := h.setPhase (k := k) (p := .waiting id false) (fun _ => trivial) nofun
  have hother : ∀ k', k' ≠ k → s.Unexecuted k' →
      ({ s with writer := none, received := s.received ++ [(id, k)] }.setPhase k
        (.waiting id false)).Unexecuted k' := by
    rintro k' hne ⟨hexecuted, hframes⟩
    refine ⟨hexecuted, fun frame hframe => ?_⟩
    obtain rfl | hframe := List.mem_cons.mp (hperm.subset hframe)
    · exact fun heq => hne heq.symm
    · exact hframes frame hframe
  refine ⟨hphase.written, ?_, h.answers, h.replied, ?_, fun k' hk' => absurd hk' (htold k'),
    fun k' hk' => absurd hk' (htold k'), ?_, ?_⟩
  · intro frame hframe
    obtain hframe | hframe := List.mem_append.mp hframe
    · exact h.received frame hframe
    · obtain rfl := List.mem_singleton.mp hframe
      exact hun.1
  · intro owner payload hr
    obtain ⟨hwritten, hframes⟩ := h.once owner payload hr
    have hne : owner ≠ k := by
      rintro rfl
      exact hnot hwritten
    refine ⟨(hphase.once owner payload hr).1, fun frame hframe => ?_⟩
    obtain rfl | hframe := List.mem_cons.mp (hperm.subset hframe)
    · exact fun heq => hne heq.symm
    · exact hframes frame hframe
  · intro k' hk' hwrite
    have hne : k' ≠ k := by
      rintro rfl
      rw [setPhase_phase_self] at hk'
      cases hk'
    rw [setPhase_phase_of_ne _ _ hne] at hk'
    exact hother k' hne (h.failed k' hk' hwrite)
  · intro hopen k' hk' hmem
    obtain ⟨frame, hframe, heq⟩ := h.waits hopen k' hk' hmem
    exact ⟨frame, hperm.symm.subset (List.mem_cons_of_mem _ hframe), heq⟩

/-- The other frames are from other calls. -/
theorem Held.ne_of_perm (h : Held s) {frame : Frame} {others : List Frame}
    (hperm : s.frames.Perm (frame :: others)) : ∀ f ∈ others, f.2 ≠ frame.2 := by
  have honce := (hperm.map Prod.snd).nodup_iff.mp h.once
  rw [List.map_cons, List.nodup_cons] at honce
  intro f hf heq
  exact honce.1 (heq ▸ List.mem_map_of_mem hf)

theorem frames_perm_received {i : Nat} {frame : Frame} (hframe : s.received[i]? = some frame) :
    s.frames.Perm
      (frame :: (s.received.eraseIdx i ++ s.responses.map Prod.fst ++ s.reader.frames)) := by
  obtain ⟨hi, rfl⟩ := List.getElem?_eq_some_iff.mp hframe
  exact ((List.getElem_cons_eraseIdx_perm hi).symm.append_right _).append_right _

theorem fst_mem_of_mem_answers {p : Frame × Payload} (h : p ∈ s.answers) :
    p.1 ∈ s.responses.map Prod.fst ++ s.reader.frames := by
  obtain h | h := List.mem_append.mp h
  · exact List.mem_append_left _ (List.mem_map_of_mem h)
  · apply List.mem_append_right
    cases hr : s.reader with
    | holding frame payload =>
      rw [hr] at h
      obtain rfl := List.mem_singleton.mp h
      exact List.mem_singleton_self _
    | _ =>
      rw [hr] at h
      cases h

/-- The server executes a request, or does not. -/
theorem Committed.answer (h : Committed mayWrite s) (hheld : Held s) {i : Nat} {frame : Frame}
    {payload : Payload} (hframe : s.received[i]? = some frame)
    (hfits : payload = .tooLarge → mayWrite frame.2 = false) :
    Committed mayWrite { s with
      received := s.received.eraseIdx i
      responses := s.responses ++ [(frame, payload)]
      executed := if payload = .error then s.executed else s.executed ++ [frame.2] } := by
  generalize hexecuted : (if payload = .error then s.executed else s.executed ++ [frame.2]) = after
  have hperm := frames_answer hframe payload after
  have hothers := hheld.ne_of_perm (frames_perm_received hframe)
  have hreceived : frame ∈ s.received := List.mem_of_getElem? hframe
  have hframes : frame ∈ s.frames := by simp [State.frames, hreceived]
  have hafter : ∀ k ∈ after, k = frame.2 ∨ k ∈ s.executed := by
    intro k hk
    rw [← hexecuted] at hk
    split at hk
    · exact .inr hk
    · simpa [or_comm] using hk
  have hun : ∀ k, s.Unexecuted k → k ∉ after ∧ ∀ f ∈ s.frames, f.2 ≠ k := by
    rintro k ⟨hnot, hne⟩
    refine ⟨fun hk => ?_, hne⟩
    obtain rfl | hk := hafter k hk
    · exact hne frame hframes rfl
    · exact hnot hk
  have hun' : ∀ k, s.Unexecuted k → State.Unexecuted { s with
      received := s.received.eraseIdx i
      responses := s.responses ++ [(frame, payload)]
      executed := after } k := by
    intro k hk
    exact ⟨(hun k hk).1, fun f hf => (hun k hk).2 f (hperm.subset hf)⟩
  refine ⟨?_, ?_, ?_, ?_, ?_, fun k hk hwrite => hun' k (h.told k hk hwrite), h.late,
    fun k hk hwrite => hun' k (h.failed k hk hwrite), ?_⟩
  · intro k hk
    obtain rfl | hk := hafter k hk
    · exact hheld.written frame hframes
    · exact h.written k hk
  · intro f hf hk
    obtain heq | hk := hafter f.2 hk
    · exact hothers f (List.mem_append_left _ (List.mem_append_left _ hf)) heq
    · exact h.received f (List.mem_of_mem_eraseIdx hf) hk
  · intro p hp hwrite hk
    have hp : p ∈ s.answers ∨ p = (frame, payload) := by
      simp only [State.answers, List.mem_append, List.mem_singleton] at hp ⊢
      tauto
    obtain hp | rfl := hp
    · have hmem := List.mem_append_right (s.received.eraseIdx i) (fst_mem_of_mem_answers hp)
      rw [← List.append_assoc] at hmem
      exact h.answers p hp hwrite ((hafter p.1.2 hk).resolve_left (hothers p.1 hmem))
    · cases payload with
      | result => rfl
      | tooLarge => simp [hfits rfl] at hwrite
      | error =>
        rw [← hexecuted, if_pos rfl] at hk
        exact absurd hk (h.received frame hreceived)
  · intro owner payload' hr hwrite hk
    obtain rfl | hk := hafter owner hk
    · exact absurd rfl ((h.once _ payload' hr).2 frame hframes)
    · exact h.replied owner payload' hr hwrite hk
  · intro owner payload' hr
    obtain ⟨hwritten, hne⟩ := h.once owner payload' hr
    exact ⟨hwritten, fun f hf => hne f (hperm.subset hf)⟩
  · intro hopen k hk hmem
    obtain rfl | hk := hafter k hk
    · exact ⟨frame, hperm.symm.subset hframes, rfl⟩
    · obtain ⟨f, hf, heq⟩ := h.waits hopen k hk hmem
      exact ⟨f, hperm.symm.subset hf, heq⟩

/-- A call is in the table under one ID only. -/
theorem Held.not_waiting (h : Held s) (hopen : s.closer.hasEmptied = false) {id : UInt32}
    {owner : Nat} (hframe : (id, owner) ∈ s.frames) :
    owner ∉ waiters (s.desk.entries.erase id) := by
  intro hmem
  obtain ⟨id', hlookup⟩ := Correlation.mem_waiters.mp hmem
  by_cases heq : id' = id
  · subst heq
    simp at hlookup
  · rw [AList.lookup_erase_ne heq] at hlookup
    have hheld := (h.sound hopen).owner id' owner (Option.join_eq_some_iff.mpr hlookup)
    have hpair := List.inj_on_of_nodup_map h.single hheld (h.frames _ hframe) rfl
    exact heq (Prod.ext_iff.mp hpair).1

/-- A response that was looked up is not on its way any more. -/
theorem Committed.lookup (h : Committed mayWrite s) (hheld : Held s) {id : UInt32}
    {owner : Nat} {payload : Payload} {r : Reader}
    (hr : s.reader = .holding (id, owner) payload)
    (hreader : r = .idle ∨ ∃ who, r = .sending who (.response owner payload)) :
    Committed mayWrite { s with desk := s.desk.settle id owner, reader := r } := by
  have hnone : r.frames = [] := by
    obtain rfl | ⟨who, rfl⟩ := hreader <;> rfl
  have hperm : s.frames.Perm ((id, owner) ::
      ({ s with desk := s.desk.settle id owner, reader := r } : State).frames) := by
    simp only [State.frames, hr, hnone, List.append_nil]
    exact List.perm_append_singleton _ _
  have hframe : (id, owner) ∈ s.frames := hperm.symm.subset List.mem_cons_self
  have hothers := hheld.ne_of_perm hperm
  have hsub : ∀ f ∈ ({ s with desk := s.desk.settle id owner, reader := r } : State).frames,
      f ∈ s.frames := fun f hf => hperm.symm.subset (List.mem_cons_of_mem _ hf)
  have hanswer : ((id, owner), payload) ∈ s.answers := by simp [State.answers, hr]
  have hreplied : ∀ owner' payload', State.Replied
      { s with desk := s.desk.settle id owner, reader := r } owner' payload' →
      owner' = owner ∧ payload' = payload ∨ s.Replied owner' payload' := by
    rintro owner' payload' ⟨k, hk | hk⟩
    · exact .inr ⟨k, .inl hk⟩
    · obtain rfl | ⟨who, rfl⟩ := hreader
      · cases hk
      · obtain ⟨-, rfl, rfl⟩ : who = k ∧ owner = owner' ∧ payload = payload' := by simpa using hk
        exact .inl ⟨rfl, rfl⟩
  have htold : ∀ k, State.Told { s with desk := s.desk.settle id owner, reader := r } k →
      s.Told k := by
    rintro k (hk | hk | hk)
    · exact .inl hk
    · exact .inr (.inl hk)
    · obtain rfl | ⟨who, rfl⟩ := hreader <;> cases hk
  have hun : ∀ k, s.Unexecuted k →
      State.Unexecuted { s with desk := s.desk.settle id owner, reader := r } k :=
    fun k hk => ⟨hk.1, fun f hf => hk.2 f (hsub f hf)⟩
  refine ⟨h.written, h.received, ?_, ?_, ?_,
    fun k hk hwrite => hun k (h.told k (htold k hk) hwrite),
    fun k hk => h.late k (htold k hk), fun k hk hwrite => hun k (h.failed k hk hwrite), ?_⟩
  · intro p hp
    refine h.answers p ?_
    obtain hp | hp := List.mem_append.mp hp
    · exact List.mem_append_left _ hp
    · obtain rfl | ⟨who, rfl⟩ := hreader <;> cases hp
  · intro owner' payload' hr' hwrite hmem
    obtain ⟨rfl, rfl⟩ | hr' := hreplied owner' payload' hr'
    · exact h.answers _ hanswer hwrite hmem
    · exact h.replied owner' payload' hr' hwrite hmem
  · intro owner' payload' hr'
    obtain ⟨rfl, rfl⟩ | hr' := hreplied owner' payload' hr'
    · exact ⟨hheld.written _ hframe, hothers⟩
    · obtain ⟨hwritten, hne⟩ := h.once owner' payload' hr'
      exact ⟨hwritten, fun f hf => hne f (hsub f hf)⟩
  · intro hopen k hk hmem
    have hmem' := (Correlation.waiters_erase_sublist s.desk.entries id).subset hmem
    obtain ⟨f, hf, rfl⟩ := h.waits hopen k hk hmem'
    obtain rfl | hf := List.mem_cons.mp (hperm.subset hf)
    · exact absurd hmem (hheld.not_waiting hopen hframe)
    · exact ⟨f, hf, rfl⟩

/-- Nobody is told who may write and has a frame. -/
theorem Committed.empty (h : Committed mayWrite s) (hc : s.closer = .signalled)
    (hnone : ∀ frame ∈ s.frames, mayWrite frame.2 = false) :
    Committed mayWrite { s with
      closer := .failing (waiters s.desk.entries), desk := s.desk.reset } := by
  have hopen : s.closer.hasEmptied = false := by rw [hc]; rfl
  refine ⟨h.written, h.received, h.answers, h.replied, h.once, ?_, fun _ _ => rfl, h.failed,
    nofun⟩
  intro k hk hwrite
  have hk : k ∈ waiters s.desk.entries ∨ s.Told k := by
    obtain hk | hk := hk
    · exact .inl hk
    · exact .inr (.inr hk)
  obtain hk | hk := hk
  · refine ⟨fun hexecuted => ?_, ?_⟩
    · obtain ⟨frame, hframe, rfl⟩ := h.waits hopen k hexecuted hk
      simp [hnone frame hframe] at hwrite
    · rintro frame hframe rfl
      simp [hnone frame hframe] at hwrite
  · exact h.told k hk hwrite

theorem Committed.receive (h : Committed mayWrite s) (hown : Own s) {k : Nat} {id : UInt32}
    {cancelled : Bool} {r : Reply} {rest : List Reply}
    (hk : s.phase k = .waiting id cancelled) (hc : s.channel k = r :: rest) :
    Committed mayWrite ({ s with channel := Function.update s.channel k rest }.setPhase k
      (.done (r.outcome cancelled))) := by
  have hwaits : (s.phase k).Waits := by rw [hk]; trivial
  have hr : r ∈ s.channel k := by rw [hc]; exact List.mem_cons_self
  have hphase := h.setPhase (k := k) (p := .done (r.outcome cancelled)) (fun _ => trivial) (by
    intro hp hwrite
    cases r with
    | closed => exact h.told k (.inr (.inl hr)) hwrite
    | response owner payload =>
      obtain rfl := hown.channel k owner payload (.inr hwaits) hr
      have hreplied : s.Replied owner payload := ⟨owner, .inl hr⟩
      refine ⟨fun hexecuted => ?_, (h.once owner payload hreplied).2⟩
      obtain rfl := h.replied owner payload hreplied hwrite hexecuted
      cases hp)
  have hrest : ∀ k', Function.update s.channel k rest k' ⊆ s.channel k' := by
    intro k'
    by_cases heq : k' = k
    · subst heq
      rw [Function.update_self, hc]
      exact List.subset_cons_self _ _
    · rw [Function.update_of_ne heq]
      exact List.Subset.refl _
  refine hphase.frame rfl (fun _ h => h) (List.Subset.refl _) (List.Subset.refl _)
    (List.Subset.refl _) ?_ ?_ (fun h => h) hphase.failed hphase.waits
  · rintro owner payload ⟨k', hk' | hk'⟩
    · exact ⟨k', .inl (hrest k' hk')⟩
    · exact ⟨k', .inr hk'⟩
  · rintro k' (hk' | hk' | hk')
    · exact .inl hk'
    · exact .inr (.inl (hrest k' hk'))
    · exact .inr (.inr hk')

/-- A reply that was on its way comes into its channel. -/
theorem Committed.send (h : Committed mayWrite s) {who : Nat} {reply : Reply} {r : Reader}
    {c : Closer} (hexpected : s.reader = .sending who reply ∨ reply = .closed ∧ s.Told who)
    (hr : r = s.reader ∨ r = .idle ∧ s.reader = .sending who reply)
    (htargets : c.targets ⊆ s.closer.targets) (hc : c.hasEmptied = s.closer.hasEmptied) :
    Committed mayWrite { s.send who reply with reader := r, closer := c } := by
  have hchannel : ∀ k x, x ∈ (s.send who reply).channel k →
      x ∈ s.channel k ∨ k = who ∧ x = reply := by
    intro k x hx
    by_cases heq : k = who
    · subst heq
      simpa [State.send] using hx
    · exact .inl (by simpa [State.send, heq] using hx)
  have hframes : ({ s.send who reply with reader := r, closer := c } : State).frames =
      s.frames := by
    obtain rfl | ⟨rfl, hsending⟩ := hr
    · rfl
    · simp only [State.frames, hsending]
      rfl
  have hanswers : ({ s.send who reply with reader := r, closer := c } : State).answers =
      s.answers := by
    obtain rfl | ⟨rfl, hsending⟩ := hr
    · rfl
    · simp only [State.answers, hsending]
      rfl
  have hreader : ∀ k x, r = .sending k x → s.reader = .sending k x := by
    rintro k x rfl
    obtain hr | ⟨hr, -⟩ := hr
    · exact hr.symm
    · cases hr
  refine h.frame rfl (fun _ h => h) (List.Subset.refl _) (hanswers ▸ List.Subset.refl _)
    (hframes ▸ List.Subset.refl _) ?_ ?_ (fun h => hc.trans h) h.failed ?_
  · rintro owner payload ⟨k, hk | hk⟩
    · obtain hk | ⟨rfl, rfl⟩ := hchannel k _ hk
      · exact ⟨k, .inl hk⟩
      · exact ⟨k, .inr (hexpected.resolve_right (by simp))⟩
    · exact ⟨k, .inr (hreader k _ hk)⟩
  · rintro k (hk | hk | hk)
    · exact .inl (htargets hk)
    · obtain hk | ⟨rfl, rfl⟩ := hchannel k _ hk
      · exact .inr (.inl hk)
      · obtain hsending | ⟨-, htold⟩ := hexpected
        · exact .inr (.inr hsending)
        · exact htold
    · exact .inr (.inr (hreader k _ hk))
  · intro hopen
    rw [hframes]
    exact h.waits (hc ▸ hopen)

theorem Committed.move (h : Committed mayWrite s) (hheld : Held s) (hown : Own s) {a : Action}
    (hmove : Move mayWrite s a s') (hsettles : Settles mayWrite s a) : Committed mayWrite s' := by
  cases hmove with
  | cancel k =>
    exact h.frame rfl (fun _ h => h) (List.Subset.refl _) (List.Subset.refl _)
      (List.Subset.refl _) (fun _ _ h => h) (fun _ h => h) (fun h => h) h.failed h.waits
  | «local» k writer hlocal =>
    have hnext := h.local hheld hlocal
    exact hnext.frame rfl (fun _ h => h) (List.Subset.refl _) (List.Subset.refl _)
      (List.Subset.refl _) (fun _ _ h => h) (fun _ h => h) (fun h => h) hnext.failed hnext.waits
  | register k hk hregister => exact h.register hk hregister
  | withdraw k hwithdraws => exact h.withdraw hwithdraws
  | write k hk hopen => exact h.write hheld hk hopen
  | abandon k hk hwrite =>
    refine (h.desk (Correlation.waiters_abandon_sublist _ _)).setPhase (fun _ => trivial) ?_
    intro _ hnot
    simp [hwrite] at hnot
  | receive k hk hc => exact h.receive hown hk hc
  | answer i payload hframe =>
    exact h.answer hheld hframe fun hlarge => hsettles hlarge _ hframe
  | read hr hs =>
    have hframes : ({ s with reader := .holding _ _, responses := _ } : State).frames.Perm
        s.frames := frames_read hr hs
    refine h.frame rfl (fun _ h => h) (List.Subset.refl _) ?_ hframes.subset ?_ ?_
      (fun h => h) h.failed ?_
    · simp [State.answers, hr, hs]
    · rintro owner payload ⟨k, hk | hk⟩
      · exact ⟨k, .inl hk⟩
      · cases hk
    · rintro k (hk | hk | hk)
      · exact .inl hk
      · exact .inr (.inl hk)
      · cases hk
    · intro hopen k hk hmem
      obtain ⟨f, hf, heq⟩ := h.waits hopen k hk hmem
      exact ⟨f, hframes.symm.subset hf, heq⟩
  | drop hr hw => exact h.lookup hheld hr (.inl rfl)
  | find hr hw => exact h.lookup hheld hr (.inr ⟨_, rfl⟩)
  | deliver hr =>
    exact h.send (c := s.closer) (.inl hr) (.inr ⟨rfl, hr⟩) (List.Subset.refl _) rfl
  | exit hr =>
    have hframes : ({ s with reader := .exited } : State).frames = s.frames := by
      simp only [State.frames, hr]
      rfl
    refine h.frame rfl (fun _ h => h) (List.Subset.refl _) ?_ (hframes ▸ List.Subset.refl _) ?_ ?_
      (fun h => h) h.failed (hframes ▸ h.waits)
    · simp [State.answers, hr]
    · rintro owner payload ⟨k, hk | hk⟩
      · exact ⟨k, .inl hk⟩
      · cases hk
    · rintro k (hk | hk | hk)
      · exact .inl hk
      · exact .inr (.inl hk)
      · cases hk
  | close hcloses =>
    refine h.frame rfl (fun _ h => h) (List.Subset.refl _) (List.Subset.refl _)
      (List.Subset.refl _) (fun _ _ h => h) ?_ (fun h => hcloses.hasEmptied_eq.trans h) h.failed
      (fun hopen => h.waits (hcloses.hasEmptied_eq.symm.trans hopen))
    rintro k (hk | hk)
    · exact .inl (hcloses.targets_eq ▸ hk)
    · exact .inr hk
  | empty hc => exact h.empty hc hsettles
  | tell i hc hwho =>
    refine h.send (r := s.reader) (.inr ⟨rfl, .inl ?_⟩) (.inl rfl) ?_ ?_
    · rw [hc]
      exact List.mem_of_getElem? hwho
    · rw [hc]
      exact (List.eraseIdx_sublist _ _).subset
    · rw [hc]
      rfl

end

/-- If no response to a request that may write is too large and the client is not
closed while such a request has no answer, then a call that may write does not
return the context error if its request was executed. -/
theorem no_contextError_of_settles {mayWrite : Nat → Bool} {s : State}
    (h : Run.Reachable (step mayWrite) (Settles mayWrite) initial s) {k : Nat}
    (hwrite : mayWrite k = true) (hexecuted : k ∈ s.executed) :
    s.phase k ≠ .done .contextError := by
  have hall : Held s ∧ Own s ∧ Committed mayWrite s := by
    refine h.invariant (P := fun s => Held s ∧ Own s ∧ Committed mayWrite s)
      ⟨held_initial, own_initial, committed_initial mayWrite⟩ ?_
    rintro s a s' ⟨hheld, hown, hcommitted⟩ hsettles hstep
    have hmove := move_of_step hstep
    exact ⟨hheld.move hmove, hown.move hheld hmove, hcommitted.move hheld hown hmove hsettles⟩
  intro hk
  exact (hall.2.2.failed k (by rw [hk]; rfl) hwrite).1 hexecuted

end RivetGo.Socket

import RivetGo.Socket.Client

/-!
# What the steps of a client do

`Local` are the steps of a call that change nothing but its phase and the write
semaphore. `Move` is everything a step can do.
-/

namespace RivetGo.Socket

open Correlation (Desk waiters)

/-- The outcome of a call that got no response. -/
def Outcome.Unanswered (outcome : Outcome) : Prop :=
  ∀ owner payload, outcome ≠ .answered owner payload

/-- A call goes on by itself. -/
inductive Local (mayWrite : Nat → Bool) (s : State) (k : Nat) : Phase → Phase → Prop where
  | refuse : Local mayWrite s k .idle (.done .contextError)
  | acquire (id : UInt32) : Local mayWrite s k (.registered id) (.writing id)
  | giveUp (id : UInt32) (started : Bool) {outcome : Outcome} : outcome.Unanswered →
      Local mayWrite s k (.registered id) (.failing id started outcome)
  | failWrite (id : UInt32) (started : Bool) {outcome : Outcome} : outcome.Unanswered →
      Local mayWrite s k (.writing id) (.failing id started outcome)
  | returnClosed (outcome : Outcome) : Local mayWrite s k (.closing outcome) (.done outcome)
  | notice (id : UInt32) : mayWrite k = true →
      Local mayWrite s k (.waiting id false) (.waiting id true)
  | seeClosed (id : UInt32) (cancelled : Bool) :
      Local mayWrite s k (.waiting id cancelled) (.done .closed)

/-- A call takes its entry out of the table because its frame was not written. -/
inductive Withdraws (id : UInt32) : Phase → Phase → Prop where
  | reject : Withdraws id (.registered id) (.done .failed)
  | close (outcome : Outcome) : Withdraws id (.failing id true outcome) (.closing outcome)
  | remove (outcome : Outcome) : Withdraws id (.failing id false outcome) (.done outcome)

/-- Closing goes on without a change to the table or a channel. -/
inductive Closes : Action → Closer → Closer → Prop where
  | disconnect : Closes .disconnect .open .disconnected
  | signal : Closes .signal .disconnected .signalled
  | finish : Closes .finish (.failing []) .finished

/-- Everything a step can do. -/
inductive Move (mayWrite : Nat → Bool) (s : State) : Action → State → Prop where
  | cancel (k : Nat) :
      Move mayWrite s (.cancel k) { s with cancelled := Function.update s.cancelled k true }
  | local {a : Action} (k : Nat) (writer : Option Nat) {p : Phase} :
      Local mayWrite s k (s.phase k) p → a.call = some k →
      Move mayWrite s a ({ s with writer := writer }.setPhase k p)
  | register (k : Nat) {id : UInt32} {desk : Desk UInt32 Nat} : s.phase k = .idle →
      s.desk.register (· + 1) 0 (2 ^ 32) k = some (id, desk) →
      Move mayWrite s (.register k) ({ s with desk := desk }.setPhase k (.registered id))
  | withdraw {a : Action} (k : Nat) {id : UInt32} {p : Phase} : Withdraws id (s.phase k) p →
      a.call = some k →
      Move mayWrite s a ({ s with desk := s.desk.settle id k }.setPhase k p)
  | write (k : Nat) {id : UInt32} : s.phase k = .writing id → s.closer = .open →
      Move mayWrite s (.write k)
        ({ s with writer := none, received := s.received ++ [(id, k)] }.setPhase k
          (.waiting id false))
  | abandon (k : Nat) {id : UInt32} : s.phase k = .waiting id false → mayWrite k = false →
      Move mayWrite s (.notice k)
        ({ s with desk := s.desk.abandon id }.setPhase k (.done .contextError))
  | receive (k : Nat) {id : UInt32} {cancelled : Bool} {r : Reply} {rest : List Reply} :
      s.phase k = .waiting id cancelled → s.channel k = r :: rest →
      Move mayWrite s (.receive k)
        ({ s with channel := Function.update s.channel k rest }.setPhase k
          (.done (r.outcome cancelled)))
  | answer (i : Nat) {frame : Frame} (payload : Payload) : s.received[i]? = some frame →
      Move mayWrite s (.answer i payload)
        { s with
          received := s.received.eraseIdx i
          responses := s.responses ++ [(frame, payload)]
          executed := if payload = .error then s.executed else s.executed ++ [frame.2] }
  | read {frame : Frame} {payload : Payload} {rest : List (Frame × Payload)} :
      s.reader = .idle → s.responses = (frame, payload) :: rest →
      Move mayWrite s .read { s with reader := .holding frame payload, responses := rest }
  | drop {id : UInt32} {owner : Nat} {payload : Payload} :
      s.reader = .holding (id, owner) payload → s.desk.waiting id = none →
      Move mayWrite s .lookup { s with desk := s.desk.settle id owner, reader := .idle }
  | find {id : UInt32} {owner : Nat} {payload : Payload} {who : Nat} :
      s.reader = .holding (id, owner) payload → s.desk.waiting id = some who →
      Move mayWrite s .lookup
        { s with
          desk := s.desk.settle id owner
          reader := .sending who (.response owner payload) }
  | deliver {who : Nat} {reply : Reply} : s.reader = .sending who reply →
      Move mayWrite s .deliver { s.send who reply with reader := .idle }
  | exit : s.reader = .idle → Move mayWrite s .exit { s with reader := .exited }
  | close {a : Action} {c : Closer} : Closes a s.closer c →
      Move mayWrite s a { s with closer := c }
  | empty : s.closer = .signalled →
      Move mayWrite s .empty
        { s with closer := .failing (waiters s.desk.entries), desk := s.desk.reset }
  | tell (i : Nat) {rest : List Nat} {who : Nat} : s.closer = .failing rest →
      rest[i]? = some who →
      Move mayWrite s (.tell i) { s.send who .closed with closer := .failing (rest.eraseIdx i) }

theorem move_of_step {mayWrite : Nat → Bool} {s s' : State} {a : Action}
    (h : step mayWrite s a = some s') : Move mayWrite s a s' := by
  cases a with
  | cancel k =>
    obtain rfl := Option.some.inj h
    exact .cancel k
  | refuse k =>
    cases hp : s.phase k with
    | idle =>
      obtain ⟨-, rfl⟩ : s.cancelled k = true ∧ _ = s' := by simpa [step, hp] using h
      exact .local k s.writer (hp ▸ .refuse) rfl
    | _ => simp [step, hp] at h
  | register k =>
    cases hp : s.phase k with
    | idle =>
      obtain ⟨-, id, desk, hregister, rfl⟩ :
          s.cancelled k = false ∧ ∃ id desk,
            s.desk.register (· + 1) 0 (2 ^ 32) k = some (id, desk) ∧ _ = s' := by
        simpa [step, hp] using h
      exact .register k hp hregister
    | _ => simp [step, hp] at h
  | reject k =>
    cases hp : s.phase k with
    | registered id =>
      obtain rfl : _ = s' := by simpa [step, hp] using h
      exact .withdraw k (hp ▸ .reject) rfl
    | _ => simp [step, hp] at h
  | acquire k =>
    cases hp : s.phase k with
    | registered id =>
      obtain ⟨-, rfl⟩ : s.writer = none ∧ _ = s' := by simpa [step, hp] using h
      exact .local k (some k) (hp ▸ .acquire id) rfl
    | _ => simp [step, hp] at h
  | giveUp k =>
    cases hp : s.phase k with
    | registered id =>
      obtain ⟨-, rfl⟩ : s.cancelled k = true ∧ _ = s' := by simpa [step, hp] using h
      exact .local k s.writer (hp ▸ .giveUp id false nofun) rfl
    | writing id =>
      obtain ⟨-, rfl⟩ : s.cancelled k = true ∧ _ = s' := by simpa [step, hp] using h
      exact .local k none (hp ▸ .failWrite id false nofun) rfl
    | _ => simp [step, hp] at h
  | seeClosedEarly k =>
    cases hp : s.phase k with
    | registered id =>
      obtain ⟨-, rfl⟩ : s.closer.hasSignalled = true ∧ _ = s' := by simpa [step, hp] using h
      exact .local k s.writer (hp ▸ .giveUp id false nofun) rfl
    | _ => simp [step, hp] at h
  | write k =>
    cases hp : s.phase k with
    | writing id =>
      obtain ⟨hopen, rfl⟩ : s.closer = .open ∧ _ = s' := by simpa [step, hp] using h
      exact .write k hp hopen
    | _ => simp [step, hp] at h
  | failWrite k =>
    cases hp : s.phase k with
    | writing id =>
      obtain rfl : _ = s' := by simpa [step, hp] using h
      refine .local k none (hp ▸ .failWrite id true ?_) rfl
      split <;> nofun
    | _ => simp [step, hp] at h
  | remove k =>
    cases hp : s.phase k with
    | failing id started outcome =>
      obtain rfl : _ = s' := by simpa [step, hp] using h
      cases started with
      | true => exact .withdraw k (hp ▸ .close outcome) rfl
      | false => exact .withdraw k (hp ▸ .remove outcome) rfl
    | _ => simp [step, hp] at h
  | returnClosed k =>
    cases hp : s.phase k with
    | closing outcome =>
      obtain ⟨-, rfl⟩ : s.closer = .finished ∧ _ = s' := by simpa [step, hp] using h
      exact .local k s.writer (hp ▸ .returnClosed outcome) rfl
    | _ => simp [step, hp] at h
  | notice k =>
    cases hp : s.phase k with
    | waiting id cancelled =>
      cases cancelled with
      | true => simp [step, hp] at h
      | false =>
        cases hwrite : mayWrite k with
        | true =>
          obtain ⟨-, rfl⟩ : s.cancelled k = true ∧ _ = s' := by
            simpa [step, hp, hwrite] using h
          exact .local k s.writer (hp ▸ .notice id hwrite) rfl
        | false =>
          obtain ⟨-, rfl⟩ : s.cancelled k = true ∧ _ = s' := by
            simpa [step, hp, hwrite] using h
          exact .abandon k hp hwrite
    | _ => simp [step, hp] at h
  | seeClosed k =>
    cases hp : s.phase k with
    | waiting id cancelled =>
      obtain ⟨-, rfl⟩ : s.closer.hasSignalled = true ∧ _ = s' := by simpa [step, hp] using h
      exact .local k s.writer (hp ▸ .seeClosed id cancelled) rfl
    | _ => simp [step, hp] at h
  | receive k =>
    cases hp : s.phase k with
    | waiting id cancelled =>
      cases hc : s.channel k with
      | nil => simp [step, hp, hc] at h
      | cons r rest =>
        obtain rfl : _ = s' := by simpa [step, hp, hc] using h
        exact .receive k hp hc
    | _ => simp [step, hp] at h
  | answer i payload =>
    obtain ⟨frame, hframe, rfl⟩ := Option.map_eq_some_iff.mp h
    exact .answer i payload hframe
  | read =>
    cases hr : s.reader with
    | idle =>
      cases hs : s.responses with
      | nil => simp [step, hr, hs] at h
      | cons r rest =>
        obtain ⟨-, rfl⟩ : s.closer = .open ∧ _ = s' := by simpa [step, hr, hs] using h
        exact .read hr hs
    | _ => simp [step, hr] at h
  | lookup =>
    cases hr : s.reader with
    | holding frame payload =>
      obtain ⟨id, owner⟩ := frame
      obtain rfl : _ = s' := by simpa [step, hr] using h
      cases hw : s.desk.waiting id with
      | none => exact .drop hr hw
      | some who => exact .find hr hw
    | _ => simp [step, hr] at h
  | deliver =>
    cases hr : s.reader with
    | sending who reply =>
      obtain ⟨-, rfl⟩ : (s.channel who).length < channelCapacity ∧ _ = s' := by
        simpa [step, hr] using h
      exact .deliver hr
    | _ => simp [step, hr] at h
  | exit =>
    cases hr : s.reader with
    | idle =>
      obtain rfl : _ = s' := by simpa [step, hr] using h
      exact .exit hr
    | _ => simp [step, hr] at h
  | disconnect =>
    obtain ⟨hc, rfl⟩ : s.closer = .open ∧ _ = s' := by simpa [step] using h
    exact .close (hc ▸ .disconnect)
  | signal =>
    obtain ⟨hc, rfl⟩ : s.closer = .disconnected ∧ _ = s' := by simpa [step] using h
    exact .close (hc ▸ .signal)
  | empty =>
    obtain ⟨hc, rfl⟩ : s.closer = .signalled ∧ _ = s' := by simpa [step] using h
    exact .empty hc
  | tell i =>
    cases hc : s.closer with
    | failing rest =>
      obtain ⟨who, hwho, -, rfl⟩ : ∃ who, rest[i]? = some who ∧
          (s.channel who).length < channelCapacity ∧ _ = s' := by
        simpa [step, hc, Option.bind_eq_some_iff] using h
      exact .tell i hc hwho
    | _ => simp [step, hc] at h
  | finish =>
    obtain ⟨hc, rfl⟩ : s.closer = .failing [] ∧ _ = s' := by simpa [step] using h
    exact .close (hc ▸ .finish)

end RivetGo.Socket

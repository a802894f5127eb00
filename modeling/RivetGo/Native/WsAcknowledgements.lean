import Mathlib
import RivetGo.Data.Run

/-!
# The acknowledgements of a WebSocket

A hibernatable WebSocket has a queue of the messages that Go has not acknowledged. A message
is entered if its index follows the last one, and an acknowledgement takes out the front of the
queue if it has its index; anything else closes the WebSocket. Whoever removes the WebSocket
from the table then drains the queue and cancels what was in it.

The steps are the sections under a lock. A call that is under way is an element of a list: the
messages that have found the WebSocket (`arriving`), the acknowledgements that have found it
(`acking`), the messages taken out by an acknowledgement (`completing`) or by the drain
(`cancelling`), and the calls that are about to close it (`skipping`, `rejecting`). `received`,
`answers` and `writes` record what happened.
-/

namespace RivetGo.WsAcknowledgements

/-- An entry of the queue. A message is named by the number of its call. -/
structure Pending where
  index : UInt16
  message : Nat
  deriving DecidableEq

/-- How a completion leaves the pending state. -/
inductive Completion where
  | completed
  | cancelled
  deriving DecidableEq

/-- An acknowledgement, the front of the queue it has found, and whether it was accepted. -/
structure Answer where
  index : UInt16
  front : Option Pending
  accepted : Bool
  deriving DecidableEq

structure State where
  registered : Bool := true
  lastReceived : Option UInt16 := none
  pending : List Pending := []
  /-- The calls of `websocket_message` so far. -/
  calls : Nat := 0
  arriving : List Pending := []
  skipping : Nat := 0
  acking : List UInt16 := []
  completing : List Nat := []
  rejecting : Nat := 0
  /-- The WebSocket was removed, and the queue is not drained yet. -/
  draining : Bool := false
  cancelling : List Nat := []
  received : List Pending := []
  answers : List Answer := []
  writes : List (Nat × Completion) := []
  deriving DecidableEq

def initial : State := {}

inductive Action where
  /-- `websocket_message` looks the WebSocket up. -/
  | message (index : UInt16)
  /-- Its section under the lock of the queue. -/
  | push (p : Pending)
  /-- It closes the WebSocket because of the index. -/
  | skip
  /-- `ack_ws_message` looks the WebSocket up. -/
  | ack (index : UInt16)
  /-- Its section under the lock of the queue. -/
  | pop (index : UInt16)
  | complete (message : Nat)
  | reject
  /-- Any other `close_ws`, `websocket_closed` or `hibernate_ws` removes the WebSocket. -/
  | close
  /-- `clear_ws_acknowledgements` of whoever has removed it. -/
  | drain
  | cancel
  deriving DecidableEq

/-- The WebSocket is removed from the table, unless it is gone. -/
def State.close (s : State) : State :=
  if s.registered then { s with registered := false, draining := true } else s

def State.push (s : State) (p : Pending) : State :=
  if s.lastReceived.any (· + 1 ≠ p.index) then { s with skipping := s.skipping + 1 }
  else
    { s with
      lastReceived := some p.index
      pending := s.pending ++ [p]
      received := p :: s.received }

def State.pop (s : State) (index : UInt16) : State :=
  match s.pending with
  | p :: rest =>
    if p.index = index then
      { s with
        pending := rest
        completing := p.message :: s.completing
        answers := ⟨index, some p, true⟩ :: s.answers }
    else
      { s with
        rejecting := s.rejecting + 1
        answers := ⟨index, some p, false⟩ :: s.answers }
  | [] =>
    { s with
      rejecting := s.rejecting + 1
      answers := ⟨index, none, false⟩ :: s.answers }

def step (s : State) : Action → Option State
  | .message index =>
    if s.registered then
      some { s with arriving := ⟨index, s.calls⟩ :: s.arriving, calls := s.calls + 1 }
    else some s
  | .push p =>
    if p ∈ s.arriving then some ({ s with arriving := s.arriving.erase p }.push p) else none
  | .skip => match s.skipping with
    | n + 1 => some { s with skipping := n }.close
    | 0 => none
  | .ack index =>
    if s.registered then some { s with acking := index :: s.acking } else some s
  | .pop index =>
    if index ∈ s.acking then some ({ s with acking := s.acking.erase index }.pop index)
    else none
  | .complete k =>
    if k ∈ s.completing then
      some { s with
        completing := s.completing.erase k
        writes := (k, .completed) :: s.writes }
    else none
  | .reject => match s.rejecting with
    | n + 1 => some { s with rejecting := n }.close
    | 0 => none
  | .close => some s.close
  | .drain =>
    if s.draining then
      some { s with
        draining := false
        pending := []
        cancelling := s.pending.map Pending.message ++ s.cancelling }
    else none
  | .cancel => match s.cancelling with
    | k :: rest => some { s with cancelling := rest, writes := (k, .cancelled) :: s.writes }
    | [] => none

/-! ## The property -/

/-- Every index is one more than the one before, and the last one is `last`. -/
def ConsecutiveTo (last : Option UInt16) (indexes : List UInt16) : Prop :=
  indexes.IsChain (fun i j => j = i + 1) ∧ (indexes ≠ [] → indexes.getLast? = last)

structure Sound (s : State) : Prop where
  /-- The queue ends at the last message. -/
  queue : ConsecutiveTo s.lastReceived (s.pending.map Pending.index)
  /-- An acknowledgement is accepted exactly if it has the index of the front. -/
  accepted : ∀ a ∈ s.answers, a.accepted = true ↔ a.front.map Pending.index = some a.index
  /-- When a rejected acknowledgement has returned the WebSocket is closed. -/
  rejected : (∃ a ∈ s.answers, a.accepted = false) → s.rejecting = 0 → s.registered = false
  /-- A completion is written at most once. -/
  once : (s.writes.map Prod.fst).Nodup
  completed : ∀ k, (k, .completed) ∈ s.writes → ∃ p ∈ s.received, p.message = k ∧
    ⟨p.index, some p, true⟩ ∈ s.answers
  cancelled : ∀ k, (k, .cancelled) ∈ s.writes → s.registered = false

/-! ## What a step can do -/

variable {s s' : State} {a : Action}

inductive Move (s : State) : Action → State → Prop
  | ignored (a : Action) : Move s a s
  | arrives (index : UInt16) :
      Move s (.message index)
        { s with arriving := ⟨index, s.calls⟩ :: s.arriving, calls := s.calls + 1 }
  | skips (p : Pending) (hp : p ∈ s.arriving) :
      Move s (.push p)
        { s with arriving := s.arriving.erase p, skipping := s.skipping + 1 }
  | enters (p : Pending) (hp : p ∈ s.arriving)
      (hnext : ∀ last, s.lastReceived = some last → p.index = last + 1) :
      Move s (.push p)
        { s with
          arriving := s.arriving.erase p
          lastReceived := some p.index
          pending := s.pending ++ [p]
          received := p :: s.received }
  | asks (index : UInt16) : Move s (.ack index) { s with acking := index :: s.acking }
  | accepts (p : Pending) (rest : List Pending) (acking : List UInt16)
      (hpending : s.pending = p :: rest) :
      Move s (.pop p.index)
        { s with
          acking := acking
          pending := rest
          completing := p.message :: s.completing
          answers := ⟨p.index, some p, true⟩ :: s.answers }
  | rejects (index : UInt16) (front : Option Pending) (acking : List UInt16)
      (hindex : front.map Pending.index ≠ some index) :
      Move s (.pop index)
        { s with
          acking := acking
          rejecting := s.rejecting + 1
          answers := ⟨index, front, false⟩ :: s.answers }
  | completes (k : Nat) (hk : k ∈ s.completing) :
      Move s (.complete k)
        { s with completing := s.completing.erase k, writes := (k, .completed) :: s.writes }
  | closes (a : Action) (skipping rejecting : Nat) :
      Move s a { s with skipping := skipping, rejecting := rejecting }.close
  | drains (hdraining : s.draining = true) :
      Move s .drain
        { s with
          draining := false
          pending := []
          cancelling := s.pending.map Pending.message ++ s.cancelling }
  | cancels (k : Nat) (rest : List Nat) (hcancelling : s.cancelling = k :: rest) :
      Move s .cancel { s with cancelling := rest, writes := (k, .cancelled) :: s.writes }

theorem move_of_push {p : Pending} (hp : p ∈ s.arriving) :
    Move s (.push p) ({ s with arriving := s.arriving.erase p }.push p) := by
  rw [State.push]
  split_ifs with hskip
  · exact .skips p hp
  · refine .enters p hp fun last hlast => ?_
    by_contra hne
    refine hskip ?_
    rw [hlast]
    exact decide_eq_true (Ne.symm hne)

theorem move_of_pop {index : UInt16} (acking : List UInt16) :
    Move s (.pop index) ({ s with acking := acking }.pop index) := by
  rw [State.pop]
  split
  case h_1 p rest hpending =>
    split_ifs with hindex
    · subst hindex
      exact .accepts p rest acking hpending
    · exact .rejects index (some p) acking fun h => hindex (Option.some.inj h)
  case h_2 => exact .rejects index none acking (Option.some_ne_none _).symm

theorem move_of_step (hs : step s a = some s') : Move s a s' := by
  cases a with
  | message index =>
    rw [step] at hs
    split_ifs at hs <;> obtain rfl := Option.some.inj hs
    · exact .arrives index
    · exact .ignored _
  | push p =>
    obtain ⟨hp, rfl⟩ := Run.guard_eq_some.mp hs
    exact move_of_push hp
  | skip =>
    rw [step] at hs
    split at hs
    case h_1 n _ =>
      obtain rfl := Option.some.inj hs
      exact .closes _ n s.rejecting
    case h_2 => exact absurd hs.symm (Option.some_ne_none _)
  | ack index =>
    rw [step] at hs
    split_ifs at hs <;> obtain rfl := Option.some.inj hs
    · exact .asks index
    · exact .ignored _
  | pop index =>
    obtain ⟨-, rfl⟩ := Run.guard_eq_some.mp hs
    exact move_of_pop _
  | complete k =>
    obtain ⟨hk, rfl⟩ := Run.guard_eq_some.mp hs
    exact .completes k hk
  | reject =>
    rw [step] at hs
    split at hs
    case h_1 n _ =>
      obtain rfl := Option.some.inj hs
      exact .closes _ s.skipping n
    case h_2 => exact absurd hs.symm (Option.some_ne_none _)
  | close =>
    obtain rfl := Option.some.inj hs
    exact .closes _ s.skipping s.rejecting
  | drain =>
    obtain ⟨hdraining, rfl⟩ := Run.guard_eq_some.mp hs
    exact .drains hdraining
  | cancel =>
    rw [step] at hs
    split at hs
    case h_1 k rest hcancelling =>
      obtain rfl := Option.some.inj hs
      exact .cancels k rest hcancelling
    case h_2 => exact absurd hs.symm (Option.some_ne_none _)

/-! ## Closing -/

/-- Closing touches the registration only. -/
theorem close_eq (s : State) :
    s.close = { s with registered := false, draining := s.close.draining } := by
  rw [State.close]
  split_ifs with h
  · rfl
  · rw [← Bool.eq_false_iff.mpr h]

/-! ## The queue -/

theorem ConsecutiveTo.tail {last : Option UInt16} {i : UInt16} {indexes : List UInt16}
    (h : ConsecutiveTo last (i :: indexes)) : ConsecutiveTo last indexes := by
  refine ⟨h.1.tail, fun hne => ?_⟩
  rw [← h.2 (List.cons_ne_nil _ _)]
  obtain ⟨j, rest, rfl⟩ := List.exists_cons_of_ne_nil hne
  rw [List.getLast?_cons_cons]

theorem ConsecutiveTo.concat {last : Option UInt16} {i : UInt16} {indexes : List UInt16}
    (h : ConsecutiveTo last indexes) (hnext : ∀ j, last = some j → i = j + 1) :
    ConsecutiveTo (some i) (indexes ++ [i]) := by
  refine ⟨List.isChain_append.mpr ⟨h.1, List.isChain_singleton i, ?_⟩, fun _ => ?_⟩
  · intro j hj k hk
    obtain rfl : i = k := by simpa using hk
    have hne : indexes ≠ [] := by
      rintro rfl
      simp at hj
    exact hnext j ((h.2 hne).symm.trans hj)
  · exact List.getLast?_concat

theorem queue_step (h : ConsecutiveTo s.lastReceived (s.pending.map Pending.index))
    (hs : step s a = some s') : ConsecutiveTo s'.lastReceived (s'.pending.map Pending.index) := by
  cases move_of_step hs with
  | enters p hp hnext =>
    rw [List.map_append]
    exact h.concat hnext
  | accepts p rest acking hpending =>
    rw [hpending] at h
    exact h.tail
  | drains _ => exact ⟨List.isChain_nil, fun hne => absurd rfl hne⟩
  | closes _ skipping rejecting =>
    rw [close_eq]
    exact h
  | _ => exact h

/-! ## Completions -/

/-- The places where a message is: on its way, in the queue, taken out, or done. -/
def State.tokens (s : State) (k : Nat) : Nat :=
  (s.arriving.map Pending.message).count k + (s.pending.map Pending.message).count k +
    s.completing.count k + s.cancelling.count k + (s.writes.map Prod.fst).count k

/-- A message is in at most one place, and a message that is to come is in none. -/
structure Single (s : State) : Prop where
  most : ∀ k, s.tokens k ≤ 1
  fresh : ∀ k, s.calls ≤ k → s.tokens k = 0

theorem Single.of_le (h : Single s) (hcalls : s'.calls = s.calls)
    (hle : ∀ k, s'.tokens k ≤ s.tokens k) : Single s' where
  most k := Nat.le_trans (hle k) (h.most k)
  fresh k hk := Nat.le_zero.mp (Nat.le_trans (hle k) (h.fresh k (hcalls ▸ hk)).le)

theorem count_erase_message {p : Pending} {ps : List Pending} (hp : p ∈ ps) (k : Nat) :
    (ps.map Pending.message).count k =
      ((ps.erase p).map Pending.message).count k + if p.message == k then 1 else 0 := by
  rw [((List.perm_cons_erase hp).map Pending.message).count_eq, List.map_cons, List.count_cons]

theorem single_arrives (h : Single s) (index : UInt16) :
    Single { s with arriving := ⟨index, s.calls⟩ :: s.arriving, calls := s.calls + 1 } := by
  have htokens : ∀ k, State.tokens
      { s with arriving := ⟨index, s.calls⟩ :: s.arriving, calls := s.calls + 1 } k =
        s.tokens k + if s.calls == k then 1 else 0 := fun k => by
    simp only [State.tokens, List.map_cons, List.count_cons]
    omega
  refine ⟨fun k => ?_, fun k hk => ?_⟩
  · rw [htokens]
    by_cases heq : s.calls = k
    · rw [h.fresh k heq.le, if_pos (beq_iff_eq.mpr heq)]
    · rw [if_neg (mt beq_iff_eq.mp heq)]
      exact h.most k
  · rw [htokens, h.fresh k (Nat.le_of_succ_le hk),
      if_neg (mt beq_iff_eq.mp (Nat.lt_of_succ_le hk).ne)]

theorem single_step (h : Single s) (hs : step s a = some s') : Single s' := by
  cases move_of_step hs with
  | arrives index => exact single_arrives h index
  | skips p hp =>
    refine h.of_le rfl fun k => ?_
    have hcount := count_erase_message hp k
    simp only [State.tokens]
    omega
  | enters p hp _ =>
    refine h.of_le rfl fun k => ?_
    have hcount := count_erase_message hp k
    simp only [State.tokens, List.map_append, List.count_append, List.map_cons, List.map_nil,
      List.count_cons, List.count_nil]
    omega
  | accepts p rest acking hpending =>
    refine h.of_le rfl fun k => ?_
    simp only [State.tokens, hpending, List.map_cons, List.count_cons]
    omega
  | completes j hj =>
    refine h.of_le rfl fun k => ?_
    have hcount := (List.perm_cons_erase hj).count_eq k
    simp only [State.tokens, List.map_cons, List.count_cons] at hcount ⊢
    omega
  | drains _ =>
    refine h.of_le rfl fun k => ?_
    simp only [State.tokens, List.count_append, List.map_nil, List.count_nil]
    omega
  | cancels j rest hcancelling =>
    refine h.of_le rfl fun k => ?_
    simp only [State.tokens, hcancelling, List.map_cons, List.count_cons]
    omega
  | closes _ skipping rejecting =>
    rw [close_eq]
    exact h.of_le rfl fun k => Nat.le_refl _
  | _ => exact h.of_le rfl fun k => Nat.le_refl _

/-! ## Where a completion comes from -/

/-- The message was taken out by an acknowledgement with its own index. -/
def State.Acknowledged (s : State) (k : Nat) : Prop :=
  ∃ p ∈ s.received, p.message = k ∧ ⟨p.index, some p, true⟩ ∈ s.answers

structure Sourced (s : State) : Prop where
  pending : ∀ p ∈ s.pending, p ∈ s.received
  completing : ∀ k ∈ s.completing, s.Acknowledged k
  completed : ∀ k, (k, .completed) ∈ s.writes → s.Acknowledged k
  draining : s.draining = true → s.registered = false
  cancelling : s.cancelling ≠ [] → s.registered = false
  cancelled : ∀ k, (k, .cancelled) ∈ s.writes → s.registered = false

theorem sourced_initial : Sourced initial where
  pending _ h := absurd h List.not_mem_nil
  completing _ h := absurd h List.not_mem_nil
  completed _ h := absurd h List.not_mem_nil
  draining h := Bool.noConfusion h
  cancelling h := absurd rfl h
  cancelled _ h := absurd h List.not_mem_nil

theorem State.Acknowledged.mono {k : Nat} (h : s.Acknowledged k)
    (hreceived : s.received ⊆ s'.received) (hanswers : s.answers ⊆ s'.answers) :
    s'.Acknowledged k := by
  obtain ⟨p, hp, rfl, ha⟩ := h
  exact ⟨p, hreceived hp, rfl, hanswers ha⟩

theorem Sourced.close (h : Sourced s) : Sourced s.close := by
  rw [close_eq]
  exact ⟨h.pending, h.completing, h.completed, fun _ => rfl, fun _ => rfl, fun _ _ => rfl⟩

theorem sourced_step (h : Sourced s) (hs : step s a = some s') : Sourced s' := by
  cases move_of_step hs with
  | enters p hp _ =>
    have hreceived := List.subset_cons_self p s.received
    refine ⟨fun q hq => ?_, fun k hk => (h.completing k hk).mono hreceived (List.Subset.refl _),
      fun k hk => (h.completed k hk).mono hreceived (List.Subset.refl _), h.draining,
      h.cancelling, h.cancelled⟩
    rcases List.mem_append.mp hq with hq | hq
    · exact List.mem_cons_of_mem p (h.pending q hq)
    · rw [List.mem_singleton.mp hq]
      exact List.mem_cons_self
  | accepts p rest acking hpending =>
    have hanswers := List.subset_cons_self ⟨p.index, some p, true⟩ s.answers
    have hp : p ∈ s.received := h.pending p (hpending ▸ List.mem_cons_self)
    refine ⟨fun q hq => h.pending q (hpending ▸ List.mem_cons_of_mem p hq), fun k hk => ?_,
      fun k hk => (h.completed k hk).mono (List.Subset.refl _) hanswers, h.draining,
      h.cancelling, h.cancelled⟩
    rcases List.mem_cons.mp hk with rfl | hk
    · exact ⟨p, hp, rfl, List.mem_cons_self⟩
    · exact (h.completing k hk).mono (List.Subset.refl _) hanswers
  | rejects index front acking _ =>
    have hanswers := List.subset_cons_self ⟨index, front, false⟩ s.answers
    exact ⟨h.pending, fun k hk => (h.completing k hk).mono (List.Subset.refl _) hanswers,
      fun k hk => (h.completed k hk).mono (List.Subset.refl _) hanswers, h.draining,
      h.cancelling, h.cancelled⟩
  | completes j hj =>
    refine ⟨h.pending, fun k hk => h.completing k (List.mem_of_mem_erase hk), fun k hk => ?_,
      h.draining, h.cancelling, fun k hk => ?_⟩
    · rcases List.mem_cons.mp hk with heq | hk
      · obtain ⟨rfl, -⟩ := Prod.ext_iff.mp heq
        exact h.completing k hj
      · exact h.completed k hk
    · rcases List.mem_cons.mp hk with heq | hk
      · exact Completion.noConfusion (Prod.ext_iff.mp heq).2
      · exact h.cancelled k hk
  | drains hdraining =>
    have hgone := h.draining hdraining
    exact ⟨fun q hq => absurd hq List.not_mem_nil, h.completing, h.completed, fun _ => hgone,
      fun _ => hgone, h.cancelled⟩
  | cancels j rest hcancelling =>
    have hgone := h.cancelling (hcancelling ▸ List.cons_ne_nil j rest)
    refine ⟨h.pending, h.completing, fun k hk => ?_, h.draining, fun _ => hgone,
      fun _ _ => hgone⟩
    rcases List.mem_cons.mp hk with heq | hk
    · exact Completion.noConfusion (Prod.ext_iff.mp heq).2
    · exact h.completed k hk
  | closes _ skipping rejecting =>
    exact Sourced.close ⟨h.pending, h.completing, h.completed, h.draining, h.cancelling,
      h.cancelled⟩
  | _ =>
    exact ⟨h.pending, h.completing, h.completed, h.draining, h.cancelling, h.cancelled⟩

/-! ## Answers -/

structure Answered (s : State) : Prop where
  accepted : ∀ a ∈ s.answers, a.accepted = true ↔ a.front.map Pending.index = some a.index
  rejected : (∃ a ∈ s.answers, a.accepted = false) → s.rejecting = 0 → s.registered = false

theorem answered_initial : Answered initial where
  accepted _ h := absurd h List.not_mem_nil
  rejected h := by
    obtain ⟨_, h, -⟩ := h
    exact absurd h List.not_mem_nil

theorem answered_step (h : Answered s) (hs : step s a = some s') : Answered s' := by
  cases move_of_step hs with
  | accepts p rest acking _ =>
    refine ⟨fun b hb => ?_, ?_⟩
    · rcases List.mem_cons.mp hb with rfl | hb
      · exact iff_of_true rfl rfl
      · exact h.accepted b hb
    · rintro ⟨b, hb, hrejected⟩ hzero
      rcases List.mem_cons.mp hb with rfl | hb
      · exact Bool.noConfusion hrejected
      · exact h.rejected ⟨b, hb, hrejected⟩ hzero
  | rejects index front acking hindex =>
    refine ⟨fun b hb => ?_, fun _ hzero => absurd hzero (Nat.succ_ne_zero _)⟩
    rcases List.mem_cons.mp hb with rfl | hb
    · exact iff_of_false Bool.noConfusion hindex
    · exact h.accepted b hb
  | closes _ skipping rejecting =>
    rw [close_eq]
    exact ⟨h.accepted, fun _ _ => rfl⟩
  | _ => exact ⟨h.accepted, h.rejected⟩

/-- The queue of a WebSocket is sound in every state that calls of `websocket_message`,
`ack_ws_message`, `close_ws`, `websocket_closed` and `hibernate_ws` can reach. -/
theorem acknowledgements_sound (h : Run.Reachable step Run.anyAction initial s) : Sound s := by
  have hqueue := h.invariant
    (P := fun s => ConsecutiveTo s.lastReceived (s.pending.map Pending.index))
    ⟨List.isChain_nil, fun hne => absurd rfl hne⟩ fun _ _ _ hq _ hs => queue_step hq hs
  have hsingle := h.invariant (P := Single) ⟨fun _ => Nat.zero_le 1, fun _ _ => rfl⟩
    fun _ _ _ hq _ hs => single_step hq hs
  have hsourced := h.invariant (P := Sourced) sourced_initial
    fun _ _ _ hq _ hs => sourced_step hq hs
  have hanswered := h.invariant (P := Answered) answered_initial
    fun _ _ _ hq _ hs => answered_step hq hs
  refine ⟨hqueue, hanswered.accepted, hanswered.rejected, ?_, hsourced.completed,
    hsourced.cancelled⟩
  refine List.nodup_iff_count_le_one.mpr fun k => ?_
  have hmost := hsingle.most k
  rw [State.tokens] at hmost
  omega

/-- Two messages, of which the second wraps the index; the first is acknowledged, the second is
not, and the WebSocket hibernates. -/
def wrapAndHibernate : List Action :=
  [.message 65535, .push ⟨65535, 0⟩, .message 0, .push ⟨0, 1⟩, .ack 65535, .pop 65535, .complete 0,
    .close, .drain, .cancel]

theorem wrapAndHibernate_sound : ∃ s, Run.run step initial wrapAndHibernate = some s ∧
    s.writes = [(1, .cancelled), (0, .completed)] ∧ Sound s :=
  ⟨_, rfl, rfl, acknowledgements_sound (Run.reachable_of_run wrapAndHibernate rfl)⟩

end RivetGo.WsAcknowledgements

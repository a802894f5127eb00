import Mathlib
import RivetGo.Data.Run

/-!
# Who owns what in the pump

`p.httpPending` and `p.websockets` record which worker a request or a WebSocket belongs
to. The poller looks the worker up in `p.actors` and enters the request or the socket
afterwards, under another lock. A worker that ends clears its requests in `abort`, then
its sockets in `removeActor`, and takes itself out of `p.actors` last.

What matters is how far the owner is with this when the poller enters something for it. A
request that comes in before `abort`, and a socket that comes in before the detach, are
cleared with the rest. What comes later stays there when the worker is gone, and if it is a
socket that hibernates, its next `WsOpen` is a duplicate and ends the pump.
-/

namespace RivetGo.Ownership

structure Identity where
  aid : String
  generation : Nat
  deriving DecidableEq

/-- What the poller is about to enter. -/
inductive Poller where
  | ready
  | http (requestId : Nat) (owner : Identity)
  | websocket (wsId : String) (owner : Identity)
  /-- An event could not be handled, and the pump ends. -/
  | failed
  deriving DecidableEq

/-- How far a worker is with its deferred calls. -/
inductive Exit where
  | running
  | aborted
  | detached
  deriving DecidableEq

structure State where
  actors : List Identity := []
  httpPending : List (Nat × Identity) := []
  websockets : List (String × Identity) := []
  poller : Poller := .ready
  exits : Identity → Exit := fun _ => .running

def initial : State := {}

inductive Action where
  | actorStart (id : Identity)
  | actorStop (id : Identity)
  /-- The poller has found the worker of a new request. -/
  | httpRequest (requestId : Nat) (id : Identity)
  | wsOpen (wsId : String) (id : Identity)
  /-- The poller enters what it has found the worker of. -/
  | enter
  | wsClose (wsId : String)
  /-- A worker is through with a request. The entry is deleted by its id alone. -/
  | finishHTTPRequest (requestId : Nat) (id : Identity)
  /-- A worker has refused a WebSocket. -/
  | removeWebSocket (wsId : String) (id : Identity)
  | abort (id : Identity)
  | detach (id : Identity)
  | removeActor (id : Identity)
  deriving DecidableEq

namespace State

def detachActorWebSockets (s : State) (id : Identity) : State :=
  { s with websockets := s.websockets.filter (·.2 ≠ id) }

def abortHTTPForActor (s : State) (id : Identity) : State :=
  { s with httpPending := s.httpPending.filter (·.2 ≠ id) }

def setExit (s : State) (id : Identity) (e : Exit) : State :=
  { s with exits := Function.update s.exits id e }

/-- The poller finds the worker of an event, or fails. -/
def find (s : State) (id : Identity) (found : State) : State :=
  if id ∈ s.actors then found else { s with poller := .failed }

/-- The poller enters what it has in hand, unless it is there already. -/
def enter (s : State) : Option State :=
  match s.poller with
  | .http requestId owner =>
    if requestId ∈ s.httpPending.map Prod.fst then some { s with poller := .failed }
    else some { s with httpPending := (requestId, owner) :: s.httpPending, poller := .ready }
  | .websocket wsId owner =>
    if wsId ∈ s.websockets.map Prod.fst then some { s with poller := .failed }
    else some { s with websockets := (wsId, owner) :: s.websockets, poller := .ready }
  | .ready | .failed => none

end State

def step (s : State) : Action → Option State
  | .actorStart id =>
    if s.poller = .ready then
      if id ∈ s.actors then some { s with poller := .failed }
      else some ({ s with actors := id :: s.actors }.setExit id .running)
    else none
  | .actorStop id =>
    if s.poller = .ready then some (s.find id (s.detachActorWebSockets id)) else none
  | .httpRequest requestId id =>
    if s.poller = .ready then some (s.find id { s with poller := .http requestId id }) else none
  | .wsOpen wsId id =>
    if s.poller = .ready then some (s.find id { s with poller := .websocket wsId id }) else none
  | .enter => s.enter
  | .wsClose wsId =>
    if s.poller = .ready then
      some { s with websockets := s.websockets.filter (·.1 ≠ wsId) }
    else none
  | .finishHTTPRequest requestId id =>
    if id ∈ s.actors ∧ s.exits id = .running then
      some { s with httpPending := s.httpPending.filter (·.1 ≠ requestId) }
    else none
  | .removeWebSocket wsId id =>
    if id ∈ s.actors ∧ s.exits id = .running then
      some { s with websockets := s.websockets.filter (·.1 ≠ wsId) }
    else none
  | .abort id =>
    if id ∈ s.actors ∧ s.exits id = .running then
      some ((s.abortHTTPForActor id).setExit id .aborted)
    else none
  | .detach id =>
    if id ∈ s.actors ∧ s.exits id = .aborted then
      some ((s.detachActorWebSockets id).setExit id .detached)
    else none
  | .removeActor id =>
    if id ∈ s.actors ∧ s.exits id = .detached then
      some { s with actors := s.actors.filter (· ≠ id) }
    else none

variable {s s' : State} {a : Action}

/-- What is entered belongs to a worker that is in `p.actors`. -/
structure Agrees (s : State) : Prop where
  http : ∀ e ∈ s.httpPending, e.2 ∈ s.actors
  websockets : ∀ e ∈ s.websockets, e.2 ∈ s.actors

/-- What is entered comes before the step of the owner's exit that clears its table. -/
def InTime (s : State) : Action → Prop
  | .enter =>
    match s.poller with
    | .http requestId owner =>
      requestId ∉ s.httpPending.map Prod.fst → owner ∈ s.actors ∧ s.exits owner = .running
    | .websocket wsId owner =>
      wsId ∉ s.websockets.map Prod.fst → owner ∈ s.actors ∧ s.exits owner ≠ .detached
    | _ => True
  | _ => True

/-! ## What the exits leave -/

/-- A worker that has cleared a table owns nothing in it. -/
structure Clear (s : State) : Prop where
  http : ∀ e ∈ s.httpPending, e.2 ∈ s.actors ∧ s.exits e.2 = .running
  websockets : ∀ e ∈ s.websockets, e.2 ∈ s.actors ∧ s.exits e.2 ≠ .detached

theorem clear_initial : Clear initial :=
  ⟨fun _ h => absurd h List.not_mem_nil, fun _ h => absurd h List.not_mem_nil⟩

theorem Clear.agrees (h : Clear s) : Agrees s :=
  ⟨fun e he => (h.http e he).1, fun e he => (h.websockets e he).1⟩

/-- The poller and the handlers of running workers only take entries out. -/
theorem Clear.of_subset (h : Clear s) (hactors : s'.actors = s.actors) (hexits : s'.exits = s.exits)
    (hhttp : s'.httpPending ⊆ s.httpPending) (hwebsockets : s'.websockets ⊆ s.websockets) :
    Clear s' where
  http e he := by
    rw [hactors, hexits]
    exact h.http e (hhttp he)
  websockets e he := by
    rw [hactors, hexits]
    exact h.websockets e (hwebsockets he)

theorem Clear.find {id : Identity} {found : State} (h : Clear s) (hfound : Clear found) :
    Clear (s.find id found) := by
  rw [State.find]
  split_ifs
  · exact hfound
  · exact h.of_subset rfl rfl (List.Subset.refl _) (List.Subset.refl _)

theorem exits_setExit_of_ne {id x : Identity} {exit : Exit} (hne : x ≠ id) :
    (s.setExit id exit).exits x = s.exits x := by
  simp only [State.setExit, Function.update_of_ne hne]

theorem exits_setExit_self {id : Identity} {exit : Exit} : (s.setExit id exit).exits id = exit := by
  simp only [State.setExit, Function.update_self]

/-- A new worker, whose identity owns nothing. -/
theorem Clear.actorStart {id : Identity} (h : Clear s) (hnew : id ∉ s.actors) :
    Clear ({ s with actors := id :: s.actors }.setExit id .running) where
  http e he := by
    obtain ⟨hmem, hrunning⟩ := h.http e he
    have hne : e.2 ≠ id := fun heq => hnew (heq ▸ hmem)
    rw [exits_setExit_of_ne hne]
    exact ⟨List.mem_cons_of_mem _ hmem, hrunning⟩
  websockets e he := by
    obtain ⟨hmem, hattached⟩ := h.websockets e he
    have hne : e.2 ≠ id := fun heq => hnew (heq ▸ hmem)
    rw [exits_setExit_of_ne hne]
    exact ⟨List.mem_cons_of_mem _ hmem, hattached⟩

theorem Clear.abort {id : Identity} (h : Clear s) :
    Clear ((s.abortHTTPForActor id).setExit id .aborted) where
  http e he := by
    obtain ⟨he, hne⟩ := List.mem_filter.mp he
    rw [exits_setExit_of_ne (of_decide_eq_true hne)]
    exact h.http e he
  websockets e he := by
    obtain ⟨hmem, hattached⟩ := h.websockets e he
    refine ⟨hmem, ?_⟩
    by_cases heq : e.2 = id
    · rw [heq, exits_setExit_self]
      exact Exit.noConfusion
    · rw [exits_setExit_of_ne heq]
      exact hattached

theorem Clear.detach {id : Identity} (h : Clear s) (haborted : s.exits id = .aborted) :
    Clear ((s.detachActorWebSockets id).setExit id .detached) where
  http e he := by
    obtain ⟨hmem, hrunning⟩ := h.http e he
    have hne : e.2 ≠ id := by
      intro heq
      rw [heq, haborted] at hrunning
      exact Exit.noConfusion hrunning
    rw [exits_setExit_of_ne hne]
    exact ⟨hmem, hrunning⟩
  websockets e he := by
    obtain ⟨he, hne⟩ := List.mem_filter.mp he
    rw [exits_setExit_of_ne (of_decide_eq_true hne)]
    exact h.websockets e he

theorem Clear.removeActor {id : Identity} (h : Clear s) (hdetached : s.exits id = .detached) :
    Clear { s with actors := s.actors.filter (· ≠ id) } where
  http e he := by
    obtain ⟨hmem, hrunning⟩ := h.http e he
    refine ⟨List.mem_filter.mpr ⟨hmem, decide_eq_true fun heq => ?_⟩, hrunning⟩
    rw [heq, hdetached] at hrunning
    exact Exit.noConfusion hrunning
  websockets e he := by
    obtain ⟨hmem, hattached⟩ := h.websockets e he
    refine ⟨List.mem_filter.mpr ⟨hmem, decide_eq_true fun heq => ?_⟩, hattached⟩
    exact hattached (heq ▸ hdetached)

theorem Clear.enter (h : Clear s) (ha : InTime s .enter) (hs : s.enter = some s') : Clear s' := by
  rw [State.enter] at hs
  rw [InTime] at ha
  cases hpoller : s.poller with
  | ready | failed => simp [hpoller] at hs
  | http requestId owner =>
    simp only [hpoller] at hs ha
    split_ifs at hs with hknown
    · obtain rfl := Option.some.inj hs
      exact h.of_subset rfl rfl (List.Subset.refl _) (List.Subset.refl _)
    · obtain rfl := Option.some.inj hs
      refine ⟨fun e he => ?_, h.websockets⟩
      rcases List.mem_cons.mp he with rfl | he
      · exact ha hknown
      · exact h.http e he
  | websocket wsId owner =>
    simp only [hpoller] at hs ha
    split_ifs at hs with hknown
    · obtain rfl := Option.some.inj hs
      exact h.of_subset rfl rfl (List.Subset.refl _) (List.Subset.refl _)
    · obtain rfl := Option.some.inj hs
      refine ⟨h.http, fun e he => ?_⟩
      rcases List.mem_cons.mp he with rfl | he
      · exact ha hknown
      · exact h.websockets e he

theorem clear_step (h : Clear s) (ha : InTime s a) (hs : step s a = some s') : Clear s' := by
  cases a with
  | enter => exact h.enter ha hs
  | actorStart id =>
    obtain ⟨-, hs⟩ := Option.ite_none_right_eq_some.mp hs
    split_ifs at hs with hknown
    · obtain rfl := Option.some.inj hs
      exact h.of_subset rfl rfl (List.Subset.refl _) (List.Subset.refl _)
    · obtain rfl := Option.some.inj hs
      exact h.actorStart hknown
  | actorStop id =>
    obtain ⟨-, rfl⟩ := Run.guard_eq_some.mp hs
    exact h.find (h.of_subset rfl rfl (List.Subset.refl _) (List.filter_subset_self _))
  | httpRequest requestId id | wsOpen wsId id =>
    obtain ⟨-, rfl⟩ := Run.guard_eq_some.mp hs
    exact h.find (h.of_subset rfl rfl (List.Subset.refl _) (List.Subset.refl _))
  | wsClose wsId | removeWebSocket wsId id =>
    obtain ⟨-, rfl⟩ := Run.guard_eq_some.mp hs
    exact h.of_subset rfl rfl (List.Subset.refl _) (List.filter_subset_self _)
  | finishHTTPRequest requestId id =>
    obtain ⟨-, rfl⟩ := Run.guard_eq_some.mp hs
    exact h.of_subset rfl rfl (List.filter_subset_self _) (List.Subset.refl _)
  | abort id =>
    obtain ⟨-, rfl⟩ := Run.guard_eq_some.mp hs
    exact h.abort
  | detach id =>
    obtain ⟨⟨-, haborted⟩, rfl⟩ := Run.guard_eq_some.mp hs
    exact h.detach haborted
  | removeActor id =>
    obtain ⟨⟨-, hdetached⟩, rfl⟩ := Run.guard_eq_some.mp hs
    exact h.removeActor hdetached

/-! ## The condition is exact -/

/-- A step of a worker that has left its loop. -/
def Action.Exits : Action → Prop
  | .abort _ | .detach _ | .removeActor _ => True
  | _ => False

/-- The tables agree with `p.actors`, now and while the workers that end go on with it. -/
def AgreesThroughExits (s : State) : Prop :=
  ∀ later t, (∀ b ∈ later, b.Exits) → Run.run step s later = some t → Agrees t

theorem Clear.agreesThroughExits (h : Clear s) : AgreesThroughExits s := by
  intro later t hexits hrun
  have hinTime : ∀ b ∈ later, ∀ s, InTime s b := by
    intro b hb s
    have hb := hexits b hb
    cases b <;> trivial
  have hreach := Run.Reachable.init.run (Run.allowed_of_forall hinTime) hrun
  exact (hreach.invariant h fun _ _ _ hinv ha hs => clear_step hinv ha hs).agrees

/-- What a worker owns and does not clear any more is left when it is removed. -/
theorem not_agrees_of_removed {id : Identity} (hactor : id ∈ s.actors)
    (hdetached : s.exits id = .detached)
    (howns : (∃ e ∈ s.httpPending, e.2 = id) ∨ ∃ e ∈ s.websockets, e.2 = id) :
    ¬ AgreesThroughExits s := by
  intro h
  have hrun : Run.run step s [.removeActor id] =
      some { s with actors := s.actors.filter (· ≠ id) } := by
    simp only [Run.run, step, hactor, hdetached, and_self, if_true, Option.bind_some]
  have hagrees := h _ _ (fun b hb => by rw [List.mem_singleton.mp hb]; trivial) hrun
  rcases howns with ⟨e, he, rfl⟩ | ⟨e, he, rfl⟩
  · simpa using hagrees.http e he
  · simpa using hagrees.websockets e he

/-- A request that comes between `abort` and the detach is not cleared by the detach. -/
theorem not_agrees_of_aborted {id : Identity} (hactor : id ∈ s.actors)
    (haborted : s.exits id = .aborted) {e : Nat × Identity} (he : e ∈ s.httpPending)
    (howner : e.2 = id) : ¬ AgreesThroughExits s := by
  intro h
  have hstep : step s (.detach id) =
      some ((s.detachActorWebSockets id).setExit id .detached) := by
    simp only [step, hactor, haborted, and_self, if_true]
  refine not_agrees_of_removed (s := (s.detachActorWebSockets id).setExit id .detached) hactor
    exits_setExit_self (.inl ⟨e, he, howner⟩) fun later t hexits hrun => ?_
  refine h (.detach id :: later) t (List.forall_mem_cons.mpr ⟨trivial, hexits⟩) ?_
  rw [Run.run, hstep]
  exact hrun

theorem not_agreesThroughExits_of_late (hs : step s .enter = some s')
    (hlate : ¬ InTime s .enter) : ¬ AgreesThroughExits s' := by
  rw [step, State.enter] at hs
  rw [InTime] at hlate
  cases hpoller : s.poller with
  | ready | failed => simp [hpoller] at hs
  | http requestId owner =>
    simp only [hpoller, Classical.not_imp, not_and] at hs hlate
    obtain ⟨hnew, hlate⟩ := hlate
    rw [if_neg hnew] at hs
    obtain rfl := Option.some.inj hs
    by_cases hactor : owner ∈ s.actors
    · cases hexit : s.exits owner with
      | running => exact absurd hexit (hlate hactor)
      | aborted => exact not_agrees_of_aborted hactor hexit List.mem_cons_self rfl
      | detached =>
        exact not_agrees_of_removed hactor hexit (.inl ⟨_, List.mem_cons_self, rfl⟩)
    · intro h
      exact hactor ((h [] _ (fun _ hb => absurd hb List.not_mem_nil) rfl).http _
        List.mem_cons_self)
  | websocket wsId owner =>
    simp only [hpoller, Classical.not_imp, not_and, not_not] at hs hlate
    obtain ⟨hnew, hlate⟩ := hlate
    rw [if_neg hnew] at hs
    obtain rfl := Option.some.inj hs
    by_cases hactor : owner ∈ s.actors
    · exact not_agrees_of_removed hactor (hlate hactor) (.inr ⟨_, List.mem_cons_self, rfl⟩)
    · intro h
      exact hactor ((h [] _ (fun _ hb => absurd hb List.not_mem_nil) rfl).websockets _
        List.mem_cons_self)

/-- In a run in which everything is entered before the owner has cleared the table, the tables
agree with `p.actors` in every state. The first step that does not meet this leaves something
behind, by the time the worker is gone. -/
theorem agrees_of_inTime (h : Run.Reachable step InTime initial s) :
    Agrees s ∧ ∀ a s', step s a = some s' → (AgreesThroughExits s' ↔ InTime s a) := by
  have hclear : Clear s :=
    h.invariant clear_initial fun _ _ _ hinv ha hs => clear_step hinv ha hs
  refine ⟨hclear.agrees, fun a s' hs => ⟨fun hagrees => ?_, fun ha => ?_⟩⟩
  · by_contra hlate
    cases a with
    | enter => exact not_agreesThroughExits_of_late hs hlate hagrees
    | _ => exact hlate trivial
  · exact (clear_step hclear ha hs).agreesThroughExits

def first : Identity := ⟨"actor", 1⟩

def second : Identity := ⟨"actor", 2⟩

/-- A socket is entered while its worker is between `abort` and the detach. -/
def openDuringExit : List Action :=
  [.actorStart first, .httpRequest 1 first, .enter, .finishHTTPRequest 1 first,
    .httpRequest 2 first, .enter, .wsOpen "ws" first, .abort first, .enter, .detach first,
    .removeActor first]

theorem openDuringExit_agrees : ∃ s, Run.run step initial openDuringExit = some s ∧
    s.actors = [] ∧ s.httpPending = [] ∧ s.websockets = [] ∧ Agrees s := by
  have hallowed : Run.Allowed step InTime initial openDuringExit :=
    ⟨trivial, trivial, fun _ => ⟨List.mem_singleton.mpr rfl, rfl⟩, trivial, trivial,
      fun _ => ⟨List.mem_singleton.mpr rfl, rfl⟩, trivial, trivial,
      fun _ => ⟨List.mem_singleton.mpr rfl, Exit.noConfusion⟩, trivial, trivial, trivial⟩
  exact ⟨_, rfl, rfl, rfl, rfl, (agrees_of_inTime (Run.Reachable.init.run hallowed rfl)).1⟩

/-- The poller finds the worker before its exit and enters the socket after it has
detached its sockets. -/
def lateOpen : List Action :=
  [.actorStart first, .abort first, .wsOpen "ws" first, .detach first, .enter,
    .removeActor first]

/-- The worker is gone and its socket is left; when the socket wakes in the next
generation, the pump ends. -/
theorem socket_left_behind : (∃ s, Run.run step initial lateOpen = some s ∧
      s.actors = [] ∧ s.websockets = [("ws", first)] ∧ ¬ Agrees s) ∧
    ∃ s, Run.run step initial (lateOpen ++ [.actorStart second, .wsOpen "ws" second, .enter]) =
      some s ∧ s.poller = .failed := by
  refine ⟨⟨_, rfl, rfl, rfl, fun h => ?_⟩, _, rfl, rfl⟩
  exact absurd (h.websockets _ List.mem_cons_self) List.not_mem_nil

end RivetGo.Ownership

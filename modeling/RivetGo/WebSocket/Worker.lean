import Mathlib
import RivetGo.Data.Run

/-!
# The raw WebSockets of a generation

The poller keeps the table of open WebSockets, `p.websockets`, and puts their
events into the mailbox of the worker. The worker takes the events one by one
and calls the adapter, which has a table of connections of its own. When the
actor stops, the poller takes all its WebSockets out of the table at once: those
that hibernate by a command to native, the others by a close event in the
mailbox. It does so ahead of what is still in the mailbox. Whichever way the
worker leaves its loop, the adapter closes the connections that are left.

The model has one generation after its start: the poller, the worker, and the
callbacks and commands that concern WebSockets, in the order in which they
happen. What it takes to open a WebSocket is cut where one side may see the other
halfway: the poller enters it into its table before it puts the event into the
mailbox, and the worker that has taken the event waits for the turn of the actor
before it enters the connection. Every other callback of the worker is one event.
Connection IDs are new in a generation. Connections of clients that are no raw
WebSockets have IDs of their own and are left out.
-/

namespace RivetGo.WebSocket

/-- An event in the mailbox. -/
inductive Event where
  | wsOpen (wsId : String) (resumed : Bool)
  | wsMessage (wsId : String) (index : UInt16)
  | wsClose (wsId : String)
  /-- An action, an alarm, an HTTP request or a connection event. -/
  | other
  | stop (reason : String)
  deriving DecidableEq

/-- What concerns a WebSocket, in the order in which it happens: `OnConnect`
returns or panics, `OnMessage` and `OnDisconnect` run, and the commands
`WsMessageAck` and the `WsClose` that hibernates are submitted. -/
inductive Entry where
  | connected (wsId : String)
  | refused (wsId : String)
  | panicked (wsId : String)
  | message (wsId : String) (index : UInt16)
  | ack (wsId : String) (index : UInt16)
  | disconnected (wsId : String)
  | hibernated (wsId : String)
  deriving DecidableEq

/-- How `OnConnect` ends. -/
inductive Outcome where
  | ok | failed | panicked
  deriving DecidableEq

def Outcome.entry (wsId : String) : Outcome → Entry
  | .ok => .connected wsId
  | .failed => .refused wsId
  | .panicked => .panicked wsId

/-- Where the worker is. `leaving` has left the loop and runs its deferred
calls. -/
inductive Worker where
  | ready
  /-- An open event was taken, and the worker waits for the turn. -/
  | turning (wsId : String) (resumed : Bool)
  | opening (wsId : String) (resumed : Bool)
  /-- `OnConnect` has ended, and its result is to be submitted. -/
  | answering (wsId : String) (outcome : Outcome)
  | handling (wsId : String) (index : UInt16) (needsAcknowledgement : Bool)
  | busy
  | stopping (reason : String)
  | leaving (stopReason : String)
  | gone
  deriving DecidableEq

structure State where
  /-- The WebSockets that native has opened, and whether they can hibernate. -/
  opened : List (String × Bool) := []
  /-- `p.websockets`. -/
  websockets : List (String × Bool) := []
  /-- The open event whose WebSocket the poller has entered into the table and
  that it has not put into the mailbox yet. -/
  pending : Option (String × Bool) := none
  mailbox : List Event := []
  /-- The poller is in its loop. -/
  polling : Bool := true
  worker : Worker := .ready
  /-- The raw WebSockets in `actorContext.connections`. -/
  connections : List String := []
  log : List Entry := []
  deriving DecidableEq

def initial : State := {}

def State.ids (s : State) : List String := s.opened.map (·.1)

def State.known (s : State) (wsId : String) : Bool := s.websockets.any (·.1 == wsId)

def State.websocketCanHibernate (s : State) (wsId : String) : Bool :=
  decide ((wsId, true) ∈ s.websockets)

def State.put (s : State) (e : Event) : State := { s with mailbox := s.mailbox ++ [e] }

def State.removeWebSocket (s : State) (wsId : String) : State :=
  { s with websockets := s.websockets.filter (·.1 ≠ wsId) }

/-- The WebSockets that `detachActorWebSockets` hibernates. -/
def State.hibernating (s : State) (hibernate : Bool) : List String :=
  (s.websockets.filter fun w => hibernate && w.2).map (·.1)

/-- The WebSockets that it closes. -/
def State.closing (s : State) (hibernate : Bool) : List String :=
  (s.websockets.filter fun w => !(hibernate && w.2)).map (·.1)

def actorWorkerStopped : String := "actor worker stopped"

inductive Action where
  | pollOpen (wsId : String) (canHibernate resumed : Bool)
  | putOpen
  | pollMessage (wsId : String) (index : UInt16)
  | pollClose (wsId : String)
  | pollOther
  /-- The poller takes an `ActorStop`. `draining` is the flag of a runner that
  shuts down, and `accepted` says whether native took the hibernation commands. -/
  | pollStop (reason : String) (draining accepted : Bool)
  /-- The poller leaves its loop and cancels the worker. -/
  | endPolling
  /-- The worker takes the next event. -/
  | take
  /-- The worker has the turn for an open event. -/
  | turn
  | openDone (outcome : Outcome)
  /-- The result of `OnConnect` is submitted, or its submission fails. -/
  | openResult (accepted : Bool)
  /-- `OnMessage` ends, and its acknowledgement is submitted. -/
  | messageDone (accepted : Bool)
  /-- Another callback ends; a panic or a failed submission makes the worker
  leave. -/
  | callbackDone (leave : Bool)
  | stopDone
  /-- The worker finds its mailbox empty and its context cancelled. -/
  | leave
  /-- The deferred calls of the worker. -/
  | closeWebSockets

/-- The worker takes an event from its mailbox. -/
def State.handle (s : State) : Event → State
  | .wsOpen wsId resumed => { s with worker := .turning wsId resumed }
  | .wsMessage wsId index =>
    { s with
      worker := .handling wsId index (s.websocketCanHibernate wsId)
      log := s.log ++ if wsId ∈ s.connections then [.message wsId index] else [] }
  | .wsClose wsId =>
    { s with
      connections := s.connections.filter (· ≠ wsId)
      log := s.log ++ if wsId ∈ s.connections then [.disconnected wsId] else [] }
  | .other => { s with worker := .busy }
  | .stop reason => { s with worker := .stopping reason }

/-- `OnConnect` has ended. A connection whose `OnConnect` panicked stays in the
table of the adapter. -/
def State.openDone (s : State) (wsId : String) (o : Outcome) : State :=
  { s with
    connections := if o = .failed then s.connections.filter (· ≠ wsId) else s.connections
    log := s.log ++ [o.entry wsId]
    worker := .answering wsId o }

def State.openResult (s : State) (wsId : String) (o : Outcome) (accepted : Bool) : State :=
  { s with
    websockets :=
      if accepted ∧ o ≠ .ok then s.websockets.filter (·.1 ≠ wsId) else s.websockets
    worker := if accepted then .ready else .leaving actorWorkerStopped }

/-- The poller is in its loop and has no event in hand. -/
def State.polls (s : State) : Bool := s.polling && s.pending.isNone

def step (s : State) : Action → Option State
  | .pollOpen wsId canHibernate resumed =>
    if s.polls ∧ s.worker ≠ .gone ∧ wsId ∉ s.ids then
      some { s with
        opened := (wsId, canHibernate) :: s.opened
        websockets := (wsId, canHibernate) :: s.websockets
        pending := some (wsId, resumed) }
    else none
  | .putOpen =>
    match s.pending with
    | some (wsId, resumed) =>
      some { s with pending := none, mailbox := s.mailbox ++ [.wsOpen wsId resumed] }
    | none => none
  | .pollMessage wsId index =>
    if s.polls then some (if s.known wsId then s.put (.wsMessage wsId index) else s) else none
  | .pollClose wsId =>
    if s.polls then
      some (if s.known wsId then (s.removeWebSocket wsId).put (.wsClose wsId) else s)
    else none
  | .pollOther => if s.polls then some (s.put .other) else none
  | .pollStop reason draining accepted =>
    if s.polls ∧ s.worker ≠ .gone then
      let hibernate := reason == "sleep" && !draining
      if s.hibernating hibernate ≠ [] ∧ accepted = false then
        some { s with websockets := [], polling := false }
      else
        some { s with
          websockets := []
          mailbox := s.mailbox ++ ((s.closing hibernate).map .wsClose ++ [.stop reason])
          log := s.log ++ (s.hibernating hibernate).map .hibernated }
    else none
  | .endPolling => if s.pending = none then some { s with polling := false } else none
  | .take =>
    match s.worker, s.mailbox with
    | .ready, e :: rest => some ({ s with mailbox := rest }.handle e)
    | _, _ => none
  | .turn =>
    match s.worker with
    | .turning wsId resumed =>
      some { s with
        connections := s.connections.insert wsId
        worker := .opening wsId resumed }
    | _ => none
  | .openDone o =>
    match s.worker with
    | .opening wsId resumed =>
      -- a resumed WebSocket was connected in an earlier generation
      if resumed ∧ o ≠ .ok then none else some (s.openDone wsId o)
    | _ => none
  | .openResult accepted =>
    match s.worker with
    | .answering wsId o => some (s.openResult wsId o accepted)
    | _ => none
  | .messageDone accepted =>
    match s.worker with
    | .handling wsId index true =>
      some (if accepted then
          { s with worker := .ready, log := s.log ++ [.ack wsId index] }
        else { s with worker := .leaving actorWorkerStopped })
    | .handling _ _ false => some { s with worker := .ready }
    | _ => none
  | .callbackDone leave =>
    if s.worker = .busy then
      some { s with worker := if leave then .leaving actorWorkerStopped else .ready }
    else none
  | .stopDone =>
    match s.worker with
    | .stopping reason => some { s with worker := .leaving reason }
    | _ => none
  | .leave =>
    if s.worker = .ready ∧ s.mailbox = [] ∧ s.polling = false then
      some { s with worker := .leaving actorWorkerStopped }
    else none
  | .closeWebSockets =>
    match s.worker with
    | .leaving reason =>
      some { s with
        worker := .gone
        websockets := []
        connections := []
        log := s.log ++ if reason = "sleep" then [] else s.connections.map .disconnected }
    | _ => none

abbrev Reaches (s : State) : Prop := Run.Reachable step Run.anyAction initial s

/-! ### What a step can do -/

/-- Everything a step can do. -/
inductive Move (s : State) : Action → State → Prop where
  | pollOpen {wsId : String} (canHibernate resumed : Bool) : wsId ∉ s.ids → s.pending = none →
      Move s (.pollOpen wsId canHibernate resumed) { s with
        opened := (wsId, canHibernate) :: s.opened
        websockets := (wsId, canHibernate) :: s.websockets
        pending := some (wsId, resumed) }
  | putOpen {wsId : String} {resumed : Bool} : s.pending = some (wsId, resumed) →
      Move s .putOpen { s with pending := none, mailbox := s.mailbox ++ [.wsOpen wsId resumed] }
  | drop {a : Action} : Move s a s
  | pollMessage {wsId : String} (index : UInt16) : s.known wsId = true → s.pending = none →
      Move s (.pollMessage wsId index) (s.put (.wsMessage wsId index))
  | pollClose {wsId : String} : s.known wsId = true → s.pending = none →
      Move s (.pollClose wsId) ((s.removeWebSocket wsId).put (.wsClose wsId))
  | pollOther : s.pending = none → Move s .pollOther (s.put .other)
  | pollStop (reason : String) (draining accepted : Bool) {hibernate : Bool} :
      s.polling = true → hibernate = (reason == "sleep" && !draining) →
      s.hibernating hibernate = [] ∨ accepted = true → s.pending = none →
      Move s (.pollStop reason draining accepted) { s with
        websockets := []
        mailbox := s.mailbox ++ ((s.closing hibernate).map .wsClose ++ [.stop reason])
        log := s.log ++ (s.hibernating hibernate).map .hibernated }
  | endPolling {a : Action} (websockets : List (String × Bool)) : websockets ⊆ s.websockets →
      s.pending = none → Move s a { s with websockets := websockets, polling := false }
  | takeOpen {wsId : String} {resumed : Bool} {rest : List Event} : s.worker = .ready →
      s.mailbox = .wsOpen wsId resumed :: rest →
      Move s .take { s with mailbox := rest, worker := .turning wsId resumed }
  | turn {wsId : String} {resumed : Bool} : s.worker = .turning wsId resumed →
      Move s .turn { s with
        connections := s.connections.insert wsId
        worker := .opening wsId resumed }
  | takeMessage {wsId : String} {index : UInt16} {rest : List Event} : s.worker = .ready →
      s.mailbox = .wsMessage wsId index :: rest →
      Move s .take { s with
        mailbox := rest
        worker := .handling wsId index (s.websocketCanHibernate wsId)
        log := s.log ++ if wsId ∈ s.connections then [.message wsId index] else [] }
  | takeClose {wsId : String} {rest : List Event} : s.worker = .ready →
      s.mailbox = .wsClose wsId :: rest →
      Move s .take { s with
        mailbox := rest
        connections := s.connections.filter (· ≠ wsId)
        log := s.log ++ if wsId ∈ s.connections then [.disconnected wsId] else [] }
  | takeOther {rest : List Event} : s.worker = .ready → s.mailbox = .other :: rest →
      Move s .take { s with mailbox := rest, worker := .busy }
  | takeStop {reason : String} {rest : List Event} : s.worker = .ready →
      s.mailbox = .stop reason :: rest →
      Move s .take { s with mailbox := rest, worker := .stopping reason }
  | openDone {wsId : String} {resumed : Bool} (o : Outcome) : s.worker = .opening wsId resumed →
      Move s (.openDone o) (s.openDone wsId o)
  | openResult {wsId : String} {o : Outcome} (accepted : Bool) : s.worker = .answering wsId o →
      Move s (.openResult accepted) (s.openResult wsId o accepted)
  | ack {wsId : String} {index : UInt16} : s.worker = .handling wsId index true →
      Move s (.messageDone true) { s with worker := .ready, log := s.log ++ [.ack wsId index] }
  | ackRejected {wsId : String} {index : UInt16} : s.worker = .handling wsId index true →
      Move s (.messageDone false) { s with worker := .leaving actorWorkerStopped }
  | messageDone {a : Action} {wsId : String} {index : UInt16} :
      s.worker = .handling wsId index false → Move s a { s with worker := .ready }
  | callbackDone {a : Action} : s.worker = .busy → Move s a { s with worker := .ready }
  | stopDone {reason : String} : s.worker = .stopping reason →
      Move s .stopDone { s with worker := .leaving reason }
  | leave {a : Action} : s.worker = .busy ∨ s.worker = .ready →
      Move s a { s with worker := .leaving actorWorkerStopped }
  | closeWebSockets {reason : String} : s.worker = .leaving reason →
      Move s .closeWebSockets { s with
        worker := .gone
        websockets := []
        connections := []
        log := s.log ++ if reason = "sleep" then [] else s.connections.map .disconnected }

variable {s s' : State} {a : Action}

theorem polls_iff : s.polls = true ↔ s.polling = true ∧ s.pending = none := by
  simp [State.polls]

theorem move_of_step (h : step s a = some s') : Move s a s' := by
  cases a with
  | pollOpen wsId canHibernate resumed =>
    obtain ⟨⟨hpolls, -, hfresh⟩, rfl⟩ := Run.guard_eq_some.mp h
    exact .pollOpen canHibernate resumed hfresh (polls_iff.mp hpolls).2
  | putOpen =>
    cases hpending : s.pending with
    | none => simp [step, hpending] at h
    | some w =>
      obtain rfl : _ = s' := by simpa [step, hpending] using h
      exact .putOpen hpending
  | pollMessage wsId index =>
    obtain ⟨hpolls, rfl⟩ := Run.guard_eq_some.mp h
    by_cases hknown : s.known wsId = true
    · rw [if_pos hknown]
      exact .pollMessage index hknown (polls_iff.mp hpolls).2
    · rw [if_neg hknown]
      exact .drop
  | pollClose wsId =>
    obtain ⟨hpolls, rfl⟩ := Run.guard_eq_some.mp h
    by_cases hknown : s.known wsId = true
    · rw [if_pos hknown]
      exact .pollClose hknown (polls_iff.mp hpolls).2
    · rw [if_neg hknown]
      exact .drop
  | pollOther =>
    obtain ⟨hpolls, rfl⟩ := Run.guard_eq_some.mp h
    exact .pollOther (polls_iff.mp hpolls).2
  | pollStop reason draining accepted =>
    obtain ⟨⟨hpolls, -⟩, hs⟩ := Option.ite_none_right_eq_some.mp h
    obtain ⟨hpolling, hpending⟩ := polls_iff.mp hpolls
    obtain rfl := Option.some.inj ((apply_ite some _ _ _).trans hs)
    split_ifs with hrejected
    · exact .endPolling [] (List.nil_subset _) hpending
    · refine .pollStop reason draining accepted hpolling rfl ?_ hpending
      by_cases hsome : s.hibernating (reason == "sleep" && !draining) = []
      · exact .inl hsome
      · exact .inr (by simpa [hsome] using hrejected)
  | endPolling =>
    obtain ⟨hpending, rfl⟩ := Run.guard_eq_some.mp h
    exact .endPolling s.websockets (List.Subset.refl _) hpending
  | take =>
    cases hw : s.worker with
    | ready =>
      cases hm : s.mailbox with
      | nil => simp [step, hw, hm] at h
      | cons e rest =>
        have hs : { s with mailbox := rest }.handle e = s' := by
          simpa [step, hw, hm] using h
        subst hs
        cases e with
        | wsOpen wsId resumed => exact .takeOpen hw hm
        | wsMessage wsId index => exact .takeMessage hw hm
        | wsClose wsId => exact .takeClose hw hm
        | other => exact .takeOther hw hm
        | stop reason => exact .takeStop hw hm
    | _ => simp [step, hw] at h
  | turn =>
    cases hw : s.worker with
    | turning wsId resumed =>
      obtain rfl : _ = s' := by simpa [step, hw] using h
      exact .turn hw
    | _ => simp [step, hw] at h
  | openDone o =>
    cases hw : s.worker with
    | opening wsId resumed =>
      obtain ⟨-, rfl⟩ : (resumed = true → o = .ok) ∧ _ = s' := by simpa [step, hw] using h
      exact .openDone o hw
    | _ => simp [step, hw] at h
  | openResult accepted =>
    cases hw : s.worker with
    | answering wsId o =>
      obtain rfl : _ = s' := by simpa [step, hw] using h
      exact .openResult accepted hw
    | _ => simp [step, hw] at h
  | messageDone accepted =>
    cases hw : s.worker with
    | handling wsId index needs =>
      cases needs with
      | true =>
        obtain rfl : _ = s' := by simpa [step, hw] using h
        cases accepted with
        | true => exact .ack hw
        | false => exact .ackRejected hw
      | false =>
        obtain rfl : _ = s' := by simpa [step, hw] using h
        exact .messageDone hw
    | _ => simp [step, hw] at h
  | callbackDone leave =>
    obtain ⟨hw, rfl⟩ : s.worker = .busy ∧ _ = s' := by simpa [step] using h
    cases leave with
    | true => exact .leave (.inl hw)
    | false => exact .callbackDone hw
  | stopDone =>
    cases hw : s.worker with
    | stopping reason =>
      obtain rfl : _ = s' := by simpa [step, hw] using h
      exact .stopDone hw
    | _ => simp [step, hw] at h
  | leave =>
    obtain ⟨⟨hw, -⟩, rfl⟩ :
        (s.worker = .ready ∧ s.mailbox = [] ∧ s.polling = false) ∧ _ = s' := by
      simpa [step] using h
    exact .leave (.inr hw)
  | closeWebSockets =>
    cases hw : s.worker with
    | leaving reason =>
      obtain rfl : _ = s' := by simpa [step, hw] using h
      exact .closeWebSockets hw
    | _ => simp [step, hw] at h

end RivetGo.WebSocket

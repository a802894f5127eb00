import Mathlib
import RivetGo.Data.Owned
import RivetGo.Data.Run
import RivetGo.Data.Utf8
import RivetGo.Http.Fidelity

/-!
# Two generations of one actor

The tables of the actor proxy for one actor id. Each entry belongs to a generation, but
not every table records which: `actor_connect_ids` has the actor id alone, a command
names a socket or a request by its id, and `StopIntent` names the actor and goes to the
newest generation. The commands of a generation and the cleanup of its `run_actor`
therefore reach what another generation owns. `fenced_iff` says for every command and
every cleanup step when they do not.

What is left out: the events that go to Go, and core's side of `stop_with_error`.
-/

namespace RivetGo.Generations

open Owned

inductive LifecycleKind where
  | start
  | stop
  | alarm
  deriving DecidableEq

structure Socket where
  canHibernate : Bool
  /-- The message indices that wait for an acknowledgement, if the socket hibernates. -/
  acknowledgements : Option (List Nat)
  outbound : List Bytes := []
  /-- The loop that writes to the socket has ended. -/
  outboundClosed : Bool := false
  deriving DecidableEq

def wsOutboundQueueCapacity : Nat := 64

/-- There is room in the outbound queue and somebody to empty it. -/
def Socket.Takes (socket : Socket) : Prop :=
  socket.outboundClosed = false ∧ socket.outbound.length < wsOutboundQueueCapacity

instance (socket : Socket) : Decidable socket.Takes := inferInstanceAs (Decidable (_ ∧ _))

/-- What the cleanup of a generation does next. `preserving` is set when the actor
sleeps and the runner is not draining. -/
inductive Cleanup where
  /-- The sockets that the generation had, and whether each is to hibernate. -/
  | sockets (todo : List (String × Bool)) (preserving : Bool)
  | stopIntent (preserving : Bool)
  | actor (preserving : Bool)
  | connectIds (preserving : Bool)
  | finished
  deriving DecidableEq

structure State where
  actors : List Nat := []
  stopIntents : Finset Nat := ∅
  sockets : Table String Nat Socket := ∅
  /-- `pending_ws_open`, with the correlation id of each open. -/
  opens : Table String Nat Nat := ∅
  /-- `actor_connect_ids`; the owner is not in the source's table. -/
  connectIds : Table String Nat Unit := ∅
  /-- `correlations`, with the HTTP response that is assembled for the request. -/
  requests : Table Nat Nat (Option Http.Assembly) := ∅
  lifecycle : AList fun _ : LifecycleKind × Nat => Nat := ∅
  cleanups : AList fun _ : Nat => Cleanup := ∅

def initial : State := {}

inductive Command where
  | stopIntent
  | wsMessageAck (wsId : String) (msgIndex : Nat)
  | wsSend (wsId : String) (data : Bytes) (binary : Bool)
  | wsCloseCmd (wsId : String) (hibernate : Bool)
  | wsOpenResult (wsId : String)
  /-- `ActorStartResult`, `ActorStopResult` and `AlarmHandled`. -/
  | lifecycleResult (kind : LifecycleKind)
  /-- `ActionResult` and `ConnectionResult`. -/
  | result (id : Nat)
  | httpResponse (id : Nat) (command : Http.Command)
  deriving DecidableEq

namespace State

/-- The newest generation. -/
def actorCurrent (s : State) : Option Nat := s.actors.max?

/-- A correlation is resolved. -/
def resolve (s : State) (id : Nat) : State := { s with requests := s.requests.erase id }

/-- A pending open is taken out and resolved. -/
def resolveOpen (s : State) (wsId : String) : State :=
  match s.opens.lookup wsId with
  | none => s
  | some o => { s with opens := s.opens.erase wsId }.resolve o.value

/-- `close_ws` and `websocket_closed`. -/
def closeWs (s : State) (wsId : String) : State :=
  match s.sockets.lookup wsId with
  | none => s
  | some _ => { s with sockets := s.sockets.erase wsId }.resolveOpen wsId

def hibernateWs (s : State) (wsId : String) : State :=
  match s.sockets.lookup wsId with
  | none => s
  | some active =>
    if active.value.canHibernate then
      { s with sockets := s.sockets.erase wsId }.resolveOpen wsId
    else s.closeWs wsId

def setSocket (s : State) (wsId : String) (owner : Nat) (socket : Socket) : State :=
  { s with sockets := s.sockets.insert wsId ⟨owner, socket⟩ }

def ackWsMessage (s : State) (wsId : String) (msgIndex : Nat) : State :=
  match s.sockets.lookup wsId with
  | none => s
  | some active =>
    match active.value.acknowledgements with
    | none => s
    | some pending =>
      if pending.head? = some msgIndex then
        s.setSocket wsId active.owner
          { active.value with acknowledgements := some pending.tail }
      else s.closeWs wsId

def enqueueWs (s : State) (wsId : String) (message : Bytes) : State :=
  match s.sockets.lookup wsId with
  | none => s
  | some active =>
    if active.value.Takes then
      s.setSocket wsId active.owner
        { active.value with outbound := active.value.outbound ++ [message] }
    else s.closeWs wsId

def sendWs (s : State) (wsId : String) (data : Bytes) (binary : Bool) : State :=
  if binary ∨ Utf8.Valid data then s.enqueueWs wsId data else s

def resolveLifecycle (s : State) (key : LifecycleKind × Nat) : State :=
  match s.lifecycle.lookup key with
  | none => s
  | some id => { s with lifecycle := s.lifecycle.erase key }.resolve id

/-- `start_http_response` and `append_http_response`. -/
def handleHttp (s : State) (id : Nat) (command : Http.Command) : State :=
  match s.requests.lookup id with
  | none => s
  | some request =>
    match (Http.View.unanswered request.value).handle command with
    | .unanswered assembly =>
      { s with requests := s.requests.insert id ⟨request.owner, assembly⟩ }
    | _ => s.resolve id

/-- A command of generation `g`. -/
def handleCommand (s : State) (g : Nat) : Command → State
  | .stopIntent =>
    match s.actorCurrent with
    | none => s
    | some current => { s with stopIntents := insert current s.stopIntents }
  | .wsMessageAck wsId msgIndex => s.ackWsMessage wsId msgIndex
  | .wsSend wsId data binary => s.sendWs wsId data binary
  | .wsCloseCmd wsId true => s.hibernateWs wsId
  | .wsCloseCmd wsId false => s.closeWs wsId
  | .wsOpenResult wsId => s.resolveOpen wsId
  | .lifecycleResult kind => s.resolveLifecycle (kind, g)
  | .result id => s.resolve id
  | .httpResponse id command => s.handleHttp id command

/-- The sockets of a generation, as `close_actor_websockets` and
`hibernate_actor_websockets` list them. -/
def actorWebsockets (s : State) (g : Nat) (preserving : Bool) : List (String × Bool) :=
  (s.sockets.entries.filter (·.2.owner = g)).map fun e =>
    (e.1, preserving && e.2.value.canHibernate)

def setCleanup (s : State) (g : Nat) (c : Cleanup) : State :=
  { s with cleanups := s.cleanups.insert g c }

/-- The loop of `run_actor_inner` for generation `g` is on. -/
def Running (s : State) (g : Nat) : Prop := g ∈ s.actors ∧ g ∉ s.cleanups

instance (s : State) (g : Nat) : Decidable (s.Running g) := inferInstanceAs (Decidable (_ ∧ _))

/-- The next step of the cleanup of generation `g`. -/
def cleanup (s : State) (g : Nat) : Cleanup → Option State
  | .sockets ((wsId, hibernate) :: todo) preserving =>
    let closed := if hibernate then s.hibernateWs wsId else s.closeWs wsId
    some (closed.setCleanup g (.sockets todo preserving))
  | .sockets [] preserving => some (s.setCleanup g (.stopIntent preserving))
  | .stopIntent preserving =>
    some ({ s with stopIntents := s.stopIntents.erase g }.setCleanup g (.actor preserving))
  | .actor preserving =>
    some ({ s with actors := s.actors.filter (· ≠ g) }.setCleanup g (.connectIds preserving))
  | .connectIds true => some (s.setCleanup g .finished)
  -- The table has nothing but the actor id to go by, and drops every entry of it.
  | .connectIds false => some ({ s with connectIds := ∅ }.setCleanup g .finished)
  | .finished => none

end State

inductive Action where
  | start (g : Nat)
  | connectionOpen (g : Nat) (connectionId : String)
  | connectionClosed (connectionId : String)
  /-- A request of the generation gets a correlation id that is free. -/
  | request (g : Nat) (id : Nat)
  | lifecycleRequest (g : Nat) (kind : LifecycleKind) (id : Nat)
  | expire (id : Nat)
  /-- `request_ws_open` enters the socket, and the pending open later. -/
  | wsEnter (g : Nat) (wsId : String) (canHibernate : Bool)
  | wsPend (g : Nat) (wsId : String) (id : Nat)
  | wsMessage (wsId : String) (msgIndex : Nat)
  | wsSent (wsId : String)
  | wsOutboundClosed (wsId : String)
  | wsClosed (wsId : String)
  /-- `run_actor_inner` has returned. -/
  | leave (g : Nat) (preserving : Bool)
  | command (g : Nat) (command : Command)
  | cleanup (g : Nat)
  deriving DecidableEq

def step (s : State) : Action → Option State
  | .start g => if g ∈ s.actors then none else some { s with actors := g :: s.actors }
  | .connectionOpen g connectionId =>
    if s.Running g then
      some { s with connectIds := s.connectIds.insert connectionId ⟨g, ()⟩ }
    else none
  | .connectionClosed connectionId =>
    some { s with connectIds := s.connectIds.erase connectionId }
  | .request g id =>
    if s.Running g ∧ id ≠ 0 ∧ id ∉ s.requests then
      some { s with requests := s.requests.insert id ⟨g, none⟩ }
    else none
  | .lifecycleRequest g kind id =>
    if s.Running g then some { s with lifecycle := s.lifecycle.insert (kind, g) id } else none
  | .expire id => some (s.resolve id)
  | .wsEnter g wsId canHibernate =>
    if s.Running g then
      some (s.setSocket wsId g
        { canHibernate, acknowledgements := if canHibernate then some [] else none })
    else none
  | .wsPend g wsId id =>
    if s.Running g then some { s with opens := s.opens.insert wsId ⟨g, id⟩ } else none
  | .wsMessage wsId msgIndex =>
    (s.sockets.lookup wsId).map fun active =>
      s.setSocket wsId active.owner
        { active.value with
          acknowledgements := active.value.acknowledgements.map (· ++ [msgIndex]) }
  | .wsSent wsId =>
    (s.sockets.lookup wsId).map fun active =>
      s.setSocket wsId active.owner
        { active.value with outbound := active.value.outbound.tail }
  | .wsOutboundClosed wsId =>
    (s.sockets.lookup wsId).map fun active =>
      s.setSocket wsId active.owner { active.value with outboundClosed := true }
  | .wsClosed wsId => some (s.closeWs wsId)
  | .leave g preserving =>
    if s.Running g then
      some (s.setCleanup g (.sockets (s.actorWebsockets g preserving) preserving))
    else none
  | .command g command => some (s.handleCommand g command)
  | .cleanup g => (s.cleanups.lookup g).bind (s.cleanup g)

/-- The generation whose command or cleanup an action is. -/
def Action.author : Action → Option Nat
  | .command g _ => some g
  | .cleanup g => some g
  | _ => none

/-! ## What belongs to the other generations -/

variable {s s' : State} {a : Action} {g : Nat} {wsId : String} {id : Nat}

/-- Nothing that belongs to a generation other than `g` has changed. -/
structure Fenced (g : Nat) (s s' : State) : Prop where
  stopIntents : ∀ h, h ≠ g → (h ∈ s'.stopIntents ↔ h ∈ s.stopIntents)
  sockets : KeepsOthers g s.sockets s'.sockets
  opens : KeepsOthers g s.opens s'.opens
  connectIds : KeepsOthers g s.connectIds s'.connectIds
  requests : KeepsOthers g s.requests s'.requests
  lifecycle : ∀ kind h, h ≠ g → s'.lifecycle.lookup (kind, h) = s.lifecycle.lookup (kind, h)

theorem Fenced.refl (g : Nat) (s : State) : Fenced g s s :=
  ⟨fun _ _ => Iff.rfl, .refl g _, .refl g _, .refl g _, .refl g _, fun _ _ _ => rfl⟩

/-- The request, if there is one, is `g`'s. -/
def RequestApart (g : Nat) (s : State) (id : Nat) : Prop :=
  ∀ r, s.requests.lookup id = some r → r.owner = g

/-- The pending open of a socket and its correlation are `g`'s. -/
def OpenApart (g : Nat) (s : State) (wsId : String) : Prop :=
  ∀ o, s.opens.lookup wsId = some o → o.owner = g ∧ RequestApart g s o.value

/-- A socket and its pending open are `g`'s. -/
def SocketApart (g : Nat) (s : State) (wsId : String) : Prop :=
  ∀ e, s.sockets.lookup wsId = some e → e.owner = g ∧ OpenApart g s wsId

def CommandApart (g : Nat) (s : State) : Command → Prop
  | .stopIntent => ∀ current, s.actorCurrent = some current →
      current = g ∨ current ∈ s.stopIntents
  | .wsMessageAck wsId msgIndex => ∀ e, s.sockets.lookup wsId = some e →
      ∀ pending, e.value.acknowledgements = some pending →
        e.owner = g ∧ (pending.head? ≠ some msgIndex → OpenApart g s wsId)
  | .wsSend wsId data binary => binary ∨ Utf8.Valid data →
      ∀ e, s.sockets.lookup wsId = some e →
        e.owner = g ∧ (¬ e.value.Takes → OpenApart g s wsId)
  | .wsCloseCmd wsId _ => SocketApart g s wsId
  | .wsOpenResult wsId => OpenApart g s wsId
  | .lifecycleResult kind => ∀ id, s.lifecycle.lookup (kind, g) = some id → RequestApart g s id
  | .result id => RequestApart g s id
  -- An empty chunk that does not end the response changes nothing.
  | .httpResponse id command => ∀ r, s.requests.lookup id = some r →
      r.owner = g ∨
        (Http.View.unanswered r.value).handle command = .unanswered r.value

def CleanupApart (g : Nat) (s : State) : Cleanup → Prop
  | .sockets ((wsId, _) :: _) _ => SocketApart g s wsId
  | .connectIds false => ∀ k e, s.connectIds.lookup k = some e → e.owner = g
  | _ => True

/-- What a command or a cleanup step reaches is the author's own. -/
def Apart (s : State) : Action → Prop
  | .command g command => CommandApart g s command
  | .cleanup g => ∀ c, s.cleanups.lookup g = some c → CleanupApart g s c
  | _ => True

/-! ## One table at a time -/

theorem fenced_resolve_iff : Fenced g s (s.resolve id) ↔ RequestApart g s id := by
  constructor
  · intro h
    exact keepsOthers_erase_iff.mp h.requests
  · intro h
    exact { Fenced.refl g s with requests := keepsOthers_erase_iff.mpr h }

theorem fenced_resolveOpen_iff : Fenced g s (s.resolveOpen wsId) ↔ OpenApart g s wsId := by
  rw [State.resolveOpen, OpenApart]
  cases hopen : s.opens.lookup wsId with
  | none => exact iff_of_true (.refl g s) (by simp)
  | some o =>
    simp only [Option.some.injEq, forall_eq']
    constructor
    · intro h
      exact ⟨keepsOthers_erase_iff.mp h.opens o hopen, keepsOthers_erase_iff.mp h.requests⟩
    · rintro ⟨howner, hrequest⟩
      refine { Fenced.refl g s with
        opens := keepsOthers_erase_iff.mpr fun o' ho' => ?_
        requests := keepsOthers_erase_iff.mpr hrequest }
      obtain rfl := Option.some.inj (hopen.symm.trans ho')
      exact howner

/-- A socket is taken out together with its pending open. -/
theorem fenced_detach_iff {e : Entry Nat Socket} (he : s.sockets.lookup wsId = some e) :
    Fenced g s ({ s with sockets := s.sockets.erase wsId }.resolveOpen wsId) ↔
      e.owner = g ∧ OpenApart g s wsId := by
  have hrest : Fenced g s ({ s with sockets := s.sockets.erase wsId }.resolveOpen wsId) ↔
      KeepsOthers g s.sockets (s.sockets.erase wsId) ∧ Fenced g s (s.resolveOpen wsId) := by
    rw [State.resolveOpen, State.resolveOpen]
    cases hopen : s.opens.lookup wsId with
    | none =>
      exact ⟨fun h => ⟨h.sockets, .refl g s⟩,
        fun h => { Fenced.refl g s with sockets := h.1 }⟩
    | some o =>
      exact ⟨fun h => ⟨h.sockets, { h with sockets := .refl g _ }⟩,
        fun h => { h.2 with sockets := h.1 }⟩
  rw [hrest, fenced_resolveOpen_iff, keepsOthers_erase_iff]
  simp [he]

theorem fenced_closeWs_iff : Fenced g s (s.closeWs wsId) ↔ SocketApart g s wsId := by
  rw [State.closeWs, SocketApart]
  cases he : s.sockets.lookup wsId with
  | none => exact iff_of_true (.refl g s) (by simp)
  | some e => simpa using fenced_detach_iff he

/-- For the tables, hibernation and close are the same. -/
theorem hibernateWs_eq (s : State) (wsId : String) : s.hibernateWs wsId = s.closeWs wsId := by
  rw [State.hibernateWs, State.closeWs]
  cases s.sockets.lookup wsId with
  | none => rfl
  | some active => exact ite_self _

theorem fenced_setSocket_iff {e : Entry Nat Socket} {socket : Socket}
    (he : s.sockets.lookup wsId = some e) (hne : socket ≠ e.value) :
    Fenced g s (s.setSocket wsId e.owner socket) ↔ e.owner = g := by
  constructor
  · intro h
    exact ((keepsOthers_insert_iff he).mp h.sockets).resolve_right hne
  · intro h
    exact { Fenced.refl g s with sockets := (keepsOthers_insert_iff he).mpr (.inl h) }

theorem fenced_stopIntent_iff {current : Nat} :
    Fenced g s { s with stopIntents := insert current s.stopIntents } ↔
      current = g ∨ current ∈ s.stopIntents := by
  constructor
  · intro h
    by_cases hg : current = g
    · exact .inl hg
    · exact .inr ((h.stopIntents current hg).mp (Finset.mem_insert_self _ _))
  · intro h
    refine { Fenced.refl g s with stopIntents := fun k hk => ?_ }
    rw [Finset.mem_insert]
    constructor
    · rintro (rfl | hmem)
      · exact h.resolve_left hk
      · exact hmem
    · exact .inr

/-! ## The commands and the cleanup -/

theorem fenced_ackWsMessage_iff (msgIndex : Nat) :
    Fenced g s (s.ackWsMessage wsId msgIndex) ↔
      CommandApart g s (.wsMessageAck wsId msgIndex) := by
  rw [State.ackWsMessage, CommandApart]
  cases he : s.sockets.lookup wsId with
  | none => exact iff_of_true (.refl g s) (by simp)
  | some e =>
    cases hacks : e.value.acknowledgements with
    | none =>
      simp only [hacks]
      exact iff_of_true (.refl g s) (by simp [hacks])
    | some pending =>
      simp only [Option.some.injEq, forall_eq', hacks]
      by_cases hhead : pending.head? = some msgIndex
      · rw [if_pos hhead, fenced_setSocket_iff he]
        · simp [hhead]
        · -- The queue is shorter than before.
          intro heq
          have htail : pending.tail = pending := by
            have := congrArg Socket.acknowledgements heq
            exact Option.some.inj (this.trans hacks)
          cases pending with
          | nil => simp at hhead
          | cons i rest => exact List.cons_ne_self i rest htail.symm
      · rw [if_neg hhead, fenced_closeWs_iff, SocketApart, he]
        simp [hhead]

theorem fenced_sendWs_iff (data : Bytes) (binary : Bool) :
    Fenced g s (s.sendWs wsId data binary) ↔ CommandApart g s (.wsSend wsId data binary) := by
  rw [State.sendWs, CommandApart]
  by_cases hvalid : binary ∨ Utf8.Valid data
  · rw [if_pos hvalid, State.enqueueWs]
    simp only [hvalid, forall_const]
    cases he : s.sockets.lookup wsId with
    | none => exact iff_of_true (.refl g s) (by simp)
    | some e =>
      simp only [Option.some.injEq, forall_eq']
      by_cases htakes : e.value.Takes
      · rw [if_pos htakes, fenced_setSocket_iff he]
        · simp [htakes]
        · -- The queue is longer than before.
          intro heq
          have hlength := congrArg (fun socket : Socket => socket.outbound.length) heq
          simp at hlength
      · rw [if_neg htakes, fenced_closeWs_iff, SocketApart, he]
        simp [htakes]
  · rw [if_neg hvalid]
    exact iff_of_true (.refl g s) fun h => absurd h hvalid

theorem fenced_resolveLifecycle_iff (kind : LifecycleKind) :
    Fenced g s (s.resolveLifecycle (kind, g)) ↔ CommandApart g s (.lifecycleResult kind) := by
  rw [State.resolveLifecycle, CommandApart]
  cases hid : s.lifecycle.lookup (kind, g) with
  | none => exact iff_of_true (.refl g s) (by simp)
  | some id =>
    simp only [Option.some.injEq, forall_eq']
    constructor
    · intro h
      exact keepsOthers_erase_iff.mp h.requests
    · intro h
      refine { Fenced.refl g s with
        requests := keepsOthers_erase_iff.mpr h
        lifecycle := fun kind' k hk => AList.lookup_erase_ne ?_ }
      exact fun heq => hk (congrArg Prod.snd heq)

theorem fenced_handleHttp_iff (command : Http.Command) :
    Fenced g s (s.handleHttp id command) ↔ CommandApart g s (.httpResponse id command) := by
  rw [State.handleHttp, CommandApart]
  cases hr : s.requests.lookup id with
  | none => exact iff_of_true (.refl g s) (by simp)
  | some r =>
    simp only [Option.some.injEq, forall_eq']
    cases hview : (Http.View.unanswered r.value).handle command with
    | unanswered assembly =>
      simp only [Http.View.unanswered.injEq]
      constructor
      · intro h
        exact (keepsOthers_insert_iff hr).mp h.requests
      · intro h
        exact { Fenced.refl g s with requests := (keepsOthers_insert_iff hr).mpr h }
    | responded a => simp [fenced_resolve_iff, RequestApart, hr]
    | failed => simp [fenced_resolve_iff, RequestApart, hr]

theorem fenced_handleCommand_iff (command : Command) :
    Fenced g s (s.handleCommand g command) ↔ CommandApart g s command := by
  cases command with
  | stopIntent =>
    rw [State.handleCommand, CommandApart]
    cases s.actorCurrent with
    | none => exact iff_of_true (.refl g s) (by simp)
    | some current => simpa using fenced_stopIntent_iff
  | wsMessageAck wsId msgIndex => exact fenced_ackWsMessage_iff msgIndex
  | wsSend wsId data binary => exact fenced_sendWs_iff data binary
  | wsCloseCmd wsId hibernate =>
    cases hibernate with
    | true =>
      rw [State.handleCommand, hibernateWs_eq]
      exact fenced_closeWs_iff
    | false => exact fenced_closeWs_iff
  | wsOpenResult wsId => exact fenced_resolveOpen_iff
  | lifecycleResult kind => exact fenced_resolveLifecycle_iff kind
  | result id => exact fenced_resolve_iff
  | httpResponse id command => exact fenced_handleHttp_iff command

/-- Where a cleanup stands belongs to nobody else. -/
theorem fenced_setCleanup_iff {c : Cleanup} :
    Fenced g s (s'.setCleanup g c) ↔ Fenced g s s' :=
  ⟨fun h => { h with }, fun h => { h with }⟩

theorem fenced_cleanup_iff {c : Cleanup} (hs : s.cleanup g c = some s') :
    Fenced g s s' ↔ CleanupApart g s c := by
  cases c with
  | sockets todo preserving =>
    cases todo with
    | nil =>
      obtain rfl := Option.some.inj hs
      exact iff_of_true (fenced_setCleanup_iff.mpr (.refl g s)) trivial
    | cons socket todo =>
      obtain rfl := Option.some.inj hs
      simp only [hibernateWs_eq, ite_self]
      exact fenced_setCleanup_iff.trans fenced_closeWs_iff
  | stopIntent preserving =>
    obtain rfl := Option.some.inj hs
    refine iff_of_true (fenced_setCleanup_iff.mpr ?_) trivial
    refine { Fenced.refl g s with stopIntents := fun k hk => ?_ }
    exact Finset.mem_erase.trans (and_iff_right hk)
  | actor preserving =>
    obtain rfl := Option.some.inj hs
    exact iff_of_true (fenced_setCleanup_iff.mpr { Fenced.refl g s with }) trivial
  | connectIds preserving =>
    cases preserving with
    | true =>
      obtain rfl := Option.some.inj hs
      exact iff_of_true (fenced_setCleanup_iff.mpr (.refl g s)) trivial
    | false =>
      obtain rfl := Option.some.inj hs
      rw [fenced_setCleanup_iff, CleanupApart, ← keepsOthers_empty_iff]
      exact ⟨fun h => h.connectIds, fun h => { Fenced.refl g s with connectIds := h }⟩
  | finished => exact absurd hs (Option.some_ne_none _).symm

/-- A command or a cleanup step of a generation leaves what belongs to every other
generation alone exactly if all that it reaches is its own. -/
theorem fenced_iff (hauthor : a.author = some g) (hs : step s a = some s') :
    Fenced g s s' ↔ Apart s a := by
  cases a with
  | command g' command =>
    obtain rfl := Option.some.inj hauthor
    obtain rfl := Option.some.inj hs
    exact fenced_handleCommand_iff command
  | cleanup g' =>
    obtain rfl := Option.some.inj hauthor
    obtain ⟨c, hc, hs⟩ := Option.bind_eq_some_iff.mp hs
    rw [fenced_cleanup_iff hs, Apart]
    simp [hc]
  | _ => exact absurd hauthor (Option.some_ne_none _).symm

/-- The first generation ends while the second one is up, which has a connection, a socket
and a request of its own. The result of an action of the first one is still to come. -/
def handover : List Action :=
  [.start 1, .wsEnter 1 "ws" true, .request 1 7, .start 2, .connectionOpen 2 "conn",
    .wsEnter 2 "ws2" false, .request 2 8, .leave 1 true, .cleanup 1, .cleanup 1, .cleanup 1,
    .cleanup 1, .cleanup 1]

theorem handover_fenced : ∃ s s', Run.run step initial handover = some s ∧
    step s (.command 1 (.result 7)) = some s' ∧ s.actorCurrent = some 2 ∧
    s.requests.lookup 7 = some ⟨1, none⟩ ∧ s.requests.lookup 8 = some ⟨2, none⟩ ∧
    s.connectIds.lookup "conn" = some ⟨2, ()⟩ ∧
    (s.sockets.lookup "ws2").map Entry.owner = some 2 ∧ Fenced 1 s s' := by
  refine ⟨_, _, rfl, rfl, rfl, rfl, rfl, rfl, rfl,
    (fenced_iff (a := .command 1 (.result 7)) rfl rfl).mpr ?_⟩
  intro r hr
  obtain rfl := Option.some.inj hr
  rfl

/-- The first generation is destroyed while the second has a connection; what is left
of its cleanup is `actor_connect_ids`. -/
def lateCleanup : List Action :=
  [.start 1, .start 2, .connectionOpen 2 "conn", .leave 1 false, .cleanup 1, .cleanup 1,
    .cleanup 1]

/-- The socket has gone to sleep in the first generation and woken up in the second. -/
def wokenSocket : List Action :=
  [.start 1, .wsEnter 1 "ws" true, .wsMessage "ws" 1, .start 2, .leave 1 true, .cleanup 1,
    .cleanup 1, .cleanup 1, .cleanup 1, .cleanup 1, .wsEnter 2 "ws" true, .wsMessage "ws" 2]

/-- A late `StopIntent` of the first generation marks the second, its cleanup forgets the
connection of the second, and its late acknowledgement closes the socket of the second. -/
theorem other_generation_reached :
    (∃ s s', Run.run step initial [.start 1, .start 2] = some s ∧
      step s (.command 1 .stopIntent) = some s' ∧ s'.stopIntents = {2} ∧ ¬ Fenced 1 s s') ∧
    (∃ s s', Run.run step initial lateCleanup = some s ∧ step s (.cleanup 1) = some s' ∧
      s.connectIds.lookup "conn" = some ⟨2, ()⟩ ∧ s'.connectIds.lookup "conn" = none ∧
      ¬ Fenced 1 s s') ∧
    ∃ s s', Run.run step initial wokenSocket = some s ∧
      step s (.command 1 (.wsMessageAck "ws" 1)) = some s' ∧
      (s.sockets.lookup "ws").map Entry.owner = some 2 ∧ s'.sockets.lookup "ws" = none ∧
      ¬ Fenced 1 s s' := by
  refine ⟨⟨_, _, rfl, rfl, rfl, fun h => ?_⟩, ⟨_, _, rfl, rfl, rfl, rfl, fun h => ?_⟩,
    _, _, rfl, rfl, rfl, rfl, fun h => ?_⟩
  · exact absurd ((h.stopIntents 2 (by decide)).mp (Finset.mem_singleton_self 2))
      (Finset.notMem_empty 2)
  · exact Option.some_ne_none _ ((h.connectIds "conn" ⟨2, ()⟩ (by decide)).mpr rfl).symm
  · exact Option.some_ne_none _ ((h.sockets "ws" ⟨2, true, some [2], [], false⟩
      (by decide)).mpr rfl).symm

end RivetGo.Generations

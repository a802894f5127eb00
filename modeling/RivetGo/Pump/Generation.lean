import RivetGo.Data.Run
import RivetGo.Native.Emit

/-!
# One generation of an actor on both sides of the boundary

The actor proxy runs one loop per generation. It sends `ActorStart`, waits for
the result, then takes the events of core one by one: each becomes one request
to Go, and the loop waits until the request is answered or its correlation
expires. On the Go side the poller hands every event to `handleInternalEvent`,
which puts requests into the mailbox of the worker; the worker takes them one by
one, calls the handler and submits the result.

The two sides share two queues. The poller, the worker, the callers of `Save`,
the loop, the reaper of expired correlations and the tasks that write state take
their steps in any order. What the poller does with the acknowledgement of a
state write is cut where it takes a lock, since a caller of `Save` may come in
between. Native accepts every submission here. Of the commands
only those are kept that the loop reacts to or that are answered by an event:
a stop intent asks core to stop the actor, which shows as another request.
-/

namespace RivetGo.Pump

open Native (ConnectionEventKind maxBodyChunk)

/-- How a handler ended: `panicked` is an error with the code `handler_panic`. -/
inductive Outcome where
  | ok | failed | panicked
  deriving DecidableEq, Repr

/-- An event of core that the loop turns into a request to Go. A connection ID
names the WebSocket. -/
inductive Request where
  | action
  | http (body : Bytes)
  | alarm
  | wsOpen (wsId : String) (canHibernate : Bool)
  | connection (kind : ConnectionEventKind)
  | stop (reason : String)
  deriving DecidableEq

def Request.kind : Request → String
  | .action => "ActionCall"
  | .http _ => "HttpRequest"
  | .alarm => "ActorAlarm"
  | .wsOpen _ _ => "WsOpen"
  | .connection .preflight => "connection_preflight"
  | .connection .opened => "connection_open"
  | .connection .closed => "connection_close"
  | .stop _ => "ActorStop"

/-- An event for the generation. A request stands with the correlation under
which native waits for it; on the wire an alarm, a stop and a WebSocket are
named by the generation or the connection instead. -/
inductive Event where
  | actorStart
  | request (r : Request) (id : Nat)
  | httpRequestChunk (id : Nat) (body : Bytes) (finish : Bool)
  | httpRequestAbort (id : Nat)
  | wsMessage (wsId : String)
  | wsClose (wsId : String)
  | statePersisted
  deriving DecidableEq

/-- A command of the generation. `result` is the answer to the request that was
sent under that correlation: `ActionResult`, `ConnectionResult`, `AlarmHandled`,
`WsOpenResult`, `ActorStopResult`, and the start or the error of an HTTP response. -/
inductive Command where
  | actorStartResult (ok : Bool)
  | result (r : Request) (id : Nat) (outcome : Outcome)
  | wsHibernate (wsId : String)
  | saveState
  deriving DecidableEq

/-! ### Native -/

inductive Loop where
  | created
  | starting
  | idle
  | waiting (r : Request) (id : Nat)
  | ended
  deriving DecidableEq

/-- The native side. `opened` are the WebSockets of the generation so far and
`saving` the state writes in flight. `cleaned` says that a graceful cleanup was
answered without an error. `alarmPending` is the entry of the lifecycle table
under the alarm key: the correlation of an alarm. -/
structure NativeSide where
  loop : Loop
  lastId : Nat
  cleaned : Bool
  alarmPending : Option Nat
  opened : List String
  saving : Nat
  events : List Event
  commands : List Command

def chunkEvents (id : Nat) (remaining : Bytes) : List Event :=
  let count := (remaining.length + maxBodyChunk - 1) / maxBodyChunk
  (Chunk.chunks maxBodyChunk remaining).zipIdx.map fun chunk =>
    .httpRequestChunk id chunk.1 (chunk.2 + 1 == count)

/-- The request as its first event has it: an HTTP request carries the first
chunk of its body. -/
def Request.head : Request → Request
  | .http body => .http (body.take maxBodyChunk)
  | r => r

def Request.tail (id : Nat) : Request → List Event
  | .http body => chunkEvents id (body.drop maxBodyChunk)
  | _ => []

def Request.events (r : Request) (id : Nat) : List Event := .request r.head id :: r.tail id

/-- Core has a request for the idle loop. The correlation is new, and so is the
connection of a WebSocket. An alarm that finds the alarm key taken is refused:
its correlation replaces the one under the key, and nobody waits for either. -/
def NativeSide.request (n : NativeSide) (r : Request) (id : Nat) : Option NativeSide :=
  let next := { n with loop := .waiting r.head id, lastId := id, events := n.events ++ r.events id }
  if n.loop = .idle ∧ n.lastId < id then
    match r with
    | .alarm => if n.alarmPending ≠ none then none else some { next with alarmPending := some id }
    | .wsOpen wsId _ =>
      if wsId ∈ n.opened then none else some { next with opened := wsId :: n.opened }
    | _ => some next
  else none

def Request.fatal : Request → Outcome → Bool
  | .action, .panicked => true
  | .http _, .panicked => true
  | .alarm, .panicked => true
  | .connection .closed, .panicked => true
  | .stop _, o => o ≠ .ok
  | _, _ => false

def Request.isStop : Request → Bool
  | .stop _ => true
  | _ => false

/-- The events after a result: a WebSocket that Go refused is closed. -/
def Request.answered : Request → Outcome → List Event
  | .wsOpen _ _, .ok => []
  | .wsOpen wsId _, _ => [.wsClose wsId]
  | _, _ => []

/-- The events after a request expired: an HTTP request is aborted. -/
def Request.expired (id : Nat) : Request → List Event
  | .http _ => [.httpRequestAbort id]
  | _ => []

/-- The loop gets the result of the request that it waits for. A graceful
cleanup without an error leaves the loop running. -/
def NativeSide.resolve (n : NativeSide) (r : Request) (o : Outcome) : NativeSide :=
  { n with
    loop := if r.fatal o then .ended else .idle
    cleaned := n.cleaned || (r.isStop && !r.fatal o)
    events := n.events ++ r.answered o }

/-- The result of an alarm arrives. It does not say of which: it frees the alarm
key, and it is for the loop if the loop waits under that key. -/
def NativeSide.answerAlarm (n : NativeSide) (o : Outcome) : NativeSide :=
  let n' := { n with alarmPending := none }
  match n.loop, n.alarmPending with
  | .waiting .alarm id, some id' => if id = id' then n'.resolve .alarm o else n'
  | _, _ => n'

/-- A result arrives. Nobody waits for a correlation that expired: its result is
dropped. -/
def NativeSide.answer (n : NativeSide) (r : Request) (id : Nat) (o : Outcome) : NativeSide :=
  if r = .alarm then n.answerAlarm o
  else
    match n.loop with
    | .waiting r' id' => if id' = id then n.resolve r' o else n
    | _ => n

def NativeSide.dispatch (n : NativeSide) : Command → NativeSide
  | .actorStartResult ok =>
    if n.loop = .starting then { n with loop := if ok then .idle else .ended } else n
  | .result r id o => n.answer r id o
  | .wsHibernate _ => n
  | .saveState => { n with saving := n.saving + 1 }

def NativeSide.receive (n : NativeSide) : Option NativeSide :=
  match n.commands with
  | [] => none
  | c :: rest => some ({ n with commands := rest }.dispatch c)

/-- The correlation of the loop expires, which ends the loop if it waits for a
start or a stop. The alarm key stays taken. -/
def NativeSide.expire (n : NativeSide) : Option NativeSide :=
  match n.loop with
  | .starting => some { n with loop := .ended }
  | .waiting r id =>
    some { n with
      loop := if r.isStop then .ended else .idle
      events := n.events ++ r.expired id }
  | _ => none

/-- The reaper frees the alarm key if nobody waits under it. -/
def NativeSide.sweep (n : NativeSide) : NativeSide :=
  { n with alarmPending := n.alarmPending.filter fun id => n.loop = .waiting .alarm id }

/-- An event of a WebSocket, which does not wait for the loop. -/
def NativeSide.send (n : NativeSide) (e : Event) : Option NativeSide :=
  if n.loop = .created ∨ n.loop = .starting then none
  else some { n with events := n.events ++ [e] }

/-! ### Go -/

/-- Where the worker is. `leaving` is a worker whose `run` returns, `aborted` one
whose session is aborted, and `removed` one that is no longer in the table. -/
inductive Worker where
  | unborn
  | starting
  | ready
  | busy (e : Event)
  | leaving
  | aborted
  | removed
  deriving DecidableEq

def Worker.registered : Worker → Bool
  | .unborn => false
  | .removed => false
  | _ => true

/-- What the poller has done with the acknowledgement of a state write. -/
inductive Poller where
  | ready
  /-- The worker was in the table. -/
  | found
  /-- `completeSave` had no channel. -/
  | notPending
  /-- `completeAbandonedSave` has taken the poison away. -/
  | consuming
  /-- Only the entry of an abandoned save can account for it. -/
  | late (known : Bool)
  deriving DecidableEq

/-- What the pump holds for the generation. `activeSave` is a caller of `Save`,
of which the session lets in one at a time; `saveResult` says that it waits for
an acknowledgement. `lateSave` is the entry in the table of abandoned saves. -/
structure PumpSide where
  worker : Worker
  mailbox : List Event
  http : List Nat
  websockets : List (String × Bool)
  accepting : Bool
  done : Bool
  activeSave : Bool
  saveResult : Bool
  savePoisoned : Bool
  lateSave : Bool
  poller : Poller := .ready

def PumpSide.put (p : PumpSide) (e : Event) : PumpSide := { p with mailbox := p.mailbox ++ [e] }

def PumpSide.removeWebSocket (p : PumpSide) (wsId : String) : PumpSide :=
  { p with websockets := p.websockets.filter (·.1 ≠ wsId) }

/-- The WebSockets of the generation leave the table: those that hibernate by a
command to native, the others by a close event in the mailbox. -/
def PumpSide.detachActorWebSockets (p : PumpSide) (hibernate : Bool) :
    PumpSide × List Event × List Command :=
  let (sleep, close) := p.websockets.partition fun w => hibernate && w.2
  ({ p with websockets := [] }, close.map (.wsClose ·.1), sleep.map (.wsHibernate ·.1))

structure Identity where
  aid : String
  generation : Nat

def Identity.text (i : Identity) : String := s!"{i.aid} generation {i.generation}"

/-- A request for the worker. `draining` is the flag of a runner that shuts
down, and `accepted` says whether native took the hibernation commands. -/
def PumpSide.handleRequest (identity : Identity) (draining accepted : Bool) (p : PumpSide)
    (r : Request) (id : Nat) : Except String (PumpSide × List Command) :=
  if p.worker.registered = false then .error s!"{r.kind} for unknown actor {identity.text}"
  else
    match r with
    | .http body =>
      if id ∈ p.http then .error s!"duplicate HttpRequest req_id {id}"
      else .ok (({ p with http := id :: p.http }).put (.request (.http body) id), [])
    | .wsOpen wsId canHibernate =>
      if p.websockets.any (·.1 == wsId) then .error s!"duplicate WsOpen ws_id {wsId}"
      else
        let p := { p with websockets := (wsId, canHibernate) :: p.websockets }
        .ok (p.put (.request (.wsOpen wsId canHibernate) id), [])
    | .stop reason =>
      let (p, closeEvents, hibernateCommands) :=
        p.detachActorWebSockets (reason == "sleep" && !draining)
      if !hibernateCommands.isEmpty && !accepted then .error "hibernate actor WebSockets"
      else
        let p := { p with mailbox := p.mailbox ++ closeEvents }
        .ok (p.put (.request (.stop reason) id), hibernateCommands)
    | r => .ok (p.put (.request r id), [])

/-- The next step with the acknowledgement of a state write: it is for the caller
that waits, or for one that gave up. -/
def PumpSide.handlePersisted (identity : Identity) (p : PumpSide) : Except String PumpSide :=
  match p.poller with
  | .ready => .ok p
  | .found =>
    .ok (if p.saveResult then { p with saveResult := false, poller := .ready }
      else { p with poller := .notPending })
  | .notPending =>
    .ok (if p.savePoisoned then { p with savePoisoned := false, poller := .consuming }
      else { p with poller := .late true })
  | .consuming =>
    .ok (if p.lateSave then { p with lateSave := false, poller := .ready }
      else { p with poller := .late true })
  | .late known =>
    if p.lateSave then .ok { p with lateSave := false, poller := .ready }
    else if known then .error s!"StatePersisted without a pending save for {identity.text}"
    else .error s!"StatePersisted for unknown actor {identity.text}"

/-- The poller handles one event. The commands it submits are returned. Of an
acknowledgement this is the first step: the worker is looked up. -/
def PumpSide.handleInternalEvent (identity : Identity) (draining accepted : Bool) (p : PumpSide)
    (e : Event) : Except String (PumpSide × List Command) :=
  match e with
  | .actorStart =>
    if p.worker.registered then .error s!"duplicate ActorStart for {identity.text}"
    else .ok ({ p with worker := .starting, accepting := true, done := false }, [])
  | .request r id => p.handleRequest identity draining accepted r id
  | .httpRequestChunk id _ _ =>
    if id ∈ p.http then .ok (p, []) else .error s!"HttpRequestChunk for unknown req_id {id}"
  | .httpRequestAbort _ => .ok (p, [])
  | .wsMessage wsId =>
    let known := p.websockets.any (·.1 == wsId)
    if p.worker.registered ∧ known then .ok (p.put (.wsMessage wsId), []) else .ok (p, [])
  | .wsClose wsId =>
    let known := p.websockets.any (·.1 == wsId)
    let p := p.removeWebSocket wsId
    if p.worker.registered ∧ known then .ok (p.put (.wsClose wsId), []) else .ok (p, [])
  | .statePersisted =>
    .ok ({ p with poller := if p.worker.registered then .found else .late false }, [])

/-- `OnStart` ends; its result goes to native, and a worker whose start failed
leaves. -/
def PumpSide.started (p : PumpSide) (o : Outcome) : Option (PumpSide × List Command) :=
  if p.worker = .starting then
    some ({ p with worker := if o = .ok then .ready else .leaving },
      [.actorStartResult (o = .ok)])
  else none

def PumpSide.take (p : PumpSide) : Option PumpSide :=
  match p.worker, p.mailbox with
  | .ready, e :: rest => some { p with worker := .busy e, mailbox := rest }
  | _, _ => none

def PumpSide.respond (p : PumpSide) : Option (List Command) :=
  match p.worker with
  | .busy (.request (.http body) id) => some [.result (.http body) id .ok]
  | _ => none

/-- The handler of a request returns. A panic in an action or in an HTTP handler
makes the worker leave, and so does a stop, which first lets the callers of
`Save` finish. An HTTP handler that returns without an error submits nothing
here: its response is its own affair. -/
def PumpSide.finishRequest (p : PumpSide) (r : Request) (id : Nat) (o : Outcome) :
    Option (PumpSide × List Command) :=
  let next : Worker := if o = .panicked then .leaving else .ready
  match r with
  | .action => some ({ p with worker := next }, [.result .action id o])
  | .http body =>
    some ({ p with worker := next, http := p.http.erase id },
      if o = .ok then [] else [.result (.http body) id o])
  | .wsOpen wsId canHibernate =>
    let p := { p with worker := .ready }
    some (if o = .ok then p else p.removeWebSocket wsId,
      [.result (.wsOpen wsId canHibernate) id o])
  | .stop reason =>
    if p.activeSave then none
    else
      some ({ p with worker := .leaving, accepting := false, done := true },
        [.result (.stop reason) id o])
  | r => some ({ p with worker := .ready }, [.result r id o])

def PumpSide.finish (p : PumpSide) (o : Outcome) : Option (PumpSide × List Command) :=
  match p.worker with
  | .busy (.request r id) => p.finishRequest r id o
  | .busy _ => some ({ p with worker := .ready }, [])
  | _ => none

def PumpSide.abort (p : PumpSide) : Option PumpSide :=
  if p.worker = .leaving then
    some { p with worker := .aborted, http := [], accepting := false, done := true }
  else none

/-- The worker is taken out of the table once no caller of `Save` is left. -/
def PumpSide.remove (p : PumpSide) : Option PumpSide :=
  if p.worker = .aborted ∧ p.activeSave = false then
    some { p with worker := .removed, websockets := [] }
  else none

def PumpSide.save (p : PumpSide) : Option (PumpSide × List Command) :=
  if p.accepting ∧ ¬p.activeSave ∧ ¬p.savePoisoned ∧ ¬p.saveResult then
    some ({ p with activeSave := true, saveResult := true }, [.saveState])
  else none

def PumpSide.saved (p : PumpSide) : Option PumpSide :=
  if p.activeSave ∧ ¬p.saveResult then some { p with activeSave := false } else none

/-- The caller of `Save` gives up: its context or the save timeout ended. -/
def PumpSide.abandonSave (p : PumpSide) : Option PumpSide :=
  if p.activeSave ∧ p.saveResult then
    some { p with activeSave := false, saveResult := false, savePoisoned := true, lateSave := true }
  else none

def PumpSide.interruptSave (p : PumpSide) : Option PumpSide :=
  if p.activeSave ∧ p.done then some { p with activeSave := false } else none

/-! ### Both sides -/

structure State where
  native : NativeSide
  pump : PumpSide

def initial : State :=
  { native :=
      { loop := .created, lastId := 0, cleaned := false, alarmPending := none, opened := []
        saving := 0, events := [], commands := [] }
    pump :=
      { worker := .unborn, mailbox := [], http := [], websockets := [], accepting := false
        done := false, activeSave := false, saveResult := false, savePoisoned := false
        lateSave := false } }

inductive Action where
  | start
  | request (r : Request) (id : Nat)
  | receive
  | expire
  | sweep
  | persist
  | wsMessage (wsId : String)
  | wsClose (wsId : String)
  | endLoop
  | poll (draining : Bool)
  | persisted
  | started (o : Outcome)
  | take
  | respond
  | finish (o : Outcome)
  | abort
  | remove
  | save
  | saved
  | abandonSave
  | interruptSave

def State.submit (s : State) (r : PumpSide × List Command) : State :=
  { native := { s.native with commands := s.native.commands ++ r.2 }, pump := r.1 }

/-- The poller takes the next event. An error of `handleInternalEvent` ends the
pump, so there is no state after it. -/
def State.poll (identity : Identity) (draining : Bool) (s : State) : Option State :=
  match s.pump.poller, s.native.events with
  | .ready, e :: rest =>
    match s.pump.handleInternalEvent identity draining true e with
    | .ok r => some ({ s with native := { s.native with events := rest } }.submit r)
    | .error _ => none
  | _, _ => none

def State.persisted (identity : Identity) (s : State) : Option State :=
  match s.pump.handlePersisted identity with
  | .ok p => some { s with pump := p }
  | .error _ => none

def step (identity : Identity) (s : State) : Action → Option State
  | .start =>
    if s.native.loop = .created then
      some { s with
        native := { s.native with
          loop := .starting, events := s.native.events ++ [.actorStart] } }
    else none
  | .request r id => (s.native.request r id).map fun n => { s with native := n }
  | .receive => s.native.receive.map fun n => { s with native := n }
  | .expire => s.native.expire.map fun n => { s with native := n }
  | .sweep => some { s with native := s.native.sweep }
  | .persist =>
    match s.native.saving with
    | 0 => none
    | k + 1 =>
      some { s with
        native := { s.native with
          saving := k, events := s.native.events ++ [.statePersisted] } }
  | .wsMessage wsId => (s.native.send (.wsMessage wsId)).map fun n => { s with native := n }
  | .wsClose wsId => (s.native.send (.wsClose wsId)).map fun n => { s with native := n }
  | .endLoop =>
    if s.native.loop = .idle then some { s with native := { s.native with loop := .ended } }
    else none
  | .poll draining => s.poll identity draining
  | .persisted => s.persisted identity
  | .started o => (s.pump.started o).map s.submit
  | .take => s.pump.take.map fun p => { s with pump := p }
  | .respond => s.pump.respond.map fun cs => s.submit (s.pump, cs)
  | .finish o => (s.pump.finish o).map s.submit
  | .abort => s.pump.abort.map fun p => { s with pump := p }
  | .remove => s.pump.remove.map fun p => { s with pump := p }
  | .save => s.pump.save.map s.submit
  | .saved => s.pump.saved.map fun p => { s with pump := p }
  | .abandonSave => s.pump.abandonSave.map fun p => { s with pump := p }
  | .interruptSave => s.pump.interruptSave.map fun p => { s with pump := p }

end RivetGo.Pump

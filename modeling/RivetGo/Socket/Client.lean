import RivetGo.Data.Correlation
import RivetGo.Data.Run

/-!
# The client of the runtime socket

Calls share one connection. A call enters the table of pending requests, waits
for the write semaphore, writes its frame and waits for the response. The read
loop takes responses from the connection, removes the entry of each under the
lock and sends the response to the waiter outside of it. A call whose write fails
takes its entry out of the table and closes the client if part of the frame may
have been written. A call whose context ends leaves a tombstone, unless its
statement may write: then it remembers the end and goes on waiting.

Closing the client closes the connection, signals that to every call, empties
the table, and then fails everybody who was in it.

The server gets the complete frames and answers them in any order, each at most
once. A frame whose write reports an error is never complete. Every frame and
every response is modelled by its request ID and the call that wrote the frame.
-/

namespace RivetGo.Socket

open Correlation (Desk waiters)

/-- A frame that the server has, or a response: the ID and the call it is from. -/
abbrev Frame := UInt32 × Nat

/-- How the server answers: with a result, with an error of a request that was
not executed, or with the report that the result of an executed one is too large. -/
inductive Payload where
  | result | error | tooLarge
  deriving DecidableEq

/-- What a waiter gets on its channel. -/
inductive Reply where
  | response (owner : Nat) (payload : Payload)
  | closed
  deriving DecidableEq

inductive Outcome where
  | answered (owner : Nat) (payload : Payload)
  | contextError
  | closed
  | failed
  deriving DecidableEq

/-- A call of `Client.request`. `failing` is a call whose write failed, with
whether the write had begun, and `closing` one that is about to close the client
because of it. `waiting` has whether the context ended before. -/
inductive Phase where
  | idle
  | registered (id : UInt32)
  | writing (id : UInt32)
  | failing (id : UInt32) (started : Bool) (outcome : Outcome)
  | closing (outcome : Outcome)
  | waiting (id : UInt32) (cancelled : Bool)
  | done (outcome : Outcome)
  deriving DecidableEq

/-- The read loop. It leaves when it cannot read or decode a frame. -/
inductive Reader where
  | idle
  | holding (frame : Frame) (payload : Payload)
  | sending (who : Nat) (reply : Reply)
  | exited
  deriving DecidableEq

/-- How far closing has got. `failing` has those who still have to be told. -/
inductive Closer where
  | open
  | disconnected
  | signalled
  | failing (rest : List Nat)
  | finished
  deriving DecidableEq

structure State where
  desk : Desk UInt32 Nat := ⟨0, ∅, []⟩
  phase : Nat → Phase := fun _ => .idle
  /-- The calls whose context has ended. -/
  cancelled : Nat → Bool := fun _ => false
  channel : Nat → List Reply := fun _ => []
  /-- The call that has the write semaphore. -/
  writer : Option Nat := none
  /-- Complete frames that the server has not answered. -/
  received : List Frame := []
  /-- Responses on their way to the client. -/
  responses : List (Frame × Payload) := []
  reader : Reader := .idle
  closer : Closer := .open
  /-- The calls whose requests the server executed. -/
  executed : List Nat := []

def initial : State := {}

/-- The `closed` channel of the client is closed. -/
def Closer.hasSignalled : Closer → Bool
  | .open => false
  | .disconnected => false
  | _ => true

/-- The table has been emptied. -/
def Closer.hasEmptied : Closer → Bool
  | .failing _ => true
  | .finished => true
  | _ => false

def State.setPhase (s : State) (k : Nat) (p : Phase) : State :=
  { s with phase := Function.update s.phase k p }

def State.send (s : State) (k : Nat) (r : Reply) : State :=
  { s with channel := Function.update s.channel k (s.channel k ++ [r]) }

/-- The capacity of the channel of a waiter. -/
def channelCapacity : Nat := 1

/-- What a call makes of a reply. -/
def Reply.outcome (cancelled : Bool) : Reply → Outcome
  | .response owner .result => .answered owner .result
  | .response owner payload => if cancelled then .contextError else .answered owner payload
  | .closed => if cancelled then .contextError else .closed

inductive Action where
  /-- The context of a call ends. -/
  | cancel (k : Nat)
  /-- A call whose context has ended returns at once. -/
  | refuse (k : Nat)
  /-- A call enters the table. -/
  | register (k : Nat)
  /-- The request cannot be encoded, or is too large for a frame. -/
  | reject (k : Nat)
  /-- A call gets the write semaphore. -/
  | acquire (k : Nat)
  /-- A call sees that its context has ended before it writes. -/
  | giveUp (k : Nat)
  /-- A call sees that the client was closed before it gets the semaphore. -/
  | seeClosedEarly (k : Nat)
  /-- The frame is written. -/
  | write (k : Nat)
  /-- The write fails. -/
  | failWrite (k : Nat)
  /-- A call whose write failed takes its entry out of the table. -/
  | remove (k : Nat)
  /-- A call that has closed the client returns. -/
  | returnClosed (k : Nat)
  /-- A call that waits sees that its context has ended. -/
  | notice (k : Nat)
  /-- A call that waits sees that the client was closed. -/
  | seeClosed (k : Nat)
  /-- A call that waits gets a reply. -/
  | receive (k : Nat)
  /-- The server answers the frame at position `i`. -/
  | answer (i : Nat) (payload : Payload)
  /-- The read loop reads a response. -/
  | read
  /-- The read loop looks the waiter of a response up. -/
  | lookup
  /-- The read loop sends the response to the waiter. -/
  | deliver
  /-- The read loop ends. -/
  | exit
  /-- The connection is closed. -/
  | disconnect
  /-- The calls are told that the client is closed. -/
  | signal
  /-- The table is emptied. -/
  | empty
  /-- The one at position `i` of those who were in the table is told. -/
  | tell (i : Nat)
  /-- Everybody has been told. -/
  | finish

/-- The call whose step an action is. The end of its context is not a step of it. -/
def Action.call : Action → Option Nat
  | .refuse k => some k
  | .register k => some k
  | .reject k => some k
  | .acquire k => some k
  | .giveUp k => some k
  | .seeClosedEarly k => some k
  | .write k => some k
  | .failWrite k => some k
  | .remove k => some k
  | .returnClosed k => some k
  | .notice k => some k
  | .seeClosed k => some k
  | .receive k => some k
  | _ => none

/-- The steps of `Close` after the first one. -/
def Action.closes : Action → Bool
  | .signal => true
  | .empty => true
  | .tell _ => true
  | .finish => true
  | _ => false

/-- The steps of a client. `mayWrite` says which calls may write. -/
def step (mayWrite : Nat → Bool) (s : State) : Action → Option State
  | .cancel k => some { s with cancelled := Function.update s.cancelled k true }
  | .refuse k =>
    match s.phase k with
    | .idle => if s.cancelled k then some (s.setPhase k (.done .contextError)) else none
    | _ => none
  | .register k =>
    match s.phase k with
    | .idle =>
      if s.cancelled k then none
      else
        (s.desk.register (· + 1) 0 (2 ^ 32) k).map fun (id, desk) =>
          { s with desk := desk }.setPhase k (.registered id)
    | _ => none
  | .reject k =>
    match s.phase k with
    | .registered id => some ({ s with desk := s.desk.settle id k }.setPhase k (.done .failed))
    | _ => none
  | .acquire k =>
    match s.phase k with
    | .registered id =>
      if s.writer = none then some ({ s with writer := some k }.setPhase k (.writing id))
      else none
    | _ => none
  | .giveUp k =>
    match s.phase k with
    | .registered id =>
      if s.cancelled k then some (s.setPhase k (.failing id false .contextError)) else none
    | .writing id =>
      if s.cancelled k then
        some ({ s with writer := none }.setPhase k (.failing id false .contextError))
      else none
    | _ => none
  | .seeClosedEarly k =>
    match s.phase k with
    | .registered id =>
      if s.closer.hasSignalled then some (s.setPhase k (.failing id false .closed)) else none
    | _ => none
  | .write k =>
    match s.phase k with
    | .writing id =>
      if s.closer = .open then
        some ({ s with writer := none, received := s.received ++ [(id, k)] }.setPhase k
          (.waiting id false))
      else none
    | _ => none
  | .failWrite k =>
    match s.phase k with
    | .writing id =>
      some ({ s with writer := none }.setPhase k
        (.failing id true (if s.cancelled k then .contextError else .failed)))
    | _ => none
  | .remove k =>
    match s.phase k with
    | .failing id started outcome =>
      some ({ s with desk := s.desk.settle id k }.setPhase k
        (if started then .closing outcome else .done outcome))
    | _ => none
  | .returnClosed k =>
    match s.phase k with
    | .closing outcome =>
      if s.closer = .finished then some (s.setPhase k (.done outcome)) else none
    | _ => none
  | .notice k =>
    match s.phase k with
    | .waiting id false =>
      if s.cancelled k then
        if mayWrite k then some (s.setPhase k (.waiting id true))
        else some ({ s with desk := s.desk.abandon id }.setPhase k (.done .contextError))
      else none
    | _ => none
  | .seeClosed k =>
    match s.phase k with
    | .waiting _ _ => if s.closer.hasSignalled then some (s.setPhase k (.done .closed)) else none
    | _ => none
  | .receive k =>
    match s.phase k, s.channel k with
    | .waiting _ cancelled, r :: rest =>
      some ({ s with channel := Function.update s.channel k rest }.setPhase k
        (.done (r.outcome cancelled)))
    | _, _ => none
  | .answer i payload =>
    s.received[i]?.map fun frame =>
      { s with
        received := s.received.eraseIdx i
        responses := s.responses ++ [(frame, payload)]
        executed := if payload = .error then s.executed else s.executed ++ [frame.2] }
  | .read =>
    match s.reader, s.responses with
    | .idle, (frame, payload) :: rest =>
      if s.closer = .open then
        some { s with reader := .holding frame payload, responses := rest }
      else none
    | _, _ => none
  | .lookup =>
    match s.reader with
    | .holding (id, owner) payload =>
      some { s with
        desk := s.desk.settle id owner
        reader :=
          match s.desk.waiting id with
          | some who => .sending who (.response owner payload)
          | none => .idle }
    | _ => none
  | .deliver =>
    match s.reader with
    | .sending who reply =>
      if (s.channel who).length < channelCapacity then
        some { s.send who reply with reader := .idle }
      else none
    | _ => none
  | .exit =>
    match s.reader with
    | .idle => some { s with reader := .exited }
    | _ => none
  | .disconnect => if s.closer = .open then some { s with closer := .disconnected } else none
  | .signal => if s.closer = .disconnected then some { s with closer := .signalled } else none
  | .empty =>
    if s.closer = .signalled then
      some { s with closer := .failing (waiters s.desk.entries), desk := s.desk.reset }
    else none
  | .tell i =>
    match s.closer with
    | .failing rest =>
      rest[i]?.bind fun who =>
        if (s.channel who).length < channelCapacity then
          some { s.send who .closed with closer := .failing (rest.eraseIdx i) }
        else none
    | _ => none
  | .finish => if s.closer = .failing [] then some { s with closer := .finished } else none

end RivetGo.Socket

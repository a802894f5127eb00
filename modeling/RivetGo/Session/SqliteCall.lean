import RivetGo.Data.Run
import RivetGo.Native.SqliteDispatch
import RivetGo.Session.Sqlite

/-!
# A SQLite call of a session

The caller registers a channel for 64 events under its request ID, submits the
command and collects the answer. The poller takes the events that native emits
one by one: it looks the channel up under the lock, releases the lock, and sends
the event outside of it. A statement that may write is submitted without the
context of the caller, and when that context ends, the caller only remembers it
and goes on waiting. Whatever makes the caller return early, it leaves a
tombstone in the place of its channel.
-/

namespace RivetGo.SqliteCall

open Native (SqliteCommand Fate)
open Session (Assembler SQLiteError SQLiteResponse)

/-- A command, and what becomes of it in native. -/
structure Call where
  command : SqliteCommand
  fate : Fate

def Call.mayWrite (call : Call) : Bool := !call.command.abandonSafe

/-- The events that native emits for the call. -/
def Call.answer (call : Call) : List Wire.Event :=
  (call.command.answer call.fate).map Native.Event.received

/-- What a call returns. -/
inductive Outcome where
  | ok (response : SQLiteResponse)
  | contextError
  | failed (error : SQLiteError)
  | shuttingDown

/-- The entry of the request ID in `sqlitePending`. -/
inductive Entry where
  | live | tombstone | gone
  deriving DecidableEq

/-- The poller is between two events, about to send one, or has left its loop. -/
inductive Poller where
  | idle
  | sending (event : Wire.Event)
  | exited

/-- The caller. `waiting` has the assembler and whether the context ended before;
`leaving` has its result and still has to leave the tombstone. -/
inductive Caller where
  | entering
  | submitting
  | waiting (assembler : Assembler) (cancellationErr : Bool)
  | leaving (outcome : Outcome)
  | returned (outcome : Outcome)

structure State where
  /-- The context of the caller has ended. -/
  cancelled : Bool := false
  /-- The command is in the submission queue or has been there. -/
  queued : Bool := false
  /-- Native has taken the command. -/
  sent : Bool := false
  /-- Native is done with the command and has emitted the answer. -/
  settled : Bool := false
  /-- What the poller has not taken yet. -/
  unpolled : List Wire.Event := []
  entry : Entry := .gone
  poller : Poller := .idle
  channel : List Wire.Event := []
  caller : Caller := .entering

def initial : State := {}

def channelCapacity : Nat := 64

inductive Action where
  /-- The context ends. -/
  | cancel
  /-- The call is refused before anything is submitted. -/
  | refuse (outcome : Outcome)
  /-- The channel is registered. -/
  | register
  /-- The command enters the submission queue. -/
  | enqueue
  /-- Native takes the command. -/
  | send
  /-- The submission is rejected. -/
  | reject (error : SQLiteError)
  /-- The submission is given up because the context ended. -/
  | giveUp
  /-- The submission is given up because the pump shuts down. -/
  | shutDown
  /-- The submission is done. -/
  | submitted
  /-- Native is done with the command. -/
  | settle
  /-- The poller takes an event and looks the channel up. -/
  | lookup
  /-- The poller sends the event on the channel. -/
  | deliver
  /-- The caller receives an event. -/
  | receive
  /-- The caller sees that the context ended. -/
  | notice
  /-- The caller sees that the session ended. -/
  | sessionDone
  /-- The poller leaves its loop. -/
  | exit
  /-- The caller sees that the pump ended. -/
  | pumpDone
  /-- The caller leaves the tombstone and returns. -/
  | abandon

/-- The caller has one more event. -/
def receiveEvent (assembler : Assembler) (cancellationErr : Bool) (event : Wire.Event) : Caller :=
  match assembler.add event with
  | .error error => .leaving (if cancellationErr then .contextError else .failed error)
  | .ok (assembler, true) => .leaving (.ok assembler.response)
  | .ok (assembler, false) => .waiting assembler cancellationErr

/-- The poller looks up the channel of an event, and deletes the entry with the
last one. -/
def lookupEvent (s : State) (event : Wire.Event) : State :=
  { s with
    poller := if s.entry = .live then .sending event else .idle
    entry := if event.done then .gone else s.entry }

def step (call : Call) (s : State) : Action → Option State
  | .cancel => some { s with cancelled := true }
  | .refuse outcome =>
    match s.caller with
    | .entering => some { s with caller := .returned outcome }
    | _ => none
  | .register =>
    match s.caller with
    | .entering =>
      if s.cancelled then none else some { s with entry := .live, caller := .submitting }
    | _ => none
  | .enqueue =>
    match s.caller with
    | .submitting => some { s with queued := true }
    | _ => none
  | .send => if s.queued && !s.sent then some { s with sent := true } else none
  | .reject error =>
    match s.caller with
    | .submitting =>
      if s.queued && !s.sent then
        some { s with queued := false, entry := .gone, caller := .returned (.failed error) }
      else none
    | _ => none
  | .giveUp =>
    match s.caller with
    | .submitting =>
      if s.cancelled && !call.mayWrite then
        some { s with entry := .gone, caller := .returned .contextError }
      else none
    | _ => none
  | .shutDown =>
    match s.caller with
    | .submitting => some { s with entry := .gone, caller := .returned .shuttingDown }
    | _ => none
  | .submitted =>
    match s.caller with
    | .submitting => if s.sent then some { s with caller := .waiting {} false } else none
    | _ => none
  | .settle =>
    if s.sent && !s.settled then some { s with settled := true, unpolled := call.answer }
    else none
  | .lookup =>
    match s.poller, s.unpolled with
    | .idle, event :: rest => some { lookupEvent s event with unpolled := rest }
    | _, _ => none
  | .deliver =>
    match s.poller with
    | .sending event =>
      if s.channel.length < channelCapacity then
        some { s with poller := .idle, channel := s.channel ++ [event] }
      else none
    | _ => none
  | .receive =>
    match s.caller, s.channel with
    | .waiting assembler cancellationErr, event :: rest =>
      some { s with
        channel := rest
        caller := receiveEvent assembler cancellationErr event }
    | _, _ => none
  | .notice =>
    match s.caller with
    | .waiting assembler false =>
      if s.cancelled then
        some { s with
          caller := if call.mayWrite then .waiting assembler true else .leaving .contextError }
      else none
    | _ => none
  | .sessionDone =>
    match s.caller with
    | .waiting _ _ => some { s with caller := .leaving .shuttingDown }
    | _ => none
  | .exit =>
    match s.poller with
    | .idle => some { s with poller := .exited, entry := .gone }
    | _ => none
  | .pumpDone =>
    match s.poller, s.caller with
    | .exited, .waiting _ _ => some { s with caller := .leaving .shuttingDown }
    | _, _ => none
  | .abandon =>
    match s.caller with
    | .leaving outcome =>
      some { s with
        entry := if s.entry = .live then .tombstone else s.entry
        caller := .returned outcome }
    | _ => none

/-- A run of one call. -/
abbrev Reaches (call : Call) (s : State) : Prop :=
  Run.Reachable (step call) Run.anyAction initial s

/-! ### What a step can do -/

/-- The event that the poller is about to send. -/
def Poller.inFlight : Poller → List Wire.Event
  | .sending event => [event]
  | _ => []

/-- The events on their way: in the channel, with the poller, and in native. -/
def State.pipeline (s : State) : List Wire.Event :=
  s.channel ++ s.poller.inFlight ++ s.unpolled

@[simp] theorem done_received (event : Native.Event) : event.received.done = event.isLast := by
  cases event <;> rfl

/-- Only the last event of an answer says that it is the last one. -/
theorem answer_done {call : Call} {k : Nat} {event : Wire.Event}
    (h : call.answer[k]? = some event) : event.done = true ↔ k + 1 = call.answer.length := by
  rw [Call.answer, List.getElem?_map, Option.map_eq_some_iff] at h
  obtain ⟨native, hnative, rfl⟩ := h
  rw [done_received, Call.answer, List.length_map]
  exact Native.endsOnce_answer call.command call.fate k native hnative

/-- Everything a step can do, by what it does to the events on their way and to
the caller. -/
inductive Move (call : Call) (s : State) : State → Prop where
  | cancel : Move call s { s with cancelled := true }
  | refuse {outcome : Outcome} : s.caller = .entering →
      Move call s { s with caller := .returned outcome }
  | register : s.caller = .entering → s.cancelled = false →
      Move call s { s with entry := .live, caller := .submitting }
  | enqueue : s.caller = .submitting → Move call s { s with queued := true }
  | send : s.queued = true → s.sent = false → Move call s { s with sent := true }
  | fail (queued : Bool) {outcome : Outcome} : s.caller = .submitting →
      (outcome = .contextError → s.cancelled = true ∧ call.mayWrite = false) →
      Move call s { s with queued := queued, entry := .gone, caller := .returned outcome }
  | submitted : s.caller = .submitting → s.sent = true →
      Move call s { s with caller := .waiting {} false }
  | settle : s.sent = true → s.settled = false →
      Move call s { s with settled := true, unpolled := call.answer }
  | lookup {event : Wire.Event} {rest : List Wire.Event} : s.poller = .idle →
      s.unpolled = event :: rest → Move call s { lookupEvent s event with unpolled := rest }
  | deliver {event : Wire.Event} : s.poller = .sending event →
      s.channel.length < channelCapacity →
      Move call s { s with poller := .idle, channel := s.channel ++ [event] }
  | receive {assembler : Assembler} {cancellationErr : Bool} {event : Wire.Event}
      {rest : List Wire.Event} : s.caller = .waiting assembler cancellationErr →
      s.channel = event :: rest →
      Move call s
        { s with channel := rest, caller := receiveEvent assembler cancellationErr event }
  | notice {assembler : Assembler} : s.caller = .waiting assembler false → s.cancelled = true →
      Move call s
        { s with
          caller := if call.mayWrite then .waiting assembler true else .leaving .contextError }
  | done {assembler : Assembler} {cancellationErr : Bool} :
      s.caller = .waiting assembler cancellationErr →
      Move call s { s with caller := .leaving .shuttingDown }
  | exit : s.poller = .idle → Move call s { s with poller := .exited, entry := .gone }
  | abandon {outcome : Outcome} : s.caller = .leaving outcome →
      Move call s
        { s with
          entry := if s.entry = .live then .tombstone else s.entry
          caller := .returned outcome }

theorem move_of_step {call : Call} {s s' : State} {a : Action} (h : step call s a = some s') :
    Move call s s' := by
  cases a with
  | cancel =>
    obtain rfl := Option.some.inj h
    exact .cancel
  | refuse outcome =>
    cases hc : s.caller with
    | entering =>
      obtain rfl : _ = s' := by simpa [step, hc] using h
      exact .refuse hc
    | _ => simp [step, hc] at h
  | register =>
    cases hc : s.caller with
    | entering =>
      obtain ⟨hcancelled, rfl⟩ : s.cancelled = false ∧ _ = s' := by simpa [step, hc] using h
      exact .register hc hcancelled
    | _ => simp [step, hc] at h
  | enqueue =>
    cases hc : s.caller with
    | submitting =>
      obtain rfl : _ = s' := by simpa [step, hc] using h
      rw [← hc]
      exact .enqueue hc
    | _ => simp [step, hc] at h
  | send =>
    obtain ⟨⟨hqueued, hsent⟩, rfl⟩ : (s.queued = true ∧ s.sent = false) ∧ _ = s' := by
      simpa [step] using h
    exact .send hqueued hsent
  | reject error =>
    cases hc : s.caller with
    | submitting =>
      obtain ⟨-, rfl⟩ : (s.queued = true ∧ s.sent = false) ∧ _ = s' := by
        simpa [step, hc] using h
      exact .fail false hc (by simp)
    | _ => simp [step, hc] at h
  | giveUp =>
    cases hc : s.caller with
    | submitting =>
      obtain ⟨hcancelled, rfl⟩ :
          (s.cancelled = true ∧ call.mayWrite = false) ∧ _ = s' := by
        simpa [step, hc] using h
      exact .fail s.queued hc (fun _ => hcancelled)
    | _ => simp [step, hc] at h
  | shutDown =>
    cases hc : s.caller with
    | submitting =>
      obtain rfl : _ = s' := by simpa [step, hc] using h
      exact .fail s.queued hc (by simp)
    | _ => simp [step, hc] at h
  | submitted =>
    cases hc : s.caller with
    | submitting =>
      obtain ⟨hsent, rfl⟩ : s.sent = true ∧ _ = s' := by simpa [step, hc] using h
      exact .submitted hc hsent
    | _ => simp [step, hc] at h
  | settle =>
    obtain ⟨⟨hsent, hsettled⟩, rfl⟩ : (s.sent = true ∧ s.settled = false) ∧ _ = s' := by
      simpa [step] using h
    exact .settle hsent hsettled
  | lookup =>
    cases hp : s.poller with
    | idle =>
      cases hu : s.unpolled with
      | nil => simp [step, hp, hu] at h
      | cons event rest =>
        obtain rfl : _ = s' := by simpa [step, hp, hu] using h
        exact .lookup hp hu
    | _ => simp [step, hp] at h
  | deliver =>
    cases hp : s.poller with
    | sending event =>
      obtain ⟨hroom, rfl⟩ : s.channel.length < channelCapacity ∧ _ = s' := by
        simpa [step, hp] using h
      exact .deliver hp hroom
    | _ => simp [step, hp] at h
  | receive =>
    cases hc : s.caller with
    | waiting assembler cancellationErr =>
      cases hch : s.channel with
      | nil => simp [step, hc, hch] at h
      | cons event rest =>
        obtain rfl : _ = s' := by simpa [step, hc, hch] using h
        exact .receive hc hch
    | _ => simp [step, hc] at h
  | notice =>
    cases hc : s.caller with
    | waiting assembler cancellationErr =>
      cases cancellationErr with
      | false =>
        obtain ⟨hcancelled, rfl⟩ : s.cancelled = true ∧ _ = s' := by
          simpa [step, hc] using h
        exact .notice hc hcancelled
      | true => simp [step, hc] at h
    | _ => simp [step, hc] at h
  | sessionDone =>
    cases hc : s.caller with
    | waiting assembler cancellationErr =>
      obtain rfl : _ = s' := by simpa [step, hc] using h
      exact .done hc
    | _ => simp [step, hc] at h
  | exit =>
    cases hp : s.poller with
    | idle =>
      obtain rfl : _ = s' := by simpa [step, hp] using h
      exact .exit hp
    | _ => simp [step, hp] at h
  | pumpDone =>
    cases hp : s.poller with
    | exited =>
      cases hc : s.caller with
      | waiting assembler cancellationErr =>
        obtain rfl : _ = s' := by simpa [step, hp, hc] using h
        rw [← hp]
        exact .done hc
      | _ => simp [step, hp, hc] at h
    | _ => simp [step, hp] at h
  | abandon =>
    cases hc : s.caller with
    | leaving outcome =>
      obtain rfl : _ = s' := by simpa [step, hc] using h
      exact .abandon hc
    | _ => simp [step, hc] at h

/-- An invariant of the moves holds in every state of every run. -/
theorem Reaches.invariant {call : Call} {s : State} {P : State → Prop} (h : Reaches call s)
    (h0 : P initial) (hP : ∀ s s', P s → Move call s s' → P s') : P s :=
  Run.Reachable.invariant h h0 fun s _ s' hs _ hstep => hP s s' hs (move_of_step hstep)

end RivetGo.SqliteCall

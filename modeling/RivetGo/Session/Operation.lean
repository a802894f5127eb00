import RivetGo.Boundary.Event
import RivetGo.Data.Run

/-!
# An operation of a session

`submitActorOperation` registers a channel for one event under a new operation
ID, submits the command and waits for the event that answers it. The submission
ends with the answer of native, with the end of the context, or with the pump.
When the context ends later, a wait on the queue is cancelled by a command of
its own and gets one more chance to see its answer; every other operation is
given up at once. An operation that is given up leaves a tombstone in the table
of waiters, and a failed submission removes its waiter.

The model has one operation, the submit loop, native, the poller, and what can
end them. A waiter is withdrawn in the same step in which the call returns: an
event that comes in between is lost like one that comes later.
-/

namespace RivetGo.Operation

variable {ν : Type}

/-- The command of an operation. Native ends it with an outcome in `ν`, and
emits one event for that. -/
structure Call (ν : Type) where
  kind : Wire.CommandKind
  answer : ν → Wire.Event

/-- The operations that wait for as long as the queue needs. -/
def Call.queueWait (call : Call ν) : Bool :=
  call.kind = .queueNext || call.kind = .queueEnqueueWait

/-- The errors of an operation. `handler` is a `HandlerError`, `submission` the
error of a rejected batch, and `timeout` the one with the code
`actor_intent_timeout`. -/
inductive OperationError where
  | context
  | shuttingDown
  | timeout
  | submission (code : String)
  | handler (code message : Bytes)

abbrev Result := Except OperationError Wire.Event

/-- The result of the operation with the event. -/
def waitResult (event : Wire.Event) : Result :=
  match event.error with
  | some error => .error (.handler error.code error.message)
  | none => .ok event

/-- The result of a cancelled wait with the event: only a success that would be
lost otherwise is returned. -/
def settleQueueCancellation (kind : Wire.CommandKind) (event : Wire.Event) : Result :=
  if event.error.isNone && (kind = .queueEnqueueWait || event.queueMessage.isSome) then .ok event
  else .error .context

/-- The entry of the operation ID in `intentPending`. -/
inductive Entry where
  | live | tombstone | gone
  deriving DecidableEq

/-- The caller. `cancelling` submits the `QueueCancel`, and `settling` waits for
the event after it. -/
inductive Caller where
  | entering
  | submitting
  | waiting
  | cancelling
  | settling
  | returned (result : Result)

/-- The command can be on its way while the caller has not returned. -/
def Caller.Open : Caller → Prop
  | .submitting | .waiting | .cancelling | .settling => True
  | _ => False

def Caller.Returned : Caller → Prop
  | .returned _ => True
  | _ => False

theorem Caller.Open.not_returned {c : Caller} (h : c.Open) : ¬ c.Returned := by
  cases c with
  | returned _ => exact h.elim
  | _ => exact fun h => h

structure State (ν : Type) where
  /-- The context of the caller has ended. -/
  cancelled : Bool := false
  accepting : Bool := true
  /-- The session has closed `done`. -/
  ended : Bool := false
  /-- Native has the generation in its table. -/
  live : Bool := true
  /-- The poller has left its loop. -/
  exited : Bool := false
  queued : Bool := false
  /-- Native has taken the command. -/
  sent : Bool := false
  /-- How native ended the command, and whether the generation was live then. -/
  settled : Option (ν × Bool) := none
  /-- What the poller has not taken yet. -/
  unpolled : Option Wire.Event := none
  entry : Entry := .gone
  channel : Option Wire.Event := none
  caller : Caller := .entering

def initial : State ν := {}

/-- The submission failed: the waiter is removed. -/
def State.withdraw (s : State ν) (error : OperationError) : State ν :=
  { s with entry := .gone, caller := .returned (.error error) }

/-- The call is given up: the waiter becomes a tombstone. -/
def State.abandon (s : State ν) (error : OperationError) : State ν :=
  { s with
    entry := if s.entry = .live then .tombstone else s.entry
    caller := .returned (.error error) }

inductive Action (ν : Type) where
  | cancel
  | stopAccepting
  | endSession
  /-- Native removes the generation. -/
  | endGeneration
  /-- The poller leaves its loop. -/
  | exit
  /-- The call is refused before anything is submitted. -/
  | refuse
  | register
  /-- The command enters the submission queue. -/
  | enqueue
  /-- Native takes the command. -/
  | send
  /-- The batch with the command is rejected. -/
  | reject (code : String)
  /-- The submission is given up because the context ended. -/
  | giveUp
  /-- The submission is given up because the pump ended. -/
  | shutDown
  | submitted
  /-- Native ends the command. -/
  | settle (outcome : ν)
  /-- The poller takes the event and looks the channel up. -/
  | poll
  | receive
  /-- The caller sees that the context ended. -/
  | notice
  | timeout
  /-- Native takes the `QueueCancel`. -/
  | cancelSubmitted
  /-- The submission of the `QueueCancel` fails. -/
  | cancelRejected
  /-- The time to wait after the `QueueCancel` is over. -/
  | settleTimeout
  /-- The caller sees that the session ended. -/
  | sessionDone
  /-- The caller sees that the pump ended. -/
  | pumpDone

/-- The caller sees the end of the session or of the pump. -/
def State.done (s : State ν) : Option (State ν) :=
  match s.caller with
  | .waiting => some (s.abandon .shuttingDown)
  | .settling => some (s.abandon .context)
  | _ => none

def step (call : Call ν) (s : State ν) : Action ν → Option (State ν)
  | .cancel => some { s with cancelled := true }
  | .stopAccepting => some { s with accepting := false }
  | .endSession => some { s with accepting := false, ended := true }
  | .endGeneration => some { s with live := false }
  | .exit => if s.exited then none else some { s with exited := true, entry := .gone }
  | .refuse =>
    match s.caller with
    | .entering =>
      if s.cancelled then some (s.withdraw .context)
      else if s.accepting then none
      else some (s.withdraw .shuttingDown)
    | _ => none
  | .register =>
    match s.caller with
    | .entering =>
      if !s.cancelled && s.accepting then
        some { s with entry := .live, caller := .submitting }
      else none
    | _ => none
  | .enqueue =>
    match s.caller with
    | .submitting => if s.queued then none else some { s with queued := true }
    | _ => none
  | .send => if s.queued && !s.sent then some { s with sent := true } else none
  | .reject code =>
    if s.queued && !s.sent then
      match s.caller with
      | .submitting => some { s.withdraw (.submission code) with queued := false }
      -- the caller has given up, and nobody hears of the rejection
      | _ => some { s with queued := false }
    else none
  | .giveUp =>
    match s.caller with
    | .submitting => if s.cancelled then some (s.withdraw .context) else none
    | _ => none
  | .shutDown =>
    match s.caller with
    | .submitting =>
      -- the submit loop has ended: what it has not sent by now is never sent
      if s.exited && !s.sent then some { s.withdraw .shuttingDown with queued := false }
      else none
    | _ => none
  | .submitted =>
    match s.caller with
    | .submitting => if s.sent then some { s with caller := .waiting } else none
    | _ => none
  | .settle outcome =>
    if s.sent && s.settled.isNone then
      some { s with settled := some (outcome, s.live), unpolled := some (call.answer outcome) }
    else none
  | .poll =>
    match s.exited, s.unpolled with
    | false, some event =>
      some { s with
        unpolled := none
        entry := .gone
        channel := if s.entry = .live then some event else s.channel }
    | _, _ => none
  | .receive =>
    match s.caller, s.channel with
    | .waiting, some event =>
      some { s with channel := none, caller := .returned (waitResult event) }
    | .settling, some event =>
      some { s with
        channel := none
        caller := .returned (settleQueueCancellation call.kind event) }
    | _, _ => none
  | .notice =>
    match s.caller with
    | .waiting =>
      if s.cancelled then
        some (if call.queueWait then { s with caller := .cancelling } else s.abandon .context)
      else none
    | _ => none
  | .timeout =>
    match s.caller with
    | .waiting => if call.queueWait then none else some (s.abandon .timeout)
    | _ => none
  | .cancelSubmitted =>
    match s.caller with
    | .cancelling => some { s with caller := .settling }
    | _ => none
  | .cancelRejected =>
    match s.caller with
    | .cancelling => some (s.abandon .context)
    | _ => none
  | .settleTimeout =>
    match s.caller with
    | .settling => some (s.abandon .context)
    | _ => none
  | .sessionDone => if s.ended then s.done else none
  | .pumpDone => if s.exited then s.done else none

/-! ### What a step can do -/

/-- The action makes the call return before its answer, or ends the poller while
the answer is not delivered. -/
def Interrupts (call : Call ν) (s : State ν) : Action ν → Prop
  | .refuse | .giveUp | .shutDown | .timeout => True
  | .cancelRejected | .settleTimeout | .sessionDone | .pumpDone => True
  | .reject _ => s.caller = .submitting
  | .notice => call.queueWait = false
  | .exit => s.channel = none ∧ ¬ s.caller.Returned
  | _ => False

/-- A run in which nothing interrupts the call. -/
abbrev Uninterrupted (call : Call ν) (s : State ν) (a : Action ν) : Prop := ¬ Interrupts call s a

/-- Everything else that a step can do. -/
inductive Calm (call : Call ν) (s : State ν) : State ν → Prop where
  | environment (cancelled accepting ended live : Bool) :
      Calm call s
        { s with cancelled := cancelled, accepting := accepting, ended := ended, live := live }
  | exit : s.channel ≠ none ∨ s.caller.Returned →
      Calm call s { s with exited := true, entry := .gone }
  | register : s.caller = .entering → Calm call s { s with entry := .live, caller := .submitting }
  | enqueue : s.caller = .submitting → Calm call s { s with queued := true }
  | send : s.queued = true → Calm call s { s with sent := true }
  | reject : s.caller ≠ .submitting → Calm call s { s with queued := false }
  | submitted : s.caller = .submitting → Calm call s { s with caller := .waiting }
  | settle (outcome : ν) : s.sent = true → s.settled = none →
      Calm call s
        { s with settled := some (outcome, s.live), unpolled := some (call.answer outcome) }
  | poll {event : Wire.Event} : s.exited = false → s.unpolled = some event →
      Calm call s
        { s with
          unpolled := none
          entry := .gone
          channel := if s.entry = .live then some event else s.channel }
  | receive {event : Wire.Event} : s.caller = .waiting → s.channel = some event →
      Calm call s { s with channel := none, caller := .returned (waitResult event) }
  | receiveSettling {event : Wire.Event} : s.caller = .settling → s.channel = some event →
      Calm call s
        { s with
          channel := none
          caller := .returned (settleQueueCancellation call.kind event) }
  | notice : s.caller = .waiting → call.queueWait = true →
      Calm call s { s with caller := .cancelling }
  | cancelSubmitted : s.caller = .cancelling → Calm call s { s with caller := .settling }

variable {call : Call ν} {s s' : State ν} {a : Action ν}

theorem calm_of_step (hcalm : Uninterrupted call s a) (h : step call s a = some s') :
    Calm call s s' := by
  cases a with
  | cancel =>
    obtain rfl := Option.some.inj h
    exact .environment true s.accepting s.ended s.live
  | stopAccepting =>
    obtain rfl := Option.some.inj h
    exact .environment s.cancelled false s.ended s.live
  | endSession =>
    obtain rfl := Option.some.inj h
    exact .environment s.cancelled false true s.live
  | endGeneration =>
    obtain rfl := Option.some.inj h
    exact .environment s.cancelled s.accepting s.ended false
  | exit =>
    obtain ⟨-, rfl⟩ : s.exited = false ∧ _ = s' := by simpa [step] using h
    refine .exit ?_
    by_cases hchannel : s.channel = none
    · exact .inr (not_not.mp fun hreturned => hcalm ⟨hchannel, hreturned⟩)
    · exact .inl hchannel
  | register =>
    cases hc : s.caller with
    | entering =>
      obtain ⟨-, rfl⟩ : (s.cancelled = false ∧ s.accepting = true) ∧ _ = s' := by
        simpa [step, hc] using h
      exact .register hc
    | _ => simp [step, hc] at h
  | enqueue =>
    cases hc : s.caller with
    | submitting =>
      obtain ⟨-, rfl⟩ : s.queued = false ∧ _ = s' := by simpa [step, hc] using h
      rw [← hc]
      exact .enqueue hc
    | _ => simp [step, hc] at h
  | send =>
    obtain ⟨⟨hqueued, -⟩, rfl⟩ : (s.queued = true ∧ s.sent = false) ∧ _ = s' := by
      simpa [step] using h
    exact .send hqueued
  | reject code =>
    have hne : s.caller ≠ .submitting := hcalm
    cases hc : s.caller with
    | submitting => exact absurd hc hne
    | _ =>
      obtain ⟨-, rfl⟩ : (s.queued = true ∧ s.sent = false) ∧ _ = s' := by
        simpa [step, hc] using h
      rw [← hc]
      exact .reject hne
  | submitted =>
    cases hc : s.caller with
    | submitting =>
      obtain ⟨-, rfl⟩ : s.sent = true ∧ _ = s' := by simpa [step, hc] using h
      exact .submitted hc
    | _ => simp [step, hc] at h
  | settle outcome =>
    obtain ⟨⟨hsent, hsettled⟩, rfl⟩ : (s.sent = true ∧ s.settled = none) ∧ _ = s' := by
      simpa [step] using h
    exact .settle outcome hsent hsettled
  | poll =>
    cases hexited : s.exited with
    | true => simp [step, hexited] at h
    | false =>
      cases hunpolled : s.unpolled with
      | none => simp [step, hexited, hunpolled] at h
      | some event =>
        obtain rfl : _ = s' := by simpa [step, hexited, hunpolled] using h
        rw [← hexited]
        exact .poll hexited hunpolled
  | receive =>
    cases hchannel : s.channel with
    | none => cases hc : s.caller <;> simp [step, hc, hchannel] at h
    | some event =>
      cases hc : s.caller with
      | waiting =>
        obtain rfl : _ = s' := by simpa [step, hc, hchannel] using h
        exact .receive hc hchannel
      | settling =>
        obtain rfl : _ = s' := by simpa [step, hc, hchannel] using h
        exact .receiveSettling hc hchannel
      | _ => simp [step, hc, hchannel] at h
  | notice =>
    have hwait : call.queueWait = true := Bool.not_eq_false _ ▸ hcalm
    cases hc : s.caller with
    | waiting =>
      obtain ⟨-, rfl⟩ : s.cancelled = true ∧ _ = s' := by simpa [step, hc, hwait] using h
      exact .notice hc hwait
    | _ => simp [step, hc] at h
  | cancelSubmitted =>
    cases hc : s.caller with
    | cancelling =>
      obtain rfl : _ = s' := by simpa [step, hc] using h
      exact .cancelSubmitted hc
    | _ => simp [step, hc] at h
  | _ => exact absurd trivial hcalm

/-- The call has returned an error, or will: nobody takes its answer any more. -/
def Doomed (s : State ν) : Prop :=
  (∃ error, s.caller = .returned (.error error)) ∨
    s.exited = true ∧ s.channel = none ∧ ¬ s.caller.Returned

theorem State.done_returned (h : s.done = some s') :
    ∃ error, s'.caller = .returned (.error error) := by
  cases hc : s.caller with
  | waiting =>
    obtain rfl : _ = s' := by simpa [State.done, hc] using h
    exact ⟨_, rfl⟩
  | settling =>
    obtain rfl : _ = s' := by simpa [State.done, hc] using h
    exact ⟨_, rfl⟩
  | _ => simp [State.done, hc] at h

theorem doomed_of_interrupts (hinterrupts : Interrupts call s a) (h : step call s a = some s') :
    Doomed s' := by
  cases a with
  | exit =>
    obtain ⟨-, rfl⟩ : s.exited = false ∧ _ = s' := by simpa [step] using h
    exact .inr ⟨rfl, hinterrupts⟩
  | refuse =>
    cases hc : s.caller with
    | entering =>
      simp only [step, hc] at h
      split_ifs at h
      · exact .inl ⟨.context, Option.some.inj h ▸ rfl⟩
      · exact .inl ⟨.shuttingDown, Option.some.inj h ▸ rfl⟩
    | _ => simp [step, hc] at h
  | reject code =>
    have hc : s.caller = .submitting := hinterrupts
    obtain ⟨-, rfl⟩ : (s.queued = true ∧ s.sent = false) ∧ _ = s' := by
      simpa [step, hc] using h
    exact .inl ⟨_, rfl⟩
  | giveUp =>
    cases hc : s.caller with
    | submitting =>
      obtain ⟨-, rfl⟩ : s.cancelled = true ∧ _ = s' := by simpa [step, hc] using h
      exact .inl ⟨_, rfl⟩
    | _ => simp [step, hc] at h
  | shutDown =>
    cases hc : s.caller with
    | submitting =>
      obtain ⟨-, rfl⟩ : (s.exited = true ∧ s.sent = false) ∧ _ = s' := by
        simpa [step, hc] using h
      exact .inl ⟨_, rfl⟩
    | _ => simp [step, hc] at h
  | notice =>
    have hwait : call.queueWait = false := hinterrupts
    cases hc : s.caller with
    | waiting =>
      obtain ⟨-, rfl⟩ : s.cancelled = true ∧ _ = s' := by simpa [step, hc, hwait] using h
      exact .inl ⟨_, rfl⟩
    | _ => simp [step, hc] at h
  | timeout =>
    cases hc : s.caller with
    | waiting =>
      obtain ⟨-, rfl⟩ : call.queueWait = false ∧ _ = s' := by simpa [step, hc] using h
      exact .inl ⟨_, rfl⟩
    | _ => simp [step, hc] at h
  | cancelRejected =>
    cases hc : s.caller with
    | cancelling =>
      obtain rfl : _ = s' := by simpa [step, hc] using h
      exact .inl ⟨_, rfl⟩
    | _ => simp [step, hc] at h
  | settleTimeout =>
    cases hc : s.caller with
    | settling =>
      obtain rfl : _ = s' := by simpa [step, hc] using h
      exact .inl ⟨_, rfl⟩
    | _ => simp [step, hc] at h
  | sessionDone =>
    obtain ⟨-, h⟩ : s.ended = true ∧ s.done = some s' := by simpa [step] using h
    exact .inl (State.done_returned h)
  | pumpDone =>
    obtain ⟨-, h⟩ : s.exited = true ∧ s.done = some s' := by simpa [step] using h
    exact .inl (State.done_returned h)
  | _ => exact hinterrupts.elim

/-- A call that has returned takes no further part. -/
theorem returned_step {result : Result} (hc : s.caller = .returned result)
    (h : step call s a = some s') : s'.caller = .returned result := by
  by_cases hinterrupts : Interrupts call s a
  · cases a <;> simp [Interrupts, hc, Caller.Returned] at hinterrupts <;>
      simp [step, State.done, hc] at h
  · have hcalm := calm_of_step hinterrupts h
    cases hcalm with
    | register hc' => simp [hc] at hc'
    | submitted hc' => simp [hc] at hc'
    | receive hc' => simp [hc] at hc'
    | receiveSettling hc' => simp [hc] at hc'
    | notice hc' => simp [hc] at hc'
    | cancelSubmitted hc' => simp [hc] at hc'
    | _ => exact hc

theorem doomed_step : Run.Keeps (step call) Run.anyAction (Doomed (ν := ν)) := by
  intro s a s' h _ hs
  obtain ⟨error, hc⟩ | ⟨hexited, hchannel, hreturned⟩ := h
  · exact .inl ⟨error, returned_step hc hs⟩
  · by_cases hinterrupts : Interrupts call s a
    · exact doomed_of_interrupts hinterrupts hs
    · refine .inr ?_
      have hcalm := calm_of_step hinterrupts hs
      cases hcalm with
      | exit h => exact ⟨rfl, hchannel, hreturned⟩
      | register hc => exact ⟨hexited, hchannel, fun h => h⟩
      | submitted hc => exact ⟨hexited, hchannel, fun h => h⟩
      | notice hc => exact ⟨hexited, hchannel, fun h => h⟩
      | cancelSubmitted hc => exact ⟨hexited, hchannel, fun h => h⟩
      | poll hrunning => simp [hexited] at hrunning
      | receive hc hevent => simp [hchannel] at hevent
      | receiveSettling hc hevent => simp [hchannel] at hevent
      | _ => exact ⟨hexited, hchannel, hreturned⟩

/-! ### Runs without an interruption -/

/-- The answer of native is in the channel, or on its way there. -/
def State.Answered (s : State ν) (event : Wire.Event) : Prop :=
  s.unpolled = some event ∧ s.channel = none ∨ s.unpolled = none ∧ s.channel = some event

/-- The call waits for its answer with a live waiter, or has returned with it. -/
structure Whole (call : Call ν) (s : State ν) : Prop where
  entering : s.caller = .entering → s.sent = false ∧ s.queued = false
  settled : s.sent = false → s.settled = none
  unsettled : s.settled = none → s.unpolled = none ∧ s.channel = none
  waiter : s.caller.Open → s.channel = none → s.entry = .live
  poller : ¬ s.caller.Returned → s.channel = none → s.exited = false
  answered : ¬ s.caller.Returned → ∀ outcome live, s.settled = some (outcome, live) →
    s.Answered (call.answer outcome)
  returned : ∀ result, s.caller = .returned result → ∃ outcome live,
    s.settled = some (outcome, live) ∧ (result = waitResult (call.answer outcome) ∨
      call.queueWait = true ∧
        result = settleQueueCancellation call.kind (call.answer outcome))
  settling : s.caller = .cancelling ∨ s.caller = .settling → call.queueWait = true

theorem whole_initial (call : Call ν) : Whole call initial where
  entering _ := ⟨rfl, rfl⟩
  settled _ := rfl
  unsettled _ := ⟨rfl, rfl⟩
  waiter h := h.elim
  poller _ _ := rfl
  answered _ outcome live h := by simp [initial] at h
  returned result h := by simp [initial] at h
  settling h := by simp [initial] at h

/-- The call goes on in another phase, in which it still waits. -/
theorem Whole.goOn (h : Whole call s) (hc : s.caller.Open) {c : Caller} (hopen : c.Open)
    (hsettling : c = .cancelling ∨ c = .settling → call.queueWait = true) :
    Whole call { s with caller := c } := by
  have hreturned := hc.not_returned
  refine ⟨?_, h.settled, h.unsettled, fun _ => h.waiter hc, fun _ => h.poller hreturned,
    fun _ => h.answered hreturned, ?_, hsettling⟩
  · rintro rfl
    exact hopen.elim
  · rintro result rfl
    exact hopen.elim

/-- The caller takes the answer. -/
theorem Whole.take (h : Whole call s) (hc : s.caller.Open) {event : Wire.Event}
    (hchannel : s.channel = some event) {result : Result}
    (hresult : result = waitResult event ∨
      call.queueWait = true ∧ result = settleQueueCancellation call.kind event) :
    Whole call { s with channel := none, caller := .returned result } := by
  have hreturned := hc.not_returned
  have hsome : s.settled ≠ none := fun hnone => by simp [(h.unsettled hnone).2] at hchannel
  obtain ⟨⟨outcome, live⟩, hsettled⟩ := Option.ne_none_iff_exists'.mp hsome
  obtain ⟨-, hnone⟩ | ⟨-, hsome⟩ := h.answered hreturned outcome live hsettled
  · simp [hnone] at hchannel
  · obtain rfl : call.answer outcome = event := by simpa [hsome] using hchannel
    refine ⟨by simp, h.settled, ?_, fun h => h.elim, fun h => absurd trivial h,
      fun h => absurd trivial h, ?_, by simp⟩
    · intro hnone
      simp [hsettled] at hnone
    · rintro _ ⟨⟩
      exact ⟨outcome, live, hsettled, hresult⟩

/-- The command of a call that has not returned is settled only after it was
submitted. -/
theorem Whole.open_of_settled (h : Whole call s) (hreturned : ¬ s.caller.Returned)
    (hsettled : s.settled ≠ none) : s.caller.Open := by
  cases hc : s.caller with
  | entering => exact absurd (h.settled (h.entering hc).1) hsettled
  | returned _ => exact absurd (by simp [hc, Caller.Returned]) hreturned
  | _ => trivial

theorem Whole.calm (h : Whole call s) (hcalm : Calm call s s') : Whole call s' := by
  cases hcalm with
  | environment cancelled accepting ended live =>
    exact ⟨h.entering, h.settled, h.unsettled, h.waiter, h.poller, h.answered, h.returned,
      h.settling⟩
  | exit hdelivered =>
    refine ⟨h.entering, h.settled, h.unsettled, ?_, ?_, h.answered, h.returned, h.settling⟩
    · intro hopen hnone
      obtain hsome | hreturned := hdelivered
      · exact absurd hnone hsome
      · exact absurd hreturned hopen.not_returned
    · intro hreturned hnone
      obtain hsome | h := hdelivered
      · exact absurd hnone hsome
      · exact absurd h hreturned
  | register hc =>
    obtain ⟨hsent, hqueued⟩ := h.entering hc
    have hsettled := h.settled hsent
    have hreturned : ¬ s.caller.Returned := by simp [hc, Caller.Returned]
    exact ⟨by simp, h.settled, h.unsettled, fun _ _ => rfl, fun _ => h.poller hreturned,
      fun _ => h.answered hreturned, by simp, by simp⟩
  | enqueue hc =>
    refine ⟨?_, h.settled, h.unsettled, h.waiter, h.poller, h.answered, h.returned, h.settling⟩
    intro hentering
    simp [hc] at hentering
  | send hqueued =>
    refine ⟨?_, by simp, h.unsettled, h.waiter, h.poller, h.answered, h.returned, h.settling⟩
    intro hentering
    simp [(h.entering hentering).2] at hqueued
  | reject hc =>
    exact ⟨fun hentering => ⟨(h.entering hentering).1, rfl⟩, h.settled, h.unsettled, h.waiter,
      h.poller, h.answered, h.returned, h.settling⟩
  | submitted hc => exact h.goOn (by simp [hc, Caller.Open]) trivial (by simp)
  | settle outcome hsent hnone =>
    obtain ⟨-, hchannel⟩ := h.unsettled hnone
    refine ⟨h.entering, ?_, by simp, h.waiter, h.poller, ?_, ?_, h.settling⟩
    · intro hunsent
      simp [hsent] at hunsent
    · rintro - _ _ ⟨⟩
      exact .inl ⟨rfl, hchannel⟩
    · intro result hresult
      obtain ⟨_, _, hsettled, -⟩ := h.returned result hresult
      simp [hnone] at hsettled
  | @poll event hrunning hunpolled =>
    have hsettled : s.settled ≠ none := by
      intro hnone
      simp [(h.unsettled hnone).1] at hunpolled
    refine ⟨h.entering, h.settled, fun hnone => absurd hnone hsettled, ?_,
      fun _ _ => hrunning, ?_, h.returned, h.settling⟩
    · intro hopen hnone
      obtain ⟨⟨outcome, live⟩, hsome⟩ := Option.ne_none_iff_exists'.mp hsettled
      obtain ⟨-, hchannel⟩ | ⟨hnone, -⟩ := h.answered hopen.not_returned outcome live hsome
      · simp [h.waiter hopen hchannel] at hnone
      · simp [hnone] at hunpolled
    · intro hreturned outcome live hsome
      have hopen := h.open_of_settled hreturned hsettled
      obtain ⟨hevent, hchannel⟩ | ⟨hnone, -⟩ := h.answered hreturned outcome live hsome
      · obtain rfl : call.answer outcome = event := by simpa [hevent] using hunpolled
        exact .inr ⟨rfl, if_pos (h.waiter hopen hchannel)⟩
      · simp [hnone] at hunpolled
  | receive hc hchannel => exact h.take (by simp [hc, Caller.Open]) hchannel (.inl rfl)
  | receiveSettling hc hchannel =>
    exact h.take (by simp [hc, Caller.Open]) hchannel (.inr ⟨h.settling (.inr hc), rfl⟩)
  | notice hc hwait => exact h.goOn (by simp [hc, Caller.Open]) trivial fun _ => hwait
  | cancelSubmitted hc =>
    exact h.goOn (by simp [hc, Caller.Open]) trivial fun _ => h.settling (.inl hc)

theorem whole_step : Run.Keeps (step call) (Uninterrupted call) (Whole call) :=
  fun _ _ _ h hcalm hs => h.calm (calm_of_step hcalm hs)

/-- The states that the call can go on to. -/
abbrev Later (call : Call ν) (s s' : State ν) : Prop :=
  Run.Reachable (step call) Run.anyAction s s'

/-- The answer comes into the channel. -/
theorem Whole.delivers (h : Whole call s) (hopen : s.caller.Open) {outcome : ν} {live : Bool}
    (hsettled : s.settled = some (outcome, live)) : ∃ s', Later call s s' ∧
      s'.caller = s.caller ∧ s'.channel = some (call.answer outcome) := by
  obtain ⟨hunpolled, hchannel⟩ | ⟨-, hchannel⟩ :=
    h.answered hopen.not_returned outcome live hsettled
  · have hexited := h.poller hopen.not_returned hchannel
    have hentry := h.waiter hopen hchannel
    have hpoll : step call s .poll =
        some { s with
          unpolled := none, entry := .gone, channel := some (call.answer outcome) } := by
      simp [step, hexited, hunpolled, hentry]
    exact ⟨_, Run.Reachable.init.next .poll trivial hpoll, rfl, rfl⟩
  · exact ⟨s, .init, rfl, hchannel⟩

/-- The answer comes into the channel, and a caller that waits returns with it. -/
theorem Whole.finishes_waiting (h : Whole call s) (hc : s.caller = .waiting) {outcome : ν}
    {live : Bool} (hsettled : s.settled = some (outcome, live)) : ∃ s', Later call s s' ∧
      s'.caller = .returned (waitResult (call.answer outcome)) := by
  obtain ⟨s', hlater, hc', hchannel⟩ := h.delivers (by simp [hc, Caller.Open]) hsettled
  rw [hc] at hc'
  exact ⟨_, hlater.next .receive trivial (by simp [step, hc', hchannel]; rfl), rfl⟩

theorem Whole.finishes_settling (h : Whole call s) (hc : s.caller = .settling) {outcome : ν}
    {live : Bool} (hsettled : s.settled = some (outcome, live)) : ∃ s', Later call s s' ∧
      s'.caller = .returned (settleQueueCancellation call.kind (call.answer outcome)) := by
  obtain ⟨s', hlater, hc', hchannel⟩ := h.delivers (by simp [hc, Caller.Open]) hsettled
  rw [hc] at hc'
  exact ⟨_, hlater.next .receive trivial (by simp [step, hc', hchannel]; rfl), rfl⟩

/-- A call whose command native has ended returns with the answer. -/
theorem Whole.finishes (h : Whole call s) {outcome : ν} {live : Bool}
    (hsettled : s.settled = some (outcome, live)) : ∃ s' result, Later call s s' ∧
      s'.caller = .returned result ∧ (result = waitResult (call.answer outcome) ∨
        call.queueWait = true ∧
          result = settleQueueCancellation call.kind (call.answer outcome)) := by
  cases hc : s.caller with
  | entering => simp [h.settled (h.entering hc).1] at hsettled
  | submitting =>
    have hsent : s.sent = true := by
      by_contra hunsent
      simp [h.settled (by simpa using hunsent)] at hsettled
    have hnext := h.goOn (c := .waiting) (by simp [hc, Caller.Open]) trivial (by simp)
    obtain ⟨s', hlater, hreturned⟩ := hnext.finishes_waiting rfl hsettled
    refine ⟨s', _, ?_, hreturned, .inl rfl⟩
    exact .trans (Run.Reachable.init.next .submitted trivial (by simp [step, hc, hsent])) hlater
  | waiting =>
    obtain ⟨s', hlater, hreturned⟩ := h.finishes_waiting hc hsettled
    exact ⟨s', _, hlater, hreturned, .inl rfl⟩
  | cancelling =>
    have hwait := h.settling (.inl hc)
    have hnext := h.goOn (c := .settling) (by simp [hc, Caller.Open]) trivial fun _ => hwait
    obtain ⟨s', hlater, hreturned⟩ := hnext.finishes_settling rfl hsettled
    refine ⟨s', _, ?_, hreturned, .inr ⟨hwait, rfl⟩⟩
    exact .trans (Run.Reachable.init.next .cancelSubmitted trivial (by simp [step, hc])) hlater
  | settling =>
    obtain ⟨s', hlater, hreturned⟩ := h.finishes_settling hc hsettled
    exact ⟨s', _, hlater, hreturned, .inr ⟨h.settling (.inr hc), rfl⟩⟩
  | returned result =>
    obtain ⟨outcome', live', hsettled', hresult⟩ := h.returned result hc
    obtain ⟨rfl, rfl⟩ : outcome' = outcome ∧ live' = live := by
      simpa [hsettled] using hsettled'.symm
    exact ⟨s, result, .init, hc, hresult⟩

end RivetGo.Operation

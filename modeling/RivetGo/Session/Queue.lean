import Mathlib
import RivetGo.Native.Emit
import RivetGo.Session.Operation

/-!
# Receiving from the queue

Native takes a message from the durable queue, or marks it in progress, before
it emits the result of a `QueueNext`. The call that issued the command is then
the only one who can have the message. It returns the message if it waits for
its answer to the end, also after its context ended; every way in which it
returns earlier loses a message that native has taken for it.
-/

namespace RivetGo.Queue

open Native (Admission CoreError)
open Operation (Call OperationError Result State)

/-- How native ends a `QueueNext`: whether the generation takes the operation,
and what core has for it then. -/
structure Settlement where
  admission : Admission
  result : Except CoreError (Option Native.QueueMessage)

/-- The command with its operation ID and generation. -/
def nextCall (op : Native.Operation) : Call Settlement where
  kind := .queueNext
  answer r := (Native.dispatchQueueNext op r.admission r.result).received

/-- The bytes of a message are cloned, and none are empty bytes. -/
def queueMessage (m : Wire.QueueMessage) : Wire.QueueMessage :=
  { m with body := some (m.body.getD []) }

/-- What `QueueNext` makes of the result of its operation. -/
def queueNext (result : Result) : Except OperationError (Option Wire.QueueMessage) := do
  let event ← result
  if event.queueOperation ≠ Utf8.encode "next" ∨ event.queueResponse ≠ none then
    throw (.handler (Utf8.encode "queue_result_invalid")
      (Utf8.encode "native next result is invalid"))
  return event.queueMessage.map queueMessage

/-- Native has the message for the call. -/
def Settlement.message (m : Native.QueueMessage) : Settlement := ⟨.admitted, .ok (some m)⟩

/-- The call has returned the message. -/
def Returns (m : Native.QueueMessage) (s : State Settlement) : Prop :=
  ∃ result, s.caller = .returned result ∧
    queueNext result = .ok (some (queueMessage m.received))

/-- The message is not lost: the call can return it, and when it returns, then
with the message. -/
structure Kept (op : Native.Operation) (m : Native.QueueMessage) (s : State Settlement) : Prop where
  later : ∃ s', Operation.Later (nextCall op) s s' ∧ Returns m s'
  returned : s.caller.Returned → Returns m s

variable {op : Native.Operation} {m : Native.QueueMessage} {s s' : State Settlement}

theorem queueNext_ok_answer (op : Native.Operation) (m : Native.QueueMessage) :
    queueNext (.ok ((nextCall op).answer (.message m))) =
      .ok (some (queueMessage m.received)) := by
  simp [queueNext, nextCall, Settlement.message, Native.dispatchQueueNext, Native.settleQueue,
    Native.Operation.refusal, Native.emitQueueResult, Native.Event.received]
  rfl

/-- The call gets the message whether or not its context has ended. -/
theorem queueNext_result {result : Result}
    (h : result = Operation.waitResult ((nextCall op).answer (.message m)) ∨
      (nextCall op).queueWait = true ∧ result =
        Operation.settleQueueCancellation .queueNext ((nextCall op).answer (.message m))) :
    queueNext result = .ok (some (queueMessage m.received)) := by
  obtain rfl | ⟨-, rfl⟩ := h
  · exact queueNext_ok_answer op m
  · exact queueNext_ok_answer op m

theorem kept_of_whole (h : Operation.Whole (nextCall op) s) {live : Bool}
    (hsettled : s.settled = some (.message m, live)) : Kept op m s := by
  refine ⟨?_, ?_⟩
  · obtain ⟨s', result, hlater, hreturned, hresult⟩ := h.finishes hsettled
    exact ⟨s', hlater, result, hreturned, queueNext_result hresult⟩
  · intro hreturned
    cases hc : s.caller with
    | returned result =>
      obtain ⟨outcome, live', hsettled', hresult⟩ := h.returned result hc
      obtain ⟨rfl, rfl⟩ : outcome = .message m ∧ live' = live := by
        simpa [hsettled] using hsettled'.symm
      exact ⟨result, hc, queueNext_result hresult⟩
    | _ => simp [hc, Operation.Caller.Returned] at hreturned

theorem not_returns_of_doomed (h : Operation.Doomed s) : ¬ Returns m s := by
  rintro ⟨result, hc, hresult⟩
  obtain ⟨error, hc'⟩ | ⟨-, -, hreturned⟩ := h
  · obtain rfl : Except.error error = result := by simpa [hc] using hc'.symm
    simp [queueNext, bind, Except.bind] at hresult
  · exact hreturned (by simp [hc, Operation.Caller.Returned])

theorem not_kept_of_doomed (h : Operation.Doomed s) : ¬ Kept op m s := by
  rintro ⟨⟨s', hlater, hreturns⟩, -⟩
  exact not_returns_of_doomed (hlater.invariant h Operation.doomed_step) hreturns

/-- A message that native has for a call is kept if and only if nothing in the
run makes the call return before its answer: neither the end of its context
while it submits the command, nor a rejected `QueueCancel` or a late answer to
it, nor the end of the session or of the pump. -/
theorem message_kept_iff {as : List (Operation.Action Settlement)} {live : Bool}
    (hrun : Run.run (Operation.step (nextCall op)) Operation.initial as = some s)
    (hsettled : s.settled = some (.message m, live)) :
    Kept op m s ↔ Run.Allowed (Operation.step (nextCall op))
      (Operation.Uninterrupted (nextCall op)) Operation.initial as := by
  constructor
  · intro hkept
    by_contra hinterrupted
    refine not_kept_of_doomed
      (Run.of_not_allowed .init ?_ Operation.doomed_step hrun hinterrupted) hkept
    intro s a s' _ hinterrupts hs
    exact Operation.doomed_of_interrupts (not_not.mp hinterrupts) hs
  · intro hcalm
    have hreaches := Run.Reachable.init.run hcalm hrun
    exact kept_of_whole (hreaches.invariant (Operation.whole_initial _) Operation.whole_step)
      hsettled

/-! ### Three calls -/

/-- A message of the queue `jobs`, and the operation that receives it. -/
def job : Native.QueueMessage where
  id := 7
  name := "jobs"
  body := [0xa0]
  createdAt := 0
  completable := false

def receiveJob : Native.Operation where
  opId := ⟨1, Native.firstId_ne_zero⟩
  aid := "queue-aid"
  generation := 1

/-- The context ends while the call waits, and native has a message before it
sees the cancellation. -/
def cancelledWait : List (Operation.Action Settlement) :=
  [.register, .enqueue, .send, .submitted, .cancel, .notice, .cancelSubmitted,
    .settle (.message job), .poll, .receive]

theorem cancelledWait_returns_job : ∃ s,
    Run.run (Operation.step (nextCall receiveJob)) Operation.initial cancelledWait = some s ∧
      s.settled = some (.message job, true) ∧ Kept receiveJob job s := by
  refine ⟨_, rfl, rfl, (message_kept_iff (rfl : Run.run _ _ cancelledWait = some _) rfl).mpr ?_⟩
  refine Run.allowed_of_forall fun a ha s => ?_
  simp only [cancelledWait, List.mem_cons, List.not_mem_nil, or_false] at ha
  rcases ha with rfl | rfl | rfl | rfl | rfl | rfl | rfl | rfl | rfl | rfl <;>
    simp [Operation.Uninterrupted, Operation.Interrupts, nextCall, Call.queueWait]

/-- The context ends while the command is on its way to native. -/
def cancelledSubmission : List (Operation.Action Settlement) :=
  [.register, .enqueue, .cancel, .giveUp, .send, .settle (.message job), .poll]

/-- The context ends while the call waits, and backpressure rejects the
`QueueCancel`. -/
def rejectedCancellation : List (Operation.Action Settlement) :=
  [.register, .enqueue, .send, .submitted, .cancel, .notice, .cancelRejected,
    .settle (.message job), .poll]

/-- Native has the message for the call while the generation is live, and the
call returns the error of its context. -/
def Loses (as : List (Operation.Action Settlement)) : Prop := ∃ s,
  Run.run (Operation.step (nextCall receiveJob)) Operation.initial as = some s ∧
    s.settled = some (.message job, true) ∧ s.live = true ∧
    s.caller = .returned (.error .context) ∧ ¬ Kept receiveJob job s

theorem job_lost : Loses cancelledSubmission ∧ Loses rejectedCancellation := by
  constructor
  · exact ⟨_, rfl, rfl, rfl, rfl, not_kept_of_doomed (.inl ⟨_, rfl⟩)⟩
  · exact ⟨_, rfl, rfl, rfl, rfl, not_kept_of_doomed (.inl ⟨_, rfl⟩)⟩

end RivetGo.Queue

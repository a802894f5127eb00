import Mathlib
import RivetGo.Data.Run
import RivetGo.Native.Command

/-!
# Waiting for an alarm

When an alarm fires, the loop of the generation calls `request_alarm`: it takes a
correlation, puts it into the lifecycle table under the alarm key of the
generation, sends `ActorAlarm` to Go, and waits. The worker of the generation
handles its alarms one by one and answers each with `AlarmHandled`. The answer
names the generation, not the alarm: it resolves whatever correlation stands
under the key when it arrives.

The reaper expires correlations and then removes the table entries whose
correlation is gone. Until it does, the entry of an alarm that timed out stays:
`request_alarm` leaves early on a timeout and does not remove it.

Calls are numbered, and the number of a call is also its correlation and the mark
on its `ActorAlarm` and on the answer to it, which native does not see. Events
and answers keep their order.
-/

namespace RivetGo.Alarm

open Native (WireError)

/-- How a call of `request_alarm` ends. -/
inductive Resolution where
  /-- By the `AlarmHandled` for the event of call `alarm`. -/
  | handled (alarm : Nat) (error : Option WireError)
  | timedOut
  | shutdown
  | queueClosed
  | correlationFailed
  deriving DecidableEq

def Resolution.result : Resolution → Except WireError Unit
  | .handled _ none => .ok ()
  | .handled _ (some error) => .error error
  | .timedOut =>
    .error ⟨"alarm_handler_timed_out",
      "Go OnAlarm did not complete before the boundary deadline", none, none⟩
  | .shutdown => .error ⟨"runner_stopped", "runner stopped during OnAlarm", none, none⟩
  | .queueClosed => .error ⟨"runner_stopped", "Go event queue is closed", none, none⟩
  | .correlationFailed =>
    .error ⟨"alarm_correlation_failed", "duplicate pending actor lifecycle result", none, none⟩

structure State where
  next : Nat := 0
  /-- The correlations of alarms that are in the correlation table. -/
  live : List Nat := []
  /-- The entry of the lifecycle table under the alarm key. -/
  pending : Option Nat := none
  call : Option Nat := none
  /-- The `ActorAlarm` events that Go has not answered. -/
  mailbox : List Nat := []
  /-- The `AlarmHandled` commands on their way to native. -/
  answers : List (Nat × Option WireError) := []
  ended : List (Nat × Resolution) := []
  deriving DecidableEq

def initial : State := {}

def State.Ended (s : State) (id : Nat) : Prop := ∃ r, (id, r) ∈ s.ended

def State.result (s : State) (id : Nat) : Option (Except WireError Unit) :=
  (s.ended.lookup id).map Resolution.result

def State.waits (s : State) (id : Nat) : Bool := s.call = some id && id ∈ s.live

def State.resolve (s : State) (id : Nat) (r : Resolution) : State :=
  { s with
    live := s.live.filter (· ≠ id)
    ended := s.ended ++ if s.waits id then [(id, r)] else [] }

inductive Action where
  /-- An alarm fires; `accepted` says whether the event queue took the event. -/
  | request (accepted : Bool)
  /-- Go handles the oldest alarm and submits the result. -/
  | handle (error : Option WireError)
  /-- Go drops the oldest alarm: the worker leaves, or the submission fails. -/
  | drop
  | receive
  | expire (id : Nat)
  /-- The reaper removes the entry whose correlation is gone. -/
  | sweep
  -- The shutdown of the runner drains the correlations and then clears the lifecycle table.
  | drainCorrelations
  | clearPending
  | returned

/-- A call of `request_alarm` up to its wait. `insert` replaces an entry before it
reports the duplicate. -/
def State.request (s : State) (accepted : Bool) : State :=
  let id := s.next
  match s.pending with
  | some _ =>
    { s with
      next := id + 1
      live := id :: s.live
      pending := some id
      ended := s.ended ++ [(id, .correlationFailed)] }
  | none =>
    if accepted then
      { s with
        next := id + 1
        live := id :: s.live
        pending := some id
        call := some id
        mailbox := s.mailbox ++ [id] }
    else { s with next := id + 1, ended := s.ended ++ [(id, .queueClosed)] }

def step (s : State) : Action → Option State
  | .request accepted => if s.call = none then some (s.request accepted) else none
  | .handle error =>
    match s.mailbox with
    | [] => none
    | id :: rest => some { s with mailbox := rest, answers := s.answers ++ [(id, error)] }
  | .drop =>
    match s.mailbox with
    | [] => none
    | _ :: rest => some { s with mailbox := rest }
  | .receive =>
    match s.answers with
    | [] => none
    | (alarm, error) :: rest =>
      match s.pending with
      | none => some { s with answers := rest }
      | some id =>
        some ({ s with answers := rest, pending := none }.resolve id (.handled alarm error))
  | .expire id => if id ∈ s.live then some (s.resolve id .timedOut) else none
  | .sweep => some { s with pending := s.pending.filter (· ∈ s.live) }
  | .drainCorrelations =>
    let s' := match s.call with
      | none => s
      | some id => s.resolve id .shutdown
    some { s' with live := [] }
  | .clearPending => some { s with pending := none }
  | .returned =>
    match s.call with
    | none => none
    | some id =>
      -- on a timeout and on a shutdown the entry stays
      if id ∈ s.live then none
      else
        let answered := s.ended.any fun e => e.1 = id && e.2 matches .handled _ _
        some { s with call := none, pending := if answered then none else s.pending }

/-- The call ends by its own alarm, its own timeout or the shutdown. -/
def Resolution.Own (id : Nat) : Resolution → Prop
  | .handled alarm _ => alarm = id
  | .correlationFailed => False
  | _ => True

def OwnAlarms (s : State) : Prop := ∀ id r, (id, r) ∈ s.ended → r.Own id

/-- No alarm fires while the entry of an earlier one is still in the lifecycle
table, and no answer to an alarm whose call has ended arrives while a later call
waits under the key. -/
def Punctual (s : State) : Action → Prop
  | .request _ => s.call = none → s.pending = none
  | .receive => ∀ alarm error rest, s.answers = (alarm, error) :: rest → s.Ended alarm →
      ∀ id, s.pending = some id → s.waits id = false
  | _ => True

variable {s s' : State} {a : Action} {id : Nat} {r : Resolution}

/-! ### Every run -/

theorem waits_iff : s.waits id = true ↔ s.call = some id ∧ id ∈ s.live := by
  simp [State.waits]

theorem waits_resolve {k : Nat} :
    (s.resolve id r).waits k = true ↔ s.waits k = true ∧ k ≠ id := by
  simp [waits_iff, State.resolve, and_assoc]

theorem ended_resolve {k : Nat} :
    (s.resolve id r).Ended k ↔ s.Ended k ∨ k = id ∧ s.waits id = true := by
  by_cases hw : s.waits id = true
  · simp [State.Ended, State.resolve, hw, exists_or]
  · simp [State.Ended, State.resolve, hw]

/-- An alarm whose event or answer is on its way has a call that waits or has
ended, and a call that waits has not ended. -/
structure Marked (s : State) : Prop where
  bound : ∀ id, s.Ended id → id < s.next
  call : ∀ id, s.call = some id → id < s.next
  waiting : ∀ id, s.waits id = true → ¬ s.Ended id
  sent : ∀ alarm ∈ s.mailbox ++ s.answers.map (·.1), s.waits alarm = true ∨ s.Ended alarm

theorem marked_initial : Marked initial := by
  constructor <;> simp [initial, State.Ended, State.waits]

theorem Marked.frame (h : Marked s) (hnext : s'.next = s.next) (hcall : s'.call = s.call)
    (hlive : s'.live = s.live) (hended : s'.ended = s.ended)
    (hsent : s'.mailbox ++ s'.answers.map (·.1) ⊆ s.mailbox ++ s.answers.map (·.1)) :
    Marked s' := by
  have hwaits : ∀ id, s'.waits id = s.waits id := fun id => by simp [State.waits, hcall, hlive]
  have hEnded : ∀ id, s'.Ended id ↔ s.Ended id := fun id => by simp [State.Ended, hended]
  refine ⟨?_, ?_, ?_, ?_⟩
  · intro id hid
    exact hnext ▸ h.bound id ((hEnded id).mp hid)
  · intro id hid
    exact hnext ▸ h.call id (hcall ▸ hid)
  · intro id hid hend
    exact h.waiting id (hwaits id ▸ hid) ((hEnded id).mp hend)
  · intro alarm ha
    rw [hwaits, hEnded]
    exact h.sent alarm (hsent ha)

theorem Marked.resolve (h : Marked s) (id : Nat) (r : Resolution) : Marked (s.resolve id r) where
  bound k hk := by
    obtain hk | ⟨rfl, hw⟩ := ended_resolve.mp hk
    · exact h.bound k hk
    · exact h.call k (waits_iff.mp hw).1
  call := h.call
  waiting k hk hend := by
    obtain ⟨hk, hne⟩ := waits_resolve.mp hk
    obtain hend | ⟨heq, -⟩ := ended_resolve.mp hend
    · exact h.waiting k hk hend
    · exact hne heq
  sent alarm ha := by
    rw [waits_resolve, ended_resolve]
    obtain hw | hend := h.sent alarm ha
    · by_cases heq : alarm = id
      · exact .inr (.inr ⟨heq, heq ▸ hw⟩)
      · exact .inl ⟨hw, heq⟩
    · exact .inr (.inl hend)

theorem Marked.request (h : Marked s) (hcall : s.call = none) (accepted : Bool) :
    Marked (s.request accepted) := by
  have hno : ∀ id, s.waits id = false := fun id => by simp [State.waits, hcall]
  have hsent : ∀ alarm ∈ s.mailbox ++ s.answers.map (·.1), s.Ended alarm := fun alarm ha =>
    (h.sent alarm ha).resolve_left (by simp [hno])
  have hfresh : ¬ s.Ended s.next := fun hend => absurd (h.bound _ hend) (lt_irrefl _)
  have hmore : ∀ r id, (∃ r', (id, r') ∈ s.ended ++ [(s.next, r)]) ↔ s.Ended id ∨ id = s.next := by
    simp [State.Ended, exists_or]
  cases hp : s.pending with
  | some old =>
    simp only [State.request, hp]
    refine ⟨fun id hid => ?_, by simp [hcall], by simp [State.waits, hcall], fun alarm ha => ?_⟩
    · obtain hid | rfl := (hmore _ id).mp hid
      · exact Nat.lt_succ_of_lt (h.bound id hid)
      · exact Nat.lt_succ_self _
    · exact .inr ((hmore _ alarm).mpr (.inl (hsent alarm ha)))
  | none =>
    cases accepted with
    | true =>
      simp only [State.request, hp, if_true]
      refine ⟨fun id hid => Nat.lt_succ_of_lt (h.bound id hid), ?_, ?_, ?_⟩
      · rintro id ⟨⟩
        exact Nat.lt_succ_self _
      · intro id hid
        obtain ⟨rfl, -⟩ : s.next = id ∧ _ := by simpa [State.waits] using hid
        exact hfresh
      · intro alarm ha
        by_cases heq : alarm = s.next
        · exact .inl (by simp [State.waits, heq])
        · refine .inr (hsent alarm ?_)
          simpa [heq] using ha
    | false =>
      simp only [State.request, hp]
      refine ⟨fun id hid => ?_, by simp [hcall], by simp [State.waits, hcall],
        fun alarm ha => ?_⟩
      · obtain hid | rfl := (hmore _ id).mp hid
        · exact Nat.lt_succ_of_lt (h.bound id hid)
        · exact Nat.lt_succ_self _
      · exact .inr ((hmore _ alarm).mpr (.inl (hsent alarm ha)))

theorem handle_cases {error : Option WireError} (hs : step s (.handle error) = some s') :
    ∃ id rest, s.mailbox = id :: rest ∧
      s' = { s with mailbox := rest, answers := s.answers ++ [(id, error)] } := by
  cases hm : s.mailbox with
  | nil => simp [step, hm] at hs
  | cons id rest => exact ⟨id, rest, rfl, by simpa [step, hm] using hs.symm⟩

theorem drop_cases (hs : step s .drop = some s') :
    ∃ id rest, s.mailbox = id :: rest ∧ s' = { s with mailbox := rest } := by
  cases hm : s.mailbox with
  | nil => simp [step, hm] at hs
  | cons id rest => exact ⟨id, rest, rfl, by simpa [step, hm] using hs.symm⟩

theorem receive_cases (h : step s .receive = some s') : ∃ alarm error rest,
    s.answers = (alarm, error) :: rest ∧
      (s.pending = none ∧ s' = { s with answers := rest } ∨
        ∃ id, s.pending = some id ∧
          s' = { s with answers := rest, pending := none }.resolve id (.handled alarm error)) := by
  cases ha : s.answers with
  | nil => simp [step, ha] at h
  | cons answer rest =>
    obtain ⟨alarm, error⟩ := answer
    refine ⟨alarm, error, rest, rfl, ?_⟩
    cases hp : s.pending with
    | none => exact .inl ⟨rfl, by simpa [step, ha, hp] using h.symm⟩
    | some id => exact .inr ⟨id, rfl, by simpa [step, ha, hp] using h.symm⟩

theorem marked_step : Run.Keeps step Run.anyAction Marked := by
  intro s a s' h _ hs
  cases a with
  | request accepted =>
    obtain ⟨hcall, rfl⟩ : s.call = none ∧ _ = s' := by simpa [step] using hs
    exact h.request hcall accepted
  | handle error =>
    obtain ⟨alarm, rest, hm, rfl⟩ := handle_cases hs
    refine h.frame rfl rfl rfl rfl fun k hk => ?_
    simp only [List.map_append, List.map_cons, List.map_nil, List.mem_append, hm,
      List.mem_cons] at hk ⊢
    tauto
  | drop =>
    obtain ⟨alarm, rest, hm, rfl⟩ := drop_cases hs
    refine h.frame rfl rfl rfl rfl fun k hk => ?_
    rw [hm]
    exact List.mem_cons_of_mem alarm hk
  | receive =>
    obtain ⟨alarm, error, rest, ha, hs⟩ := receive_cases hs
    have hrest : s.mailbox ++ rest.map (·.1) ⊆ s.mailbox ++ s.answers.map (·.1) := by
      rw [ha]
      intro k hk
      simp only [List.mem_append, List.map_cons, List.mem_cons] at hk ⊢
      tauto
    obtain ⟨-, rfl⟩ | ⟨id, -, rfl⟩ := hs
    · exact h.frame rfl rfl rfl rfl hrest
    · have h' : Marked { s with answers := rest, pending := none } :=
        h.frame rfl rfl rfl rfl hrest
      exact h'.resolve id _
  | expire id =>
    obtain ⟨-, rfl⟩ : id ∈ s.live ∧ _ = s' := by simpa [step] using hs
    exact h.resolve id .timedOut
  | sweep | clearPending =>
    obtain rfl := Option.some.inj hs
    exact h.frame rfl rfl rfl rfl (List.Subset.refl _)
  | drainCorrelations =>
    cases hc : s.call with
    | none =>
      obtain rfl : _ = s' := by simpa [step, hc] using hs
      refine ⟨h.bound, by simp, by simp [State.waits], fun alarm ha => .inr ?_⟩
      exact (h.sent alarm ha).resolve_left (by simp [State.waits, hc])
    | some id =>
      obtain rfl : _ = s' := by simpa [step, hc] using hs
      have h' := h.resolve id .shutdown
      refine ⟨h'.bound, h'.call, by simp [State.waits], fun alarm ha => .inr ?_⟩
      refine (h'.sent alarm ha).resolve_left fun hw => ?_
      -- the only call that could wait was the one that has just ended
      obtain ⟨hw, hne⟩ := waits_resolve.mp hw
      exact hne (Option.some.inj ((waits_iff.mp hw).1.symm.trans hc))
  | returned =>
    cases hc : s.call with
    | none => simp [step, hc] at hs
    | some id =>
      obtain ⟨hdead, rfl⟩ : id ∉ s.live ∧ _ = s' := by simpa [step, hc] using hs
      refine ⟨h.bound, by simp, by simp [State.waits], fun alarm ha => .inr ?_⟩
      refine (h.sent alarm ha).resolve_left fun hw => hdead ?_
      obtain ⟨hcall, hlive⟩ := waits_iff.mp hw
      rwa [Option.some.inj (hc.symm.trans hcall)]

/-! ### What ends a call -/

/-- The action ends the call in this way. -/
inductive Ends (s : State) (id : Nat) : Action → Resolution → Prop where
  | duplicate (accepted : Bool) : s.call = none → s.pending ≠ none →
      Ends s id (.request accepted) .correlationFailed
  | queueClosed (accepted : Bool) : Ends s id (.request accepted) .queueClosed
  | handled {alarm : Nat} {error : Option WireError} {rest : List (Nat × Option WireError)} :
      s.answers = (alarm, error) :: rest → s.pending = some id → s.waits id = true →
      Ends s id .receive (.handled alarm error)
  | timedOut (k : Nat) : Ends s id (.expire k) .timedOut
  | shutdown : Ends s id .drainCorrelations .shutdown

theorem mem_ended_resolve {k : Nat} {r' : Resolution} :
    (k, r') ∈ (s.resolve id r).ended ↔
      (k, r') ∈ s.ended ∨ s.waits id = true ∧ k = id ∧ r' = r := by
  by_cases hw : s.waits id = true
  · simp [State.resolve, hw]
  · simp [State.resolve, hw]

/-- A step adds the calls that its action ends. -/
theorem ended_of_step (hs : step s a = some s') :
    ∃ entries, s'.ended = s.ended ++ entries ∧ ∀ e ∈ entries, Ends s e.1 a e.2 := by
  have hnone : ∃ entries, s.ended = s.ended ++ entries ∧ ∀ e ∈ entries, Ends s e.1 a e.2 :=
    ⟨[], (List.append_nil _).symm, List.forall_mem_nil _⟩
  have hone (id : Nat) (r : Resolution) (h : Ends s id a r) :
      ∃ entries, s.ended ++ [(id, r)] = s.ended ++ entries ∧ ∀ e ∈ entries, Ends s e.1 a e.2 :=
    ⟨_, rfl, List.forall_mem_singleton.mpr h⟩
  have hresolve (id : Nat) (r : Resolution) (h : s.waits id = true → Ends s id a r) :
      ∃ entries, (s.resolve id r).ended = s.ended ++ entries ∧ ∀ e ∈ entries, Ends s e.1 a e.2 := by
    refine ⟨_, rfl, fun e he => ?_⟩
    split_ifs at he with hw
    · obtain rfl := List.mem_singleton.mp he
      exact h hw
    · cases he
  cases a with
  | request accepted =>
    obtain ⟨hcall, rfl⟩ : s.call = none ∧ _ = s' := by simpa [step] using hs
    cases hp : s.pending with
    | some old =>
      simp only [State.request, hp]
      exact hone s.next _ (.duplicate accepted hcall (by simp [hp]))
    | none =>
      cases accepted with
      | true =>
        simp only [State.request, hp]
        exact hnone
      | false =>
        simp only [State.request, hp]
        exact hone s.next _ (.queueClosed false)
  | handle error =>
    obtain ⟨alarm, rest, hm, rfl⟩ := handle_cases hs
    exact hnone
  | drop =>
    obtain ⟨alarm, rest, hm, rfl⟩ := drop_cases hs
    exact hnone
  | receive =>
    obtain ⟨alarm, error, rest, ha, ⟨-, rfl⟩ | ⟨k, hp, rfl⟩⟩ := receive_cases hs
    · exact hnone
    · exact hresolve k _ (.handled ha hp)
  | expire k =>
    obtain ⟨-, rfl⟩ : k ∈ s.live ∧ _ = s' := by simpa [step] using hs
    exact hresolve k _ fun _ => .timedOut k
  | drainCorrelations =>
    obtain rfl := Option.some.inj hs
    cases hc : s.call with
    | none => exact hnone
    | some k => exact hresolve k _ fun _ => .shutdown
  | returned =>
    cases hc : s.call with
    | none => simp [step, hc] at hs
    | some k =>
      obtain ⟨-, rfl⟩ : k ∉ s.live ∧ _ = s' := by simpa [step, hc] using hs
      exact hnone
  | _ =>
    obtain rfl := Option.some.inj hs
    exact hnone

/-! ### Own alarms -/

/-- An action of a punctual run ends a call on the call's own account: an answer
to an alarm whose call has not ended belongs to the call that waits. -/
theorem Ends.own (h : Ends s id a r) (hmarked : Marked s) (hpunctual : Punctual s a) :
    r.Own id := by
  cases h with
  | duplicate accepted hcall hpending => exact absurd (hpunctual hcall) hpending
  | queueClosed accepted => trivial
  | @handled alarm error rest ha hp hw =>
    have hsent : s.waits alarm = true ∨ s.Ended alarm := hmarked.sent alarm (by simp [ha])
    obtain hwaits | hended := hsent
    · have hcall := (waits_iff.mp hwaits).1.symm.trans (waits_iff.mp hw).1
      exact Option.some.inj hcall
    · have hfree := hpunctual alarm error rest ha hended id hp
      simp [hw] at hfree
  | timedOut k => trivial
  | shutdown => trivial

theorem own_step : Run.Keeps step Punctual fun s => Marked s ∧ OwnAlarms s := by
  intro s a s' ⟨hmarked, hown⟩ ha hs
  refine ⟨marked_step s a s' hmarked trivial hs, fun id r hmem => ?_⟩
  obtain ⟨entries, hended, hends⟩ := ended_of_step hs
  obtain hmem | hmem := List.mem_append.mp (hended ▸ hmem)
  · exact hown id r hmem
  · exact (hends _ hmem).own hmarked ha

def Mistaken (s : State) : Prop := ∃ id r, (id, r) ∈ s.ended ∧ ¬ r.Own id

theorem mistaken_step : Run.Keeps step Run.anyAction Mistaken := by
  intro s a s' ⟨id, r, hmem, hnot⟩ _ hs
  obtain ⟨entries, hended, -⟩ := ended_of_step hs
  exact ⟨id, r, hended ▸ List.mem_append_left _ hmem, hnot⟩

theorem mistaken_of_not_punctual (hmarked : Marked s) (hnot : ¬ Punctual s a)
    (hs : step s a = some s') : Mistaken s' := by
  cases a with
  | request accepted =>
    obtain ⟨hcall, hpending⟩ := Classical.not_imp.mp hnot
    obtain ⟨old, hold⟩ := Option.ne_none_iff_exists'.mp hpending
    obtain rfl : _ = s' := by simpa [step, hcall] using hs
    exact ⟨s.next, .correlationFailed, by simp [State.request, hold], id⟩
  | receive =>
    simp only [Punctual, not_forall, Bool.not_eq_false] at hnot
    obtain ⟨alarm, error, rest, ha, hended, id, hp, hw⟩ := hnot
    obtain rfl : _ = s' := by simpa [step, ha, hp] using hs
    refine ⟨id, .handled alarm error, mem_ended_resolve.mpr (.inr ⟨hw, rfl, rfl⟩), ?_⟩
    -- the call that waits has not ended, so it is another one
    rintro rfl
    exact hmarked.waiting alarm hw hended
  | _ => exact absurd trivial hnot

/-- In every run, calls of `request_alarm` end by their own alarm, their own
timeout or the shutdown exactly if the run is punctual. -/
theorem ownAlarms_iff {as : List Action} (hrun : Run.run step initial as = some s) :
    OwnAlarms s ↔ Run.Allowed step Punctual initial as := by
  constructor
  · intro hown
    by_contra hnot
    have hmistaken : Mistaken s := Run.of_not_allowed .init
      (fun _ _ _ hreach hbad hs =>
        mistaken_of_not_punctual (hreach.invariant marked_initial marked_step) hbad hs)
      mistaken_step hrun hnot
    obtain ⟨id, r, hmem, hr⟩ := hmistaken
    exact hr (hown id r hmem)
  · intro hpunctual
    have hreach := Run.Reachable.init.run hpunctual hrun
    exact (hreach.invariant ⟨marked_initial, by simp [OwnAlarms, initial]⟩ own_step).2

/-! ### Runs with two alarms -/

/-- The first alarm times out, and its answer comes before the second fires. -/
def lateButBefore : List Action :=
  [.request true, .expire 0, .sweep, .returned, .handle none, .receive,
    .request true, .handle none, .receive, .returned]

theorem lateButBefore_own : ∃ s, Run.run step initial lateButBefore = some s ∧
    s.ended = [(0, .timedOut), (1, .handled 1 none)] ∧ OwnAlarms s := by
  refine ⟨_, rfl, rfl, (ownAlarms_iff (rfl : Run.run step initial lateButBefore = some _)).mpr ?_⟩
  refine ⟨fun _ => rfl, trivial, trivial, trivial, trivial, ?_, fun _ => rfl, trivial, ?_,
    trivial, trivial⟩
  · intro alarm error rest _ _ id hid
    cases hid
  · rintro alarm error rest ha ⟨r, hr⟩
    cases ha
    have hmem : ((1 : Nat), r) ∈ [((0 : Nat), Resolution.timedOut)] := hr
    simp at hmem

/-- The answer to the first alarm comes while the call for the second waits. -/
def overtaken (error : Option WireError) : List Action :=
  [.request true, .expire 0, .sweep, .returned, .request true, .handle error, .receive]

/-- The second alarm fires before the reaper has removed the entry of the first. -/
def unswept : List Action := [.request true, .expire 0, .returned, .request true]

def refusal : WireError := ⟨"actor_error", "the first alarm failed", none, none⟩

/-- A late answer acknowledges an alarm that Go has not handled, or makes it fail,
and an alarm fails because of an entry that its predecessor left. -/
theorem alarm_mistaken :
    (∃ s, Run.run step initial (overtaken none) = some s ∧ s.mailbox = [1] ∧
      s.result 1 = some (.ok ()) ∧ ¬ OwnAlarms s) ∧
    (∃ s, Run.run step initial (overtaken (some refusal)) = some s ∧ s.mailbox = [1] ∧
      s.result 1 = some (.error refusal) ∧ ¬ OwnAlarms s) ∧
    ∃ s, Run.run step initial unswept = some s ∧ s.mailbox = [0] ∧
      s.result 1 = some Resolution.correlationFailed.result ∧ ¬ OwnAlarms s := by
  refine ⟨⟨_, rfl, rfl, rfl, fun hown => ?_⟩, ⟨_, rfl, rfl, rfl, fun hown => ?_⟩,
    ⟨_, rfl, rfl, rfl, fun hown => ?_⟩⟩
  · exact absurd (hown 1 (.handled 0 none) (.tail _ (.head _))) Nat.zero_ne_one
  · exact absurd (hown 1 (.handled 0 (some refusal)) (.tail _ (.head _))) Nat.zero_ne_one
  · exact hown 1 .correlationFailed (.tail _ (.head _))

end RivetGo.Alarm

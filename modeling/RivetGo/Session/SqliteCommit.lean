import RivetGo.Session.SqliteCall

/-!
# A command that may write and the context of its caller

A command that may write is settled before its caller returns: the end of the
context is only remembered. It is returned in the place of whatever error comes
later, so that everything depends on an executed command not being answered with
an error. Native answers one with its result if that is within the limits of the
boundary, and with an error otherwise.
-/

namespace RivetGo.Session.Assembler

/-- An event completes the response if it says so, or it is an error. -/
theorem report_of_add {a b : Assembler} {event : Wire.Event} {done : Bool}
    (h : a.add event = .ok (b, done)) : done = event.done := by
  rw [add, Check.ite_error_eq_ok] at h
  obtain ⟨-, h⟩ := h
  cases herror : event.error with
  | some e => simp [herror] at h
  | none =>
    simp only [herror, Check.bind_eq_ok] at h
    obtain ⟨a, -, a', -, h⟩ := h
    cases hdone : event.done with
    | true =>
      rw [hdone, if_pos rfl, complete, Check.ite_error_eq_ok, Check.ite_error_eq_ok] at h
      exact (Prod.ext_iff.mp (Except.ok.inj h.2.2)).2.symm
    | false =>
      rw [hdone, if_neg Bool.false_ne_true] at h
      exact (Prod.ext_iff.mp (Except.ok.inj h)).2.symm

theorem feed_append {a b : Assembler} {xs ys : List Wire.Event} {reports : List Bool}
    (h : a.feed xs = .ok (b, reports)) :
    a.feed (xs ++ ys) = (fun p => (p.1, reports ++ p.2)) <$> b.feed ys := by
  induction xs generalizing a reports with
  | nil =>
    obtain ⟨rfl, rfl⟩ : a = b ∧ [] = reports := by simpa [feed] using h
    rw [List.nil_append]
    cases a.feed ys <;> rfl
  | cons x xs ih =>
    simp only [feed, Check.bind_eq_ok] at h
    obtain ⟨⟨c, done⟩, hadd, ⟨d, rest⟩, hfeed, h⟩ := h
    obtain ⟨rfl, rfl⟩ : d = b ∧ done :: rest = reports := by
      simpa [pure, Except.pure] using h
    rw [List.cons_append, feed, hadd]
    show (c.feed (xs ++ ys) >>= fun p => pure (p.1, done :: p.2)) = _
    rw [ih hfeed]
    cases d.feed ys <;> rfl

theorem feed_of_cons_error {a b : Assembler} {event : Wire.Event} {rest : List Wire.Event}
    {done : Bool} {e : SQLiteError} (hadd : a.add event = .ok (b, done))
    (h : a.feed (event :: rest) = .error e) : b.feed rest = .error e := by
  rw [feed, hadd] at h
  cases hrest : b.feed rest with
  | error e' => simpa [bind, Except.bind, hrest] using h
  | ok p => simp [bind, Except.bind, hrest, pure, Except.pure] at h

end RivetGo.Session.Assembler

namespace RivetGo.SqliteCall

open Native (ExecuteResult chunkEvent chunkEvents emitSqliteExecuteResult)
open Session (Assembler)

/-- The session takes all events. -/
def Accepted (events : List Wire.Event) : Prop :=
  ∃ p, Assembler.feed {} events = .ok p

/-- An executed command that may write is answered with its result. -/
theorem answer_of_executed {call : Call} {inTime : Bool} {r : ExecuteResult}
    (hwrite : call.mayWrite = true) (h : call.fate = .ran inTime (.ok r)) :
    call.answer = (emitSqliteExecuteResult call.command.requestId
      (call.command.returned r)).map Native.Event.received := by
  have hsafe : call.command.abandonSafe = false := by simpa [Call.mayWrite] using hwrite
  cases inTime <;> simp [Call.answer, h, Native.SqliteCommand.answer, hsafe,
    Native.awaitSqliteDeadline]

/-- The first chunk is refused if the columns are too large. -/
theorem columnBytes_le_of_accepted {requestId : UInt64} {r : ExecuteResult}
    {chunks : List (List Native.SqliteValue)} (hne : chunks ≠ [])
    (h : Accepted ((chunkEvents requestId r chunks).map Native.Event.received)) :
    r.columnBytes ≤ 32 * 1024 * 1024 := by
  obtain ⟨chunk, rest, rfl⟩ := List.exists_cons_of_ne_nil hne
  obtain ⟨p, h⟩ := h
  rw [chunkEvents, List.mapIdx_cons, List.map_cons, Assembler.feed, Check.bind_eq_ok] at h
  obtain ⟨q, hadd, -⟩ := h
  rw [Assembler.add, Check.ite_error_eq_ok] at hadd
  obtain ⟨-, hadd⟩ := hadd
  simp only [chunkEvent, Native.Event.received, Option.map_none, Check.bind_eq_ok] at hadd
  obtain ⟨a, hmeta, -⟩ := hadd
  have hle := (Check.ite_error_eq_ok.mp ((if_pos rfl).symm.trans hmeta)).1
  have hcolumns : 0 + ((r.columns.map Utf8.encode).map List.length).sum ≤
      Session.maxSQLiteResponseBytes := Nat.not_lt.mp hle
  rw [Session.sum_length_encode, Nat.zero_add] at hcolumns
  exact hcolumns

/-- The session takes the answer exactly if the result is within the limits. -/
theorem accepted_iff (requestId : UInt64) (r : ExecuteResult) :
    Accepted ((emitSqliteExecuteResult requestId r).map Native.Event.received) ↔
      r.Returnable := by
  constructor
  · intro h
    cases hevents : Native.sqliteResultEvents requestId r with
    | error e =>
      obtain ⟨p, h⟩ := h
      simp [emitSqliteExecuteResult, hevents, Native.emitSqliteError, Assembler.feed,
        Assembler.add, Native.Event.received] at h
    | ok events =>
      rw [emitSqliteExecuteResult, hevents] at h
      obtain ⟨-, c, -, rfl⟩ := Native.sqliteResultEvents_eq_ok hevents
      exact Native.returnable_of_ok hevents
        (columnBytes_le_of_accepted (by simp [Packing.Boxes.all]) h)
  · intro h
    obtain ⟨chunks, -, -, hevents, hfeed⟩ := Session.feed_resultEvents h requestId
    rw [emitSqliteExecuteResult, hevents]
    exact ⟨_, hfeed⟩

/-! ### No error comes -/

/-- What a caller that has no outcome yet has assembled. -/
def Caller.assembler : Caller → Option Assembler
  | .submitting => some {}
  | .waiting assembler _ => some assembler
  | _ => none

/-- What holds while the answer of a command that may write comes in. -/
structure Honest (call : Call) (s : State) : Prop where
  enters : s.caller = .entering →
    s.queued = false ∧ s.sent = false ∧ s.settled = false ∧ s.pipeline = []
  collects : ∀ a, s.caller.assembler = some a → ∃ consumed reports,
    Assembler.feed {} consumed = .ok (a, reports) ∧
    consumed ++ s.pipeline = if s.settled then call.answer else []
  live : s.caller.assembler ≠ none → s.poller ≠ .exited → s.settled = false ∨ s.unpolled ≠ [] →
    s.entry = .live
  told : s.caller = .leaving .contextError ∨ s.caller = .returned .contextError →
    s.queued = false ∧ s.sent = false ∧ s.settled = false

theorem honest_initial (call : Call) : Honest call initial where
  enters _ := ⟨rfl, rfl, rfl, rfl⟩
  collects _ h := by cases h
  live h := absurd rfl h
  told h := by simp [initial] at h

section

variable {call : Call} {s : State}

/-- The next event of an accepted answer is taken. -/
theorem add_ok_of_accepted (hok : Accepted call.answer) {consumed rest : List Wire.Event}
    {a : Assembler} {reports : List Bool} {event : Wire.Event}
    (hfeed : Assembler.feed {} consumed = .ok (a, reports))
    (hanswer : consumed ++ event :: rest = call.answer) :
    ∃ b done, a.add event = .ok (b, done) := by
  obtain ⟨p, hok⟩ := hok
  rw [← hanswer, Assembler.feed_append hfeed, Check.map_eq_ok] at hok
  obtain ⟨q, hrest, -⟩ := hok
  rw [Assembler.feed, Check.bind_eq_ok] at hrest
  obtain ⟨⟨b, done⟩, hadd, -⟩ := hrest
  exact ⟨b, done, hadd⟩

/-- There are events only after the command was settled. -/
theorem settled_of_append {consumed rest : List Wire.Event} {event : Wire.Event}
    (h : consumed ++ event :: rest = if s.settled then call.answer else []) :
    s.settled = true := by
  by_contra hnot
  rw [if_neg hnot, List.append_eq_nil_iff] at h
  cases h.2

/-- Before the command is settled no event is on its way. -/
theorem Honest.settle (h : Honest call s) (hsent : s.sent = true) (hsettled : s.settled = false) :
    Honest call { s with settled := true, unpolled := call.answer } := by
  refine ⟨?_, ?_, fun hne hp _ => h.live hne hp (.inl hsettled), ?_⟩
  · intro hc
    have hnot := (h.enters hc).2.1
    simp [hsent] at hnot
  · intro a ha
    obtain ⟨consumed, reports, hfeed, hnone⟩ := h.collects a ha
    refine ⟨consumed, reports, hfeed, ?_⟩
    simp only [hsettled, State.pipeline, Bool.false_eq_true, if_false,
      List.append_eq_nil_iff] at hnone
    simp [State.pipeline, hnone]
  · intro hc
    have hnot := (h.told hc).2.1
    simp [hsent] at hnot

/-- The poller finds the channel, and with the last event there is nothing left. -/
theorem Honest.lookup (h : Honest call s) {event : Wire.Event} {rest : List Wire.Event}
    (hp : s.poller = .idle) (hu : s.unpolled = event :: rest) :
    Honest call { lookupEvent s event with unpolled := rest } := by
  have hidle : s.poller ≠ .exited := by rw [hp]; nofun
  have hsome : s.unpolled ≠ [] := by rw [hu]; nofun
  have hpipeline : s.pipeline = s.channel ++ event :: rest := by
    simp [State.pipeline, hp, hu, Poller.inFlight]
  refine ⟨?_, ?_, ?_, h.told⟩
  · intro hc
    have hnone := (h.enters hc).2.2.2
    simp [hpipeline] at hnone
  · intro a ha
    obtain ⟨consumed, reports, hfeed, hanswer⟩ := h.collects a ha
    have hlive := h.live (Option.ne_none_iff_exists'.mpr ⟨a, ha⟩) hidle (.inr hsome)
    refine ⟨consumed, reports, hfeed, ?_⟩
    rw [hpipeline] at hanswer
    simpa [State.pipeline, lookupEvent, hlive, Poller.inFlight] using hanswer
  · intro hne _ hrest
    obtain ⟨a, ha⟩ := Option.ne_none_iff_exists'.mp hne
    obtain ⟨consumed, reports, -, hanswer⟩ := h.collects a ha
    have hlive := h.live hne hidle (.inr hsome)
    rw [hpipeline, ← List.append_assoc] at hanswer
    have hsettled := settled_of_append hanswer
    have hrest : rest ≠ [] := hrest.resolve_left (by simp [lookupEvent, hsettled])
    rw [hsettled, if_pos rfl] at hanswer
    have hget : call.answer[(consumed ++ s.channel).length]? = some event := by
      rw [← hanswer, List.getElem?_append_right (Nat.le_refl _), Nat.sub_self]
      rfl
    have hdone : event.done = false := by
      rw [Bool.eq_false_iff, ne_eq, answer_done hget, ← hanswer]
      have hpos := List.length_pos_iff.mpr hrest
      simp only [List.length_append, List.length_cons]
      omega
    simp [lookupEvent, hdone, hlive]

/-- An event of an accepted answer brings the caller no error. -/
theorem Honest.receive (h : Honest call s) (hok : Accepted call.answer) {a : Assembler}
    {cancellationErr : Bool} {event : Wire.Event} {rest : List Wire.Event}
    (hc : s.caller = .waiting a cancellationErr) (hch : s.channel = event :: rest) :
    Honest call { s with channel := rest, caller := receiveEvent a cancellationErr event } := by
  obtain ⟨consumed, reports, hfeed, hanswer⟩ := h.collects a (by rw [hc]; rfl)
  have hpipeline : s.pipeline = event :: (rest ++ s.poller.inFlight ++ s.unpolled) := by
    simp [State.pipeline, hch]
  rw [hpipeline] at hanswer
  have hsettled := settled_of_append hanswer
  rw [hsettled, if_pos rfl] at hanswer
  obtain ⟨b, done, hadd⟩ := add_ok_of_accepted hok hfeed hanswer
  cases done with
  | true =>
    have hcaller : receiveEvent a cancellationErr event = .leaving (.ok b.response) := by
      rw [receiveEvent, hadd]
    rw [hcaller]
    exact ⟨by simp, by simp [Caller.assembler], fun hne => absurd rfl hne, by simp⟩
  | false =>
    have hcaller : receiveEvent a cancellationErr event = .waiting b cancellationErr := by
      rw [receiveEvent, hadd]
    rw [hcaller]
    refine ⟨by simp, ?_, ?_, by simp⟩
    · rintro b ⟨⟩
      refine ⟨consumed ++ [event], reports ++ [false], ?_, ?_⟩
      · rw [Assembler.feed_append hfeed, Assembler.feed, hadd]
        rfl
      · simpa [State.pipeline, hsettled] using hanswer
    · intro _ hp hu
      exact h.live (by simp [hc, Caller.assembler]) hp hu

theorem Honest.move (hwrite : call.mayWrite = true) (hok : Accepted call.answer)
    (h : Honest call s) {s' : State} (hmove : Move call s s') : Honest call s' := by
  cases hmove with
  | cancel => exact ⟨h.enters, h.collects, h.live, h.told⟩
  | refuse hc =>
    obtain ⟨hqueued, hsent, hsettled, -⟩ := h.enters hc
    exact ⟨nofun, nofun, fun hne => absurd rfl hne, fun _ => ⟨hqueued, hsent, hsettled⟩⟩
  | register hc hcancelled =>
    obtain ⟨hqueued, hsent, hsettled, hpipeline⟩ := h.enters hc
    refine ⟨nofun, ?_, fun _ _ _ => rfl, by simp⟩
    rintro a ⟨⟩
    refine ⟨[], [], rfl, ?_⟩
    show s.pipeline = if s.settled then call.answer else []
    rw [hpipeline, hsettled]
    rfl
  | enqueue hc =>
    refine ⟨?_, h.collects, h.live, ?_⟩
    · intro hc'
      rw [hc] at hc'
      cases hc'
    · intro hc'
      simp [hc] at hc'
  | send hqueued hsent =>
    refine ⟨?_, h.collects, h.live, ?_⟩
    · intro hc
      have hnot := (h.enters hc).1
      simp [hqueued] at hnot
    · intro hc
      have hnot := (h.told hc).1
      simp [hqueued] at hnot
  | fail queued hc hcontext =>
    refine ⟨nofun, nofun, fun hne => absurd rfl hne, ?_⟩
    rintro (hc' | hc')
    · cases hc'
    · have hnot := (hcontext (Caller.returned.inj hc')).2
      simp [hwrite] at hnot
  | submitted hc hsent =>
    refine ⟨nofun, ?_, ?_, by simp⟩
    · rintro a ⟨⟩
      exact h.collects {} (by rw [hc]; rfl)
    · intro _ hp hu
      exact h.live (by simp [hc, Caller.assembler]) hp hu
  | settle hsent hsettled => exact h.settle hsent hsettled
  | lookup hp hu => exact h.lookup hp hu
  | @deliver event hp hroom =>
    have hpipeline :
        ({ s with poller := .idle, channel := s.channel ++ [event] } : State).pipeline =
          s.pipeline := by
      simp [State.pipeline, hp, Poller.inFlight]
    refine ⟨?_, ?_, ?_, h.told⟩
    · intro hc
      rw [hpipeline]
      exact h.enters hc
    · intro a ha
      rw [hpipeline]
      exact h.collects a ha
    · intro hne _ hu
      exact h.live hne (by rw [hp]; nofun) hu
  | receive hc hch => exact h.receive hok hc hch
  | notice hc hcancelled =>
    rw [hwrite, if_pos rfl]
    refine ⟨nofun, ?_, ?_, by simp⟩
    · rintro a ⟨⟩
      exact h.collects _ (by rw [hc]; rfl)
    · intro _ hp hu
      exact h.live (by simp [hc, Caller.assembler]) hp hu
  | done hc => exact ⟨nofun, nofun, fun hne => absurd rfl hne, by simp⟩
  | exit hp =>
    have hpipeline : ({ s with poller := .exited, entry := .gone } : State).pipeline =
        s.pipeline := by
      simp [State.pipeline, hp, Poller.inFlight]
    refine ⟨?_, ?_, fun _ hne => absurd rfl hne, h.told⟩
    · intro hc
      rw [hpipeline]
      exact h.enters hc
    · intro a ha
      rw [hpipeline]
      exact h.collects a ha
  | abandon hc =>
    refine ⟨nofun, nofun, fun hne => absurd rfl hne, ?_⟩
    rintro (hc' | hc')
    · cases hc'
    · rw [Caller.returned.inj hc'] at hc
      exact h.told (.inl hc)

/-- The caller of a command that was settled does not get the context error, if
the answer is accepted. -/
theorem no_contextError_of_accepted (hwrite : call.mayWrite = true)
    (hok : Accepted call.answer) (h : Reaches call s) (hsettled : s.settled = true) :
    s.caller ≠ .returned .contextError := by
  intro hc
  have hhonest := h.invariant (honest_initial call) fun _ _ hs => hs.move hwrite hok
  have hnot := (hhonest.told (.inr hc)).2.2
  simp [hsettled] at hnot

end

/-! ### An error comes -/

/-- The context has ended, the command is settled, and the caller has assembled
everything but `rest`. -/
def ended (a : Assembler) (rest : List Wire.Event) : State :=
  { cancelled := true, queued := true, sent := true, settled := true, unpolled := rest,
    entry := .live, caller := .waiting a true }

theorem reaches_ended {call : Call} (hwrite : call.mayWrite = true) :
    Reaches call (ended {} call.answer) :=
  Run.reachable_of_run [.register, .enqueue, .send, .settle, .submitted, .cancel, .notice]
    (by simp [Run.run, step, initial, ended, hwrite])

/-- The caller that has assembled everything but `event :: rest` takes that event. -/
theorem reaches_received {call : Call} {a : Assembler} {event : Wire.Event}
    {rest : List Wire.Event} (h : Reaches call (ended a (event :: rest))) :
    Reaches call
      { ended a rest with
        entry := if event.done then .gone else .live
        caller := receiveEvent a true event } :=
  ((h.next .lookup trivial rfl).next .deliver trivial rfl).next .receive trivial rfl

/-- A rejected answer gives the caller the context error. -/
theorem contextError_of_rejected {call : Call} {consumed rest : List Wire.Event} {a : Assembler}
    {e : Session.SQLiteError} (hanswer : consumed ++ rest = call.answer)
    (hfeed : a.feed rest = .error e) (h : Reaches call (ended a rest)) :
    ∃ s, Reaches call s ∧ s.settled = true ∧ s.caller = .returned .contextError := by
  induction rest generalizing consumed a with
  | nil => cases hfeed
  | cons event rest ih =>
    have hreceived := reaches_received h
    cases hadd : a.add event with
    | error e' =>
      have hcaller : receiveEvent a true event = .leaving .contextError := by
        rw [receiveEvent, hadd]
        rfl
      rw [hcaller] at hreceived
      exact ⟨_, hreceived.next .abandon trivial rfl, rfl, rfl⟩
    | ok p =>
      obtain ⟨b, done⟩ := p
      obtain rfl := Assembler.report_of_add hadd
      have hget : call.answer[consumed.length]? = some event := by
        rw [← hanswer, List.getElem?_append_right (Nat.le_refl _), Nat.sub_self]
        rfl
      have hrest := Assembler.feed_of_cons_error hadd hfeed
      cases hdone : event.done with
      | true =>
        -- After the last event nothing is left that could be rejected.
        have hlast := (answer_done hget).mp hdone
        rw [← hanswer, List.length_append, List.length_cons] at hlast
        obtain rfl : rest = [] := List.eq_nil_of_length_eq_zero (by omega)
        cases hrest
      | false =>
        have hcaller : receiveEvent a true event = .waiting b true := by
          rw [receiveEvent, hadd, hdone]
        rw [hcaller, hdone] at hreceived
        exact ih (by rw [← hanswer, List.append_cons]) hrest hreceived

/-- The caller of an executed command never gets the context error if and only if
the result is within the limits. -/
theorem contextError_free_iff {call : Call} (hwrite : call.mayWrite = true) :
    (∀ s, Reaches call s → s.settled = true → call.fate.Executed →
        s.caller ≠ .returned .contextError) ↔
      ∀ inTime r, call.fate = .ran inTime (.ok r) → (call.command.returned r).Returnable := by
  constructor
  · intro h inTime r hfate
    have hanswer := answer_of_executed hwrite hfate
    rw [← accepted_iff call.command.requestId, ← hanswer]
    by_contra hrejected
    cases hfeed : Assembler.feed {} call.answer with
    | ok p => exact hrejected ⟨p, hfeed⟩
    | error e =>
      obtain ⟨s, hs, hsettled, hcaller⟩ :=
        contextError_of_rejected (List.nil_append _) hfeed (reaches_ended hwrite)
      exact h s hs hsettled (by rw [hfate]; trivial) hcaller
  · intro hreturnable s hs hsettled hexecuted
    cases hfate : call.fate with
    | refused reason =>
      rw [hfate] at hexecuted
      exact hexecuted.elim
    | ran inTime result =>
      cases result with
      | error e =>
        rw [hfate] at hexecuted
        exact hexecuted.elim
      | ok r =>
        have hok := (accepted_iff call.command.requestId _).mpr (hreturnable inTime r hfate)
        rw [← answer_of_executed hwrite hfate] at hok
        exact no_contextError_of_accepted hwrite hok hs hsettled

end RivetGo.SqliteCall

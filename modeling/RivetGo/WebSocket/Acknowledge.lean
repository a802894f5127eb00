import RivetGo.Data.Protocol
import RivetGo.WebSocket.Tables

/-!
# Acknowledged messages

Native keeps every message of a WebSocket that can hibernate until it is
acknowledged, and hands what it still has to the next generation. So what
happens on such a WebSocket should follow a small protocol: `OnMessage` runs,
its message is acknowledged before the next one is handled, and nothing is owed
when the WebSocket hibernates.

Whether a message needs an acknowledgement is read from the table of the poller
when the worker takes the message. The protocol is kept if and only if the
poller takes no WebSocket out of that table before the worker is done with the
messages it has of it.
-/

namespace RivetGo.WebSocket

/-- Where the protocol of a WebSocket is: nothing is owed, the acknowledgement
of a message is owed, or the WebSocket hibernates. -/
inductive AckPhase where
  | idle
  | owed (index : UInt16)
  | asleep
  deriving DecidableEq

def ackStep : AckPhase → Entry → Option AckPhase
  | .idle, .message _ index => some (.owed index)
  | .owed index, .ack _ index' => if index = index' then some .idle else none
  | .owed _, .hibernated _ => none
  | _, .hibernated _ => some .asleep
  | _, .message _ _ => none
  | _, .ack _ _ => none
  | phase, _ => some phase

/-- Where the protocol is after what happened on the WebSocket, or `none` if it
was broken. -/
abbrev ackPhase (log : List Entry) (wsId : String) : Option AckPhase :=
  Protocol.phase Entry.wsId ackStep .idle log wsId

/-- Every WebSocket that can hibernate follows the protocol, and what it owes is
owed by the worker. -/
def Acknowledged (s : State) : Prop :=
  ∀ wsId, (wsId, true) ∈ s.opened → ∃ phase, ackPhase s.log wsId = some phase ∧
    ∀ index, phase = .owed index → s.worker = .handling wsId index true

/-- The action is in time: a message is taken while its WebSocket is in the
table, no WebSocket hibernates while the worker has a message of it, and an
acknowledgement is not rejected. -/
def Timely (s : State) : Action → Prop
  | .take => ∀ wsId index rest, s.worker = .ready → s.mailbox = .wsMessage wsId index :: rest →
      wsId ∈ s.connections → (wsId, true) ∈ s.opened → (wsId, true) ∈ s.websockets
  | .pollStop reason draining accepted => accepted = true →
      ∀ wsId index, s.worker = .handling wsId index true →
        wsId ∉ s.hibernating (reason == "sleep" && !draining)
  | .messageDone accepted => accepted = false → ∀ wsId index, s.worker ≠ .handling wsId index true
  | _ => True

variable {s s' : State} {a : Action} {wsId : String}

/-! ### The protocol along the log -/

/-- `OnMessage` runs. -/
theorem ackPhase_message (log : List Entry) (wsId : String) (index : UInt16) :
    ackPhase (log ++ [.message wsId index]) wsId = (ackPhase log wsId).bind fun phase =>
      ackStep phase (.message wsId index) :=
  Protocol.phase_entry log rfl

/-- A WebSocket hibernates while nothing is owed. -/
theorem ackPhase_hibernated {log : List Entry} {ids : List String} {phase : AckPhase}
    (hphase : ackPhase log wsId = some phase) (howed : ∀ index, phase ≠ .owed index)
    (hids : wsId ∈ ids) : ackPhase (log ++ ids.map .hibernated) wsId = some .asleep := by
  have hstep : ∀ p, (∀ index, p ≠ .owed index) →
      ackStep p (.hibernated wsId) = some .asleep := by
    intro p hp
    cases p with
    | owed index => exact absurd rfl (hp index)
    | _ => rfl
  have hrun : ∀ (ids : List String) (p : AckPhase), (∀ index, p ≠ .owed index) →
      wsId ∈ ids ∨ p = .asleep →
      Run.run ackStep p ((ids.map Entry.hibernated).filter (·.wsId = wsId)) = some .asleep := by
    intro ids
    induction ids with
    | nil =>
      rintro p - (h | rfl)
      · cases h
      · rfl
    | cons ws rest ih =>
      intro p hp h
      by_cases hws : ws = wsId
      · subst hws
        rw [List.map_cons, List.filter_cons_of_pos (by simp [Entry.wsId]), Run.run, hstep p hp]
        exact ih .asleep (by simp) (.inr rfl)
      · rw [List.map_cons, List.filter_cons_of_neg (by simp [Entry.wsId, hws])]
        exact ih p hp (by simpa [Ne.symm hws] using h)
  exact (Protocol.phase_append_of hphase _).trans (hrun ids phase howed (.inl hids))

/-- A WebSocket that hibernates while a message is owed breaks the protocol. -/
theorem ackPhase_hibernated_owed {log : List Entry} {ids : List String} {index : UInt16}
    (hphase : ackPhase log wsId = some (.owed index)) (hids : wsId ∈ ids) :
    ackPhase (log ++ ids.map .hibernated) wsId = none := by
  have hrun : Run.run ackStep (.owed index)
      ((ids.map Entry.hibernated).filter (·.wsId = wsId)) = none := by
    induction ids with
    | nil => cases hids
    | cons ws rest ih =>
      by_cases hws : ws = wsId
      · subst hws
        rw [List.map_cons, List.filter_cons_of_pos (by simp [Entry.wsId])]
        rfl
      · rw [List.map_cons, List.filter_cons_of_neg (by simp [Entry.wsId, hws])]
        exact ih ((List.mem_cons.mp hids).resolve_left (Ne.symm hws))
  exact (Protocol.phase_append_of hphase _).trans hrun

/-! ### What every run keeps -/

/-- A message of a WebSocket in the table is handled: its connection is open. -/
theorem Tables.connection_of_message (h : Tables s) {index : UInt16} {rest : List Event}
    (hw : s.worker = .ready) (hm : s.mailbox = .wsMessage wsId index :: rest)
    (htable : (wsId, true) ∈ s.websockets) : wsId ∈ s.connections := by
  have hq : s.queue = _ :: State.queue { s with mailbox := rest } :=
    queue_take hw hm rfl (by simp [hw]) rfl
  obtain ⟨resumed, hopen⟩ | hrefused | hconn :=
    h.connected (by simp [hw, Worker.Active]) _ htable
  · rw [hq] at hopen
    exact absurd rfl (h.before hq (by simpa using hopen))
  · simp [hw] at hrefused
  · exact hconn

theorem silent_entry (wsId : String) (o : Outcome) :
    Protocol.Silent ackStep (o.entry wsId) := by
  intro phase
  cases o <;> cases phase <;> rfl

theorem silent_disconnected (wsId : String) : Protocol.Silent ackStep (.disconnected wsId) := by
  intro phase
  cases phase <;> rfl

/-- What a step does to the protocol of one WebSocket. -/
inductive Touch (s s' : State) (wsId : String) : Action → Prop where
  | quiet {a : Action} (hphase : ackPhase s'.log wsId = ackPhase s.log wsId) (hlog : s.log ⊆ s'.log)
      (hworker : ∀ index, s'.worker = .handling wsId index true ↔
        s.worker = .handling wsId index true) : Touch s s' wsId a
  | message {index : UInt16} {rest : List Event} (hw : s.worker = .ready)
      (hm : s.mailbox = .wsMessage wsId index :: rest) (hconn : wsId ∈ s.connections)
      (hlog : s'.log = s.log ++ [.message wsId index])
      (hworker : s'.worker = .handling wsId index (s.websocketCanHibernate wsId)) :
      Touch s s' wsId .take
  | ack {index : UInt16} (hw : s.worker = .handling wsId index true)
      (hlog : s'.log = s.log ++ [.ack wsId index]) (hworker : s'.worker = .ready) :
      Touch s s' wsId (.messageDone true)
  | ackRejected {index : UInt16} {reason : String} (hw : s.worker = .handling wsId index true)
      (hlog : s'.log = s.log) (hworker : s'.worker = .leaving reason) :
      Touch s s' wsId (.messageDone false)
  | hibernated {reason : String} {draining : Bool}
      (hids : wsId ∈ s.hibernating (reason == "sleep" && !draining))
      (hlog : s'.log = s.log ++ (s.hibernating (reason == "sleep" && !draining)).map .hibernated)
      (hworker : s'.worker = s.worker) : Touch s s' wsId (.pollStop reason draining true)

/-- Steps that log nothing of the protocol and do not change what the worker
owes. -/
theorem Touch.of_silent {entries : List Entry} (hlog : s'.log = s.log ++ entries)
    (hsilent : ∀ e ∈ entries, e.wsId = wsId → Protocol.Silent ackStep e)
    (hworker : ∀ index, s'.worker = .handling wsId index true ↔
      s.worker = .handling wsId index true) : Touch s s' wsId a := by
  refine .quiet ?_ ?_ hworker
  · rw [hlog]
    exact Protocol.phase_silent s.log hsilent
  · rw [hlog]
    exact List.subset_append_left _ _

theorem touch_of_move (wsId : String) (htables : Tables s) (hmove : Move s a s') :
    Touch s s' wsId a := by
  have hnone : s.log = s.log ++ [] := (List.append_nil _).symm
  cases hmove with
  | @pollStop reason draining accepted hibernate _ hhibernate haccepted _ =>
    subst hhibernate
    by_cases hws : wsId ∈ s.hibernating (reason == "sleep" && !draining)
    · obtain rfl : accepted = true := haccepted.resolve_left (List.ne_nil_of_mem hws)
      exact .hibernated hws rfl rfl
    · refine .of_silent rfl ?_ fun _ => Iff.rfl
      intro e he heq
      obtain ⟨ws', hws', rfl⟩ := List.mem_map.mp he
      exact absurd (heq ▸ hws') hws
  | @takeMessage ws index rest hw hm =>
    by_cases hws : ws = wsId
    · subst hws
      by_cases hconn : ws ∈ s.connections
      · exact .message hw hm hconn (by simp [hconn]) rfl
      · -- nobody is called, and nothing is owed
        have hneeds : s.websocketCanHibernate ws = false := by
          simpa [State.websocketCanHibernate] using
            fun htable => hconn (htables.connection_of_message hw hm htable)
        exact .of_silent rfl (by simp [hconn]) (by simp [hneeds, hw])
    · refine .of_silent rfl ?_ (by simp [hws, hw])
      intro e he heq
      split_ifs at he
      · obtain rfl := List.mem_singleton.mp he
        exact absurd heq hws
      · cases he
  | takeClose hw hm =>
    refine .of_silent rfl (fun e he _ => ?_) fun _ => Iff.rfl
    split_ifs at he
    · obtain rfl := List.mem_singleton.mp he
      exact silent_disconnected _
    · cases he
  | @openDone ws resumed o hw =>
    have hlog : (s.openDone ws o).log = s.log ++ [o.entry ws] := rfl
    refine .of_silent hlog ?_ (by simp [State.openDone, hw])
    rintro e he -
    obtain rfl := List.mem_singleton.mp he
    exact silent_entry ws o
  | @openResult ws o accepted hw =>
    have hlog : (s.openResult ws o accepted).log = s.log ++ [] := hnone
    refine .of_silent hlog (by simp) ?_
    intro index
    simp only [State.openResult, hw]
    split_ifs <;> simp
  | @ack ws index hw =>
    by_cases hws : ws = wsId
    · subst hws
      exact .ack hw rfl rfl
    · refine .of_silent rfl ?_ (by simp [hw, hws])
      intro e he heq
      obtain rfl := List.mem_singleton.mp he
      exact absurd heq hws
  | @ackRejected ws index hw =>
    by_cases hws : ws = wsId
    · subst hws
      exact .ackRejected hw rfl rfl
    · exact .of_silent hnone (by simp) (by simp [hw, hws])
  | closeWebSockets hw =>
    refine .of_silent rfl (fun e he _ => ?_) (by simp [hw])
    split_ifs at he
    · cases he
    · obtain ⟨ws, -, rfl⟩ := List.mem_map.mp he
      exact silent_disconnected ws
  | leave hw =>
    refine .of_silent hnone (by simp) ?_
    obtain hw | hw := hw <;> simp [hw]
  | takeOpen hw hm | takeOther hw hm | takeStop hw hm =>
    exact .of_silent hnone (by simp) (by simp [hw])
  | turn hw | messageDone hw | callbackDone hw | stopDone hw =>
    exact .of_silent hnone (by simp) (by simp [hw])
  | _ => exact .of_silent hnone (by simp) fun _ => Iff.rfl

theorem opened_subset (hmove : Move s a s') : s.opened ⊆ s'.opened := by
  cases hmove with
  | pollOpen => exact List.subset_cons_self _ _
  | _ => exact List.Subset.refl _

/-- The worker that has a message to acknowledge is the one that owes it. -/
def Owes (s : State) : Prop :=
  ∀ wsId index, s.worker = .handling wsId index true → (wsId, true) ∈ s.opened ∧
    (ackPhase s.log wsId = none ∨ ackPhase s.log wsId = some (.owed index))

theorem Owes.move (h : Owes s) (htables : Tables s) (hmove : Move s a s') : Owes s' := by
  intro ws index hw'
  cases touch_of_move ws htables hmove with
  | quiet hphase _ hworker =>
    obtain ⟨hopened, h⟩ := h ws index ((hworker index).mp hw')
    exact ⟨opened_subset hmove hopened, hphase.symm ▸ h⟩
  | message hw hm hconn hlog hworker =>
    obtain ⟨-, rfl, hneeds⟩ := Worker.handling.inj (hworker.symm.trans hw')
    have htable : (ws, true) ∈ s.websockets := by
      simpa [State.websocketCanHibernate] using hneeds
    refine ⟨opened_subset hmove (htables.table _ htable), ?_⟩
    rw [hlog, ackPhase_message]
    cases ackPhase s.log ws with
    | none => exact .inl rfl
    | some phase =>
      cases phase with
      | idle => exact .inr rfl
      | _ => exact .inl rfl
  | ack hw _ hworker | ackRejected hw _ hworker => cases hworker.symm.trans hw'
  | hibernated hids hlog hworker =>
    obtain ⟨hopened, hphase⟩ := h ws index (hworker ▸ hw')
    refine ⟨opened_subset hmove hopened, .inl ?_⟩
    rw [hlog]
    obtain hnone | hsome := hphase
    · exact Protocol.phase_none hnone _
    · exact ackPhase_hibernated_owed hsome hids

theorem owes_step : Run.Keeps step Run.anyAction fun s => Tables s ∧ Owes s :=
  fun _ _ _ h _ hs => ⟨h.1.move (move_of_step hs), h.2.move h.1 (move_of_step hs)⟩

/-! ### Runs in time -/

/-- The WebSocket follows the protocol, and owes what the worker has of it. -/
def Tended (s : State) (wsId : String) : Prop :=
  ∃ phase, ackPhase s.log wsId = some phase ∧
    (∀ index, phase = .owed index ↔ s.worker = .handling wsId index true) ∧
    (phase = .asleep → .hibernated wsId ∈ s.log)

theorem Tended.move (h : Tended s wsId) (htables : Tables s) (hopened : (wsId, true) ∈ s.opened)
    (hmove : Move s a s') (htimely : Timely s a) : Tended s' wsId := by
  obtain ⟨phase, hphase, howed, hasleep⟩ := h
  cases touch_of_move wsId htables hmove with
  | quiet hphase' hlog hworker =>
    exact ⟨phase, hphase'.trans hphase, fun index => (howed index).trans (hworker index).symm,
      fun h => hlog (hasleep h)⟩
  | @message index rest hw hm hconn hlog hworker =>
    have htable := htimely wsId index rest hw hm hconn hopened
    have hidle : phase = .idle := by
      cases phase with
      | idle => rfl
      | owed index => simp [hw] at howed
      | asleep => exact absurd htable (htables.hibernated wsId (hasleep rfl) true)
    refine ⟨.owed index, ?_, ?_, by simp⟩
    · rw [hlog, ackPhase_message, hphase, hidle]
      rfl
    · simp [hworker, State.websocketCanHibernate, htable]
  | @ack index hw hlog hworker =>
    obtain rfl := (howed index).mpr hw
    refine ⟨.idle, ?_, by simp [hworker], by simp⟩
    rw [hlog]
    exact (Protocol.phase_entry_of hphase rfl).trans (if_pos rfl)
  | ackRejected hw => exact absurd hw (htimely rfl _ _)
  | hibernated hids hlog hworker =>
    have hnotowed : ∀ index, s.worker ≠ .handling wsId index true :=
      fun index hw => htimely rfl wsId index hw hids
    refine ⟨.asleep, ?_, by simpa [hworker] using hnotowed, fun _ => ?_⟩
    · rw [hlog]
      refine ackPhase_hibernated hphase (fun index howed' => ?_) hids
      exact hnotowed index ((howed index).mp howed')
    · rw [hlog]
      exact List.mem_append_right _ (List.mem_map_of_mem hids)

/-- What a run in time keeps. -/
structure InTime (s : State) : Prop where
  tables : Tables s
  tended : ∀ wsId, (wsId, true) ∈ s.opened → Tended s wsId

theorem inTime_initial : InTime initial := ⟨tables_initial, by simp [initial]⟩

theorem inTime_step : Run.Keeps step Timely InTime := by
  intro s a s' h htimely hs
  have hmove := move_of_step hs
  refine ⟨h.tables.move hmove, fun ws hopened => ?_⟩
  by_cases hold : (ws, true) ∈ s.opened
  · exact (h.tended ws hold).move h.tables hold hmove htimely
  · -- only the poller opens a WebSocket, and nothing has happened on it yet
    cases hmove with
    | @pollOpen new canHibernate resumed hfresh =>
      obtain ⟨rfl, -⟩ : ws = new ∧ true = canHibernate := by
        simpa [hold] using hopened
      refine ⟨.idle, Protocol.phase_fresh ?_, ?_, by simp⟩
      · rintro e he rfl
        exact hfresh (h.tables.log e he)
      · intro index
        refine iff_of_false (by simp) fun hw => ?_
        have hworker : s.worker = .handling ws index true := hw
        exact hfresh (h.tables.worker ws (by rw [hworker]; rfl))
    | _ => exact absurd hopened hold

theorem InTime.acknowledged (h : InTime s) : Acknowledged s := by
  intro ws hopened
  obtain ⟨phase, hphase, howed, -⟩ := h.tended ws hopened
  exact ⟨phase, hphase, fun index => (howed index).mp⟩

/-! ### Messages without an acknowledgement -/

/-- The protocol of the WebSocket is broken, or it owes what nobody will
acknowledge. -/
def Missed (s : State) (wsId : String) : Prop :=
  ackPhase s.log wsId = none ∨ ∃ index, ackPhase s.log wsId = some (.owed index) ∧
    ∀ index', s.worker ≠ .handling wsId index' true

theorem Missed.not_acknowledged (h : Missed s wsId) (hopened : (wsId, true) ∈ s.opened) :
    ¬ Acknowledged s := by
  intro hacknowledged
  obtain ⟨phase, hphase, howed⟩ := hacknowledged wsId hopened
  obtain hnone | ⟨index, hsome, hworker⟩ := h
  · simp [hnone] at hphase
  · obtain rfl : phase = .owed index := by simpa [hsome] using hphase.symm
    exact hworker index (howed index rfl)

theorem Missed.move (h : Missed s wsId) (htables : Tables s) (hmove : Move s a s') :
    Missed s' wsId := by
  have htouch := touch_of_move wsId htables hmove
  obtain hnone | ⟨owed, howed, hnobody⟩ := h
  · left
    cases htouch with
    | quiet hphase => exact hphase.trans hnone
    | ackRejected _ hlog => exact hlog ▸ hnone
    | message _ _ _ hlog | ack _ hlog | hibernated _ hlog =>
      exact hlog ▸ Protocol.phase_none hnone _
  · cases htouch with
    | quiet hphase _ hworker =>
      exact .inr ⟨owed, hphase.trans howed, fun index hw => hnobody index ((hworker index).mp hw)⟩
    | message _ _ _ hlog => exact .inl (hlog ▸ Protocol.phase_entry_of howed rfl)
    | ack hw | ackRejected hw => exact absurd hw (hnobody _)
    | hibernated hids hlog => exact .inl (hlog ▸ ackPhase_hibernated_owed howed hids)

/-- A step that is not in time breaks the protocol of a WebSocket. -/
theorem missed_of_late (howes : Owes s) (hlate : ¬ Timely s a) (hs : step s a = some s') :
    ∃ wsId, (wsId, true) ∈ s'.opened ∧ Missed s' wsId := by
  cases a with
  | take =>
    simp only [Timely, not_forall] at hlate
    obtain ⟨ws, index, rest, hw, hm, hconn, hopened, htable⟩ := hlate
    obtain rfl : { s with mailbox := rest }.handle (.wsMessage ws index) = s' := by
      simpa [step, hw, hm] using hs
    refine ⟨ws, hopened, ?_⟩
    have hlog : ({ s with mailbox := rest }.handle (.wsMessage ws index)).log =
        s.log ++ [.message ws index] := by
      simp [State.handle, hconn]
    have hphase := hlog ▸ ackPhase_message s.log ws index
    cases hold : ackPhase s.log ws with
    | none => exact .inl (by rw [hphase, hold]; rfl)
    | some phase =>
      cases phase with
      | idle =>
        refine .inr ⟨index, by rw [hphase, hold]; rfl, fun index' hw' => ?_⟩
        have hneeds := (Worker.handling.inj hw').2.2
        simp [State.websocketCanHibernate, htable] at hneeds
      | owed index' => exact .inl (by rw [hphase, hold]; rfl)
      | asleep => exact .inl (by rw [hphase, hold]; rfl)
  | pollStop reason draining accepted =>
    simp only [Timely, not_forall, not_not] at hlate
    obtain ⟨rfl, ws, index, hw, hws⟩ := hlate
    obtain ⟨hopened, hphase⟩ := howes ws index hw
    refine ⟨ws, opened_subset (move_of_step hs) hopened, .inl ?_⟩
    obtain ⟨-, rfl⟩ : (s.polls = true ∧ s.worker ≠ .gone) ∧ _ = s' := by
      simpa [step] using hs
    obtain hnone | hsome := hphase
    · exact Protocol.phase_none hnone _
    · exact ackPhase_hibernated_owed hsome hws
  | messageDone accepted =>
    simp only [Timely, not_forall, not_not] at hlate
    obtain ⟨rfl, ws, index, hw⟩ := hlate
    obtain rfl : _ = s' := by simpa [step, hw] using hs
    obtain ⟨hopened, hnone | hsome⟩ := howes ws index hw
    · exact ⟨ws, hopened, .inl hnone⟩
    · exact ⟨ws, hopened, .inr ⟨index, hsome, by simp⟩⟩
  | _ => exact absurd trivial hlate

/-- The messages of all WebSockets that can hibernate are acknowledged as they
should if and only if every step of the run is in time. -/
theorem acknowledged_iff {as : List Action} (hrun : Run.run step initial as = some s) :
    Acknowledged s ↔ Run.Allowed step Timely initial as := by
  constructor
  · intro hacknowledged
    by_contra hlate
    have hmissed := Run.of_not_allowed (P := fun s => (Tables s ∧ Owes s) ∧
      ∃ wsId, (wsId, true) ∈ s.opened ∧ Missed s wsId) .init ?_ ?_ hrun hlate
    · obtain ⟨-, wsId, hopened, hmissed⟩ := hmissed
      exact hmissed.not_acknowledged hopened hacknowledged
    · intro s a s' hreaches hlate hs
      have hinv := hreaches.invariant (P := fun s => Tables s ∧ Owes s)
        ⟨tables_initial, by simp [Owes, initial]⟩ owes_step
      exact ⟨owes_step s a s' hinv trivial hs, missed_of_late hinv.2 hlate hs⟩
    · rintro s a s' ⟨hinv, wsId, hopened, hmissed⟩ _ hs
      have hmove := move_of_step hs
      exact ⟨owes_step s a s' hinv trivial hs, wsId, opened_subset hmove hopened,
        hmissed.move hinv.1 hmove⟩
  · intro htimely
    have hreaches := Run.Reachable.init.run htimely hrun
    exact (hreaches.invariant inTime_initial inTime_step).acknowledged

/-! ### Four runs with one message -/

/-- A WebSocket that can hibernate is open, and a message has come. -/
def openWithMessage : List Action :=
  [.pollOpen "ws" true false, .putOpen, .take, .turn, .openDone .ok, .openResult true,
    .pollMessage "ws" 1]

/-- The actor sleeps after the message was handled. -/
def handledThenSleep : List Action :=
  openWithMessage ++ ([.take, .messageDone true, .pollStop "sleep" false true, .take, .stopDone,
    .closeWebSockets] : List Action)

theorem handledThenSleep_acknowledged : ∃ s, Run.run step initial handledThenSleep = some s ∧
    s.log = [.connected "ws", .message "ws" 1, .ack "ws" 1, .hibernated "ws"] ∧
    Acknowledged s := by
  refine ⟨_, rfl, rfl,
    (acknowledged_iff (rfl : Run.run step initial handledThenSleep = some _)).mpr ?_⟩
  refine ⟨trivial, trivial, ?_, trivial, trivial, trivial, trivial, ?_, ?_, ?_, ?_, trivial,
    trivial, trivial⟩
  · intro ws index rest _ hm
    cases hm
  · intro ws index rest _ hm _ _
    cases hm
    exact List.mem_cons_self
  · exact fun h => absurd h (by decide)
  · exact fun _ ws index hw => by cases hw
  · intro ws index rest _ hm
    cases hm

/-- The poller takes the stop before the worker takes the message. -/
def sleepBeforeMessage : List Action :=
  openWithMessage ++ ([.pollStop "sleep" false true, .take, .messageDone true] : List Action)

/-- The poller takes the stop while `OnMessage` runs. -/
def sleepDuringMessage : List Action :=
  openWithMessage ++ ([.take, .pollStop "sleep" false true, .messageDone true] : List Action)

/-- The poller takes the close of the WebSocket before the worker takes the
message. -/
def closeBeforeMessage : List Action :=
  openWithMessage ++ ([.pollClose "ws", .take, .messageDone true] : List Action)

/-- The message is handled without an acknowledgement, or acknowledged after the
WebSocket hibernated. -/
theorem message_unacknowledged :
    (∃ s, Run.run step initial sleepBeforeMessage = some s ∧ s.worker = .ready ∧
      s.log = [.connected "ws", .hibernated "ws", .message "ws" 1] ∧ ¬ Acknowledged s) ∧
    (∃ s, Run.run step initial sleepDuringMessage = some s ∧ s.worker = .ready ∧
      s.log = [.connected "ws", .message "ws" 1, .hibernated "ws", .ack "ws" 1] ∧
      ¬ Acknowledged s) ∧
    ∃ s, Run.run step initial closeBeforeMessage = some s ∧ s.worker = .ready ∧
      s.log = [.connected "ws", .message "ws" 1] ∧ ¬ Acknowledged s := by
  refine ⟨⟨_, rfl, rfl, rfl, ?_⟩, ⟨_, rfl, rfl, rfl, ?_⟩, ⟨_, rfl, rfl, rfl, ?_⟩⟩
  · exact Missed.not_acknowledged (.inl rfl) List.mem_cons_self
  · exact Missed.not_acknowledged (.inl rfl) List.mem_cons_self
  · exact Missed.not_acknowledged (.inr ⟨1, rfl, fun _ hw => by cases hw⟩) List.mem_cons_self

end RivetGo.WebSocket

import RivetGo.Data.Protocol
import RivetGo.WebSocket.Tables

/-!
# Connects and disconnects

`OnDisconnect` belongs to the WebSockets whose `OnConnect` returned without an
error. Three paths lead to it: a close event of native, a close event that the
poller makes when the actor stops, and the deferred call when the worker leaves
its loop. They find a connection in the table of the adapter, and remove it.

A failed `OnConnect` removes its connection from that table, but a panic leaves
it there. Apart from that the table has exactly the WebSockets that are owed an
`OnDisconnect`, and a worker that leaves its loop for sleep leaves only
WebSockets behind that hibernate.
-/

namespace RivetGo.WebSocket

/-- A WebSocket has not been connected yet, it is connected, or all is over. -/
inductive PairPhase where
  | fresh
  | connected
  | over
  deriving DecidableEq

def pairStep : PairPhase → Entry → Option PairPhase
  | .fresh, .connected _ => some .connected
  | .fresh, .refused _ => some .over
  | .fresh, .panicked _ => some .over
  | .connected, .disconnected _ => some .over
  | _, .connected _ => none
  | _, .refused _ => none
  | _, .panicked _ => none
  | _, .disconnected _ => none
  | phase, _ => some phase

abbrev pairPhase (log : List Entry) (wsId : String) : Option PairPhase :=
  Protocol.phase Entry.wsId pairStep .fresh log wsId

/-- `OnConnect` and `OnDisconnect` run in pairs, and when the worker is gone,
only WebSockets that hibernate are still connected. -/
def Paired (s : State) : Prop :=
  ∀ wsId, ∃ phase, pairPhase s.log wsId = some phase ∧
    (s.worker = .gone → phase = .connected → .hibernated wsId ∈ s.log)

/-- The action does not disconnect a WebSocket whose `OnConnect` panicked. -/
def Spares (s : State) : Action → Prop
  | .take => ∀ wsId rest, s.worker = .ready → s.mailbox = .wsClose wsId :: rest →
      wsId ∈ s.connections → .panicked wsId ∉ s.log
  | .closeWebSockets => ∀ reason, s.worker = .leaving reason → reason ≠ "sleep" →
      ∀ wsId ∈ s.connections, .panicked wsId ∉ s.log
  | _ => True

variable {s s' : State} {a : Action} {wsId : String}

/-! ### Up to the next stop -/

def Event.isStop : Event → Bool
  | .stop _ => true
  | _ => false

/-- The events that the worker handles before a stop makes it leave its loop. -/
def front (queue : List Event) : List Event := queue.takeWhile (!·.isStop)

theorem front_cons {e : Event} (h : e.isStop = false) (rest : List Event) :
    front (e :: rest) = e :: front rest :=
  List.takeWhile_cons_of_pos (by simp [h])

theorem front_append_of_stop {l : List Event} (h : ∃ e ∈ l, e.isStop = true) (m : List Event) :
    front (l ++ m) = front l := by
  induction l with
  | nil => simp at h
  | cons e rest ih =>
    cases hstop : e.isStop with
    | true => simp [front, hstop]
    | false =>
      have hrest : ∃ e ∈ rest, e.isStop = true := by simpa [hstop] using h
      simpa [front, hstop] using ih hrest

theorem front_append {l : List Event} (h : ¬ ∃ e ∈ l, e.isStop = true) (m : List Event) :
    front (l ++ m) = l ++ front m := by
  refine List.takeWhile_append_of_pos fun e he => ?_
  simpa using fun hstop => h ⟨e, he, hstop⟩

theorem front_of_no_stop {l : List Event} (h : ¬ ∃ e ∈ l, e.isStop = true) : front l = l := by
  have happend := front_append h []
  rwa [List.append_nil, show front [] = [] from rfl, List.append_nil] at happend

/-- The worker handles the events of its mailbox. -/
def Worker.InLoop : Worker → Prop
  | .stopping _ => False
  | .leaving _ => False
  | .gone => False
  | _ => True

/-- The WebSocket needs no `OnDisconnect` when the actor sleeps. -/
def Excused (s : State) (wsId : String) : Prop :=
  .hibernated wsId ∈ s.log ∨ .panicked wsId ∈ s.log

/-- The WebSocket is connected, or will be before the next stop. -/
def Exposed (s : State) (wsId : String) : Prop :=
  wsId ∈ s.connections ∨ ∃ resumed, .wsOpen wsId resumed ∈ front s.queue

/-- The next stop does not leave the WebSocket behind: it hibernates, its close
event comes before the stop, or the stop has not come and will find it in the
table. -/
def Provided (s : State) (wsId : String) : Prop :=
  Excused s wsId ∨ .wsClose wsId ∈ front s.queue ∨
    (¬ ∃ e ∈ s.queue, e.isStop = true) ∧ (s.polling = true → ∃ c, (wsId, c) ∈ s.websockets)

structure Sheltered (s : State) : Prop where
  inLoop : s.worker.InLoop → ∀ wsId, Exposed s wsId → Provided s wsId
  stopping : ∀ reason, s.worker = .stopping reason → ∀ wsId ∈ s.connections, Excused s wsId
  leaving : s.worker = .leaving "sleep" → ∀ wsId ∈ s.connections, Excused s wsId

theorem sheltered_initial : Sheltered initial where
  inLoop _ wsId h := by simp [Exposed, initial, front, State.queue] at h
  stopping reason h := by simp [initial] at h
  leaving h := by simp [initial] at h

/-- A worker that is in its loop. -/
theorem sheltered_of_inLoop (hw : s.worker.InLoop)
    (h : ∀ wsId, Exposed s wsId → Provided s wsId) : Sheltered s := by
  refine ⟨fun _ => h, ?_, ?_⟩
  · intro reason hstopping
    simp [hstopping, Worker.InLoop] at hw
  · intro hleaving
    simp [hleaving, Worker.InLoop] at hw

theorem Excused.mono {entries : List Entry} (h : Excused s wsId)
    (hlog : s'.log = s.log ++ entries) : Excused s' wsId := by
  obtain h | h := h
  · exact .inl (hlog ▸ List.mem_append_left _ h)
  · exact .inr (hlog ▸ List.mem_append_left _ h)

/-- The poller adds events. A WebSocket that they open, or that the next stop
would have found in the table, hibernates, has its close event among them, or is
in the table for the next stop. -/
theorem Sheltered.enqueue (h : Sheltered s) {events : List Event} {entries : List Entry}
    (hq : s'.queue = s.queue ++ events) (hlog : s'.log = s.log ++ entries)
    (hworker : s'.worker = s.worker) (hconns : s'.connections = s.connections)
    (hpolling : s'.polling = s.polling)
    (hnew : ∀ ws, (∃ r, .wsOpen ws r ∈ front events) ∨
        (s.polling = true → ∃ c, (ws, c) ∈ s.websockets) →
      .hibernated ws ∈ entries ∨ .wsClose ws ∈ front events ∨
        (¬ ∃ e ∈ events, e.isStop = true) ∧
          (s.polling = true → ∃ c, (ws, c) ∈ s'.websockets)) : Sheltered s' := by
  refine ⟨fun hw ws hexposed => ?_, fun r hr ws hws => ?_, fun hr ws hws => ?_⟩
  · by_cases hstop : ∃ e ∈ s.queue, e.isStop = true
    · have hfront : front s'.queue = front s.queue := hq ▸ front_append_of_stop hstop events
      have hold : Exposed s ws := by simpa [Exposed, hfront, hconns] using hexposed
      obtain hexcused | hclose | ⟨hno, -⟩ := h.inLoop (hworker ▸ hw) ws hold
      · exact .inl (hexcused.mono hlog)
      · exact .inr (.inl (hfront ▸ hclose))
      · exact absurd hstop hno
    · have hfront : front s'.queue = s.queue ++ front events := hq ▸ front_append hstop events
      have hprovided : (∃ r, .wsOpen ws r ∈ front events) ∨
          (s.polling = true → ∃ c, (ws, c) ∈ s.websockets) → Provided s' ws := by
        intro hcase
        obtain hhibernated | hclose | ⟨hno, htable⟩ := hnew ws hcase
        · exact .inl (.inl (hlog ▸ List.mem_append_right _ hhibernated))
        · exact .inr (.inl (hfront ▸ List.mem_append_right _ hclose))
        · refine .inr (.inr ⟨?_, hpolling ▸ htable⟩)
          rintro ⟨e, he, hs⟩
          exact (List.mem_append.mp (hq ▸ he)).elim (fun he => hstop ⟨e, he, hs⟩)
            fun he => hno ⟨e, he, hs⟩
      have hcases : Exposed s ws ∨ ∃ r, .wsOpen ws r ∈ front events := by
        obtain hconn | ⟨r, hr⟩ := hexposed
        · exact .inl (.inl (hconns ▸ hconn))
        · obtain hr | hr := List.mem_append.mp (hfront ▸ hr)
          · exact .inl (.inr ⟨r, (front_of_no_stop hstop).symm ▸ hr⟩)
          · exact .inr ⟨r, hr⟩
      obtain hold | hopen := hcases
      · obtain hexcused | hclose | ⟨-, hin⟩ := h.inLoop (hworker ▸ hw) ws hold
        · exact .inl (hexcused.mono hlog)
        · rw [front_of_no_stop hstop] at hclose
          exact .inr (.inl (hfront ▸ List.mem_append_left _ hclose))
        · exact hprovided (.inr hin)
      · exact hprovided (.inl hopen)
  · exact (h.stopping r (hworker ▸ hr) ws (hconns ▸ hws)).mono hlog
  · exact (h.leaving (hworker ▸ hr) ws (hconns ▸ hws)).mono hlog

/-- The worker is done with an event that is no stop. -/
theorem Sheltered.dequeue (h : Sheltered s) (htables : Tables s) {e : Event}
    {entries : List Entry} (hq : s.queue = e :: s'.queue) (hstop : e.isStop = false)
    (hw : s.worker.InLoop) (hw' : s'.worker.InLoop) (hlog : s'.log = s.log ++ entries)
    (htable : s'.websockets = s.websockets) (hpolling : s'.polling = s.polling)
    (hconns : ∀ ws ∈ s'.connections, ws ∈ s.connections ∨ ∃ r, e = .wsOpen ws r)
    (hclosed : ∀ ws ∈ s'.connections, e ≠ .wsClose ws) : Sheltered s' := by
  have hfront : front s.queue = e :: front s'.queue := hq ▸ front_cons hstop s'.queue
  have hexposed : ∀ ws, Exposed s' ws → Exposed s ws ∧ e ≠ .wsClose ws := by
    rintro ws (hconn | ⟨r, hr⟩)
    · refine ⟨?_, hclosed ws hconn⟩
      obtain hconn | ⟨r, rfl⟩ := hconns ws hconn
      · exact .inl hconn
      · exact .inr ⟨r, hfront ▸ List.mem_cons_self⟩
    · refine ⟨.inr ⟨r, hfront ▸ List.mem_cons_of_mem e hr⟩, ?_⟩
      rintro rfl
      exact htables.before hq ((List.takeWhile_sublist _).subset hr) rfl
  refine sheltered_of_inLoop hw' fun ws hws => ?_
  obtain ⟨hold, hne⟩ := hexposed ws hws
  obtain hexcused | hclose | ⟨hno, hin⟩ := h.inLoop hw ws hold
  · exact .inl (hexcused.mono hlog)
  · exact .inr (.inl ((List.mem_cons.mp (hfront ▸ hclose)).resolve_left (Ne.symm hne)))
  · refine .inr (.inr ⟨?_, by rwa [htable, hpolling]⟩)
    rintro ⟨b, hb, hs⟩
    exact hno ⟨b, hq ▸ List.mem_cons_of_mem e hb, hs⟩

/-- The worker goes on, and what is exposed was so before. -/
theorem Sheltered.goOn (h : Sheltered s) {entries : List Entry} (hq : s.queue = s'.queue)
    (hw : s.worker.InLoop) (hw' : s'.worker.InLoop) (hlog : s'.log = s.log ++ entries)
    (hconns : s'.connections ⊆ s.connections) (hpolling : s'.polling = s.polling)
    (htable : ∀ ws, Exposed s' ws → ∀ c, (ws, c) ∈ s.websockets →
      (ws, c) ∈ s'.websockets ∨ Excused s' ws) : Sheltered s' := by
  refine sheltered_of_inLoop hw' fun ws hws => ?_
  have hold : Exposed s ws := hws.imp (fun hconn => hconns hconn) fun hopen => hq ▸ hopen
  obtain hexcused | hclose | ⟨hno, hin⟩ := h.inLoop hw ws hold
  · exact .inl (hexcused.mono hlog)
  · exact .inr (.inl (hq ▸ hclose))
  · by_cases hexcused : Excused s' ws
    · exact .inl hexcused
    · refine .inr (.inr ⟨hq ▸ hno, fun hp => ?_⟩)
      obtain ⟨c, hc⟩ := hin (hpolling ▸ hp)
      exact ⟨c, (htable ws hws c hc).resolve_right hexcused⟩

/-- The worker leaves its loop without a stop. -/
theorem sheltered_of_leaving (hw : s.worker = .leaving actorWorkerStopped) : Sheltered s := by
  refine ⟨?_, ?_, ?_⟩
  · intro hloop
    simp [hw, Worker.InLoop] at hloop
  · intro reason hstopping
    simp [hw] at hstopping
  · intro hleaving
    simp [hw, actorWorkerStopped] at hleaving

/-! ### WebSockets that are yet to open -/

/-- Only the poller opens a WebSocket, and it is a new one. -/
theorem open_of_move (hmove : Move s a s') {resumed : Bool}
    (h : .wsOpen wsId resumed ∈ s'.queue) : .wsOpen wsId resumed ∈ s.queue ∨ wsId ∉ s.ids := by
  cases hmove with
  | pollOpen canHibernate resumed hfresh hpending =>
    refine (mem_of_append h (queue_pollOpen hpending rfl rfl rfl)).imp_right fun hnew => ?_
    obtain ⟨rfl, -⟩ := Event.wsOpen.inj (List.mem_singleton.mp hnew)
    exact hfresh
  | pollMessage _ _ hpending | pollClose _ hpending | pollOther hpending =>
    exact .inl ((mem_of_append h (queue_append hpending rfl rfl rfl)).resolve_right (by simp))
  | pollStop reason _ _ _ _ _ hpending =>
    exact .inl ((mem_of_append h (queue_append hpending rfl rfl rfl)).resolve_right (by simp))
  | putOpen hpending => exact .inl (mem_of_queue [] h (queue_putOpen hpending))
  | takeOpen hw hm => exact .inl (mem_of_queue [] h (queue_takeOpen hw hm))
  | turn hw => exact .inl (mem_of_queue [_] h (queue_turn hw rfl rfl rfl))
  | takeMessage hw hm | takeOther hw hm | takeStop hw hm =>
    exact .inl (mem_of_queue [_] h (queue_take hw hm rfl rfl rfl))
  | takeClose hw hm =>
    exact .inl (mem_of_queue [_] h (queue_take hw hm rfl (by simp [hw]) rfl))
  | drop | endPolling => exact .inl h
  | openResult accepted hw =>
    refine .inl (mem_of_queue [] h (queue_worker rfl ?_ rfl))
    cases accepted <;> simp [State.openResult, hw, Worker.opens]
  | leave hw =>
    refine .inl (mem_of_queue [] h (queue_worker rfl ?_ rfl))
    obtain hw | hw := hw <;> simp [hw, Worker.opens]
  | openDone _ hw | ack hw | ackRejected hw | messageDone hw | callbackDone hw | stopDone hw
  | closeWebSockets hw =>
    refine .inl (mem_of_queue [] h (queue_worker rfl ?_ rfl))
    simp [State.openDone, hw, Worker.opens]

/-- The adapter has a connection of the WebSocket, or the worker is busy with it. -/
def Busy (s : State) (wsId : String) : Prop :=
  wsId ∈ s.connections ∨ s.worker.wsId = some wsId

/-- The worker gets busy with the WebSocket of the event that it handles. -/
theorem busy_of_move (hmove : Move s a s') (h : Busy s' wsId) :
    Busy s wsId ∨ ∃ e, s.queue = e :: s'.queue ∧ e.wsId = some wsId := by
  cases hmove with
  | @turn ws resumed hw =>
    have hcases : wsId ∈ s.connections ∨ wsId = ws := by
      obtain hconn | hbusy := h
      · exact (List.mem_insert_iff.mp hconn).symm
      · exact .inr (Option.some.inj hbusy).symm
    refine hcases.imp .inl ?_
    rintro rfl
    exact ⟨.wsOpen wsId resumed, queue_turn hw rfl rfl rfl, rfl⟩
  | takeMessage hw hm =>
    exact h.imp .inl fun hbusy => ⟨.wsMessage _ _, queue_take hw hm rfl rfl rfl, hbusy⟩
  | takeClose hw hm => exact .inl (h.imp_left List.mem_of_mem_filter)
  | openDone o hw =>
    refine .inl (h.imp (fun hconn => openDone_connections_subset o hconn) fun hbusy => ?_)
    simpa [hw, Worker.wsId, State.openDone] using hbusy
  | openResult accepted hw =>
    refine .inl (h.imp_right fun hbusy => ?_)
    cases accepted <;> simp [State.openResult, Worker.wsId] at hbusy
  | closeWebSockets => simp [Busy, Worker.wsId] at h
  | pollOpen | putOpen | drop | pollMessage | pollClose | pollOther | pollStop | endPolling =>
    exact .inl h
  | _ => exact .inl (h.imp_right fun hbusy => by cases hbusy)

/-- Nothing has begun for a WebSocket whose open event is on its way. -/
def Queued (s : State) : Prop :=
  ∀ wsId resumed, .wsOpen wsId resumed ∈ s.queue → ¬ Busy s wsId

theorem queued_initial : Queued initial := fun ws r hr => by simp [initial, State.queue] at hr

theorem Queued.move (h : Queued s) (htables : Tables s) (hmove : Move s a s') : Queued s' := by
  intro ws r hr hbusy
  obtain hold | ⟨e, hq, he⟩ := busy_of_move hmove hbusy
  · obtain hr | hfresh := open_of_move hmove hr
    · exact h ws r hr hold
    · exact hfresh (hold.elim (htables.connections ws) (htables.worker ws))
  · exact htables.before hq hr he

/-- A step only adds to the log. -/
theorem log_grows (hmove : Move s a s') : ∃ entries, s'.log = s.log ++ entries := by
  cases hmove with
  | pollStop => exact ⟨_, rfl⟩
  | takeMessage => exact ⟨_, rfl⟩
  | takeClose => exact ⟨_, rfl⟩
  | openDone => exact ⟨_, rfl⟩
  | ack => exact ⟨_, rfl⟩
  | closeWebSockets => exact ⟨_, rfl⟩
  | _ => exact ⟨[], (List.append_nil _).symm⟩

/-- What `OnConnect` came to shows in the table of the adapter and in the log. -/
def Answers (s : State) : Prop :=
  (∀ wsId, s.worker = .answering wsId .failed → wsId ∉ s.connections) ∧
    ∀ wsId, s.worker = .answering wsId .panicked → .panicked wsId ∈ s.log

theorem answers_of_worker (h : ∀ wsId o, s.worker ≠ .answering wsId o) : Answers s :=
  ⟨fun ws hw => absurd hw (h ws _), fun ws hw => absurd hw (h ws _)⟩

theorem Answers.move (h : Answers s) (hmove : Move s a s') : Answers s' := by
  obtain ⟨entries, hlog⟩ := log_grows hmove
  have hkept : s'.worker = s.worker → s'.connections = s.connections → Answers s' :=
    fun hworker hconns => ⟨fun ws hw => hconns ▸ h.1 ws (hworker ▸ hw),
      fun ws hw => hlog ▸ List.mem_append_left _ (h.2 ws (hworker ▸ hw))⟩
  cases hmove with
  | pollOpen | putOpen | drop | pollMessage | pollClose | pollOther | pollStop | endPolling =>
    exact hkept rfl rfl
  | takeClose hw hm => exact answers_of_worker (by simp [hw])
  | @openDone ws resumed o hw =>
    refine ⟨fun ws' hw' => ?_, fun ws' hw' => ?_⟩
    · obtain ⟨rfl, rfl⟩ := Worker.answering.inj hw'
      simp [State.openDone]
    · obtain ⟨rfl, rfl⟩ := Worker.answering.inj hw'
      exact List.mem_append_right _ List.mem_cons_self
  | openResult accepted hw =>
    refine answers_of_worker fun ws o hw' => ?_
    simp only [State.openResult] at hw'
    split_ifs at hw'
  | _ => exact answers_of_worker (by simp)

theorem Sheltered.openResult (h : Sheltered s) (hqueued : Queued s) (hanswers : Answers s)
    {o : Outcome} (accepted : Bool) (hw : s.worker = .answering wsId o) :
    Sheltered (s.openResult wsId o accepted) := by
  cases accepted with
  | false => exact sheltered_of_leaving rfl
  | true =>
    have hq : s.queue = (s.openResult wsId o true).queue :=
      queue_worker rfl (by simp [State.openResult, hw, Worker.opens]) rfl
    refine h.goOn hq (by simp [hw, Worker.InLoop]) trivial (List.append_nil _).symm
      (List.Subset.refl _) rfl fun ws hws c hc => ?_
    by_cases heq : ws = wsId
    · subst heq
      cases o with
      | ok => exact .inl (by simpa [State.openResult] using hc)
      | failed =>
        obtain hconn | ⟨r, hr⟩ := hws
        · exact absurd hconn (hanswers.1 ws hw)
        · refine absurd (.inr (by simp [hw, Worker.wsId])) (hqueued ws r ?_)
          exact (List.takeWhile_sublist _).subset (hq ▸ hr)
      | panicked => exact .inr (.inr (hanswers.2 ws hw))
    · left
      simp only [State.openResult]
      split_ifs
      · exact List.mem_filter.mpr ⟨hc, by simpa using heq⟩
      · exact hc

theorem Sheltered.pollStop (h : Sheltered s) (reason : String) (hibernate : Bool)
    (hpolling : s.polling = true) (hpending : s.pending = none) :
    Sheltered { s with
      websockets := []
      mailbox := s.mailbox ++ ((s.closing hibernate).map .wsClose ++ [.stop reason])
      log := s.log ++ (s.hibernating hibernate).map .hibernated } := by
  have hfront : front ((s.closing hibernate).map .wsClose ++ [.stop reason]) =
      (s.closing hibernate).map .wsClose := by
    rw [front_append (by simp [Event.isStop])]
    simp [front, Event.isStop]
  refine h.enqueue (queue_append hpending rfl rfl rfl) rfl rfl rfl rfl fun ws hcase => ?_
  rw [hfront]
  obtain ⟨r, hr⟩ | hin := hcase
  · simp [hfront] at hr
  · obtain ⟨c, hc⟩ := hin hpolling
    cases hsleep : hibernate && c with
    | true =>
      obtain ⟨rfl, rfl⟩ : hibernate = true ∧ c = true := by simpa using hsleep
      exact .inl (List.mem_map_of_mem (mem_hibernating.mpr ⟨hc, rfl⟩))
    | false => exact .inr (.inl (List.mem_map_of_mem (mem_closing.mpr ⟨c, hc, hsleep⟩)))

theorem Sheltered.move (h : Sheltered s) (htables : Tables s) (hqueued : Queued s)
    (hanswers : Answers s) (hmove : Move s a s') : Sheltered s' := by
  cases hmove with
  | @pollOpen ws canHibernate resumed hfresh hpending =>
    refine h.enqueue (queue_pollOpen hpending rfl rfl rfl) (List.append_nil _).symm rfl rfl rfl
      fun ws' hcase => .inr (.inr ⟨by simp [Event.isStop], fun hpolling => ?_⟩)
    obtain ⟨r, hr⟩ | hin := hcase
    · obtain ⟨rfl, -⟩ : ws' = ws ∧ r = resumed := by simpa [front, Event.isStop] using hr
      exact ⟨canHibernate, List.mem_cons_self⟩
    · obtain ⟨c, hc⟩ := hin hpolling
      exact ⟨c, List.mem_cons_of_mem _ hc⟩
  | putOpen hpending =>
    have hq := (queue_putOpen hpending).symm.trans (List.append_nil _).symm
    exact h.enqueue hq (List.append_nil _).symm rfl rfl rfl
      fun ws hcase => .inr (.inr ⟨by simp, hcase.resolve_left (by simp [front])⟩)
  | drop => exact h
  | pollMessage index _ hpending | pollOther hpending =>
    refine h.enqueue (queue_append hpending rfl rfl rfl) (List.append_nil _).symm rfl rfl rfl ?_
    exact fun ws hcase => .inr (.inr ⟨by simp [Event.isStop],
      hcase.resolve_left (by simp [front, Event.isStop])⟩)
  | @pollClose ws _ hpending =>
    refine h.enqueue (queue_append hpending rfl rfl rfl) (List.append_nil _).symm rfl rfl rfl
      fun ws' hcase => ?_
    by_cases heq : ws' = ws
    · exact .inr (.inl (by simp [heq, front, Event.isStop]))
    · refine .inr (.inr ⟨by simp [Event.isStop], fun hpolling => ?_⟩)
      obtain ⟨c, hc⟩ := hcase.resolve_left (by simp [front, Event.isStop]) hpolling
      exact ⟨c, List.mem_filter.mpr ⟨hc, by simpa using heq⟩⟩
  | pollStop reason _ _ hpolling _ _ hpending => exact h.pollStop reason _ hpolling hpending
  | endPolling websockets hsub =>
    refine ⟨fun hw ws hexposed => ?_, h.stopping, h.leaving⟩
    obtain hexcused | hclose | ⟨hno, -⟩ := h.inLoop hw ws hexposed
    · exact .inl hexcused
    · exact .inr (.inl hclose)
    · exact .inr (.inr ⟨hno, by simp⟩)
  | takeOpen hw hm =>
    exact h.goOn (queue_takeOpen hw hm) (by simp [hw, Worker.InLoop]) trivial
      (List.append_nil _).symm (List.Subset.refl _) rfl fun _ _ _ hc => .inl hc
  | @turn ws resumed hw =>
    refine h.dequeue htables (queue_turn hw rfl rfl rfl) rfl (by simp [hw, Worker.InLoop])
      trivial (List.append_nil _).symm rfl rfl (fun ws' hconn => ?_) (by simp)
    obtain rfl | hconn := List.mem_insert_iff.mp hconn
    · exact .inr ⟨resumed, rfl⟩
    · exact .inl hconn
  | takeMessage hw hm =>
    exact h.dequeue htables (queue_take hw hm rfl rfl rfl) rfl (by simp [hw, Worker.InLoop])
      trivial rfl rfl rfl (fun ws hconn => .inl hconn) (by simp)
  | takeClose hw hm =>
    refine h.dequeue htables (queue_take hw hm rfl (by simp [hw]) rfl) rfl
      (by simp [hw, Worker.InLoop]) (by simp [hw, Worker.InLoop]) rfl rfl rfl
      (fun ws hconn => .inl (List.mem_of_mem_filter hconn)) fun ws hconn heq => ?_
    have hne := (List.mem_filter.mp hconn).2
    simp [Event.wsClose.inj heq] at hne
  | takeOther hw hm =>
    exact h.dequeue htables (queue_take hw hm rfl rfl rfl) rfl (by simp [hw, Worker.InLoop])
      trivial (List.append_nil _).symm rfl rfl (fun ws hconn => .inl hconn) (by simp)
  | @takeStop reason rest hw hm =>
    have hq : s.queue = .stop reason :: State.queue { s with mailbox := rest } :=
      queue_take hw hm rfl (by simp [hw]) rfl
    refine ⟨fun hloop => hloop.elim, fun _ _ ws hconn => ?_, by simp⟩
    obtain hexcused | hclose | ⟨hno, -⟩ :=
      h.inLoop (by simp [hw, Worker.InLoop]) ws (.inl hconn)
    · exact hexcused
    · simp [hq, front, Event.isStop] at hclose
    · exact absurd ⟨.stop reason, by simp [hq], rfl⟩ hno
  | openDone o hw =>
    exact h.goOn (queue_worker rfl (by simp [State.openDone, hw, Worker.opens]) rfl)
      (by simp [hw, Worker.InLoop]) trivial rfl (openDone_connections_subset o) rfl
      fun _ _ _ hc => .inl hc
  | openResult accepted hw => exact h.openResult hqueued hanswers accepted hw
  | ack hw =>
    exact h.goOn (queue_worker rfl (by simp [hw, Worker.opens]) rfl)
      (by simp [hw, Worker.InLoop]) trivial rfl (List.Subset.refl _) rfl fun _ _ _ hc => .inl hc
  | ackRejected hw => exact sheltered_of_leaving rfl
  | messageDone hw | callbackDone hw =>
    exact h.goOn (queue_worker rfl (by simp [hw, Worker.opens]) rfl)
      (by simp [hw, Worker.InLoop]) trivial (List.append_nil _).symm (List.Subset.refl _) rfl
      fun _ _ _ hc => .inl hc
  | stopDone hw => exact ⟨fun hloop => hloop.elim, by simp, fun _ => h.stopping _ hw⟩
  | leave hw => exact sheltered_of_leaving rfl
  | closeWebSockets hw => exact ⟨fun hloop => hloop.elim, by simp, by simp⟩

/-! ### Pairs -/

/-- The WebSocket is connected, or it is in the table although its `OnConnect`
panicked. -/
def Settled (s : State) (wsId : String) : Prop :=
  pairPhase s.log wsId = some .connected ∧ .panicked wsId ∉ s.log ∨
    pairPhase s.log wsId = some .over ∧ .panicked wsId ∈ s.log

/-- The table of the adapter and the protocol of every WebSocket go together. -/
structure Coupled (s : State) : Prop where
  nodup : s.connections.Nodup
  queued : ∀ ws r, .wsOpen ws r ∈ s.queue → pairPhase s.log ws = some .fresh
  opening : ∀ ws r, s.worker = .opening ws r →
    pairPhase s.log ws = some .fresh ∧ ws ∈ s.connections
  connection : ∀ ws ∈ s.connections, (∀ r, s.worker ≠ .opening ws r) → Settled s ws
  disconnected : ∀ ws, ws ∉ s.connections → ∃ phase, pairPhase s.log ws = some phase ∧
    (phase = .connected → s.worker = .gone ∧ .hibernated ws ∈ s.log)
  gone : s.worker = .gone → s.connections = []

theorem coupled_initial : Coupled initial where
  nodup := List.nodup_nil
  queued ws r h := by simp [initial, State.queue] at h
  opening ws r h := by simp [initial] at h
  connection ws h := by simp [initial] at h
  disconnected ws _ := ⟨.fresh, rfl, by simp⟩
  gone h := by simp [initial] at h

theorem Coupled.paired (h : Coupled s) : Paired s := by
  intro ws
  by_cases hconn : ws ∈ s.connections
  · have hgone : s.worker ≠ .gone := fun hgone => by simp [h.gone hgone] at hconn
    by_cases hopening : ∃ r, s.worker = .opening ws r
    · obtain ⟨r, hw⟩ := hopening
      exact ⟨.fresh, (h.opening ws r hw).1, by simp⟩
    · obtain ⟨hphase, -⟩ | ⟨hphase, -⟩ := h.connection ws hconn (not_exists.mp hopening)
      · exact ⟨.connected, hphase, fun hw => absurd hw hgone⟩
      · exact ⟨.over, hphase, by simp⟩
  · obtain ⟨phase, hphase, hconnected⟩ := h.disconnected ws hconn
    exact ⟨phase, hphase, fun _ hc => (hconnected hc).2⟩

/-- Entries that change nothing for the protocol. -/
def Neutral (entries : List Entry) : Prop :=
  ∀ e ∈ entries, Protocol.Silent pairStep e ∧ ∀ ws, e ≠ .panicked ws

theorem neutral_nil : Neutral [] := fun _ he => by cases he

theorem Neutral.phase {entries : List Entry} (h : Neutral entries) (log : List Entry)
    (ws : String) : pairPhase (log ++ entries) ws = pairPhase log ws :=
  Protocol.phase_silent log fun e he _ => (h e he).1

theorem Neutral.settled {entries : List Entry} (h : Neutral entries) (hsettled : Settled s wsId)
    (hlog : s'.log = s.log ++ entries) : Settled s' wsId := by
  have hpanicked : .panicked wsId ∈ s'.log ↔ .panicked wsId ∈ s.log := by
    rw [hlog, List.mem_append]
    exact or_iff_left fun he => (h _ he).2 wsId rfl
  have hphase : pairPhase s'.log wsId = pairPhase s.log wsId := hlog ▸ h.phase s.log wsId
  rw [Settled, hphase, hpanicked]
  exact hsettled

/-- Steps that do not touch the table of the adapter. -/
theorem Coupled.frame (h : Coupled s) (htables : Tables s) {entries : List Entry}
    (hneutral : Neutral entries) (hlog : s'.log = s.log ++ entries)
    (hopen : ∀ ws r, .wsOpen ws r ∈ s'.queue → .wsOpen ws r ∈ s.queue ∨ ws ∉ s.ids)
    (hconns : s'.connections = s.connections)
    (hopening : ∀ ws r, s'.worker = .opening ws r ↔ s.worker = .opening ws r)
    (hgone : s'.worker = .gone ↔ s.worker = .gone) : Coupled s' := by
  have hphase : ∀ ws, pairPhase s'.log ws = pairPhase s.log ws := fun ws =>
    hlog ▸ hneutral.phase s.log ws
  refine ⟨hconns ▸ h.nodup, ?_, ?_, ?_, ?_, fun hw => hconns ▸ h.gone (hgone.mp hw)⟩
  · intro ws r hr
    rw [hphase ws]
    obtain hr | hfresh := hopen ws r hr
    · exact h.queued ws r hr
    · exact Protocol.phase_fresh fun e he heq => hfresh (heq ▸ htables.log e he)
  · intro ws r hw
    obtain ⟨hfresh, hconn⟩ := h.opening ws r ((hopening ws r).mp hw)
    exact ⟨(hphase ws).trans hfresh, hconns ▸ hconn⟩
  · intro ws hws hne
    refine hneutral.settled (h.connection ws (hconns ▸ hws) fun r hw => ?_) hlog
    exact hne r ((hopening ws r).mpr hw)
  · intro ws hws
    obtain ⟨phase, hp, hconnected⟩ := h.disconnected ws (hconns ▸ hws)
    refine ⟨phase, (hphase ws).trans hp, fun hc => ⟨hgone.mpr (hconnected hc).1, ?_⟩⟩
    exact hlog ▸ List.mem_append_left _ (hconnected hc).2

/-- An entry about one WebSocket changes nothing for the others. -/
theorem phase_other (log : List Entry) {ws : String} (e : Entry) (h : e.wsId ≠ ws) :
    pairPhase (log ++ [e]) ws = pairPhase log ws := by
  refine Protocol.phase_silent log fun e' he' heq => ?_
  rw [List.mem_singleton.mp he'] at heq
  exact absurd heq h

theorem settled_other {e : Entry} {ws : String} (hlog : s'.log = s.log ++ [e]) (h : e.wsId ≠ ws)
    (hsettled : Settled s ws) : Settled s' ws := by
  have hpanicked : .panicked ws ∈ s'.log ↔ .panicked ws ∈ s.log := by
    rw [hlog, List.mem_append, List.mem_singleton]
    exact or_iff_left fun he => h (he ▸ rfl)
  rw [Settled, hlog, phase_other s.log e h, ← hlog, hpanicked]
  exact hsettled

/-- Nothing follows when all is over. -/
theorem run_over (entries : List Entry) :
    Run.run pairStep .over entries = none ∨ Run.run pairStep .over entries = some .over := by
  induction entries with
  | nil => exact .inr rfl
  | cons e rest ih =>
    cases e with
    | message => exact ih
    | ack => exact ih
    | hibernated => exact ih
    | _ => exact .inl rfl

theorem phase_of_panicked {log : List Entry} (h : .panicked wsId ∈ log) :
    pairPhase log wsId = none ∨ pairPhase log wsId = some .over := by
  obtain ⟨pre, post, rfl⟩ := List.append_of_mem h
  have happend : pre ++ .panicked wsId :: post = (pre ++ [.panicked wsId]) ++ post := by simp
  rw [happend]
  have hentry : pairPhase (pre ++ [.panicked wsId]) wsId = none ∨
      pairPhase (pre ++ [.panicked wsId]) wsId = some .over := by
    cases hpre : pairPhase pre wsId with
    | none => exact .inl (Protocol.phase_none hpre _)
    | some phase =>
      rw [show pairPhase (pre ++ [.panicked wsId]) wsId = _ from
        Protocol.phase_entry_of hpre rfl]
      cases phase with
      | fresh => exact .inr rfl
      | _ => exact .inl rfl
  obtain hnone | hover := hentry
  · exact .inl (Protocol.phase_none hnone _)
  · rw [show pairPhase ((pre ++ [.panicked wsId]) ++ post) wsId = _ from
      Protocol.phase_append_of hover post]
    exact run_over _

theorem Coupled.turn (h : Coupled s) {resumed : Bool} (hw : s.worker = .turning wsId resumed) :
    Coupled { s with
      connections := s.connections.insert wsId
      worker := .opening wsId resumed } where
  nodup := h.nodup.insert
  queued ws r hr := h.queued ws r (mem_of_queue [_] hr (queue_turn hw rfl rfl rfl))
  opening ws r hr := by
    obtain ⟨rfl, rfl⟩ : wsId = ws ∧ resumed = r := by simpa using hr
    exact ⟨h.queued wsId resumed (by simp [State.queue, hw]), List.mem_insert_self⟩
  connection ws hws hne := by
    have hws' : ws ∈ s.connections := by
      obtain rfl | hws := List.mem_insert_iff.mp hws
      · exact absurd rfl (hne resumed)
      · exact hws
    exact h.connection ws hws' (by simp [hw])
  disconnected ws hws := by
    obtain ⟨phase, hphase, hconnected⟩ :=
      h.disconnected ws fun hconn => hws (List.mem_insert_of_mem hconn)
    exact ⟨phase, hphase, fun hc => by simpa [hw] using (hconnected hc).1⟩
  gone hgone := by simp at hgone

theorem Coupled.takeClose (h : Coupled s) (htables : Tables s) {rest : List Event}
    (hw : s.worker = .ready) (hm : s.mailbox = .wsClose wsId :: rest)
    (hspares : wsId ∈ s.connections → .panicked wsId ∉ s.log) :
    Coupled { s with
      mailbox := rest
      connections := s.connections.filter (· ≠ wsId)
      log := s.log ++ if wsId ∈ s.connections then [.disconnected wsId] else [] } := by
  have hq : s.queue = .wsClose wsId :: State.queue { s with mailbox := rest } :=
    queue_take hw hm rfl (by simp [hw]) rfl
  have hmem : ∀ e ∈ State.queue { s with mailbox := rest }, e ∈ s.queue :=
    fun e he => mem_of_queue [_] he hq
  by_cases hconn : wsId ∈ s.connections
  · rw [if_pos hconn]
    have hover : pairPhase (s.log ++ [.disconnected wsId]) wsId = some .over := by
      obtain ⟨hphase, -⟩ | ⟨-, hpanicked⟩ := h.connection wsId hconn (by simp [hw])
      · exact Protocol.phase_entry_of hphase rfl
      · exact absurd hpanicked (hspares hconn)
    refine ⟨h.nodup.filter _, ?_, by simp [hw], ?_, ?_, by simp [hw]⟩
    · intro ws r hr
      have hne : wsId ≠ ws := by simpa [Event.wsId] using htables.before hq hr
      exact (phase_other s.log (.disconnected wsId) hne).trans
        (h.queued ws r (hmem _ hr))
    · intro ws hws _
      obtain ⟨hws, hne⟩ := List.mem_filter.mp hws
      have hne : wsId ≠ ws := fun heq => by simp [heq] at hne
      exact settled_other rfl hne (h.connection ws hws (by simp [hw]))
    · intro ws hws
      by_cases heq : wsId = ws
      · subst heq
        exact ⟨.over, hover, by simp⟩
      · have hold : ws ∉ s.connections := fun hws' =>
          hws (List.mem_filter.mpr ⟨hws', by simpa using Ne.symm heq⟩)
        obtain ⟨phase, hphase, hconnected⟩ := h.disconnected ws hold
        exact ⟨phase, (phase_other s.log (.disconnected wsId) heq).trans hphase,
          fun hc => by simpa [hw] using (hconnected hc).1⟩
  · have hself : s.connections.filter (· ≠ wsId) = s.connections := by
      refine List.filter_eq_self.mpr fun ws hws => ?_
      have hne : ws ≠ wsId := fun heq => hconn (heq ▸ hws)
      simpa using hne
    refine h.frame htables neutral_nil (by simp [hconn]) ?_ hself (fun _ _ => Iff.rfl) Iff.rfl
    exact fun ws r hr => .inl (hmem _ hr)

theorem Coupled.openDone (h : Coupled s) (hqueued : Queued s) {resumed : Bool} (o : Outcome)
    (hw : s.worker = .opening wsId resumed) : Coupled (s.openDone wsId o) := by
  obtain ⟨hfresh, hconn⟩ := h.opening wsId resumed hw
  have hunpanicked : .panicked wsId ∉ s.log := fun hpanicked => by
    obtain hnone | hover := phase_of_panicked hpanicked
    · simp [hnone] at hfresh
    · simp [hover] at hfresh
  have hother : ∀ ws, wsId ≠ ws → (o.entry wsId).wsId ≠ ws := fun ws hne => by simpa using hne
  have hphase : pairPhase (s.log ++ [o.entry wsId]) wsId = pairStep .fresh (o.entry wsId) :=
    Protocol.phase_entry_of hfresh (wsId_entry wsId o)
  have hq : s.queue = (s.openDone wsId o).queue :=
    queue_worker rfl (by simp [State.openDone, hw, Worker.opens]) rfl
  have hkept : ∀ ws ∈ s.connections, ws ≠ wsId → ws ∈ (s.openDone wsId o).connections := by
    intro ws hws hne
    simp only [State.openDone]
    split_ifs
    · exact List.mem_filter.mpr ⟨hws, by simpa using hne⟩
    · exact hws
  refine ⟨?_, ?_, by simp [State.openDone], ?_, ?_, by simp [State.openDone]⟩
  · simp only [State.openDone]
    split_ifs
    · exact h.nodup.filter _
    · exact h.nodup
  · intro ws r hr
    have hne : wsId ≠ ws := by
      rintro rfl
      exact hqueued wsId r (hq ▸ hr) (.inl hconn)
    exact (phase_other s.log _ (hother ws hne)).trans (h.queued ws r (hq ▸ hr))
  · intro ws hws _
    by_cases heq : wsId = ws
    · subst heq
      cases o with
      | ok => exact .inl ⟨hphase, by simp [State.openDone, Outcome.entry, hunpanicked]⟩
      | failed => simp [State.openDone] at hws
      | panicked => exact .inr ⟨hphase, by simp [State.openDone, Outcome.entry]⟩
    · refine settled_other rfl (hother ws heq)
        (h.connection ws (openDone_connections_subset o hws) fun r hr => heq ?_)
      obtain ⟨rfl, -⟩ : wsId = ws ∧ resumed = r := by simpa using hw.symm.trans hr
      rfl
  · intro ws hws
    by_cases heq : wsId = ws
    · subst heq
      cases o with
      | failed => exact ⟨.over, hphase, by simp⟩
      | _ => exact absurd hconn (by simpa [State.openDone] using hws)
    · obtain ⟨phase, hold, hconnected⟩ :=
        h.disconnected ws fun hws' => hws (hkept ws hws' (Ne.symm heq))
      exact ⟨phase, (phase_other s.log _ (hother ws heq)).trans hold,
        fun hc => by simpa [hw] using (hconnected hc).1⟩

theorem filter_disconnected {conns : List String} (hnodup : conns.Nodup) (h : wsId ∈ conns) :
    (conns.map Entry.disconnected).filter (·.wsId = wsId) = [.disconnected wsId] := by
  rw [List.filter_map, show (fun e : Entry => decide (e.wsId = wsId)) ∘ Entry.disconnected =
    fun ws => decide (ws = wsId) from rfl, List.filter_eq, List.count_eq_one_of_mem hnodup h]
  rfl

/-- The deferred calls of a worker that did not leave for sleep. -/
theorem Coupled.disconnectAll (h : Coupled s) (hqueued : Queued s) {reason : String}
    (hw : s.worker = .leaving reason) (hspares : ∀ ws ∈ s.connections, .panicked ws ∉ s.log) :
    Coupled { s with
      worker := .gone
      websockets := []
      connections := []
      log := s.log ++ s.connections.map .disconnected } := by
  have hother : ∀ ws, ws ∉ s.connections →
      pairPhase (s.log ++ s.connections.map .disconnected) ws = pairPhase s.log ws := by
    intro ws hws
    refine Protocol.phase_silent s.log fun e he heq => ?_
    obtain ⟨ws', hws', rfl⟩ := List.mem_map.mp he
    exact absurd (heq ▸ hws') hws
  refine ⟨List.nodup_nil, ?_, by simp, by simp, ?_, fun _ => rfl⟩
  · intro ws r hr
    have hr : .wsOpen ws r ∈ s.queue :=
      mem_of_queue [] hr (queue_worker rfl (by simp [hw, Worker.opens]) rfl)
    exact (hother ws fun hconn => hqueued ws r hr (.inl hconn)).trans (h.queued ws r hr)
  · intro ws _
    by_cases hws : ws ∈ s.connections
    · obtain ⟨hphase, -⟩ | ⟨-, hpanicked⟩ := h.connection ws hws (by simp [hw])
      · refine ⟨.over, (Protocol.phase_append_of hphase _).trans ?_, by simp⟩
        rw [filter_disconnected h.nodup hws]
        rfl
      · exact absurd hpanicked (hspares ws hws)
    · obtain ⟨phase, hphase, hconnected⟩ := h.disconnected ws hws
      exact ⟨phase, (hother ws hws).trans hphase, fun hc => by simpa [hw] using (hconnected hc).1⟩

/-- The deferred calls of a worker that left for sleep. -/
theorem Coupled.sleep (h : Coupled s) (hsheltered : Sheltered s)
    (hw : s.worker = .leaving "sleep") :
    Coupled { s with worker := .gone, websockets := [], connections := [] } := by
  refine ⟨List.nodup_nil, fun ws r hr => ?_, by simp, by simp, fun ws _ => ?_, fun _ => rfl⟩
  · exact h.queued ws r (mem_of_queue [] hr (queue_worker rfl (by simp [hw, Worker.opens]) rfl))
  · by_cases hws : ws ∈ s.connections
    · obtain ⟨hphase, hpanicked⟩ | ⟨hphase, -⟩ := h.connection ws hws (by simp [hw])
      · exact ⟨.connected, hphase, fun _ =>
          ⟨rfl, (hsheltered.leaving hw ws hws).resolve_right hpanicked⟩⟩
      · exact ⟨.over, hphase, by simp⟩
    · obtain ⟨phase, hphase, hconnected⟩ := h.disconnected ws hws
      exact ⟨phase, hphase, fun hc => by simpa [hw] using (hconnected hc).1⟩

theorem Coupled.move (h : Coupled s) (htables : Tables s) (hqueued : Queued s)
    (hsheltered : Sheltered s) (hspares : Spares s a) (hmove : Move s a s') : Coupled s' := by
  have hopen : ∀ ws r, .wsOpen ws r ∈ s'.queue → .wsOpen ws r ∈ s.queue ∨ ws ∉ s.ids :=
    fun ws r => open_of_move hmove
  cases hmove with
  | pollOpen | putOpen | drop | pollMessage | pollClose | pollOther | endPolling =>
    exact h.frame htables neutral_nil (List.append_nil _).symm hopen rfl (fun _ _ => Iff.rfl)
      Iff.rfl
  | pollStop reason draining accepted =>
    refine h.frame htables (fun e he => ?_) rfl hopen rfl (fun _ _ => Iff.rfl) Iff.rfl
    obtain ⟨ws, -, rfl⟩ := List.mem_map.mp he
    exact ⟨fun phase => by cases phase <;> rfl, by simp⟩
  | turn hw => exact h.turn hw
  | @takeMessage ws index rest hw hm =>
    refine h.frame htables (fun e he => ?_) rfl hopen rfl (by simp [hw]) (by simp [hw])
    obtain ⟨-, rfl⟩ : ws ∈ s.connections ∧ e = .message ws index := by
      split_ifs at he with hconn
      · exact ⟨hconn, by simpa using he⟩
      · simp at he
    exact ⟨fun phase => by cases phase <;> rfl, by simp⟩
  | takeClose hw hm => exact h.takeClose htables hw hm (hspares _ _ hw hm)
  | openDone o hw => exact h.openDone hqueued o hw
  | openResult accepted hw =>
    refine h.frame htables neutral_nil (List.append_nil _).symm hopen rfl ?_ ?_ <;>
      cases accepted <;> simp [State.openResult, hw]
  | @ack ws index hw =>
    refine h.frame htables (fun e he => ?_) rfl hopen rfl (by simp [hw]) (by simp [hw])
    obtain rfl := List.mem_singleton.mp he
    exact ⟨fun phase => by cases phase <;> rfl, by simp⟩
  | takeOpen hw _ | takeOther hw _ | takeStop hw _ | ackRejected hw | messageDone hw
  | callbackDone hw | stopDone hw =>
    exact h.frame htables neutral_nil (List.append_nil _).symm hopen rfl (by simp [hw])
      (by simp [hw])
  | leave hw =>
    refine h.frame htables neutral_nil (List.append_nil _).symm hopen rfl ?_ ?_
    · obtain hw | hw := hw <;> simp [hw]
    · obtain hw | hw := hw <;> simp [hw]
  | @closeWebSockets reason hw =>
    by_cases hreason : reason = "sleep"
    · subst hreason
      simpa using h.sleep hsheltered hw
    · rw [if_neg hreason]
      exact h.disconnectAll hqueued hw (hspares reason hw hreason)

/-! ### Runs -/

/-- The invariant of the runs that spare WebSockets whose `OnConnect` panicked. -/
structure Spared (s : State) : Prop where
  tables : Tables s
  queued : Queued s
  answers : Answers s
  sheltered : Sheltered s
  coupled : Coupled s

theorem spared_initial : Spared initial :=
  ⟨tables_initial, queued_initial, answers_of_worker (by simp [initial]), sheltered_initial,
    coupled_initial⟩

theorem spared_step : Run.Keeps step Spares Spared := by
  intro s a s' h ha hs
  have hmove := move_of_step hs
  exact ⟨h.tables.move hmove, h.queued.move h.tables hmove, h.answers.move hmove,
    h.sheltered.move h.tables h.queued h.answers hmove,
    h.coupled.move h.tables h.queued h.sheltered ha hmove⟩

/-- The protocol of some WebSocket was broken. -/
def Broken (s : State) : Prop := ∃ wsId, pairPhase s.log wsId = none

theorem Broken.not_paired (h : Broken s) : ¬ Paired s := by
  obtain ⟨ws, hnone⟩ := h
  intro hpaired
  obtain ⟨phase, hphase, -⟩ := hpaired ws
  simp [hnone] at hphase

theorem broken_step : Run.Keeps step Run.anyAction Broken := by
  intro s a s' h _ hs
  obtain ⟨ws, hnone⟩ := h
  obtain ⟨entries, hlog⟩ := log_grows (move_of_step hs)
  exact ⟨ws, hlog ▸ Protocol.phase_none hnone entries⟩

/-- `OnDisconnect` after a panic of `OnConnect` breaks the protocol. -/
theorem phase_of_disconnected {log : List Entry} (hpanicked : .panicked wsId ∈ log)
    (entries : List Entry) (h : .disconnected wsId ∈ entries) :
    pairPhase (log ++ entries) wsId = none := by
  obtain hnone | hover := phase_of_panicked hpanicked
  · exact Protocol.phase_none hnone entries
  · refine (Protocol.phase_append_of hover entries).trans ?_
    have hmem : .disconnected wsId ∈ entries.filter (·.wsId = wsId) :=
      List.mem_filter.mpr ⟨h, by simp [Entry.wsId]⟩
    obtain ⟨pre, post, heq⟩ := List.append_of_mem hmem
    rw [heq, Run.run_append]
    obtain hpre | hpre := run_over pre
    · rw [hpre]
      rfl
    · rw [hpre]
      rfl

/-- A step that does not spare a WebSocket calls its `OnDisconnect`. -/
theorem broken_of_not_spares (h : ¬ Spares s a) (hs : step s a = some s') : Broken s' := by
  cases a with
  | take =>
    simp only [Spares, not_forall, not_not] at h
    obtain ⟨ws, rest, hw, hm, hconn, hpanicked⟩ := h
    obtain rfl : _ = s' := by simpa [step, hw, hm] using hs
    refine ⟨ws, phase_of_disconnected hpanicked _ ?_⟩
    simp [hconn]
  | closeWebSockets =>
    simp only [Spares, not_forall, not_not] at h
    obtain ⟨reason, hw, hreason, ws, hconn, hpanicked⟩ := h
    obtain rfl : _ = s' := by simpa [step, hw] using hs
    refine ⟨ws, phase_of_disconnected hpanicked _ ?_⟩
    simp [hreason, hconn]
  | _ => exact absurd trivial h

/-- In every run, `OnConnect` and `OnDisconnect` are paired exactly if no
`OnDisconnect` runs for a WebSocket whose `OnConnect` panicked. -/
theorem paired_iff {as : List Action} (hrun : Run.run step initial as = some s) :
    Paired s ↔ Run.Allowed step Spares initial as := by
  constructor
  · intro hpaired
    by_contra hnot
    have hbroken : Broken s := Run.of_not_allowed .init
      (fun _ _ _ _ hbad hs => broken_of_not_spares hbad hs) broken_step hrun hnot
    exact hbroken.not_paired hpaired
  · intro hspares
    have hreaches := Run.Reachable.init.run hspares hrun
    exact (hreaches.invariant spared_initial spared_step).coupled.paired

/-! ### Two runs -/

/-- Three WebSockets: `OnConnect` of the second fails, the third hibernates, and
the first is closed because the actor sleeps. -/
def closedHibernatedRefused : List Action :=
  [.pollOpen "a" false false, .putOpen, .pollOpen "b" true false, .putOpen, .pollOpen "c" true true,
    .putOpen, .take, .turn, .openDone .ok, .openResult true, .take, .turn, .openDone .failed,
    .openResult true, .take, .turn, .openDone .ok, .openResult true, .pollStop "sleep" false true,
    .take, .take, .stopDone, .closeWebSockets]

theorem closedHibernatedRefused_paired :
    ∃ s, Run.run step initial closedHibernatedRefused = some s ∧ s.worker = .gone ∧
      s.log = [.connected "a", .refused "b", .connected "c", .hibernated "c",
        .disconnected "a"] ∧ Paired s := by
  refine ⟨_, rfl, rfl, rfl,
    (paired_iff (rfl : Run.run step initial closedHibernatedRefused = some _)).mpr ?_⟩
  refine ⟨trivial, trivial, trivial, trivial, trivial, trivial, ?_, trivial, trivial, trivial, ?_,
    trivial, trivial, trivial, ?_, trivial, trivial, trivial, trivial, ?_, ?_, trivial, ?_, trivial⟩
  · exact fun ws rest _ hm => by cases hm
  · exact fun ws rest _ hm => by cases hm
  · exact fun ws rest _ hm => by cases hm
  · rintro ws rest - hm - hpanicked
    cases hm
    have hlog : Entry.panicked "a" ∈
      [.connected "a", .refused "b", .connected "c", .hibernated "c"] := hpanicked
    simp at hlog
  · exact fun ws rest _ hm => by cases hm
  · intro reason hw hreason
    cases hw
    exact absurd rfl hreason

/-- `OnConnect` panics, and native stops the actor, as the worker has asked for. -/
def connectPanics : List Action :=
  [.pollOpen "ws" false false, .putOpen, .take, .turn, .openDone .panicked, .openResult true,
    .pollStop "stop" false true, .take, .stopDone, .closeWebSockets]

/-- `OnDisconnect` runs for a WebSocket whose `OnConnect` panicked. -/
theorem disconnected_after_panic : ∃ s, Run.run step initial connectPanics = some s ∧
    s.log = [.panicked "ws", .disconnected "ws"] ∧ ¬ Paired s := by
  refine ⟨_, rfl, rfl, Broken.not_paired ⟨"ws", rfl⟩⟩

end RivetGo.WebSocket

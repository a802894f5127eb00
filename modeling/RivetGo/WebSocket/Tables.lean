import RivetGo.WebSocket.Worker

/-!
# The tables of the poller and of the adapter

An open event is on its way from the time the poller enters its WebSocket into
the table until the worker has the turn for it: the poller has it in hand, then it
is in the mailbox, then the worker has it in hand. Whatever the poller and the
worker do, a WebSocket that is in the table of the poller is open or about to be:
its open event is on its way, ahead of all its other events, or the adapter has
its connection. The one exception is a WebSocket that `OnConnect` has refused,
until the worker has said so. A WebSocket whose close event is in the mailbox, or
that was hibernated, has left the table.
-/

namespace RivetGo.WebSocket

/-- The WebSocket that an event is about. -/
def Event.wsId : Event → Option String
  | .wsOpen wsId _ => some wsId
  | .wsMessage wsId _ => some wsId
  | .wsClose wsId => some wsId
  | .other => none
  | .stop _ => none

def Entry.wsId : Entry → String
  | .connected wsId => wsId
  | .refused wsId => wsId
  | .panicked wsId => wsId
  | .message wsId _ => wsId
  | .ack wsId _ => wsId
  | .disconnected wsId => wsId
  | .hibernated wsId => wsId

@[simp] theorem wsId_entry (wsId : String) (o : Outcome) : (o.entry wsId).wsId = wsId := by
  cases o <;> rfl

/-- The open event with which the worker waits for the turn. -/
def Worker.opens : Worker → List Event
  | .turning wsId resumed => [.wsOpen wsId resumed]
  | _ => []

@[simp] theorem opens_ready : Worker.ready.opens = [] := rfl

@[simp] theorem opens_turning (wsId : String) (resumed : Bool) :
    (Worker.turning wsId resumed).opens = [.wsOpen wsId resumed] := rfl

/-- The events on their way: the open event that the worker has in hand, those in
the mailbox, and the open event that the poller has in hand. -/
def State.queue (s : State) : List Event :=
  s.worker.opens ++ s.mailbox ++ s.pending.toList.map fun w => .wsOpen w.1 w.2

/-- The WebSocket whose callback the worker is busy with. -/
def Worker.wsId : Worker → Option String
  | .opening wsId _ => some wsId
  | .answering wsId _ => some wsId
  | .handling wsId _ _ => some wsId
  | _ => none

/-- The worker is in its loop. -/
def Worker.Active : Worker → Prop
  | .leaving _ => False
  | .gone => False
  | _ => True

/-- The open event of a WebSocket does not come after another of its events. -/
def Event.Before (a b : Event) : Prop := ∀ wsId resumed, b = .wsOpen wsId resumed →
  a.wsId ≠ some wsId

/-- What holds of the tables in every run. -/
structure Tables (s : State) : Prop where
  unique : s.ids.Nodup
  table : ∀ w ∈ s.websockets, w ∈ s.opened
  queue : ∀ e ∈ s.queue, ∀ wsId, e.wsId = some wsId → wsId ∈ s.ids
  connections : ∀ wsId ∈ s.connections, wsId ∈ s.ids
  worker : ∀ wsId, s.worker.wsId = some wsId → wsId ∈ s.ids
  log : ∀ e ∈ s.log, e.wsId ∈ s.ids
  order : s.queue.Pairwise Event.Before
  closing : ∀ wsId, .wsClose wsId ∈ s.queue → ∀ c, (wsId, c) ∉ s.websockets
  hibernated : ∀ wsId, .hibernated wsId ∈ s.log → ∀ c, (wsId, c) ∉ s.websockets
  connected : s.worker.Active → ∀ w ∈ s.websockets,
    (∃ resumed, .wsOpen w.1 resumed ∈ s.queue) ∨ s.worker = .answering w.1 .failed ∨
      w.1 ∈ s.connections

variable {s s' : State} {wsId : String}

/-! ### The events on their way -/

/-- The poller opens a WebSocket. -/
theorem queue_pollOpen (hpending : s.pending = none) {resumed : Bool}
    (hmailbox : s'.mailbox = s.mailbox) (hworker : s'.worker = s.worker)
    (hpending' : s'.pending = some (wsId, resumed)) :
    s'.queue = s.queue ++ [.wsOpen wsId resumed] := by
  simp [State.queue, hpending, hmailbox, hworker, hpending']

/-- The poller puts events into the mailbox. -/
theorem queue_append (hpending : s.pending = none) {events : List Event}
    (hmailbox : s'.mailbox = s.mailbox ++ events) (hworker : s'.worker = s.worker)
    (hpending' : s'.pending = s.pending) : s'.queue = s.queue ++ events := by
  simp [State.queue, hpending, hmailbox, hworker, hpending']

theorem queue_putOpen {resumed : Bool} (hpending : s.pending = some (wsId, resumed)) :
    s.queue = State.queue { s with
      pending := none
      mailbox := s.mailbox ++ [.wsOpen wsId resumed] } := by
  simp [State.queue, hpending]

theorem queue_takeOpen {resumed : Bool} {rest : List Event} (hw : s.worker = .ready)
    (hm : s.mailbox = .wsOpen wsId resumed :: rest) :
    s.queue = State.queue { s with mailbox := rest, worker := .turning wsId resumed } := by
  simp [State.queue, hw, hm]

/-- The worker takes an event that opens no WebSocket. -/
theorem queue_take {e : Event} {rest : List Event} (hw : s.worker = .ready)
    (hm : s.mailbox = e :: rest) (hmailbox : s'.mailbox = rest) (hworker : s'.worker.opens = [])
    (hpending : s'.pending = s.pending) : s.queue = e :: s'.queue := by
  simp [State.queue, hw, hm, hmailbox, hworker, hpending]

theorem queue_turn {resumed : Bool} (hw : s.worker = .turning wsId resumed)
    (hmailbox : s'.mailbox = s.mailbox) (hworker : s'.worker.opens = [])
    (hpending : s'.pending = s.pending) : s.queue = .wsOpen wsId resumed :: s'.queue := by
  simp [State.queue, hw, hmailbox, hworker, hpending]

/-- The worker goes on. -/
theorem queue_worker (hmailbox : s'.mailbox = s.mailbox)
    (hworker : s'.worker.opens = s.worker.opens) (hpending : s'.pending = s.pending) :
    s.queue = s'.queue := by
  simp [State.queue, hmailbox, hworker, hpending]

theorem mem_of_append {e : Event} {events : List Event} (h : e ∈ s'.queue)
    (hq : s'.queue = s.queue ++ events) : e ∈ s.queue ∨ e ∈ events :=
  List.mem_append.mp (hq ▸ h)

theorem mem_of_queue {e : Event} (taken : List Event) (h : e ∈ s'.queue)
    (hq : s.queue = taken ++ s'.queue) : e ∈ s.queue :=
  hq ▸ List.mem_append_right taken h

/-! ### The tables -/

theorem known_iff : s.known wsId = true ↔ ∃ c, (wsId, c) ∈ s.websockets := by
  simp [State.known]

theorem Tables.mem_ids (h : Tables s) {w : String × Bool} (hw : w ∈ s.websockets) : w.1 ∈ s.ids :=
  List.mem_map_of_mem (h.table w hw)

theorem Tables.known (h : Tables s) (hknown : s.known wsId = true) : wsId ∈ s.ids := by
  obtain ⟨c, hc⟩ := known_iff.mp hknown
  exact h.mem_ids hc

/-- The first event on its way is not about a WebSocket that is yet to open. -/
theorem Tables.before (h : Tables s) {e : Event} {rest : List Event} (hq : s.queue = e :: rest)
    {resumed : Bool} (hopen : .wsOpen wsId resumed ∈ rest) : e.wsId ≠ some wsId := by
  have horder : (e :: rest).Pairwise Event.Before := hq ▸ h.order
  exact (List.pairwise_cons.mp horder).1 _ hopen wsId resumed rfl

/-- An event that does not open a WebSocket may come after all others. -/
theorem pairwise_append {l m : List Event} (h : l.Pairwise Event.Before)
    (hm : ∀ e ∈ m, ∀ wsId resumed, e ≠ .wsOpen wsId resumed) :
    (l ++ m).Pairwise Event.Before := by
  refine List.pairwise_append.mpr ⟨h, ?_, ?_⟩
  · exact List.pairwise_of_forall_mem_list fun _ _ b hb ws r heq => absurd heq (hm b hb ws r)
  · intro a _ b hb ws r heq
    exact absurd heq (hm b hb ws r)

theorem mem_closing {hibernate : Bool} : wsId ∈ s.closing hibernate ↔
    ∃ c, (wsId, c) ∈ s.websockets ∧ (hibernate && c) = false := by
  simp [State.closing]

theorem mem_hibernating {hibernate : Bool} : wsId ∈ s.hibernating hibernate ↔
    (wsId, true) ∈ s.websockets ∧ hibernate = true := by
  simp [State.hibernating]

theorem tables_initial : Tables initial := by
  constructor <;> simp [initial, State.ids, State.queue, Worker.wsId]

theorem Tables.pollOpen (h : Tables s) (canHibernate resumed : Bool) (hfresh : wsId ∉ s.ids)
    (hpending : s.pending = none) : Tables { s with
      opened := (wsId, canHibernate) :: s.opened
      websockets := (wsId, canHibernate) :: s.websockets
      pending := some (wsId, resumed) } := by
  have hqueue : State.queue { s with
      opened := (wsId, canHibernate) :: s.opened
      websockets := (wsId, canHibernate) :: s.websockets
      pending := some (wsId, resumed) } = s.queue ++ [.wsOpen wsId resumed] :=
    queue_pollOpen hpending rfl rfl rfl
  constructor
  case unique => exact List.nodup_cons.mpr ⟨hfresh, h.unique⟩
  case table =>
    intro w hw
    obtain rfl | hw := List.mem_cons.mp hw
    · exact List.mem_cons_self
    · exact List.mem_cons_of_mem _ (h.table w hw)
  case queue =>
    intro e he ws hws
    obtain he | he := List.mem_append.mp (hqueue ▸ he)
    · exact List.mem_cons_of_mem _ (h.queue e he ws hws)
    · obtain rfl := List.mem_singleton.mp he
      obtain rfl : wsId = ws := by simpa [Event.wsId] using hws
      exact List.mem_cons_self
  case connections => exact fun ws hws => List.mem_cons_of_mem _ (h.connections ws hws)
  case worker => exact fun ws hw => List.mem_cons_of_mem _ (h.worker ws hw)
  case log => exact fun e he => List.mem_cons_of_mem _ (h.log e he)
  case order =>
    rw [hqueue]
    refine List.pairwise_append.mpr ⟨h.order, List.pairwise_singleton _ _, ?_⟩
    intro e he b hb ws r heq hws
    obtain rfl := List.mem_singleton.mp hb
    obtain ⟨rfl, -⟩ : wsId = ws ∧ resumed = r := by simpa using heq
    exact hfresh (h.queue e he _ hws)
  case closing =>
    intro ws hws c hc
    have hclose : .wsClose ws ∈ s.queue := by simpa [hqueue] using hws
    obtain heq | hc := List.mem_cons.mp hc
    · obtain ⟨rfl, -⟩ : ws = wsId ∧ c = canHibernate := by simpa using heq
      exact hfresh (h.queue _ hclose _ rfl)
    · exact h.closing ws hclose c hc
  case hibernated =>
    intro ws hws c hc
    obtain heq | hc := List.mem_cons.mp hc
    · obtain ⟨rfl, -⟩ : ws = wsId ∧ c = canHibernate := by simpa using heq
      exact hfresh (h.log _ hws)
    · exact h.hibernated ws hws c hc
  case connected =>
    intro hactive w hw
    rw [hqueue]
    obtain rfl | hw := List.mem_cons.mp hw
    · exact .inl ⟨resumed, by simp⟩
    · exact (h.connected hactive w hw).imp_left fun ⟨r, hr⟩ => ⟨r, List.mem_append_left _ hr⟩

/-- Events that open no WebSocket come into the mailbox, while the table loses
the WebSockets whose close event is among them. -/
theorem Tables.enqueue (h : Tables s) (events : List Event) {table : List (String × Bool)}
    (hpending : s.pending = none) (hsub : table ⊆ s.websockets)
    (hopen : ∀ e ∈ events, ∀ ws r, e ≠ .wsOpen ws r)
    (hknown : ∀ e ∈ events, ∀ ws, e.wsId = some ws → ws ∈ s.ids)
    (hclosing : ∀ ws, .wsClose ws ∈ events → ∀ c, (ws, c) ∉ table) :
    Tables { s with websockets := table, mailbox := s.mailbox ++ events } := by
  have hqueue : State.queue { s with websockets := table, mailbox := s.mailbox ++ events } =
      s.queue ++ events := queue_append hpending rfl rfl rfl
  exact
    { h with
      table := fun w hw => h.table w (hsub hw)
      queue := fun e he => (List.mem_append.mp (hqueue ▸ he)).elim (h.queue e) (hknown e)
      order := hqueue ▸ pairwise_append h.order hopen
      closing := fun ws hws c hc => (List.mem_append.mp (hqueue ▸ hws)).elim
        (fun hws => h.closing ws hws c (hsub hc)) (fun hws => hclosing ws hws c hc)
      hibernated := fun ws hws c hc => h.hibernated ws hws c (hsub hc)
      connected := fun hactive w hw => (h.connected hactive w (hsub hw)).imp_left
        fun ⟨r, hr⟩ => ⟨r, hqueue ▸ List.mem_append_left _ hr⟩ }

/-- Entries of known WebSockets are logged. -/
theorem Tables.record (h : Tables s) (entries : List Entry)
    (hknown : ∀ e ∈ entries, e.wsId ∈ s.ids)
    (hhibernated : ∀ ws, .hibernated ws ∈ entries → ∀ c, (ws, c) ∉ s.websockets) :
    Tables { s with log := s.log ++ entries } :=
  { h with
    log := fun e he => (List.mem_append.mp he).elim (h.log e) (hknown e)
    hibernated := fun ws hws c hc => (List.mem_append.mp hws).elim
      (fun hws => h.hibernated ws hws c hc) (fun hws => hhibernated ws hws c hc) }

/-- The events on their way come closer to the worker, and those that it is done
with are gone. -/
theorem Tables.advance (h : Tables s) (taken : List Event) (hq : s.queue = taken ++ s'.queue)
    (hopened : s'.opened = s.opened) (htable : s'.websockets = s.websockets)
    (hlog : s'.log = s.log) (hconns : ∀ ws ∈ s'.connections, ws ∈ s.ids)
    (hworker : ∀ ws, s'.worker.wsId = some ws → ws ∈ s.ids)
    (hactive : s'.worker.Active → s.worker.Active)
    (hkept : s'.worker.Active → ∀ w ∈ s.websockets,
      (∃ r, .wsOpen w.1 r ∈ taken) ∨ s.worker = .answering w.1 .failed ∨ w.1 ∈ s.connections →
      s'.worker = .answering w.1 .failed ∨ w.1 ∈ s'.connections) : Tables s' := by
  have hids : s'.ids = s.ids := by simp [State.ids, hopened]
  have hmem : ∀ e ∈ s'.queue, e ∈ s.queue := fun e he => hq ▸ List.mem_append_right _ he
  refine
    { unique := hids ▸ h.unique
      table := by rw [hopened, htable]; exact h.table
      queue := fun e he ws hws => hids ▸ h.queue e (hmem e he) ws hws
      connections := fun ws hws => hids ▸ hconns ws hws
      worker := fun ws hws => hids ▸ hworker ws hws
      log := fun e he => hids ▸ h.log e (hlog ▸ he)
      order := (List.pairwise_append.mp (hq ▸ h.order)).2.1
      closing := fun ws hws => htable ▸ h.closing ws (hmem _ hws)
      hibernated := by rw [hlog, htable]; exact h.hibernated
      connected := fun hw w hmem => ?_ }
  have hmem : w ∈ s.websockets := htable ▸ hmem
  obtain ⟨r, hr⟩ | hold := h.connected (hactive hw) w hmem
  · obtain hr | hr := List.mem_append.mp (hq ▸ hr)
    · exact .inr (hkept hw w hmem (.inl ⟨r, hr⟩))
    · exact .inl ⟨r, hr⟩
  · exact .inr (hkept hw w hmem (.inr hold))

/-- The worker goes on to something that is not about a WebSocket. -/
theorem Tables.goOn (h : Tables s) {w : Worker} (hidle : w.wsId = none)
    (hopens : w.opens = s.worker.opens) (hactive : w.Active → s.worker.Active)
    (hanswered : w.Active → ∀ v ∈ s.websockets, s.worker ≠ .answering v.1 .failed) :
    Tables { s with worker := w } := by
  refine h.advance [] (queue_worker rfl hopens rfl) rfl rfl rfl h.connections
    (by simp [hidle]) hactive ?_
  rintro hw v hv (⟨r, hr⟩ | hold | hconn)
  · cases hr
  · exact absurd hold (hanswered hw v hv)
  · exact .inr hconn

/-- The worker takes an event that opens no WebSocket. -/
theorem Tables.take (h : Tables s) {e : Event} {rest : List Event} (hw : s.worker = .ready)
    (hm : s.mailbox = e :: rest) (hopen : ∀ ws r, e ≠ .wsOpen ws r) {w : Worker}
    (hopens : w.opens = []) (hworker : ∀ ws, w.wsId = some ws → e.wsId = some ws) :
    Tables { s with mailbox := rest, worker := w } := by
  refine h.advance [e] (queue_take hw hm rfl hopens rfl) rfl rfl rfl h.connections
    (fun ws hws => ?_) (by simp [hw, Worker.Active]) ?_
  · exact h.queue e (by simp [State.queue, hm]) ws (hworker ws hws)
  · rintro - v - (⟨r, hr⟩ | hold | hconn)
    · exact absurd (List.mem_singleton.mp hr).symm (hopen v.1 r)
    · simp [hw] at hold
    · exact .inr hconn

theorem Tables.turn (h : Tables s) {resumed : Bool} (hw : s.worker = .turning wsId resumed) :
    Tables { s with
      connections := s.connections.insert wsId
      worker := .opening wsId resumed } := by
  have hid : wsId ∈ s.ids := h.queue (.wsOpen wsId resumed) (by simp [State.queue, hw]) wsId rfl
  refine h.advance [.wsOpen wsId resumed] (queue_turn hw rfl rfl rfl) rfl rfl rfl
    (fun ws hws => ?_) (fun _ hws => Option.some.inj hws ▸ hid) (by simp [hw, Worker.Active]) ?_
  · obtain rfl | hws := List.mem_insert_iff.mp hws
    · exact hid
    · exact h.connections ws hws
  · rintro - v - (⟨r, hr⟩ | hold | hconn)
    · obtain ⟨heq, -⟩ := Event.wsOpen.inj (List.mem_singleton.mp hr)
      exact .inr (List.mem_insert_iff.mpr (.inl heq))
    · simp [hw] at hold
    · exact .inr (List.mem_insert_of_mem hconn)

/-- The adapter removes a connection whose WebSocket is not in the table. -/
theorem Tables.disconnect (h : Tables s) (hgone : ∀ c, (wsId, c) ∉ s.websockets) :
    Tables { s with connections := s.connections.filter (· ≠ wsId) } :=
  { h with
    connections := fun ws hws => h.connections ws (List.mem_of_mem_filter hws)
    connected := fun hactive w hw => by
      refine (h.connected hactive w hw).imp_right (Or.imp_right fun hconn => ?_)
      have hne : w.1 ≠ wsId := fun heq => hgone w.2 (heq ▸ hw)
      exact List.mem_filter.mpr ⟨hconn, by simpa using hne⟩ }

/-- The table loses WebSockets. -/
theorem Tables.shrink (h : Tables s) (table : List (String × Bool)) (hsub : table ⊆ s.websockets) :
    Tables { s with websockets := table } :=
  { h with
    table := fun w hw => h.table w (hsub hw)
    closing := fun ws hws c hc => h.closing ws hws c (hsub hc)
    hibernated := fun ws hws c hc => h.hibernated ws hws c (hsub hc)
    connected := fun hactive w hw => h.connected hactive w (hsub hw) }

theorem openDone_connections_subset (o : Outcome) :
    (s.openDone wsId o).connections ⊆ s.connections := by
  simp only [State.openDone]
  split_ifs
  · exact List.filter_subset_self _
  · exact List.Subset.refl _

theorem Tables.openDone (h : Tables s) {resumed : Bool} (o : Outcome)
    (hw : s.worker = .opening wsId resumed) : Tables (s.openDone wsId o) := by
  have hid : wsId ∈ s.ids := h.worker wsId (by simp [hw, Worker.wsId])
  have hlog := h.record [o.entry wsId] (by simpa using hid) (by cases o <;> simp [Outcome.entry])
  refine hlog.advance [] (queue_worker rfl (by simp [State.openDone, hw, Worker.opens])
    rfl) rfl rfl rfl (fun ws hws => h.connections ws (openDone_connections_subset o hws))
    (fun _ hws => Option.some.inj hws ▸ hid) (by simp [hw, Worker.Active]) ?_
  rintro - v - (⟨r, hr⟩ | hold | hconn)
  · cases hr
  · simp [hw] at hold
  · by_cases hrefused : v.1 = wsId ∧ o = .failed
    · exact .inl (by simp [State.openDone, hrefused])
    · right
      simp only [State.openDone]
      split_ifs with hfailed
      · exact List.mem_filter.mpr ⟨hconn, by simpa [hfailed] using hrefused⟩
      · exact hconn

theorem Tables.openResult (h : Tables s) {o : Outcome} (accepted : Bool)
    (hw : s.worker = .answering wsId o) : Tables (s.openResult wsId o accepted) := by
  have hopens : s.worker.opens = [] := by simp [hw, Worker.opens]
  cases accepted with
  | false =>
    -- the worker leaves its loop, whatever is left in the table
    have hleaving := h.goOn (w := .leaving actorWorkerStopped) rfl hopens.symm
      (by simp [Worker.Active]) (by simp [Worker.Active])
    simpa [State.openResult] using hleaving
  | true =>
    by_cases ho : o = .ok
    · have hready := h.goOn (w := .ready) rfl hopens.symm (by simp [hw, Worker.Active])
        (by simp [hw, ho])
      simpa [State.openResult, ho] using hready
    · have hshrink := h.shrink (s.websockets.filter (·.1 ≠ wsId)) List.filter_sublist.subset
      have hready := hshrink.goOn (w := .ready) rfl hopens.symm (by simp [hw, Worker.Active])
        fun _ v hv hr => by
          obtain ⟨heq, -⟩ : wsId = v.1 ∧ o = .failed := by simpa [hw] using hr
          have hne := (List.mem_filter.mp hv).2
          simp [heq] at hne
      simpa [State.openResult, ho] using hready

theorem Tables.pollStop (h : Tables s) (reason : String) (hibernate : Bool)
    (hpending : s.pending = none) :
    Tables { s with
      websockets := []
      mailbox := s.mailbox ++ ((s.closing hibernate).map .wsClose ++ [.stop reason])
      log := s.log ++ (s.hibernating hibernate).map .hibernated } := by
  have henqueue := h.enqueue ((s.closing hibernate).map .wsClose ++ [.stop reason]) hpending
    (List.nil_subset _) ?_ ?_ (by simp)
  · refine henqueue.record _ ?_ (by simp)
    intro e he
    obtain ⟨ws, hws, rfl⟩ := List.mem_map.mp he
    exact h.mem_ids (mem_hibernating.mp hws).1
  · intro e he
    obtain he | he := List.mem_append.mp he
    · obtain ⟨ws, -, rfl⟩ := List.mem_map.mp he
      simp
    · simp [List.mem_singleton.mp he]
  · intro e he ws hws
    obtain he | he := List.mem_append.mp he
    · obtain ⟨ws', hws', rfl⟩ := List.mem_map.mp he
      obtain ⟨c, hc, -⟩ := mem_closing.mp hws'
      obtain rfl : ws' = ws := by simpa [Event.wsId] using hws
      exact h.mem_ids hc
    · obtain rfl := List.mem_singleton.mp he
      simp [Event.wsId] at hws

theorem Tables.closeWebSockets (h : Tables s) {reason : String} (hw : s.worker = .leaving reason) :
    Tables { s with
      worker := .gone
      websockets := []
      connections := []
      log := s.log ++ if reason = "sleep" then [] else s.connections.map .disconnected } := by
  have hlog := (h.shrink [] (List.nil_subset _)).record
    (if reason = "sleep" then [] else s.connections.map .disconnected) ?_ (by simp)
  · have hgone := hlog.goOn (w := .gone) rfl (by simp [hw, Worker.opens])
      (by simp [Worker.Active]) (by simp)
    exact { hgone with connections := by simp, connected := by simp [Worker.Active] }
  · intro e he
    split_ifs at he
    · cases he
    · obtain ⟨ws, hws, rfl⟩ := List.mem_map.mp he
      exact h.connections ws hws

/-- An entry of a WebSocket that was opened, for a callback that runs if it is
connected. -/
theorem Tables.call (h : Tables s) (entry : Entry) (hid : entry.wsId ∈ s.ids)
    (hentry : ∀ ws, entry ≠ .hibernated ws) (conns : List String) : Tables { s with
      log := s.log ++ if wsId ∈ conns then [entry] else [] } := by
  refine h.record _ ?_ ?_
  · split_ifs
    · simpa using hid
    · simp
  · split_ifs
    · simpa using fun ws heq => absurd heq.symm (hentry ws)
    · simp

theorem Tables.move (h : Tables s) {a : Action} (hmove : Move s a s') : Tables s' := by
  cases hmove with
  | pollOpen canHibernate resumed hfresh hpending =>
    exact h.pollOpen canHibernate resumed hfresh hpending
  | putOpen hpending =>
    exact h.advance [] (queue_putOpen hpending) rfl rfl rfl h.connections h.worker
      (fun hw => hw) (by simp)
  | drop => exact h
  | pollMessage index hknown hpending =>
    refine h.enqueue _ hpending (List.Subset.refl _) (by simp) ?_ (by simp)
    simpa [Event.wsId] using h.known hknown
  | @pollClose wsId hknown hpending =>
    refine h.enqueue _ hpending List.filter_sublist.subset (by simp) ?_
      (by simp [State.removeWebSocket])
    simpa [Event.wsId] using h.known hknown
  | pollOther hpending =>
    exact h.enqueue _ hpending (List.Subset.refl _) (by simp) (by simp [Event.wsId]) (by simp)
  | pollStop reason _ _ _ _ _ hpending => exact h.pollStop reason _ hpending
  | endPolling websockets hsub =>
    have hshrink := h.shrink websockets hsub
    exact { hshrink with }
  | takeOpen hw hm =>
    exact h.advance [] (queue_takeOpen hw hm) rfl rfl rfl h.connections
      (by simp [Worker.wsId]) (by simp [hw, Worker.Active]) (by simp [hw])
  | turn hw => exact h.turn hw
  | @takeMessage wsId index rest hw hm =>
    have hid : wsId ∈ s.ids := h.queue (.wsMessage wsId index) (by simp [State.queue, hm]) _ rfl
    have htake := h.take hw hm (by simp)
      (w := .handling wsId index (s.websocketCanHibernate wsId)) rfl fun ws hws => hws
    exact htake.call (.message wsId index) hid (by simp) s.connections
  | @takeClose wsId rest hw hm =>
    have hclose : .wsClose wsId ∈ s.queue := by simp [State.queue, hm]
    have htake := h.take hw hm (by simp) (w := s.worker) (by simp [hw])
      (by simp [hw, Worker.wsId])
    exact (htake.disconnect (h.closing wsId hclose)).call (.disconnected wsId)
      (h.queue _ hclose _ rfl) (by simp) s.connections
  | takeOther hw hm | takeStop hw hm =>
    exact h.take hw hm (by simp) rfl (by simp [Worker.wsId])
  | openDone o hw => exact h.openDone o hw
  | openResult accepted hw => exact h.openResult accepted hw
  | @ack wsId index hw =>
    have hid : wsId ∈ s.ids := h.worker wsId (by simp [hw, Worker.wsId])
    have hlog := h.record [.ack wsId index] (by simpa [Entry.wsId] using hid) (by simp)
    exact hlog.goOn rfl (by simp [hw, Worker.opens]) (by simp [hw, Worker.Active]) (by simp [hw])
  | ackRejected hw | messageDone hw | callbackDone hw | stopDone hw =>
    exact h.goOn rfl (by simp [hw, Worker.opens]) (by simp [hw, Worker.Active]) (by simp [hw])
  | leave hw =>
    refine h.goOn rfl ?_ (by simp [Worker.Active]) (by simp [Worker.Active])
    obtain hw | hw := hw <;> simp [hw, Worker.opens]
  | closeWebSockets hw => exact h.closeWebSockets hw

end RivetGo.WebSocket

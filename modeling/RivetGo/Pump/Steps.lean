import RivetGo.Data.Check
import RivetGo.Pump.Generation

/-!
# What the steps of a generation do

One lemma for each operation of the two sides that says all it can change, so
that the invariants below never look into an operation again. `requests`
lists the requests of a queue in order, and `pipeline` those between the loop
and the handlers: in the worker, in its mailbox, and in the event queue.
-/

namespace RivetGo.Pump

/-- The request of an event, with its correlation. -/
@[simp] def Event.request? : Event → Option (Request × Nat)
  | .request r id => some (r, id)
  | _ => none

/-- The requests of a queue. -/
def requests (es : List Event) : List (Request × Nat) := es.filterMap Event.request?

@[simp] theorem requests_nil : requests [] = [] := rfl

@[simp] theorem requests_append (es fs : List Event) :
    requests (es ++ fs) = requests es ++ requests fs :=
  List.filterMap_append

@[simp] theorem requests_cons (e : Event) (es : List Event) :
    requests (e :: es) = e.request?.toList ++ requests es := by
  cases e <;> rfl

theorem requests_eq_nil {es : List Event} (h : ∀ e ∈ es, e.request? = none) : requests es = [] :=
  List.filterMap_eq_nil_iff.mpr h

/-- The event that the worker handles. -/
def Worker.current : Worker → List Event
  | .busy e => [e]
  | _ => []

/-- The events that have left the loop and are not handled yet. -/
def State.inFlight (s : State) : List Event :=
  s.pump.worker.current ++ s.pump.mailbox ++ s.native.events

/-- The requests that are not answered by their handlers yet, oldest first. -/
def State.pipeline (s : State) : List (Request × Nat) := requests s.inFlight

/-- The worker has left its loop. -/
def Worker.left : Worker → Bool
  | .leaving => true
  | .aborted => true
  | .removed => true
  | _ => false

/-! ### Native -/

@[simp] theorem requests_tail (r : Request) (id : Nat) : requests (r.tail id) = [] := by
  cases r with
  | http body =>
    apply requests_eq_nil
    intro e he
    obtain ⟨c, -, rfl⟩ := List.mem_map.mp he
    rfl
  | _ => rfl

/-- An event that opens nothing, continues no body and acknowledges nothing. -/
@[simp] def Event.plain : Event → Bool
  | .httpRequestAbort _ => true
  | .wsMessage _ => true
  | .wsClose _ => true
  | _ => false

theorem requests_plain {es : List Event} (h : ∀ e ∈ es, e.plain = true) : requests es = [] := by
  apply requests_eq_nil
  intro e he
  have hplain := h e he
  cases e <;> simp_all

theorem not_mem_of_plain {es : List Event} {e : Event} (h : ∀ e ∈ es, e.plain = true)
    (he : e.plain = false) : e ∉ es := by
  intro hmem
  exact Bool.false_ne_true (he.symm.trans (h e hmem))

theorem Request.plain_answered (r : Request) (o : Outcome) :
    ∀ e ∈ r.answered o, e.plain = true := by
  cases r <;> cases o <;> simp [Request.answered]

theorem Request.plain_expired (r : Request) (id : Nat) : ∀ e ∈ r.expired id, e.plain = true := by
  cases r <;> simp [Request.expired]

namespace NativeSide

variable {n n' : NativeSide}

theorem request_eq_some {r : Request} {id : Nat} (h : n.request r id = some n') :
    n.loop = .idle ∧ n.lastId < id ∧
      ((∀ wsId c, r ≠ .wsOpen wsId c) ∧ n'.opened = n.opened ∨
        ∃ wsId c, r = .wsOpen wsId c ∧ wsId ∉ n.opened ∧ n'.opened = wsId :: n.opened) ∧
      n'.loop = .waiting r.head id ∧ n'.lastId = id ∧ n'.events = n.events ++ r.events id ∧
      n'.commands = n.commands ∧ n'.cleaned = n.cleaned ∧ n'.saving = n.saving := by
  simp only [request, Option.ite_none_right_eq_some] at h
  obtain ⟨hidle, h⟩ := h
  refine ⟨hidle.1, hidle.2, ?_⟩
  cases r with
  | alarm =>
    simp only [Option.ite_none_left_eq_some, Option.some.injEq] at h
    obtain ⟨-, rfl⟩ := h
    simp
  | wsOpen wsId c =>
    simp only [Option.ite_none_left_eq_some, Option.some.injEq] at h
    obtain ⟨hnew, rfl⟩ := h
    simp [hnew]
  | _ =>
    obtain rfl := Option.some.inj h
    simp

theorem receive_eq_some (h : n.receive = some n') :
    ∃ c rest, n.commands = c :: rest ∧ n' = { n with commands := rest }.dispatch c := by
  simp only [receive] at h
  cases hc : n.commands with
  | nil => simp [hc] at h
  | cons c rest => exact ⟨c, rest, rfl, by simpa [hc] using h.symm⟩

theorem answerAlarm_cases (n : NativeSide) (o : Outcome) :
    (∃ id, n.loop = .waiting .alarm id ∧
        n.answerAlarm o = { n with alarmPending := none }.resolve .alarm o) ∨
      n.answerAlarm o = { n with alarmPending := none } := by
  unfold answerAlarm
  split
  · next id id' hloop hkey =>
      split_ifs
      · exact .inl ⟨id, hloop, rfl⟩
      · exact .inr rfl
  · exact .inr rfl

/-- A result is for the request that the loop waits for, or it is dropped. The
alarm key is all that it changes besides. The result of an alarm may be for a
later alarm. -/
theorem answer_cases (n : NativeSide) (r : Request) (id : Nat) (o : Outcome) :
    ∃ a, (∃ r' id', n.loop = .waiting r' id' ∧ (r' = .alarm ∨ r ≠ .alarm ∧ id' = id) ∧
        n.answer r id o = { n with alarmPending := a }.resolve r' o) ∨
      ((r = .alarm ∨ ∀ r', n.loop ≠ .waiting r' id) ∧
        n.answer r id o = { n with alarmPending := a }) := by
  by_cases hr : r = .alarm
  · refine ⟨none, ?_⟩
    rw [answer, if_pos hr]
    obtain ⟨id', hloop, hanswer⟩ | hanswer := answerAlarm_cases n o
    · exact .inl ⟨.alarm, id', hloop, .inl rfl, hanswer⟩
    · exact .inr ⟨.inl hr, hanswer⟩
  · refine ⟨n.alarmPending, ?_⟩
    by_cases hwaits : ∃ r', n.loop = .waiting r' id
    · obtain ⟨r', hloop⟩ := hwaits
      have hanswer : n.answer r id o = n.resolve r' o := by simp [answer, hr, hloop]
      exact .inl ⟨r', id, hloop, .inr ⟨hr, rfl⟩, hanswer⟩
    · have hloop := not_exists.mp hwaits
      refine .inr ⟨.inr hloop, ?_⟩
      unfold answer
      split
      · contradiction
      · split
        · next r' id' hl =>
            have hid : id' ≠ id := fun heq => hloop r' (heq ▸ hl)
            rw [if_neg hid]
        · rfl

theorem dispatch_frame (n : NativeSide) (c : Command) :
    (n.dispatch c).commands = n.commands ∧ (n.dispatch c).opened = n.opened ∧
      (n.dispatch c).saving = n.saving + if c = .saveState then 1 else 0 := by
  cases c with
  | result r id o =>
    obtain ⟨a, ⟨r', -, -, -, h⟩ | ⟨-, h⟩⟩ := answer_cases n r id o <;> simp [dispatch, h, resolve]
  | actorStartResult ok =>
    by_cases hstart : n.loop = .starting <;> simp [dispatch, hstart]
  | _ => exact ⟨rfl, rfl, rfl⟩

@[simp] theorem dispatch_commands (n : NativeSide) (c : Command) :
    (n.dispatch c).commands = n.commands := (dispatch_frame n c).1

@[simp] theorem dispatch_opened (n : NativeSide) (c : Command) :
    (n.dispatch c).opened = n.opened := (dispatch_frame n c).2.1

/-- Only a save starts a state write. -/
theorem dispatch_saving (n : NativeSide) (c : Command) :
    (n.dispatch c).saving = n.saving + if c = .saveState then 1 else 0 := (dispatch_frame n c).2.2

/-- A command makes native send nothing but close events. -/
theorem dispatch_events (n : NativeSide) (c : Command) :
    ∃ es, (n.dispatch c).events = n.events ++ es ∧ ∀ e ∈ es, e.plain = true := by
  cases c with
  | result r id o =>
    obtain ⟨a, ⟨r', -, -, -, h⟩ | ⟨-, h⟩⟩ := answer_cases n r id o
    · exact ⟨r'.answered o, by simp [dispatch, h, resolve], r'.plain_answered o⟩
    · exact ⟨[], by simp [dispatch, h], by simp⟩
  | actorStartResult ok =>
    refine ⟨[], ?_, by simp⟩
    by_cases hstart : n.loop = .starting <;> simp [dispatch, hstart]
  | _ => exact ⟨[], by simp [dispatch], by simp⟩

@[simp] theorem requests_dispatch (n : NativeSide) (c : Command) :
    requests (n.dispatch c).events = requests n.events := by
  obtain ⟨es, hes, hplain⟩ := dispatch_events n c
  simp [hes, requests_plain hplain]

theorem expire_eq_some (h : n.expire = some n') :
    n.loop = .starting ∧ n' = { n with loop := .ended } ∨
      ∃ r id, n.loop = .waiting r id ∧
        n' = { n with
          loop := if r.isStop then .ended else .idle
          events := n.events ++ r.expired id } := by
  simp only [expire] at h
  cases hl : n.loop with
  | starting => exact .inl ⟨rfl, by simpa [hl] using h.symm⟩
  | waiting r id => exact .inr ⟨r, id, rfl, by simpa [hl] using h.symm⟩
  | _ => simp [hl] at h

/-- An expired correlation makes native send nothing but an abort event. -/
theorem expire_events (h : n.expire = some n') :
    ∃ es, n'.events = n.events ++ es ∧ ∀ e ∈ es, e.plain = true := by
  obtain ⟨-, rfl⟩ | ⟨r, id, -, rfl⟩ := expire_eq_some h
  · exact ⟨[], by simp, by simp⟩
  · exact ⟨r.expired id, rfl, r.plain_expired id⟩

theorem expire_frame (h : n.expire = some n') :
    n'.opened = n.opened ∧ n'.saving = n.saving ∧ n'.commands = n.commands := by
  obtain ⟨-, rfl⟩ | ⟨r, id, -, rfl⟩ := expire_eq_some h <;> exact ⟨rfl, rfl, rfl⟩

theorem requests_expire (h : n.expire = some n') : requests n'.events = requests n.events := by
  obtain ⟨es, hes, hplain⟩ := expire_events h
  simp [hes, requests_plain hplain]

theorem send_eq_some {e : Event} (h : n.send e = some n') :
    n.loop ≠ .created ∧ n.loop ≠ .starting ∧ n' = { n with events := n.events ++ [e] } := by
  simp only [send, Option.ite_none_left_eq_some, Option.some.injEq, not_or] at h
  exact ⟨h.1.1, h.1.2, h.2.symm⟩

end NativeSide

/-! ### Go -/

namespace PumpSide

variable {p p' : PumpSide} {cs : List Command}

/-- The part of the pump that an acknowledgement looks at. -/
def saves (p : PumpSide) : Bool × Bool × Bool × Poller :=
  (p.saveResult, p.savePoisoned, p.lateSave, p.poller)

/-- What handling a request does: the worker is there, and the request goes to
the end of its mailbox, after the close events of a stop. -/
theorem handleRequest_eq_ok {identity : Identity} {draining accepted : Bool} {r : Request}
    {id : Nat} (h : p.handleRequest identity draining accepted r id = .ok (p', cs)) :
    p.worker.registered = true ∧
      (∃ closes, (∀ e ∈ closes, ∃ wsId, e = .wsClose wsId) ∧
        p'.mailbox = p.mailbox ++ closes ++ [.request r id]) ∧
      (∀ c ∈ cs, ∃ wsId, c = .wsHibernate wsId) ∧
      p'.worker = p.worker ∧
      ((∀ body, r ≠ .http body) ∧ p'.http = p.http ∨
        ∃ body, r = .http body ∧ id ∉ p.http ∧ p'.http = id :: p.http) ∧
      ((∀ wsId c, r ≠ .wsOpen wsId c) ∧ p'.websockets.Sublist p.websockets ∨
        ∃ wsId c, r = .wsOpen wsId c ∧ p'.websockets = (wsId, c) :: p.websockets) ∧
      p'.accepting = p.accepting ∧ p'.saves = p.saves := by
  simp only [handleRequest, Check.ite_error_eq_ok] at h
  obtain ⟨hreg, h⟩ := h
  refine ⟨by simpa using hreg, ?_⟩
  cases r with
  | http body =>
    simp only [Check.ite_error_eq_ok, Except.ok.injEq, Prod.mk.injEq] at h
    obtain ⟨hid, rfl, rfl⟩ := h
    exact ⟨⟨[], by simp, by simp [put]⟩, by simp [put, hid, saves]⟩
  | wsOpen wsId c =>
    simp only [Check.ite_error_eq_ok, Except.ok.injEq, Prod.mk.injEq] at h
    obtain ⟨hws, rfl, rfl⟩ := h
    exact ⟨⟨[], by simp, by simp [put]⟩, by simp [put, saves]⟩
  | stop reason =>
    simp only [Check.ite_error_eq_ok, Except.ok.injEq, Prod.mk.injEq] at h
    obtain ⟨-, rfl, rfl⟩ := h
    refine ⟨⟨_, ?_, rfl⟩, ?_, by simp [put, detachActorWebSockets, saves]⟩
    · simp only [detachActorWebSockets, List.mem_map]
      rintro e ⟨w, -, rfl⟩
      exact ⟨_, rfl⟩
    · simp only [detachActorWebSockets, List.mem_map]
      rintro e ⟨w, -, rfl⟩
      exact ⟨_, rfl⟩
  | _ =>
    simp only [Except.ok.injEq, Prod.mk.injEq] at h
    obtain ⟨rfl, rfl⟩ := h
    exact ⟨⟨[], by simp, by simp [put]⟩, by simp [put, saves]⟩

/-- What one step with an acknowledgement does. -/
inductive Persisted (p : PumpSide) : PumpSide → Prop where
  | ready : p.poller = .ready → Persisted p p
  | completed : p.poller = .found → p.saveResult = true →
      Persisted p { p with saveResult := false, poller := .ready }
  | notPending : p.poller = .found → p.saveResult = false →
      Persisted p { p with poller := .notPending }
  | unpoisoned : p.poller = .notPending → p.savePoisoned = true →
      Persisted p { p with savePoisoned := false, poller := .consuming }
  | notPoisoned : p.poller = .notPending → p.savePoisoned = false →
      Persisted p { p with poller := .late true }
  | consumed : p.poller = .consuming → p.lateSave = true →
      Persisted p { p with lateSave := false, poller := .ready }
  | notConsumed : p.poller = .consuming → p.lateSave = false →
      Persisted p { p with poller := .late true }
  | late {known : Bool} : p.poller = .late known → p.lateSave = true →
      Persisted p { p with lateSave := false, poller := .ready }

theorem handlePersisted_eq_ok {identity : Identity} (h : p.handlePersisted identity = .ok p') :
    p.Persisted p' := by
  cases hpoller : p.poller with
  | ready =>
    obtain rfl : p = p' := by simpa [handlePersisted, hpoller] using h
    exact .ready hpoller
  | found =>
    simp only [handlePersisted, hpoller, Except.ok.injEq] at h
    split_ifs at h with hresult
    · exact h ▸ .completed hpoller hresult
    · exact h ▸ .notPending hpoller (Bool.eq_false_iff.mpr hresult)
  | notPending =>
    simp only [handlePersisted, hpoller, Except.ok.injEq] at h
    split_ifs at h with hpoisoned
    · exact h ▸ .unpoisoned hpoller hpoisoned
    · exact h ▸ .notPoisoned hpoller (Bool.eq_false_iff.mpr hpoisoned)
  | consuming =>
    simp only [handlePersisted, hpoller, Except.ok.injEq] at h
    split_ifs at h with hlate
    · exact h ▸ .consumed hpoller hlate
    · exact h ▸ .notConsumed hpoller (Bool.eq_false_iff.mpr hlate)
  | late known =>
    simp only [handlePersisted, hpoller] at h
    split_ifs at h with hlate
    exact Except.ok.inj h ▸ .late hpoller hlate

/-- A step with an acknowledgement changes nothing but the saves. -/
theorem Persisted.frame (h : p.Persisted p') :
    ∃ result poisoned late poller, p' = { p with
      saveResult := result, savePoisoned := poisoned, lateSave := late, poller := poller } := by
  cases h <;> exact ⟨_, _, _, _, rfl⟩

/-- What an event other than a request does to the side of Go. -/
inductive Handled (p : PumpSide) : Event → PumpSide → Prop where
  | actorStart : p.worker.registered = false →
      Handled p .actorStart { p with worker := .starting, accepting := true, done := false }
  | httpRequestChunk {id : Nat} {body : Bytes} {finish : Bool} : id ∈ p.http →
      Handled p (.httpRequestChunk id body finish) p
  | httpRequestAbort {id : Nat} : Handled p (.httpRequestAbort id) p
  | wsMessage {wsId : String} : Handled p (.wsMessage wsId) (p.put (.wsMessage wsId))
  | wsMessageUnknown {wsId : String} : Handled p (.wsMessage wsId) p
  | wsClose {wsId : String} :
      Handled p (.wsClose wsId) ((p.removeWebSocket wsId).put (.wsClose wsId))
  | wsCloseUnknown {wsId : String} : Handled p (.wsClose wsId) (p.removeWebSocket wsId)
  | statePersisted :
      Handled p .statePersisted
        { p with poller := if p.worker.registered then .found else .late false }

/-- An event is a request, or it is handled without a command. -/
theorem handleInternalEvent_eq_ok {identity : Identity} {draining accepted : Bool} {e : Event}
    (h : p.handleInternalEvent identity draining accepted e = .ok (p', cs)) :
    (∃ r id, e = .request r id ∧ p.handleRequest identity draining accepted r id = .ok (p', cs)) ∨
      cs = [] ∧ Handled p e p' := by
  cases e with
  | request r id => exact .inl ⟨r, id, rfl, h⟩
  | actorStart =>
    simp only [handleInternalEvent, Check.ite_error_eq_ok, Except.ok.injEq, Prod.mk.injEq] at h
    obtain ⟨hreg, rfl, rfl⟩ := h
    exact .inr ⟨rfl, .actorStart (by simpa using hreg)⟩
  | httpRequestChunk id body finish =>
    simp only [handleInternalEvent] at h
    split_ifs at h with hid
    simp only [Except.ok.injEq, Prod.mk.injEq] at h
    obtain ⟨rfl, rfl⟩ := h
    exact .inr ⟨rfl, .httpRequestChunk hid⟩
  | httpRequestAbort id =>
    simp only [handleInternalEvent, Except.ok.injEq, Prod.mk.injEq] at h
    obtain ⟨rfl, rfl⟩ := h
    exact .inr ⟨rfl, .httpRequestAbort⟩
  | wsMessage wsId =>
    simp only [handleInternalEvent] at h
    split_ifs at h
    · simp only [Except.ok.injEq, Prod.mk.injEq] at h
      obtain ⟨rfl, rfl⟩ := h
      exact .inr ⟨rfl, .wsMessage⟩
    · simp only [Except.ok.injEq, Prod.mk.injEq] at h
      obtain ⟨rfl, rfl⟩ := h
      exact .inr ⟨rfl, .wsMessageUnknown⟩
  | wsClose wsId =>
    simp only [handleInternalEvent] at h
    split_ifs at h
    · simp only [Except.ok.injEq, Prod.mk.injEq] at h
      obtain ⟨rfl, rfl⟩ := h
      exact .inr ⟨rfl, .wsClose⟩
    · simp only [Except.ok.injEq, Prod.mk.injEq] at h
      obtain ⟨rfl, rfl⟩ := h
      exact .inr ⟨rfl, .wsCloseUnknown⟩
  | statePersisted =>
    simp only [handleInternalEvent, Except.ok.injEq, Prod.mk.injEq] at h
    obtain ⟨rfl, rfl⟩ := h
    exact .inr ⟨rfl, .statePersisted⟩

theorem started_eq_some {o : Outcome} (h : p.started o = some (p', cs)) :
    p.worker = .starting ∧ p' = { p with worker := if o = .ok then .ready else .leaving } ∧
      cs = [.actorStartResult (o = .ok)] := by
  simp only [started, Option.ite_none_right_eq_some, Option.some.injEq, Prod.mk.injEq] at h
  exact ⟨h.1, h.2.1.symm, h.2.2.symm⟩

theorem take_eq_some (h : p.take = some p') :
    p.worker = .ready ∧ ∃ e rest, p.mailbox = e :: rest ∧
      p' = { p with worker := .busy e, mailbox := rest } := by
  simp only [take] at h
  cases hw : p.worker with
  | ready =>
    cases hm : p.mailbox with
    | nil => simp [hw, hm] at h
    | cons e rest => exact ⟨rfl, e, rest, rfl, by simpa [hw, hm] using h.symm⟩
  | _ => simp [hw] at h

theorem respond_eq_some (h : p.respond = some cs) :
    ∃ body id, p.worker = .busy (.request (.http body) id) ∧
      cs = [.result (.http body) id .ok] := by
  simp only [respond] at h
  split at h
  · next body id hw => exact ⟨body, id, hw, by simpa using h.symm⟩
  · cases h

end PumpSide

/-- The result makes the worker leave its loop. -/
def Request.leaves : Request → Outcome → Bool
  | .action, .panicked => true
  | .http _, .panicked => true
  | .stop _, _ => true
  | _, _ => false

namespace PumpSide

variable {p p' : PumpSide} {cs : List Command}

/-- What the end of the handler of a request does. -/
theorem finishRequest_eq_some {r : Request} {id : Nat} {o : Outcome}
    (h : p.finishRequest r id o = some (p', cs)) :
    p'.worker = (if r.leaves o then .leaving else .ready) ∧ p'.mailbox = p.mailbox ∧
      (cs = [] ∧ r.leaves o = false ∨ cs = [.result r id o]) ∧
      ((∀ body, r ≠ .http body) ∧ p'.http = p.http ∨
        ∃ body, r = .http body ∧ p'.http = p.http.erase id) ∧
      p'.websockets.Sublist p.websockets ∧
      (p'.accepting = true → p.accepting = true) ∧ p'.saves = p.saves := by
  cases r with
  | action | http body | alarm | connection kind =>
    simp only [finishRequest, Option.some.injEq, Prod.mk.injEq] at h
    obtain ⟨rfl, rfl⟩ := h
    cases o <;> simp [Request.leaves, saves]
  | wsOpen wsId c =>
    simp only [finishRequest, Option.some.injEq, Prod.mk.injEq] at h
    obtain ⟨rfl, rfl⟩ := h
    cases o <;> simp [Request.leaves, removeWebSocket, saves]
  | stop reason =>
    simp only [finishRequest, Option.ite_none_left_eq_some, Option.some.injEq,
      Prod.mk.injEq] at h
    obtain ⟨-, rfl, rfl⟩ := h
    simp [Request.leaves, saves]

theorem finish_eq_some {o : Outcome} (h : p.finish o = some (p', cs)) :
    ∃ e, p.worker = .busy e ∧
      ((∃ r id, e = .request r id ∧ p.finishRequest r id o = some (p', cs)) ∨
        e.request? = none ∧ p' = { p with worker := .ready } ∧ cs = []) := by
  simp only [finish] at h
  cases hw : p.worker with
  | busy e =>
    refine ⟨e, rfl, ?_⟩
    cases e with
    | request r id => exact .inl ⟨r, id, rfl, by simpa [hw] using h⟩
    | _ =>
      simp only [hw, Option.some.injEq, Prod.mk.injEq] at h
      exact .inr ⟨rfl, h.1.symm, h.2.symm⟩
  | _ => simp [hw] at h

theorem abort_eq_some (h : p.abort = some p') :
    p.worker = .leaving ∧
      p' = { p with worker := .aborted, http := [], accepting := false, done := true } := by
  simp only [abort, Option.ite_none_right_eq_some, Option.some.injEq] at h
  exact ⟨h.1, h.2.symm⟩

theorem remove_eq_some (h : p.remove = some p') :
    p.worker = .aborted ∧ p.activeSave = false ∧
      p' = { p with worker := .removed, websockets := [] } := by
  simp only [remove, Option.ite_none_right_eq_some, Option.some.injEq] at h
  exact ⟨h.1.1, h.1.2, h.2.symm⟩

theorem save_eq_some (h : p.save = some (p', cs)) :
    p.accepting = true ∧ p.savePoisoned = false ∧ p.saveResult = false ∧
      p' = { p with activeSave := true, saveResult := true } ∧ cs = [.saveState] := by
  simp only [save, Option.ite_none_right_eq_some, Option.some.injEq, Prod.mk.injEq,
    Bool.not_eq_true] at h
  exact ⟨h.1.1, h.1.2.2.1, h.1.2.2.2, h.2.1.symm, h.2.2.symm⟩

theorem saved_eq_some (h : p.saved = some p') : p' = { p with activeSave := false } := by
  simp only [saved, Option.ite_none_right_eq_some, Option.some.injEq] at h
  exact h.2.symm

theorem abandonSave_eq_some (h : p.abandonSave = some p') :
    p.saveResult = true ∧ p' = { p with
      activeSave := false, saveResult := false, savePoisoned := true, lateSave := true } := by
  simp only [abandonSave, Option.ite_none_right_eq_some, Option.some.injEq] at h
  exact ⟨h.1.2, h.2.symm⟩

theorem interruptSave_eq_some (h : p.interruptSave = some p') :
    p' = { p with activeSave := false } := by
  simp only [interruptSave, Option.ite_none_right_eq_some, Option.some.injEq] at h
  exact h.2.symm

end PumpSide

/-! ### Both sides -/

/-- Everything that a step can do, with its guards. -/
inductive Move (identity : Identity) (s : State) : Action → State → Prop where
  | start : s.native.loop = .created →
      Move identity s .start { s with
        native := { s.native with loop := .starting, events := s.native.events ++ [.actorStart] } }
  | request {r : Request} {id : Nat} {n : NativeSide} : s.native.request r id = some n →
      Move identity s (.request r id) { s with native := n }
  | receive {c : Command} {rest : List Command} : s.native.commands = c :: rest →
      Move identity s .receive { s with native := { s.native with commands := rest }.dispatch c }
  | expire {n : NativeSide} : s.native.expire = some n →
      Move identity s .expire { s with native := n }
  | sweep {alarm : Option Nat} :
      Move identity s .sweep { s with native := { s.native with alarmPending := alarm } }
  | persist {k : Nat} : s.native.saving = k + 1 →
      Move identity s .persist { s with
        native := { s.native with saving := k, events := s.native.events ++ [.statePersisted] } }
  | wsMessage {wsId : String} {n : NativeSide} : s.native.send (.wsMessage wsId) = some n →
      Move identity s (.wsMessage wsId) { s with native := n }
  | wsClose {wsId : String} {n : NativeSide} : s.native.send (.wsClose wsId) = some n →
      Move identity s (.wsClose wsId) { s with native := n }
  | endLoop : s.native.loop = .idle →
      Move identity s .endLoop { s with native := { s.native with loop := .ended } }
  | poll {draining : Bool} {e : Event} {rest : List Event} {p : PumpSide} {cs : List Command} :
      s.native.events = e :: rest →
      s.pump.handleInternalEvent identity draining true e = .ok (p, cs) →
      s.pump.poller = .ready →
      Move identity s (.poll draining)
        ({ s with native := { s.native with events := rest } }.submit (p, cs))
  | persisted {p : PumpSide} : s.pump.Persisted p →
      Move identity s .persisted { s with pump := p }
  | started {o : Outcome} : s.pump.worker = .starting →
      Move identity s (.started o)
        (s.submit ({ s.pump with worker := if o = .ok then .ready else .leaving },
          [.actorStartResult (o = .ok)]))
  | take {e : Event} {rest : List Event} : s.pump.worker = .ready → s.pump.mailbox = e :: rest →
      Move identity s .take { s with pump := { s.pump with worker := .busy e, mailbox := rest } }
  | respond {body : Bytes} {id : Nat} : s.pump.worker = .busy (.request (.http body) id) →
      Move identity s .respond (s.submit (s.pump, [.result (.http body) id .ok]))
  | finishRequest {r : Request} {id : Nat} {o : Outcome} {p : PumpSide} {cs : List Command} :
      s.pump.worker = .busy (.request r id) → s.pump.finishRequest r id o = some (p, cs) →
      Move identity s (.finish o) (s.submit (p, cs))
  | finishOther {e : Event} {o : Outcome} : s.pump.worker = .busy e → e.request? = none →
      Move identity s (.finish o) { s with pump := { s.pump with worker := .ready } }
  | abort : s.pump.worker = .leaving →
      Move identity s .abort { s with
        pump := { s.pump with worker := .aborted, http := [], accepting := false, done := true } }
  | remove : s.pump.worker = .aborted → s.pump.activeSave = false →
      Move identity s .remove { s with
        pump := { s.pump with worker := .removed, websockets := [] } }
  | save : s.pump.accepting = true → s.pump.savePoisoned = false → s.pump.saveResult = false →
      Move identity s .save
        (s.submit ({ s.pump with activeSave := true, saveResult := true }, [.saveState]))
  | saved : Move identity s .saved { s with pump := { s.pump with activeSave := false } }
  | abandonSave : s.pump.saveResult = true →
      Move identity s .abandonSave { s with
        pump := { s.pump with
          activeSave := false, saveResult := false, savePoisoned := true, lateSave := true } }
  | interruptSave :
      Move identity s .interruptSave { s with pump := { s.pump with activeSave := false } }

variable {identity : Identity} {s s' : State}

/-- The poller takes the first event, and `handleInternalEvent` accepts it. -/
theorem poll_eq_some {draining : Bool} (h : s.poll identity draining = some s') :
    s.pump.poller = .ready ∧ ∃ e rest p cs, s.native.events = e :: rest ∧
      s.pump.handleInternalEvent identity draining true e = .ok (p, cs) ∧
      s' = { s with native := { s.native with events := rest } }.submit (p, cs) := by
  simp only [State.poll] at h
  split at h
  · next e rest hready hevents =>
      refine ⟨hready, e, rest, ?_⟩
      cases hr : s.pump.handleInternalEvent identity draining true e with
      | error m => simp [hr] at h
      | ok r => exact ⟨r.1, r.2, hevents, rfl, by simpa [hr] using h.symm⟩
  · cases h

theorem persisted_eq_some (h : s.persisted identity = some s') :
    ∃ p, s.pump.Persisted p ∧ s' = { s with pump := p } := by
  simp only [State.persisted] at h
  cases hr : s.pump.handlePersisted identity with
  | error m => simp [hr] at h
  | ok p => exact ⟨p, PumpSide.handlePersisted_eq_ok hr, by simpa [hr] using h.symm⟩

theorem move_of_step {a : Action} (h : step identity s a = some s') : Move identity s a s' := by
  cases a with
  | start =>
    simp only [step, Option.ite_none_right_eq_some, Option.some.injEq] at h
    obtain ⟨hcreated, rfl⟩ := h
    exact .start hcreated
  | request r id =>
    obtain ⟨n, hn, rfl⟩ := Option.map_eq_some_iff.mp h
    exact .request hn
  | receive =>
    obtain ⟨n, hn, rfl⟩ := Option.map_eq_some_iff.mp h
    obtain ⟨c, rest, hc, rfl⟩ := NativeSide.receive_eq_some hn
    exact .receive hc
  | expire =>
    obtain ⟨n, hn, rfl⟩ := Option.map_eq_some_iff.mp h
    exact .expire hn
  | sweep =>
    obtain rfl := Option.some.inj h
    exact .sweep
  | persist =>
    simp only [step] at h
    cases hsaving : s.native.saving with
    | zero => simp [hsaving] at h
    | succ k =>
      simp only [hsaving, Option.some.injEq] at h
      subst h
      exact .persist hsaving
  | wsMessage wsId =>
    obtain ⟨n, hn, rfl⟩ := Option.map_eq_some_iff.mp h
    exact .wsMessage hn
  | wsClose wsId =>
    obtain ⟨n, hn, rfl⟩ := Option.map_eq_some_iff.mp h
    exact .wsClose hn
  | endLoop =>
    simp only [step, Option.ite_none_right_eq_some, Option.some.injEq] at h
    obtain ⟨hidle, rfl⟩ := h
    exact .endLoop hidle
  | poll draining =>
    obtain ⟨hready, e, rest, p, cs, hevents, hhandle, rfl⟩ := poll_eq_some h
    exact .poll hevents hhandle hready
  | persisted =>
    obtain ⟨p, hp, rfl⟩ := persisted_eq_some h
    exact .persisted hp
  | started o =>
    obtain ⟨⟨p, cs⟩, hp, rfl⟩ := Option.map_eq_some_iff.mp h
    obtain ⟨hworker, rfl, rfl⟩ := PumpSide.started_eq_some hp
    exact .started hworker
  | take =>
    obtain ⟨p, hp, rfl⟩ := Option.map_eq_some_iff.mp h
    obtain ⟨hworker, e, rest, hmailbox, rfl⟩ := PumpSide.take_eq_some hp
    exact .take hworker hmailbox
  | respond =>
    obtain ⟨cs, hcs, rfl⟩ := Option.map_eq_some_iff.mp h
    obtain ⟨body, id, hworker, rfl⟩ := PumpSide.respond_eq_some hcs
    exact .respond hworker
  | finish o =>
    obtain ⟨⟨p, cs⟩, hp, rfl⟩ := Option.map_eq_some_iff.mp h
    obtain ⟨e, hworker, ⟨r, id, rfl, hfin⟩ | ⟨he, rfl, rfl⟩⟩ := PumpSide.finish_eq_some hp
    · exact .finishRequest hworker hfin
    · simpa [State.submit] using Move.finishOther hworker he
  | abort =>
    obtain ⟨p, hp, rfl⟩ := Option.map_eq_some_iff.mp h
    obtain ⟨hworker, rfl⟩ := PumpSide.abort_eq_some hp
    exact .abort hworker
  | remove =>
    obtain ⟨p, hp, rfl⟩ := Option.map_eq_some_iff.mp h
    obtain ⟨hworker, hsave, rfl⟩ := PumpSide.remove_eq_some hp
    exact .remove hworker hsave
  | save =>
    obtain ⟨⟨p, cs⟩, hp, rfl⟩ := Option.map_eq_some_iff.mp h
    obtain ⟨haccepting, hpoisoned, hresult, rfl, rfl⟩ := PumpSide.save_eq_some hp
    exact .save haccepting hpoisoned hresult
  | saved =>
    obtain ⟨p, hp, rfl⟩ := Option.map_eq_some_iff.mp h
    obtain rfl := PumpSide.saved_eq_some hp
    exact .saved
  | abandonSave =>
    obtain ⟨p, hp, rfl⟩ := Option.map_eq_some_iff.mp h
    obtain ⟨hresult, rfl⟩ := PumpSide.abandonSave_eq_some hp
    exact .abandonSave hresult
  | interruptSave =>
    obtain ⟨p, hp, rfl⟩ := Option.map_eq_some_iff.mp h
    obtain rfl := PumpSide.interruptSave_eq_some hp
    exact .interruptSave

end RivetGo.Pump

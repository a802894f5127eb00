import RivetGo.Pump.Tables

/-!
# The failure of an actor stays local

In every contained run `handleInternalEvent` accepts the event at the head of
the queue, so that nothing an actor does ends the runner. Without the conditions
of `Contained` a handler that overruns the deadline of native and then panics
ends it: native has dropped the request and its loop goes on, Go has taken the
worker out of the table, and the next request finds no worker.
-/

namespace RivetGo.Pump

open Run (Reachable)

variable {identity : Identity} {s : State}

/-- All that holds in every state of a contained run. -/
structure Sound (s : State) : Prop where
  ordered : Ordered s
  starts : Starts s
  stops : Stops s
  leaves : Leaves s
  covered : Covered s.pump.http s.native.events
  tables : Tables s
  saves : SaveBook s

theorem sound_initial : Sound initial :=
  ⟨ordered_initial, starts_initial, stops_initial, leaves_initial, trivial, tables_initial,
    saveBook_initial⟩

theorem sound_step : Run.Keeps (step identity) Contained Sound := by
  intro s a s' hs hc hstep
  have hmove := move_of_step hstep
  exact ⟨hmove.ordered hs.ordered, hmove.starts hs.starts, hmove.stops hs.ordered hs.stops,
    hmove.leaves hc hs.ordered hs.starts hs.stops hs.leaves, hmove.covered hc hs.covered,
    hmove.tables hs.tables, hmove.saveBook hc hs.starts hs.saves⟩

theorem Reachable.sound (h : Reachable (step identity) Contained initial s) : Sound s :=
  h.invariant sound_initial sound_step

/-- A request at the head of the queue finds its worker. -/
theorem Sound.registered {r : Request} {id : Nat} {rest : List Event} (hs : Sound s)
    (hevents : s.native.events = .request r id :: rest) : s.pump.worker.registered = true := by
  have hmem : (r, id) ∈ s.pipeline := by
    simp [State.pipeline, State.inFlight, hevents]
  cases hw : s.pump.worker with
  | unborn =>
    have hnil := hs.starts.pipeline (by simp [hw, Worker.fresh])
    simp [hnil] at hmem
  | removed =>
    have hnil := hs.leaves.drained (by simp [hw, Worker.left])
    simp [hevents] at hnil
  | _ => rfl

/-- A request at the head of the queue is accepted. -/
theorem Sound.handleRequest_ok {r : Request} {id : Nat} {rest : List Event} (hs : Sound s)
    (hevents : s.native.events = .request r id :: rest) (draining : Bool) :
    ∃ x, s.pump.handleRequest identity draining true r id = .ok x := by
  have hreg := hs.registered hevents
  simp only [PumpSide.handleRequest, hreg, Bool.true_eq_false, if_false]
  cases r with
  | http body =>
    have hnew : id ∉ s.pump.http := by
      have hnodup := hs.tables.http.nodup
      simp only [NativeSide.httpIds, hevents, requests_cons] at hnodup
      intro hid
      exact (List.nodup_append.mp hnodup).2.2 id hid id (by simp) rfl
    simp [hnew]
  | wsOpen wsId c =>
    have hnew : wsId ∉ s.pump.websockets.map Prod.fst := by
      have hnodup := hs.tables.sockets.nodup
      simp only [NativeSide.wsIds, hevents, requests_cons] at hnodup
      intro hid
      exact (List.nodup_append.mp hnodup).2.2 wsId hid wsId (by simp) rfl
    have hany : s.pump.websockets.any (·.1 == wsId) = false := by
      apply List.any_eq_false.mpr
      intro w hw heq
      exact hnew (List.mem_map.mpr ⟨w, hw, by simpa using heq⟩)
    simp [hany]
  | stop reason => simp
  | _ => simp

/-- The acknowledgement that the poller has in hand finds its save. -/
theorem Sound.handlePersisted_ok (hs : Sound s) (identity : Identity) :
    ∃ p, s.pump.handlePersisted identity = .ok p := by
  have haccounted := hs.saves.accounted
  cases hpoller : s.pump.poller with
  | late known =>
    simp only [PumpSide.Accounted, hpoller] at haccounted
    simp [PumpSide.handlePersisted, hpoller, haccounted.2]
  | _ => simp [PumpSide.handlePersisted, hpoller]

theorem Sound.handleInternalEvent_ok {e : Event} {rest : List Event} (hs : Sound s)
    (identity : Identity) (hevents : s.native.events = e :: rest) (draining : Bool) :
    ∃ x, s.pump.handleInternalEvent identity draining true e = .ok x := by
  cases e with
  | actorStart =>
    have hunborn : s.pump.worker = .unborn := by
      by_contra hne
      exact hs.starts.born hne (hevents ▸ List.mem_cons_self)
    simp [PumpSide.handleInternalEvent, hunborn, Worker.registered]
  | request r id => exact hs.handleRequest_ok hevents draining
  | httpRequestChunk id b f =>
    have hcovered := hs.covered
    rw [hevents] at hcovered
    simp [PumpSide.handleInternalEvent, hcovered.1]
  | httpRequestAbort id => exact ⟨_, rfl⟩
  | wsMessage wsId =>
    simp only [PumpSide.handleInternalEvent]
    split_ifs <;> exact ⟨_, rfl⟩
  | wsClose wsId =>
    simp only [PumpSide.handleInternalEvent]
    split_ifs <;> exact ⟨_, rfl⟩
  | statePersisted => exact ⟨_, rfl⟩

/-- In a run that keeps failures local, `handleInternalEvent` accepts every event,
and an acknowledgement that it has in hand is accepted at every later step too. -/
theorem handleInternalEvent_ok_of_contained
    (h : Reachable (step identity) Contained initial s) (draining : Bool) :
    (∀ e rest, s.native.events = e :: rest →
        ∃ x, s.pump.handleInternalEvent identity draining true e = .ok x) ∧
      ∃ p, s.pump.handlePersisted identity = .ok p := by
  have hs := Reachable.sound h
  exact ⟨fun _ _ hevents => hs.handleInternalEvent_ok identity hevents draining,
    hs.handlePersisted_ok identity⟩

/-- The state in which an action has panicked in time. The worker has left, the
loop has ended, and a state write is to be acknowledged. -/
def panicked : State :=
  { native :=
      { loop := .ended, lastId := 1, cleaned := false, alarmPending := none, opened := []
        saving := 0, events := [.statePersisted], commands := [] }
    pump :=
      { worker := .leaving, mailbox := [], http := [], websockets := [], accepting := true
        done := false, activeSave := true, saveResult := true, savePoisoned := false
        lateSave := false } }

/-- A save waits for its acknowledgement, which is queued. -/
def saveWritten : State :=
  { native := { panicked.native with loop := .idle, lastId := 0 }
    pump := { panicked.pump with worker := .ready } }

/-- The action is in its handler, and a save is on its way. -/
def actionRuns : State :=
  { native :=
      { panicked.native with loop := .waiting .action 1, events := [], commands := [.saveState] }
    pump := { panicked.pump with worker := .busy (.request .action 1) } }

/-- A save is given up, and another one begins while the poller takes away the
entry of the first. Then an action panics in time. The acknowledgement of the
second save is accepted. -/
theorem panic_in_time_contained :
    Reachable (step ⟨"actor-1", 1⟩) Contained initial panicked ∧
      ∃ x, panicked.pump.handleInternalEvent ⟨"actor-1", 1⟩ false true .statePersisted =
        .ok x := by
  have hsave : Run.Allowed (step ⟨"actor-1", 1⟩) Contained initial
      [.start, .poll false, .started .ok, .receive, .save, .receive, .persist] :=
    Run.allowed_of_forall (by simp [Contained])
  have hwritten : Reachable (step ⟨"actor-1", 1⟩) Contained initial saveWritten :=
    Reachable.init.run hsave rfl
  have haction : Run.Allowed (step ⟨"actor-1", 1⟩) Contained saveWritten
      [.abandonSave, .poll false, .persisted, .persisted, .save, .persisted, .request .action 1,
        .poll false, .take] :=
    ⟨Poller.noConfusion, trivial, trivial, trivial, trivial, trivial, rfl, trivial, trivial,
      trivial⟩
  have hbusy : Reachable (step ⟨"actor-1", 1⟩) Contained initial actionRuns :=
    hwritten.run haction rfl
  have hpanic : Run.Allowed (step ⟨"actor-1", 1⟩) Contained actionRuns
      [.finish .panicked, .receive, .receive, .persist] := by
    refine ⟨?_, trivial, trivial, trivial, trivial⟩
    intro r id hworker
    obtain ⟨rfl, rfl⟩ : .action = r ∧ 1 = id := by simpa [actionRuns] using hworker
    exact ⟨fun _ _ => ⟨rfl, rfl⟩, by simp⟩
  have hpanicked : Reachable (step ⟨"actor-1", 1⟩) Contained initial panicked :=
    hbusy.run hpanic rfl
  exact ⟨hpanicked, (handleInternalEvent_ok_of_contained hpanicked false).1 _ _ rfl⟩

/-- A handler overruns the deadline of native and then panics. -/
def overrun : List Action :=
  [.start, .poll false, .started .ok, .receive, .request .action 1, .poll false, .take, .expire,
    .finish .panicked, .receive, .abort, .remove, .request .action 2]

/-- The state after `overrun`: the loop waits for an action, and the worker is gone. -/
def overrunEnd : State :=
  { native :=
      { loop := .waiting .action 2, lastId := 2, cleaned := false, alarmPending := none
        opened := [], saving := 0, events := [.request .action 2], commands := [] }
    pump :=
      { worker := .removed, mailbox := [], http := [], websockets := [], accepting := false
        done := true, activeSave := false, saveResult := false, savePoisoned := false
        lateSave := false } }

/-- The next request of the loop, which is still running, ends the pump. -/
theorem overrun_panic_ends_pump :
    Reachable (step ⟨"actor-1", 1⟩) Run.anyAction initial overrunEnd ∧
      overrunEnd.native.loop = .waiting .action 2 ∧
      overrunEnd.native.events = [.request .action 2] ∧
      overrunEnd.pump.handleInternalEvent ⟨"actor-1", 1⟩ false true (.request .action 2) =
        .error "ActionCall for unknown actor actor-1 generation 1" :=
  ⟨Run.reachable_of_run overrun rfl, rfl, rfl, rfl⟩

end RivetGo.Pump

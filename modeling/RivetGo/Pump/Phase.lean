import RivetGo.Pump.Order

/-!
# The loop and the worker of a generation

How far the loop of native and the worker of Go can be apart. Before the worker
is ready the loop has sent no request. After the worker has left its loop, native
sends nothing more that needs it, as long as the run is `Contained`: its loop
has ended or is about to, on a result that is already on its way.
-/

namespace RivetGo.Pump

variable {identity : Identity} {s s' : State}

/-! ### Before the worker is ready -/

/-- The worker has not answered its start. -/
def Worker.fresh : Worker → Bool
  | .unborn => true
  | .starting => true
  | _ => false

/-- The loop sends nothing before it has the result of the start. -/
def Loop.early : Loop → Bool
  | .created => true
  | .starting => true
  | .ended => true
  | _ => false

structure Starts (s : State) : Prop where
  early : s.pump.worker.fresh = true → s.native.loop.early = true
  pipeline : s.pump.worker.fresh = true → s.pipeline = []
  result : s.pump.worker.fresh = true → ∀ ok, .actorStartResult ok ∉ s.native.commands
  created : s.native.loop = .created → s.pump.worker = .unborn ∧ .actorStart ∉ s.native.events
  once : s.native.events.count .actorStart ≤ 1
  born : s.pump.worker ≠ .unborn → .actorStart ∉ s.native.events

theorem starts_initial : Starts initial := by
  constructor <;> simp [initial, State.pipeline, State.inFlight, Worker.current, Loop.early]

/-- A step that neither starts the loop nor touches the start of the worker. -/
structure Starts.Frame (s s' : State) : Prop where
  fresh : s'.pump.worker.fresh = true → s'.pump.worker = s.pump.worker
  unborn : s'.pump.worker = .unborn ↔ s.pump.worker = .unborn
  early : (∀ ok, .actorStartResult ok ∉ s.native.commands) → s.native.loop.early = true →
    s'.native.loop.early = true
  created : s'.native.loop = .created → s.native.loop = .created
  pipeline : s.pipeline = [] → s'.pipeline = []
  result : ∀ ok, .actorStartResult ok ∈ s'.native.commands → s'.pump.worker.fresh = true →
    .actorStartResult ok ∈ s.native.commands
  events : s'.native.events.count .actorStart ≤ s.native.events.count .actorStart

theorem Starts.of_frame (hs : Starts s) (h : Starts.Frame s s') : Starts s' where
  early hf := by
    have hf' := h.fresh hf ▸ hf
    exact h.early (hs.result hf') (hs.early hf')
  pipeline hf := h.pipeline (hs.pipeline (h.fresh hf ▸ hf))
  result hf ok hmem := hs.result (h.fresh hf ▸ hf) ok (h.result ok hmem hf)
  created hc := by
    obtain ⟨hunborn, hnot⟩ := hs.created (h.created hc)
    refine ⟨h.unborn.mpr hunborn, ?_⟩
    have hzero := List.count_eq_zero.mpr hnot
    exact List.count_eq_zero.mp (Nat.le_zero.mp (hzero ▸ h.events))
  once := Nat.le_trans h.events hs.once
  born hne := by
    have hzero := List.count_eq_zero.mpr (hs.born (fun hu => hne (h.unborn.mpr hu)))
    exact List.count_eq_zero.mp (Nat.le_zero.mp (hzero ▸ h.events))

/-- Native goes on without a start. -/
theorem Starts.Frame.of_native {n : NativeSide} (es : List Event)
    (hevents : n.events = s.native.events ++ es) (hes : .actorStart ∉ es)
    (hpipe : Passive s { s with native := n })
    (hearly : (∀ ok, .actorStartResult ok ∉ s.native.commands) →
      s.native.loop.early = true → n.loop.early = true)
    (hcreated : n.loop = .created → s.native.loop = .created)
    (hcommands : ∀ c ∈ n.commands, c ∈ s.native.commands) :
    Starts.Frame s { s with native := n } where
  fresh _ := rfl
  unborn := .rfl
  early := hearly
  created := hcreated
  pipeline h := List.sublist_nil.mp (h ▸ hpipe.pipeline)
  result _ h _ := hcommands _ h
  events := by simp [hevents, List.count_eq_zero.mpr hes]

/-- Go goes on without a start. -/
theorem Starts.Frame.of_submit {p : PumpSide} {cs : List Command}
    (hpipe : Passive s (s.submit (p, cs)))
    (hfresh : p.worker.fresh = true → p.worker = s.pump.worker)
    (hunborn : p.worker = .unborn ↔ s.pump.worker = .unborn)
    (hcs : p.worker.fresh = true → ∀ ok, .actorStartResult ok ∉ cs) :
    Starts.Frame s (s.submit (p, cs)) where
  fresh := hfresh
  unborn := hunborn
  early _ h := h
  created h := h
  pipeline h := List.sublist_nil.mp (h ▸ hpipe.pipeline)
  result ok h hf := (List.mem_append.mp h).resolve_right (hcs hf ok)
  events := Nat.le_refl _

theorem Starts.Frame.of_pump {p : PumpSide} (hpipe : Passive s { s with pump := p })
    (hfresh : p.worker.fresh = true → p.worker = s.pump.worker)
    (hunborn : p.worker = .unborn ↔ s.pump.worker = .unborn) :
    Starts.Frame s { s with pump := p } where
  fresh := hfresh
  unborn := hunborn
  early _ h := h
  created h := h
  pipeline h := List.sublist_nil.mp (h ▸ hpipe.pipeline)
  result _ h _ := h
  events := Nat.le_refl _

theorem frame_dispatch {n : NativeSide} {c : Command} {rest : List Command}
    (hc : s.native.commands = c :: rest) (hn : n = { s.native with commands := rest }.dispatch c) :
    Starts.Frame s { s with native := n } := by
  have hpipe := passive_dispatch hc hn
  have hrest : ∀ c ∈ rest, c ∈ s.native.commands := by
    intro c hmem
    exact hc ▸ List.mem_cons_of_mem _ hmem
  cases c with
  | actorStartResult ok =>
    rw [hn, NativeSide.dispatch] at hpipe ⊢
    by_cases hstart : s.native.loop = .starting
    · rw [if_pos hstart] at hpipe ⊢
      refine .of_native [] (by simp) (by simp) hpipe ?_ (by cases ok <;> simp) hrest
      intro hnot
      exact absurd (hc ▸ List.mem_cons_self) (hnot ok)
    · rw [if_neg hstart] at hpipe ⊢
      exact .of_native [] (by simp) (by simp) hpipe (fun _ h => h) (fun h => h) hrest
  | result r id o =>
    obtain ⟨a, ⟨r', k, hloop, -, hanswer⟩ | ⟨-, hanswer⟩⟩ :=
      NativeSide.answer_cases { s.native with commands := rest } r id o
    · rw [hn, NativeSide.dispatch, hanswer] at hpipe ⊢
      refine .of_native (r'.answered o) rfl (not_mem_of_plain (r'.plain_answered o) rfl) hpipe
        ?_ ?_ hrest
      · intro _ hearly
        simp only at hloop
        simp [hloop, Loop.early] at hearly
      · cases hf : r'.fatal o <;> simp [NativeSide.resolve, hf]
    · rw [hn, NativeSide.dispatch, hanswer] at hpipe ⊢
      exact .of_native [] (by simp) (by simp) hpipe (fun _ h => h) (fun h => h) hrest
  | wsHibernate wsId | saveState =>
    subst hn
    exact .of_native [] (by simp [NativeSide.dispatch]) (by simp) hpipe (fun _ h => h)
      (fun h => h) hrest

theorem frame_expire {n : NativeSide} (h : s.native.expire = some n) :
    Starts.Frame s { s with native := n } := by
  have hpipe := passive_expire h
  obtain ⟨-, rfl⟩ | ⟨r, id, hloop, rfl⟩ := NativeSide.expire_eq_some h
  · exact .of_native [] (by simp) (by simp) hpipe (fun _ _ => rfl) (by simp) (fun _ hc => hc)
  · refine .of_native (r.expired id) rfl (not_mem_of_plain (r.plain_expired id) rfl) hpipe ?_ ?_
      (fun _ hc => hc)
    · intro _ hearly
      simp [hloop, Loop.early] at hearly
    · cases r.isStop <;> simp

theorem frame_send {n : NativeSide} {e : Event} (h : s.native.send e = some n)
    (he : e.request? = none) (hne : e ≠ .actorStart) : Starts.Frame s { s with native := n } := by
  have hpipe := passive_send h he
  obtain ⟨-, -, rfl⟩ := NativeSide.send_eq_some h
  exact .of_native [e] rfl (by simpa using hne.symm) hpipe (fun _ h => h) (fun h => h)
    (fun _ hc => hc)

theorem Starts.request {r : Request} {id : Nat} {n : NativeSide} (hs : Starts s)
    (h : s.native.request r id = some n) : Starts { s with native := n } := by
  obtain ⟨hidle, -, -, hloop, -, hevents, hcommands, -⟩ := NativeSide.request_eq_some h
  have hnot : s.pump.worker.fresh = false := by
    apply Bool.eq_false_iff.mpr
    intro hf
    have hearly := hs.early hf
    simp [hidle, Loop.early] at hearly
  have hcount : n.events.count .actorStart = s.native.events.count .actorStart := by
    have htail : .actorStart ∉ r.tail id := by
      cases r <;> simp [Request.tail, chunkEvents]
    simp [hevents, Request.events, List.count_eq_zero.mpr htail]
  have hborn : s.pump.worker ≠ .unborn := by
    intro hu
    simp [hu, Worker.fresh] at hnot
  refine ⟨?_, ?_, ?_, ?_, ?_, ?_⟩
  · simp [hnot]
  · simp [hnot]
  · simp [hnot]
  · simp [hloop]
  · simpa [hcount] using hs.once
  · intro _
    have hzero := List.count_eq_zero.mpr (hs.born hborn)
    exact List.count_eq_zero.mp (hcount.trans hzero)

theorem Starts.start (hs : Starts s) (hcreated : s.native.loop = .created) :
    Starts { s with
      native := { s.native with
        loop := .starting, events := s.native.events ++ [.actorStart] } } := by
  obtain ⟨hunborn, hnot⟩ := hs.created hcreated
  have hfresh : s.pump.worker.fresh = true := by simp [hunborn, Worker.fresh]
  have hpipe := hs.pipeline hfresh
  refine ⟨fun _ => rfl, ?_, hs.result, by simp, ?_, fun hne => absurd hunborn hne⟩
  · intro _
    simpa [State.pipeline, State.inFlight] using hpipe
  · simp [List.count_eq_zero.mpr hnot]

/-- The worker is born with the start event, which is the only one. -/
theorem Starts.born_of_poll {rest : List Event} (hs : Starts s)
    (hevents : s.native.events = .actorStart :: rest) :
    Starts { native := { s.native with events := rest }
             pump := { s.pump with worker := .starting, accepting := true, done := false } } := by
  have hunborn : s.pump.worker = .unborn := by
    by_contra hne
    exact hs.born hne (hevents ▸ List.mem_cons_self)
  have hfresh : s.pump.worker.fresh = true := by simp [hunborn, Worker.fresh]
  have hnot : .actorStart ∉ rest := by
    have honce := hs.once
    rw [hevents, List.count_cons_self] at honce
    exact List.count_eq_zero.mp (by omega)
  have hpipe := hs.pipeline hfresh
  refine ⟨fun _ => hs.early hfresh, ?_, fun _ => hs.result hfresh, ?_, ?_, fun _ => hnot⟩
  · intro _
    simpa [State.pipeline, State.inFlight, hunborn, Worker.current, hevents] using hpipe
  · intro hcreated
    exact absurd (hevents ▸ List.mem_cons_self) (hs.created hcreated).2
  · simp [List.count_eq_zero.mpr hnot]

theorem PumpSide.Handled.worker {p p' : PumpSide} {e : Event} (h : p.Handled e p')
    (he : e ≠ .actorStart) : p'.worker = p.worker := by
  cases h with
  | actorStart => exact absurd rfl he
  | _ => rfl

theorem Starts.poll {draining : Bool} {e : Event} {rest : List Event} {p : PumpSide}
    {cs : List Command} (hs : Starts s) (hevents : s.native.events = e :: rest)
    (hhandle : s.pump.handleInternalEvent identity draining true e = .ok (p, cs)) :
    Starts ({ s with native := { s.native with events := rest } }.submit (p, cs)) := by
  have hpipe := passive_poll hevents hhandle
  -- Only the start event changes the worker.
  have hframe : p.worker = s.pump.worker → (∀ ok, .actorStartResult ok ∉ cs) →
      Starts ({ s with native := { s.native with events := rest } }.submit (p, cs)) := by
    intro hworker hcs
    refine hs.of_frame ⟨fun _ => hworker, by simp [State.submit, hworker], fun _ h => h,
      fun h => h, fun h => List.sublist_nil.mp (h ▸ hpipe.pipeline), ?_, ?_⟩
    · exact fun ok hmem _ => (List.mem_append.mp hmem).resolve_right (hcs ok)
    · simp [State.submit, hevents, List.count_cons]
  obtain ⟨r, id, rfl, hreq⟩ | ⟨rfl, hother⟩ := PumpSide.handleInternalEvent_eq_ok hhandle
  · obtain ⟨-, -, hcs, hworker, -⟩ := PumpSide.handleRequest_eq_ok hreq
    refine hframe hworker ?_
    intro ok hmem
    obtain ⟨wsId, hws⟩ := hcs _ hmem
    cases hws
  · by_cases he : e = .actorStart
    · subst he
      cases hother with
      | actorStart hreg => simpa [State.submit] using hs.born_of_poll hevents
    · exact hframe (hother.worker he) (by simp)

theorem frame_finishRequest {r : Request} {id : Nat} {o : Outcome} {p : PumpSide}
    {cs : List Command} (hworker : s.pump.worker = .busy (.request r id))
    (h : s.pump.finishRequest r id o = some (p, cs)) : Starts.Frame s (s.submit (p, cs)) := by
  obtain ⟨hworker', -⟩ := PumpSide.finishRequest_eq_some h
  have hfresh : p.worker.fresh = false ∧ p.worker ≠ .unborn := by
    rw [hworker']
    cases r.leaves o <;> simp [Worker.fresh]
  exact .of_submit (passive_finishRequest hworker h) (by simp [hfresh.1])
    (by simp [hfresh.2, hworker]) (by simp [hfresh.1])

theorem Move.starts {a : Action} (h : Move identity s a s') (hs : Starts s) : Starts s' := by
  have hpipe := h.passive
  cases h with
  | start hcreated => exact hs.start hcreated
  | request hn => exact hs.request hn
  | receive hc => exact hs.of_frame (frame_dispatch hc rfl)
  | expire hn => exact hs.of_frame (frame_expire hn)
  | sweep =>
    exact hs.of_frame (.of_native [] (by simp) (by simp) (hpipe (by simp)) (fun _ h => h)
      (fun h => h) (fun _ hc => hc))
  | persist hk =>
    exact hs.of_frame (.of_native [.statePersisted] rfl (by simp) (hpipe (by simp))
      (fun _ h => h) (fun h => h) (fun _ hc => hc))
  | wsMessage hn => exact hs.of_frame (frame_send hn rfl (by simp))
  | wsClose hn => exact hs.of_frame (frame_send hn rfl (by simp))
  | endLoop =>
    exact hs.of_frame (.of_native [] (by simp) (by simp) (hpipe (by simp)) (fun _ _ => rfl)
      (by simp) (fun _ hc => hc))
  | poll hevents hhandle => exact hs.poll hevents hhandle
  | persisted hp =>
    obtain ⟨_, _, _, _, rfl⟩ := hp.frame
    exact hs.of_frame (.of_pump (hpipe (by simp)) (fun _ => rfl) .rfl)
  | @started o hworker =>
    refine hs.of_frame (.of_submit (hpipe (by simp)) ?_ ?_ ?_) <;>
      cases o <;> simp [hworker, Worker.fresh]
  | take hworker hmailbox | finishOther hworker | abort hworker | remove hworker =>
    exact hs.of_frame (.of_pump (hpipe (by simp)) (by simp [Worker.fresh]) (by simp [hworker]))
  | respond hworker =>
    exact hs.of_frame (.of_submit (hpipe (by simp)) (fun _ => rfl) .rfl (by simp))
  | finishRequest hworker hfin =>
    exact hs.of_frame (frame_finishRequest hworker hfin)
  | save => exact hs.of_frame (.of_submit (hpipe (by simp)) (fun _ => rfl) .rfl (by simp))
  | saved => exact hs.of_frame (.of_pump (hpipe (by simp)) (fun _ => rfl) .rfl)
  | abandonSave => exact hs.of_frame (.of_pump (hpipe (by simp)) (fun _ => rfl) .rfl)
  | interruptSave => exact hs.of_frame (.of_pump (hpipe (by simp)) (fun _ => rfl) .rfl)

/-! ### The stop of the generation -/

/-- A stop that its handler has not answered is the last request, the loop waits
for it or has ended, and no result for it is on its way. -/
structure Stops (s : State) : Prop where
  last : ∀ reason id, (.stop reason, id) ∈ s.pipeline → id = s.native.lastId
  loop : ∀ reason id, (.stop reason, id) ∈ s.pipeline →
    s.native.loop = .waiting (.stop reason) id ∨ s.native.loop = .ended
  unanswered : ∀ reason id, (.stop reason, id) ∈ s.pipeline →
    ∀ r o, .result r id o ∉ s.native.commands

theorem stops_initial : Stops initial := by
  constructor <;> simp [initial, State.pipeline, State.inFlight, Worker.current]

/-- A step that keeps the loop where it is, or ends it, and answers no stop. -/
theorem Stops.passive (hs : Stops s) (h : Passive s s')
    (hloop : ∀ reason id, (.stop reason, id) ∈ s.pipeline →
      s'.native.loop = s.native.loop ∨ s'.native.loop = .ended)
    (hnew : ∀ reason id, (.stop reason, id) ∈ s'.pipeline → ∀ r o,
      .result r id o ∈ s'.native.commands → .result r id o ∈ s.native.commands) : Stops s' where
  last reason id hmem := h.lastId ▸ hs.last reason id (h.pipeline.subset hmem)
  loop reason id hmem := by
    have hmem' := h.pipeline.subset hmem
    obtain heq | hended := hloop reason id hmem'
    · exact heq ▸ hs.loop reason id hmem'
    · exact .inr hended
  unanswered reason id hmem r o hres :=
    hs.unanswered reason id (h.pipeline.subset hmem) r o (hnew reason id hmem r o hres)

theorem Stops.request {r : Request} {id : Nat} {n : NativeSide} (hs : Stops s) (ho : Ordered s)
    (h : s.native.request r id = some n) : Stops { s with native := n } := by
  obtain ⟨hidle, hlt, -, hloop, hlast, -, hcommands, -⟩ := NativeSide.request_eq_some h
  -- A stop that was already there would keep the loop from being idle.
  have hnew : ∀ reason id', (.stop reason, id') ∈ ({ s with native := n } : State).pipeline →
      (.stop reason, id') = (r.head, id) := by
    intro reason id' hmem
    rw [pipeline_request h, List.mem_append, List.mem_singleton] at hmem
    obtain hmem | heq := hmem
    · have hold := hs.loop reason id' hmem
      simp [hidle] at hold
    · exact heq
  refine ⟨?_, ?_, ?_⟩
  · intro reason id' hmem
    have heq := hnew reason id' hmem
    simp [hlast, (Prod.mk.inj heq).2]
  · intro reason id' hmem
    obtain ⟨hr, rfl⟩ := Prod.mk.inj (hnew reason id' hmem)
    exact .inl (by simp [hloop, hr])
  · intro reason id' hmem r' o hres
    obtain ⟨-, rfl⟩ := Prod.mk.inj (hnew reason id' hmem)
    have hle := ho.answers r' id' o (hcommands ▸ hres)
    omega

theorem Stops.dispatch {c : Command} {rest : List Command} (hs : Stops s)
    (hc : s.native.commands = c :: rest) :
    Stops { s with native := { s.native with commands := rest }.dispatch c } := by
  have hpipe := passive_dispatch hc rfl
  refine hs.passive hpipe ?_ ?_
  · intro reason id hmem
    have hold := hs.loop reason id hmem
    cases c with
    | actorStartResult ok =>
      have hne : s.native.loop ≠ .starting := by
        obtain hold | hold := hold <;> simp [hold]
      exact .inl (by simp [NativeSide.dispatch, hne])
    | result r id' o =>
      obtain ⟨b, ⟨r', k, hloop, hfor, hanswer⟩ | ⟨-, hanswer⟩⟩ :=
        NativeSide.answer_cases { s.native with commands := rest } r id' o
      · -- The result is not for the stop, and the loop waits for nothing else.
        exfalso
        simp only at hloop
        obtain hold | hold := hold
        · obtain ⟨rfl, rfl⟩ : r' = .stop reason ∧ k = id := by simpa [hloop] using hold
          obtain halarm | ⟨-, rfl⟩ := hfor
          · cases halarm
          · exact hs.unanswered reason k hmem r o (hc ▸ List.mem_cons_self)
        · simp [hloop] at hold
      · exact .inl (by simp [NativeSide.dispatch, hanswer])
    | wsHibernate wsId => exact .inl rfl
    | saveState => exact .inl rfl
  · intro _ id _ r o hres
    rw [NativeSide.dispatch_commands] at hres
    exact hc ▸ List.mem_cons_of_mem _ hres

theorem Stops.expire {n : NativeSide} (hs : Stops s) (h : s.native.expire = some n) :
    Stops { s with native := n } := by
  refine hs.passive (passive_expire h) ?_ ?_
  · intro reason id hmem
    have hold := hs.loop reason id hmem
    obtain ⟨-, rfl⟩ | ⟨r, id', hloop, rfl⟩ := NativeSide.expire_eq_some h
    · exact .inr rfl
    · obtain hold | hold := hold
      · obtain ⟨rfl, rfl⟩ : r = .stop reason ∧ id' = id := by simpa [hloop] using hold
        exact .inr rfl
      · simp [hloop] at hold
  · intro _ id _ r o hres
    obtain ⟨-, rfl⟩ | ⟨r, id', -, rfl⟩ := NativeSide.expire_eq_some h <;> exact hres

/-- The request that the worker has finished is out of the pipeline. -/
theorem Ordered.not_mem_of_finished {r : Request} {id : Nat} {p : PumpSide} {cs : List Command}
    (ho : Ordered s) (hworker : s.pump.worker = .busy (.request r id))
    (hcurrent : p.worker.current = []) (hmailbox : p.mailbox = s.pump.mailbox) :
    ∀ r', (r', id) ∉ (s.submit (p, cs)).pipeline := by
  intro r' hmem
  have hsorted := ho.sorted
  simp only [State.pipeline, State.inFlight, hworker, Worker.current, List.cons_append,
    List.nil_append, requests_cons, Event.request?, Option.toList_some, List.map_cons,
    List.pairwise_cons] at hsorted
  have hlt := hsorted.1 id
  simp only [State.pipeline, State.inFlight, State.submit, hcurrent, hmailbox,
    List.nil_append] at hmem
  exact Nat.lt_irrefl _ (hlt (List.mem_map_of_mem hmem))

theorem Stops.finishRequest {r : Request} {id : Nat} {o : Outcome} {p : PumpSide}
    {cs : List Command} (hs : Stops s) (ho : Ordered s)
    (hworker : s.pump.worker = .busy (.request r id))
    (h : s.pump.finishRequest r id o = some (p, cs)) : Stops (s.submit (p, cs)) := by
  obtain ⟨hworker', hmailbox, hcs, -⟩ := PumpSide.finishRequest_eq_some h
  refine hs.passive (passive_finishRequest hworker h) (fun _ _ _ => .inl rfl) ?_
  intro reason id' hmem r' o' hres
  obtain hres | hres := List.mem_append.mp hres
  · exact hres
  · have hcurrent : p.worker.current = [] := by
      rw [hworker']
      cases r.leaves o <;> rfl
    obtain ⟨rfl, -⟩ | rfl := hcs
    · cases hres
    · obtain ⟨-, rfl, -⟩ : r' = r ∧ id' = id ∧ o' = o := by simpa using hres
      exact absurd hmem (ho.not_mem_of_finished hworker hcurrent hmailbox _)

theorem Move.stops {a : Action} (h : Move identity s a s') (ho : Ordered s) (hs : Stops s) :
    Stops s' := by
  have hpipe := h.passive
  cases h with
  | request hn => exact hs.request ho hn
  | receive hc => exact hs.dispatch hc
  | expire hn => exact hs.expire hn
  | start hcreated =>
    refine hs.passive (hpipe (by simp)) ?_ (fun _ _ _ _ _ hres => hres)
    intro reason id hmem
    have hold := hs.loop reason id hmem
    simp [hcreated] at hold
  | wsMessage hn | wsClose hn =>
    obtain ⟨-, -, rfl⟩ := NativeSide.send_eq_some hn
    exact hs.passive (hpipe (by simp)) (fun _ _ _ => .inl rfl) (fun _ _ _ _ _ hres => hres)
  | endLoop =>
    exact hs.passive (hpipe (by simp)) (fun _ _ _ => .inr rfl) (fun _ _ _ _ _ hres => hres)
  | poll hevents hhandle =>
    refine hs.passive (hpipe (by simp)) (fun _ _ _ => .inl rfl) ?_
    intro _ id _ r o hres
    obtain hres | hres := List.mem_append.mp hres
    · exact hres
    · obtain ⟨r', id', -, hreq⟩ | ⟨rfl, -⟩ := PumpSide.handleInternalEvent_eq_ok hhandle
      · obtain ⟨-, -, hcs, -⟩ := PumpSide.handleRequest_eq_ok hreq
        obtain ⟨wsId, hws⟩ := hcs _ hres
        cases hws
      · cases hres
  | @respond body id hworker =>
    refine hs.passive (hpipe (by simp)) (fun _ _ _ => .inl rfl) ?_
    intro reason id' hmem r o hres
    obtain hres | hres := List.mem_append.mp hres
    · exact hres
    · obtain ⟨-, rfl, -⟩ : r = .http body ∧ id' = id ∧ o = .ok := by simpa using hres
      have hmem' := (hpipe (by simp)).pipeline.subset hmem
      cases ho.unique hmem' (State.mem_pipeline_of_busy hworker)
  | finishRequest hworker hfin => exact hs.finishRequest ho hworker hfin
  | started | save =>
    refine hs.passive (hpipe (by simp)) (fun _ _ _ => .inl rfl) ?_
    intro _ id _ r o hres
    simpa [State.submit] using hres
  | _ => exact hs.passive (hpipe (by simp)) (fun _ _ _ => .inl rfl) (fun _ _ _ _ _ hres => hres)

/-! ### After the worker has left -/

/-- The result for a correlation. The result of an alarm names none. -/
@[simp] def Command.answer? (id : Nat) : Command → Option Outcome
  | .result r id' o => if r ≠ .alarm ∧ id' = id then some o else none
  | _ => none

/-- The result for a correlation that native gets first. -/
def firstAnswer (id : Nat) (cs : List Command) : Option Outcome :=
  cs.findSome? (Command.answer? id)

@[simp] theorem firstAnswer_append (id : Nat) (cs ds : List Command) :
    firstAnswer id (cs ++ ds) = (firstAnswer id cs).or (firstAnswer id ds) :=
  List.findSome?_append

theorem firstAnswer_cons (id : Nat) (c : Command) (cs : List Command) :
    firstAnswer id (c :: cs) = (c.answer? id).or (firstAnswer id cs) := by
  rw [firstAnswer, List.findSome?_cons]
  cases c.answer? id <;> rfl

theorem Request.fatal_of_leaves {r : Request} {o : Outcome} (h : r.leaves o = true)
    (hstop : r.isStop = false) : o = .panicked ∧ r.fatal .panicked = true := by
  cases r <;> cases o <;> simp_all [Request.leaves, Request.isStop, Request.fatal]

/-- What keeps the failure of an actor local. Core hands out no request after
the graceful cleanup was answered. A panic that makes the worker leave reports
to a loop that still waits for it and has no other answer on its way, and the
request does not expire before native has the result. No handler of an HTTP
request ends, and no session is aborted, while a chunk of the body is still
queued. No worker is taken out of the table while a save waits for its
acknowledgement, and no caller of `Save` gives up after the poller has taken the
poison of an earlier save away and before it takes away the entry. -/
def Contained (s : State) : Action → Prop
  | .request _ _ => s.native.cleaned = false
  | .expire => s.pump.worker.left = true → ∀ r id, s.native.loop = .waiting r id → r.isStop = true
  | .finish o => ∀ r id, s.pump.worker = .busy (.request r id) →
      (r.leaves o = true → r.isStop = false →
        s.native.loop = .waiting r id ∧ firstAnswer id s.native.commands = none) ∧
      ∀ body, r = .http body → ∀ b f, .httpRequestChunk id b f ∉ s.native.events
  | .abort => ∀ id ∈ s.pump.http, ∀ b f, .httpRequestChunk id b f ∉ s.native.events
  | .remove => s.pump.saveResult = false
  | .abandonSave => s.pump.poller ≠ .consuming
  | _ => True

/-- The loop needs the worker no more: it has ended, it ends with the next
result it gets, or it has been cleaned up. -/
def NativeSide.Quiet (n : NativeSide) : Prop :=
  match n.loop with
  | .created => False
  | .starting => .actorStartResult true ∉ n.commands
  | .idle => n.cleaned = true
  | .waiting r id => r.isStop = true ∨
      r.leaves .panicked = true ∧ firstAnswer id n.commands = some .panicked
  | .ended => True

namespace NativeSide

variable {n n' : NativeSide}

/-- The loop stays where it is and what it is to get first does not change. -/
theorem Quiet.of_loop_eq (h : n.Quiet) (hloop : n'.loop = n.loop)
    (hcleaned : n'.cleaned = n.cleaned)
    (hstart : .actorStartResult true ∈ n'.commands → .actorStartResult true ∈ n.commands)
    (hfirst : ∀ r id, n.loop = .waiting r id → firstAnswer id n.commands = some .panicked →
      firstAnswer id n'.commands = some .panicked) : n'.Quiet := by
  cases hl : n.loop with
  | created => simp [Quiet, hl] at h
  | starting =>
    simp only [Quiet, hl, hloop] at h ⊢
    exact fun hmem => h (hstart hmem)
  | idle => simpa [Quiet, hl, hloop, hcleaned] using h
  | waiting r id =>
    simp only [Quiet, hl, hloop] at h ⊢
    exact h.imp_right fun ⟨hfatal, hpanic⟩ => ⟨hfatal, hfirst r id hl hpanic⟩
  | ended => simp [Quiet, hl, hloop]

theorem Quiet.submit (h : n.Quiet) {cs : List Command} (hcs : .actorStartResult true ∉ cs) :
    ({ n with commands := n.commands ++ cs } : NativeSide).Quiet := by
  refine h.of_loop_eq rfl rfl (fun hmem => (List.mem_append.mp hmem).resolve_right hcs) ?_
  intro r id _ hfirst
  simp [hfirst]

theorem Quiet.dispatch {c : Command} {rest : List Command} (h : n.Quiet)
    (hc : n.commands = c :: rest) : ({ n with commands := rest }.dispatch c).Quiet := by
  have hstart : .actorStartResult true ∈ rest → .actorStartResult true ∈ n.commands := by
    intro hmem
    exact hc ▸ List.mem_cons_of_mem _ hmem
  cases c with
  | actorStartResult ok =>
    by_cases hloop : n.loop = .starting
    · simp only [Quiet, hloop, hc, List.mem_cons, Command.actorStartResult.injEq, not_or] at h
      have hok : ok = false := by simpa [eq_comm] using h.1
      simp [NativeSide.dispatch, hloop, hok, Quiet]
    · simp only [NativeSide.dispatch, hloop, if_false]
      exact h.of_loop_eq rfl rfl hstart (by simp [hc, firstAnswer_cons])
  | result r id o =>
    obtain ⟨b, ⟨r', k, hloop, hfor, hanswer⟩ | ⟨hloop, hanswer⟩⟩ :=
      answer_cases { n with commands := rest } r id o
    · -- The loop gets its result: the one of a stop, or the panic it was to end on.
      simp only at hloop
      simp only [Quiet, hloop, hc, firstAnswer_cons] at h
      rw [NativeSide.dispatch, hanswer]
      obtain rfl | ⟨hr, rfl⟩ := hfor
      · simp [Request.isStop, Request.leaves] at h
      · simp only [Command.answer?, hr, ne_eq, not_false_eq_true, and_self, if_true,
          Option.some_or, Option.some.injEq] at h
        cases hf : r'.fatal o with
        | true => simp [resolve, hf, Quiet]
        | false =>
          obtain hstop | ⟨hleaves, rfl⟩ := h
          · simp [resolve, hf, Quiet, hstop]
          · cases hstop : r'.isStop with
            | true => simp [resolve, hf, Quiet, hstop]
            | false => simp [(Request.fatal_of_leaves hleaves hstop).2] at hf
    · rw [NativeSide.dispatch, hanswer]
      refine h.of_loop_eq rfl rfl hstart ?_
      intro r' id' hwaiting hfirst
      have hne : ¬ (r ≠ .alarm ∧ id = id') := by
        rintro ⟨hr, rfl⟩
        exact hloop.resolve_left hr r' hwaiting
      simpa [hc, firstAnswer_cons, hne] using hfirst
  | wsHibernate wsId =>
    exact h.of_loop_eq rfl rfl hstart (by simp [hc, firstAnswer_cons, NativeSide.dispatch])
  | saveState =>
    exact h.of_loop_eq rfl rfl hstart (by simp [hc, firstAnswer_cons, NativeSide.dispatch])

theorem quiet_expire (hn : n.expire = some n')
    (hstop : ∀ r id, n.loop = .waiting r id → r.isStop = true) : n'.Quiet := by
  obtain ⟨-, rfl⟩ | ⟨r, id, hloop, rfl⟩ := expire_eq_some hn
  · trivial
  · simp [Quiet, hstop r id hloop]

end NativeSide

/-- Once the worker has left, no request for it is queued and none will come. -/
structure Leaves (s : State) : Prop where
  drained : s.pump.worker.left = true → requests s.native.events = []
  quiet : s.pump.worker.left = true → s.native.Quiet

theorem leaves_initial : Leaves initial := by
  constructor <;> simp [initial, Worker.left]

/-- The worker of a start that failed leaves a loop that is about to end. -/
theorem Leaves.of_started {o : Outcome} (hst : Starts s) (hworker : s.pump.worker = .starting)
    (ho : o ≠ .ok) :
    Leaves (s.submit ({ s.pump with worker := .leaving }, [.actorStartResult (o = .ok)])) := by
  have hfresh : s.pump.worker.fresh = true := by simp [hworker, Worker.fresh]
  constructor
  · intro _
    have hpipe := hst.pipeline hfresh
    simp only [State.pipeline, State.inFlight, requests_append, List.append_eq_nil_iff] at hpipe
    exact hpipe.2
  · intro _
    have hearly := hst.early hfresh
    have hnot := hst.result hfresh
    cases hl : s.native.loop with
    | created =>
      have hunborn := (hst.created hl).1
      simp [hworker] at hunborn
    | starting => simp [NativeSide.Quiet, State.submit, hl, hnot true, ho]
    | ended => simp [NativeSide.Quiet, State.submit, hl]
    | idle => simp [hl, Loop.early] at hearly
    | waiting r id => simp [hl, Loop.early] at hearly

/-- The worker that leaves with a result leaves a loop that ends on it. -/
theorem Leaves.of_finishRequest {r : Request} {id : Nat} {o : Outcome} {p : PumpSide}
    {cs : List Command} (hor : Ordered s) (hst : Stops s)
    (hworker : s.pump.worker = .busy (.request r id))
    (hfin : s.pump.finishRequest r id o = some (p, cs)) (hc : Contained s (.finish o)) :
    Leaves (s.submit (p, cs)) := by
  obtain ⟨hworker', -, hcs, -⟩ := PumpSide.finishRequest_eq_some hfin
  cases hleaves : r.leaves o with
  | false => constructor <;> simp [State.submit, hworker', hleaves, Worker.left]
  | true =>
    obtain ⟨-, hno⟩ | rfl := hcs
    · simp [hleaves] at hno
    cases hstop : r.isStop with
    | true =>
      obtain ⟨reason, rfl⟩ : ∃ reason, r = .stop reason := by
        cases r <;> simp_all [Request.isStop]
      have hmem := State.mem_pipeline_of_busy hworker
      obtain ⟨-, hevents⟩ := hor.last hworker (hst.last reason id hmem)
      refine ⟨fun _ => hevents, fun _ => ?_⟩
      obtain hloop | hloop := hst.loop reason id hmem <;>
        simp [NativeSide.Quiet, State.submit, hloop, Request.isStop]
    | false =>
      obtain ⟨hloop, hfirst⟩ := (hc r id hworker).1 hleaves hstop
      obtain ⟨rfl, -⟩ := Request.fatal_of_leaves hleaves hstop
      obtain ⟨-, hevents⟩ := hor.last hworker (hor.waiting r id hloop)
      refine ⟨fun _ => hevents, fun _ => ?_⟩
      have halarm : r ≠ .alarm := by
        rintro rfl
        cases hleaves
      have hnow : firstAnswer id [.result r id .panicked] = some .panicked := by
        simp [firstAnswer, halarm]
      simp [NativeSide.Quiet, State.submit, hloop, hfirst, hleaves, hnow]

theorem Leaves.poll {draining : Bool} {e : Event} {rest : List Event} {p : PumpSide}
    {cs : List Command} (hs : Leaves s) (hevents : s.native.events = e :: rest)
    (hhandle : s.pump.handleInternalEvent identity draining true e = .ok (p, cs)) :
    Leaves ({ s with native := { s.native with events := rest } }.submit (p, cs)) := by
  have hreq : s.pump.worker.left = true → requests (e :: rest) = [] := by
    intro hleft
    exact hevents ▸ hs.drained hleft
  obtain ⟨r, id, rfl, hr⟩ | ⟨rfl, hother⟩ := PumpSide.handleInternalEvent_eq_ok hhandle
  · obtain ⟨-, -, -, hworker, -⟩ := PumpSide.handleRequest_eq_ok hr
    constructor <;>
      · intro hleft
        have hnil := hreq (hworker ▸ hleft)
        simp at hnil
  · by_cases he : e = .actorStart
    · subst he
      cases hother
      constructor <;> simp [State.submit, Worker.left]
    · have hworker := hother.worker he
      constructor
      · intro hleft
        have hnil := hreq (hworker ▸ hleft)
        simp only [requests_cons, List.append_eq_nil_iff] at hnil
        exact hnil.2
      · intro hleft
        exact (hs.quiet (hworker ▸ hleft)).of_loop_eq rfl rfl (by simp [State.submit])
          (by simp [State.submit])

theorem Move.leaves {a : Action} (h : Move identity s a s') (hc : Contained s a) (hor : Ordered s)
    (hst : Starts s) (hstop : Stops s) (hs : Leaves s) : Leaves s' := by
  cases h with
  | start hcreated =>
    have hunborn := (hst.created hcreated).1
    constructor <;> simp [hunborn, Worker.left]
  | request hn =>
    obtain ⟨hidle, -⟩ := NativeSide.request_eq_some hn
    have hnot : s.pump.worker.left = false := by
      apply Bool.eq_false_iff.mpr
      intro hleft
      have hquiet := hs.quiet hleft
      simp only [Contained] at hc
      simp [NativeSide.Quiet, hidle, hc] at hquiet
    constructor <;> simp [hnot]
  | receive hcmd =>
    refine ⟨?_, fun hleft => (hs.quiet hleft).dispatch hcmd⟩
    intro hleft
    simpa using hs.drained hleft
  | expire hn =>
    refine ⟨?_, fun hleft => NativeSide.quiet_expire hn (hc hleft)⟩
    intro hleft
    simpa [NativeSide.requests_expire hn] using hs.drained hleft
  | sweep =>
    refine ⟨hs.drained, fun hleft => ?_⟩
    exact (hs.quiet hleft).of_loop_eq rfl rfl id (fun _ _ _ h => h)
  | persist =>
    refine ⟨?_, fun hleft => (hs.quiet hleft).of_loop_eq rfl rfl id (fun _ _ _ h => h)⟩
    intro hleft
    simpa using hs.drained hleft
  | wsMessage hn | wsClose hn =>
    obtain ⟨-, -, rfl⟩ := NativeSide.send_eq_some hn
    refine ⟨?_, fun hleft => (hs.quiet hleft).of_loop_eq rfl rfl id (fun _ _ _ h => h)⟩
    intro hleft
    simpa using hs.drained hleft
  | endLoop => exact ⟨hs.drained, fun _ => trivial⟩
  | poll hevents hhandle => exact hs.poll hevents hhandle
  | persisted hp =>
    obtain ⟨_, _, _, _, rfl⟩ := hp.frame
    exact ⟨hs.drained, hs.quiet⟩
  | @started o hworker =>
    by_cases ho : o = .ok
    · constructor <;> simp [State.submit, ho, Worker.left]
    · simpa [ho] using Leaves.of_started hst hworker ho
  | take hworker hmailbox => constructor <;> simp [Worker.left]
  | respond hworker => constructor <;> simp [State.submit, hworker, Worker.left]
  | finishRequest hworker hfin => exact .of_finishRequest hor hstop hworker hfin hc
  | finishOther => constructor <;> simp [Worker.left]
  | abort hworker | remove hworker =>
    have hleft : s.pump.worker.left = true := by simp [hworker, Worker.left]
    exact ⟨fun _ => hs.drained hleft, fun _ => hs.quiet hleft⟩
  | save => exact ⟨hs.drained, fun hleft => (hs.quiet hleft).submit (by simp)⟩
  | saved | abandonSave | interruptSave => exact ⟨hs.drained, hs.quiet⟩

end RivetGo.Pump

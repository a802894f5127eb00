import Mathlib.Data.List.Nodup
import RivetGo.Pump.Steps

/-!
# The order of the requests of a generation

The loop waits for its last request only, so the requests on their way to the
handlers stand in the order of their correlations and the one the loop waits
for is the last. Every step other than a new request of core only takes
requests out of the pipeline.
-/

namespace RivetGo.Pump

variable {identity : Identity} {s s' : State}

/-- What a step does that is not a new request of core. -/
structure Passive (s s' : State) : Prop where
  pipeline : s'.pipeline.Sublist s.pipeline
  lastId : s'.native.lastId = s.native.lastId
  waiting : ∀ r id, s'.native.loop = .waiting r id → s.native.loop = .waiting r id
  answers : ∀ r id o, .result r id o ∈ s'.native.commands →
    .result r id o ∈ s.native.commands ∨ (r, id) ∈ s.pipeline

/-- Native sends events without a request. -/
theorem Passive.of_native {n : NativeSide} (es : List Event)
    (hevents : n.events = s.native.events ++ es) (hes : requests es = [])
    (hid : n.lastId = s.native.lastId)
    (hwaiting : ∀ r id, n.loop = .waiting r id → s.native.loop = .waiting r id)
    (hcommands : ∀ c ∈ n.commands, c ∈ s.native.commands) :
    Passive s { s with native := n } where
  pipeline := by simp [State.pipeline, State.inFlight, hevents, hes]
  lastId := hid
  waiting := hwaiting
  answers _ _ _ h := .inl (hcommands _ h)

/-- Go changes its own side and submits results of requests of the pipeline. -/
theorem Passive.of_submit {p : PumpSide} {cs : List Command}
    (hqueue : (requests (p.worker.current ++ p.mailbox)).Sublist
      (requests (s.pump.worker.current ++ s.pump.mailbox)))
    (hcs : ∀ r id o, .result r id o ∈ cs → (r, id) ∈ s.pipeline) :
    Passive s (s.submit (p, cs)) where
  pipeline := by
    simp only [State.pipeline, State.inFlight, State.submit, requests_append] at *
    exact hqueue.append_right _
  lastId := rfl
  waiting _ _ h := h
  answers r id o h := by
    obtain h | h := List.mem_append.mp h
    · exact .inl h
    · exact .inr (hcs r id o h)

theorem Passive.of_pump {p : PumpSide}
    (hqueue : (requests (p.worker.current ++ p.mailbox)).Sublist
      (requests (s.pump.worker.current ++ s.pump.mailbox))) :
    Passive s { s with pump := p } := by
  have hsubmit : Passive s (s.submit (p, [])) := .of_submit hqueue (by simp)
  simpa [State.submit] using hsubmit

theorem State.mem_pipeline_of_busy {r : Request} {id : Nat}
    (h : s.pump.worker = .busy (.request r id)) : (r, id) ∈ s.pipeline := by
  simp [State.pipeline, State.inFlight, h, Worker.current]

theorem passive_dispatch {n : NativeSide} {c : Command} {rest : List Command}
    (hc : s.native.commands = c :: rest) (hn : n = { s.native with commands := rest }.dispatch c) :
    Passive s { s with native := n } := by
  have hrest : ∀ c ∈ rest, c ∈ s.native.commands := by
    intro c hmem
    exact hc ▸ List.mem_cons_of_mem _ hmem
  cases c with
  | actorStartResult ok =>
    rw [hn, NativeSide.dispatch]
    by_cases hstart : s.native.loop = .starting
    · rw [if_pos hstart]
      exact .of_native [] (by simp) rfl rfl (by cases ok <;> simp) hrest
    · rw [if_neg hstart]
      exact .of_native [] (by simp) rfl rfl (fun _ _ h => h) hrest
  | result r id o =>
    obtain ⟨a, ⟨r', -, -, -, hanswer⟩ | ⟨-, hanswer⟩⟩ :=
      NativeSide.answer_cases { s.native with commands := rest } r id o
    · rw [hn, NativeSide.dispatch, hanswer]
      refine .of_native (r'.answered o) rfl (requests_plain (r'.plain_answered o)) rfl ?_ hrest
      cases hf : r'.fatal o <;> simp [NativeSide.resolve, hf]
    · rw [hn, NativeSide.dispatch, hanswer]
      exact .of_native [] (by simp) rfl rfl (fun _ _ h => h) hrest
  | wsHibernate wsId | saveState =>
    subst hn
    exact .of_native [] (by simp [NativeSide.dispatch]) rfl rfl (fun _ _ h => h) hrest

theorem passive_expire {n : NativeSide} (h : s.native.expire = some n) :
    Passive s { s with native := n } := by
  obtain ⟨-, rfl⟩ | ⟨r, id, -, rfl⟩ := NativeSide.expire_eq_some h
  · exact .of_native [] (by simp) rfl rfl (by simp) (fun _ hc => hc)
  · refine .of_native (r.expired id) rfl (requests_plain (r.plain_expired id)) rfl ?_
      (fun _ hc => hc)
    cases r.isStop <;> simp

theorem passive_send {n : NativeSide} {e : Event} (h : s.native.send e = some n)
    (he : e.request? = none) : Passive s { s with native := n } := by
  obtain ⟨-, -, rfl⟩ := NativeSide.send_eq_some h
  exact .of_native [e] rfl (by rw [requests_cons, he]; rfl) rfl (fun _ _ h => h) (fun _ hc => hc)

/-- Handling an event that is not a request puts no request into the mailbox
and does not touch the one that the worker handles. -/
theorem requests_handled {p p' : PumpSide} {e : Event} (h : p.Handled e p') :
    (requests (p'.worker.current ++ p'.mailbox)).Sublist
      (requests (p.worker.current ++ p.mailbox)) := by
  cases h with
  | actorStart hreg => simp [Worker.current]
  | wsMessage => simp [PumpSide.put]
  | wsClose => simp [PumpSide.put, PumpSide.removeWebSocket]
  | _ => exact .refl _

theorem passive_poll {draining : Bool} {e : Event} {rest : List Event} {p : PumpSide}
    {cs : List Command} (hevents : s.native.events = e :: rest)
    (hhandle : s.pump.handleInternalEvent identity draining true e = .ok (p, cs)) :
    Passive s ({ s with native := { s.native with events := rest } }.submit (p, cs)) := by
  obtain ⟨r, id, rfl, hreq⟩ | ⟨rfl, hother⟩ := PumpSide.handleInternalEvent_eq_ok hhandle
  · obtain ⟨-, ⟨closes, hcloses, hmailbox⟩, hcs, hworker, -⟩ := PumpSide.handleRequest_eq_ok hreq
    have hnone : requests closes = [] := by
      apply requests_eq_nil
      intro e he
      obtain ⟨wsId, rfl⟩ := hcloses e he
      rfl
    refine ⟨?_, rfl, fun _ _ h => h, ?_⟩
    · simp [State.pipeline, State.inFlight, State.submit, hworker, hmailbox, hnone, hevents]
    · intro r id o hmem
      obtain hmem | hmem := List.mem_append.mp hmem
      · exact .inl hmem
      · obtain ⟨wsId, hws⟩ := hcs _ hmem
        cases hws
  · refine ⟨?_, rfl, fun _ _ h => h, fun r id o hmem => .inl (by simpa [State.submit] using hmem)⟩
    have hqueue := requests_handled hother
    simp only [State.pipeline, State.inFlight, State.submit, requests_append, requests_cons,
      hevents] at *
    exact hqueue.append (List.sublist_append_right _ _)

theorem passive_finishRequest {r : Request} {id : Nat} {o : Outcome} {p : PumpSide}
    {cs : List Command} (hworker : s.pump.worker = .busy (.request r id))
    (h : s.pump.finishRequest r id o = some (p, cs)) : Passive s (s.submit (p, cs)) := by
  obtain ⟨hworker', hmailbox, hcs, -⟩ := PumpSide.finishRequest_eq_some h
  refine .of_submit ?_ ?_
  · have hcurrent : p.worker.current = [] := by
      rw [hworker']
      cases r.leaves o <;> rfl
    rw [hcurrent, hmailbox]
    simp
  · intro r' id' o' hmem
    obtain ⟨rfl, -⟩ | rfl := hcs
    · cases hmem
    · obtain ⟨rfl, rfl, rfl⟩ : r' = r ∧ id' = id ∧ o' = o := by simpa using hmem
      exact State.mem_pipeline_of_busy hworker

theorem Move.passive {a : Action} (h : Move identity s a s') (ha : ∀ r id, a ≠ .request r id) :
    Passive s s' := by
  cases h with
  | start => exact .of_native [.actorStart] rfl rfl rfl (by simp) (fun _ hc => hc)
  | request => exact absurd rfl (ha _ _)
  | receive hc => exact passive_dispatch hc rfl
  | expire hn => exact passive_expire hn
  | sweep => exact .of_native [] (by simp) rfl rfl (fun _ _ h => h) (fun _ hc => hc)
  | persist => exact .of_native [.statePersisted] rfl rfl rfl (fun _ _ h => h) (fun _ hc => hc)
  | wsMessage hn => exact passive_send hn rfl
  | wsClose hn => exact passive_send hn rfl
  | endLoop => exact .of_native [] (by simp) rfl rfl (by simp) (fun _ hc => hc)
  | poll hevents hhandle => exact passive_poll hevents hhandle
  | persisted hp =>
    obtain ⟨_, _, _, _, rfl⟩ := hp.frame
    exact .of_pump (.refl _)
  | started hworker =>
    refine .of_submit ?_ (by simp)
    split_ifs <;> simp [Worker.current]
  | take hworker hmailbox => exact .of_pump (by simp [hworker, hmailbox, Worker.current])
  | @respond body id hworker =>
    refine .of_submit (.refl _) ?_
    intro r id' o hmem
    obtain ⟨rfl, rfl, rfl⟩ : r = .http body ∧ id' = id ∧ o = .ok := by simpa using hmem
    exact State.mem_pipeline_of_busy hworker
  | finishRequest hworker hfin => exact passive_finishRequest hworker hfin
  | finishOther => exact .of_pump (by simp [Worker.current])
  | abort hworker => exact .of_pump (by simp [hworker, Worker.current])
  | remove hworker => exact .of_pump (by simp [hworker, Worker.current])
  | save => exact .of_submit (.refl _) (by simp)
  | saved => exact .of_pump (.refl _)
  | abandonSave => exact .of_pump (.refl _)
  | interruptSave => exact .of_pump (.refl _)

/-- The requests on their way stand in the order of their correlations, and the
loop waits for the last correlation only. -/
structure Ordered (s : State) : Prop where
  sorted : (s.pipeline.map Prod.snd).Pairwise (· < ·)
  bounded : ∀ x ∈ s.pipeline, x.2 ≤ s.native.lastId
  waiting : ∀ r id, s.native.loop = .waiting r id → id = s.native.lastId
  answers : ∀ r id o, .result r id o ∈ s.native.commands → id ≤ s.native.lastId

theorem ordered_initial : Ordered initial where
  sorted := .nil
  bounded := by simp [State.pipeline, State.inFlight, initial, Worker.current]
  waiting := by simp [initial]
  answers := by simp [initial]

theorem Ordered.passive (hs : Ordered s) (h : Passive s s') : Ordered s' where
  sorted := hs.sorted.sublist (h.pipeline.map _)
  bounded x hx := h.lastId ▸ hs.bounded x (h.pipeline.subset hx)
  waiting r id hw := h.lastId ▸ hs.waiting r id (h.waiting r id hw)
  answers r id o ho := by
    rw [h.lastId]
    obtain ho | ho := h.answers r id o ho
    · exact hs.answers r id o ho
    · exact hs.bounded _ ho

/-- A new request of core goes to the end of the pipeline. -/
theorem pipeline_request {r : Request} {id : Nat} {n : NativeSide}
    (h : s.native.request r id = some n) :
    ({ s with native := n } : State).pipeline = s.pipeline ++ [(r.head, id)] := by
  obtain ⟨-, -, -, -, -, hevents, -⟩ := NativeSide.request_eq_some h
  simp [State.pipeline, State.inFlight, hevents, Request.events]

theorem Ordered.request {r : Request} {id : Nat} {n : NativeSide} (hs : Ordered s)
    (h : s.native.request r id = some n) : Ordered { s with native := n } := by
  obtain ⟨-, hlt, -, hloop, hlast, -, hcommands, -⟩ := NativeSide.request_eq_some h
  have hpipe := pipeline_request h
  refine ⟨?_, ?_, ?_, ?_⟩
  · rw [hpipe, List.map_append, List.pairwise_append]
    refine ⟨hs.sorted, by simp, ?_⟩
    intro a ha b hb
    obtain ⟨x, hx, rfl⟩ := List.mem_map.mp ha
    obtain rfl : b = id := by simpa using hb
    exact Nat.lt_of_le_of_lt (hs.bounded x hx) hlt
  · intro x hx
    rw [hpipe, List.mem_append, List.mem_singleton] at hx
    obtain hx | rfl := hx
    · have := hs.bounded x hx
      simp only [hlast]
      omega
    · simp [hlast]
  · intro r' id' hw
    simp only [hloop, Loop.waiting.injEq] at hw
    simp [hlast, hw.2]
  · intro r' id' o ho
    have := hs.answers r' id' o (hcommands ▸ ho)
    simp only [hlast]
    omega

theorem Move.ordered {a : Action} (h : Move identity s a s') (hs : Ordered s) : Ordered s' := by
  cases a with
  | request r id =>
    cases h with
    | request hn => exact hs.request hn
  | _ => exact hs.passive (h.passive (by simp))

/-- Nothing follows the request with the last correlation. -/
theorem Ordered.last {r : Request} {id : Nat} (hs : Ordered s)
    (hworker : s.pump.worker = .busy (.request r id)) (hid : id = s.native.lastId) :
    requests s.pump.mailbox = [] ∧ requests s.native.events = [] := by
  have hpipe : s.pipeline =
      (r, id) :: (requests s.pump.mailbox ++ requests s.native.events) := by
    simp [State.pipeline, State.inFlight, hworker, Worker.current]
  have hnil : requests s.pump.mailbox ++ requests s.native.events = [] := by
    apply List.eq_nil_iff_forall_not_mem.mpr
    intro x hx
    have hlt : id < x.2 := by
      have hsorted := hs.sorted
      rw [hpipe, List.map_cons, List.pairwise_cons] at hsorted
      exact hsorted.1 x.2 (List.mem_map_of_mem hx)
    have hle := hs.bounded x (hpipe ▸ List.mem_cons_of_mem _ hx)
    omega
  exact List.append_eq_nil_iff.mp hnil

/-- Two requests of the pipeline with one correlation are one. -/
theorem Ordered.unique {r r' : Request} {id : Nat} (hs : Ordered s) (h : (r, id) ∈ s.pipeline)
    (h' : (r', id) ∈ s.pipeline) : r = r' := by
  have hnodup : (s.pipeline.map Prod.snd).Nodup := hs.sorted.imp Nat.ne_of_lt
  have := List.inj_on_of_nodup_map hnodup h h' rfl
  exact congrArg Prod.fst this

end RivetGo.Pump

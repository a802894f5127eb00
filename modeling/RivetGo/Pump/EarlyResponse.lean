import RivetGo.Pump.Steps

/-!
# The handler of an HTTP request may end before its body has arrived

A body that does not fit into its request follows in chunk events. The handler
may end without reading it, and the worker then deletes the entry of the
request. A chunk that the poller handles after that is not dropped: it is an
error that ends the pump. Only bodies that fit into the request are safe.
-/

namespace RivetGo.Pump

open Native (maxBodyChunk)
open Run (Reachable)

variable {identity : Identity} {s s' : State}

/-- The HTTP requests of the run have this body. -/
def WithBody (body : Bytes) (_ : State) : Action → Prop
  | .request (.http b) _ => b = body
  | _ => True

/-- The chunks of this body are dropped when their request is gone, whatever the
order of the steps: `handleInternalEvent` never fails on one. -/
def EarlyResponseHarmless (identity : Identity) (body : Bytes) : Prop :=
  ∀ s id chunk finish rest draining, Reachable (step identity) (WithBody body) initial s →
    s.native.events = .httpRequestChunk id chunk finish :: rest →
    ∃ x, s.pump.handleInternalEvent identity draining true (.httpRequestChunk id chunk finish) =
      .ok x

/-! ### Bodies that fit -/

/-- No chunk is queued. -/
def NoChunks (s : State) : Prop :=
  ∀ id chunk finish, .httpRequestChunk id chunk finish ∉ s.native.events

theorem NoChunks.of_plain {n : NativeSide} (hs : NoChunks s) {es : List Event}
    (hevents : n.events = s.native.events ++ es) (hes : ∀ e ∈ es, e.plain = true) :
    NoChunks { s with native := n } := by
  intro id chunk finish hmem
  obtain hmem | hmem := List.mem_append.mp (hevents ▸ hmem)
  · exact hs id chunk finish hmem
  · exact not_mem_of_plain hes rfl hmem

theorem Request.tail_eq_nil {r : Request} {id : Nat}
    (h : ∀ body, r = .http body → body.length ≤ maxBodyChunk) : r.tail id = [] := by
  cases r with
  | http body =>
    have hdrop : body.drop maxBodyChunk = [] := List.drop_eq_nil_of_le (h body rfl)
    simp [Request.tail, hdrop, chunkEvents]
  | _ => rfl

theorem noChunks_step {body : Bytes} (hfits : body.length ≤ maxBodyChunk) :
    Run.Keeps (step identity) (WithBody body) NoChunks := by
  intro s a s' hs ha hstep
  cases move_of_step hstep with
  | @request r id n hn =>
    obtain ⟨-, -, -, -, -, hevents, -⟩ := NativeSide.request_eq_some hn
    have htail : r.tail id = [] := by
      apply Request.tail_eq_nil
      rintro b rfl
      exact ha ▸ hfits
    intro id' chunk finish hmem
    simp only [hevents, Request.events, htail, List.mem_append, List.mem_singleton,
      reduceCtorEq, or_false] at hmem
    exact hs id' chunk finish hmem
  | receive hc =>
    obtain ⟨es, hes, hplain⟩ := NativeSide.dispatch_events _ _
    exact hs.of_plain hes hplain
  | expire hn =>
    obtain ⟨es, hes, hplain⟩ := NativeSide.expire_events hn
    exact hs.of_plain hes hplain
  | start | persist =>
    intro id chunk finish hmem
    simp only [List.mem_append, List.mem_singleton, reduceCtorEq, or_false] at hmem
    exact hs id chunk finish hmem
  | wsMessage hn | wsClose hn =>
    obtain ⟨-, -, rfl⟩ := NativeSide.send_eq_some hn
    exact hs.of_plain rfl (by simp)
  | poll hevents hhandle =>
    intro id chunk finish hmem
    exact hs id chunk finish (hevents ▸ List.mem_cons_of_mem _ hmem)
  | _ => exact hs

theorem earlyResponseHarmless_of_fits {body : Bytes} (hfits : body.length ≤ maxBodyChunk) :
    EarlyResponseHarmless identity body := by
  intro s id chunk finish rest draining hreach hevents
  have hnone : NoChunks s := hreach.invariant (by simp [NoChunks, initial]) (noChunks_step hfits)
  exact absurd (hevents ▸ List.mem_cons_self) (hnone id chunk finish)

/-! ### Bodies that do not fit -/

theorem chunkEvents_cons (id : Nat) {remaining : Bytes} (h : remaining ≠ []) :
    ∃ chunk finish rest, chunkEvents id remaining = .httpRequestChunk id chunk finish :: rest := by
  cases remaining with
  | nil => exact absurd rfl h
  | cons b bs => exact ⟨_, _, _, rfl⟩

/-- The handler has returned as soon as it was called: the request is done, and
its chunks are queued. -/
def earlyResponseEnd (body : Bytes) : State :=
  { native :=
      { loop := .waiting (.http (body.take maxBodyChunk)) 1, lastId := 1, cleaned := false
        alarmPending := none, opened := [], saving := 0
        events := chunkEvents 1 (body.drop maxBodyChunk), commands := [] }
    pump :=
      { worker := .ready, mailbox := [], http := [], websockets := [], accepting := true
        done := false, activeSave := false, saveResult := false, savePoisoned := false
        lateSave := false } }

theorem earlyResponse_reaches (body : Bytes) :
    Reachable (step identity) (WithBody body) initial (earlyResponseEnd body) := by
  have hinit : Reachable (step identity) (WithBody body) initial initial := .init
  have hready := (((hinit.next .start trivial rfl).next (.poll false) trivial rfl).next
    (.started .ok) trivial rfl).next .receive trivial rfl
  have hbusy := ((hready.next (.request (.http body) 1) rfl rfl).next (.poll false) trivial
    rfl).next .take trivial rfl
  exact hbusy.next (.finish .ok) trivial rfl

theorem not_earlyResponseHarmless {body : Bytes} (hlong : maxBodyChunk < body.length) :
    ¬ EarlyResponseHarmless identity body := by
  intro h
  have hne : body.drop maxBodyChunk ≠ [] := by
    intro hnil
    exact Nat.not_le_of_lt hlong (List.drop_eq_nil_iff.mp hnil)
  obtain ⟨chunk, finish, rest, hevents⟩ := chunkEvents_cons 1 hne
  obtain ⟨x, hx⟩ := h (earlyResponseEnd body) 1 chunk finish rest false
    (earlyResponse_reaches body) hevents
  simp [PumpSide.handleInternalEvent, earlyResponseEnd] at hx

/-- An early response is harmless exactly if the body fits into the request. -/
theorem earlyResponseHarmless_iff (identity : Identity) (body : Bytes) :
    EarlyResponseHarmless identity body ↔ body.length ≤ maxBodyChunk := by
  constructor
  · intro h
    by_contra hlong
    exact not_earlyResponseHarmless (Nat.lt_of_not_le hlong) h
  · exact earlyResponseHarmless_of_fits

/-- One byte too many is enough. -/
theorem one_chunk_not_harmless :
    ¬ EarlyResponseHarmless ⟨"actor-1", 1⟩ (List.replicate (maxBodyChunk + 1) 0) :=
  not_earlyResponseHarmless (by rw [List.length_replicate]; exact Nat.lt_succ_self _)

end RivetGo.Pump

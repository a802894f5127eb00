import Mathlib.Data.List.Perm.Subperm
import RivetGo.Pump.Phase

/-!
# The tables of the pump

The entries that `handleInternalEvent` looks up. An HTTP request and a WebSocket
enter their tables with the event that opens them, under an identity that no
other queued event has. A chunk of a body stands behind its request in the event
queue, or the request is in the table. The acknowledgements of state writes that
are still to come are as many as the saves that wait for one or have given up.
-/

namespace RivetGo.Pump

variable {identity : Identity} {s s' : State}

/-! ### HTTP requests -/

/-- The identity of an HTTP request. -/
@[simp] def httpId? : Request × Nat → Option Nat
  | (.http _, id) => some id
  | _ => none

/-- The HTTP requests of the event queue. -/
def NativeSide.httpIds (n : NativeSide) : List Nat := (requests n.events).filterMap httpId?

/-- Every chunk finds its request in the table, which an earlier event may have
put there. -/
def Covered (http : List Nat) : List Event → Prop
  | [] => True
  | .request (.http _) id :: es => Covered (id :: http) es
  | .httpRequestChunk id _ _ :: es => id ∈ http ∧ Covered http es
  | _ :: es => Covered http es

/-- An entry may go when no chunk needs it. -/
theorem Covered.weaken {http http' : List Nat} {es : List Event} (h : Covered http es)
    (hsub : ∀ id ∈ http, id ∈ http' ∨ ∀ b f, .httpRequestChunk id b f ∉ es) :
    Covered http' es := by
  induction es generalizing http http' with
  | nil => trivial
  | cons e es ih =>
    have hrest : ∀ id ∈ http, id ∈ http' ∨ ∀ b f, .httpRequestChunk id b f ∉ es := by
      intro id hid
      refine (hsub id hid).imp_right ?_
      intro hnot b f hmem
      exact hnot b f (List.mem_cons_of_mem _ hmem)
    cases e with
    | request r id =>
      cases r with
      | http body =>
        refine ih (show Covered (id :: http) es from h) ?_
        intro id' hid'
        obtain rfl | hid' := List.mem_cons.mp hid'
        · exact .inl List.mem_cons_self
        · exact (hrest id' hid').imp_left (List.mem_cons_of_mem _)
      | _ => exact ih h hrest
    | httpRequestChunk id b f =>
      refine ⟨?_, ih h.2 hrest⟩
      exact (hsub id h.1).resolve_right fun hnot => hnot b f List.mem_cons_self
    | _ => exact ih h hrest

theorem Covered.append {http : List Nat} {es fs : List Event} (h : Covered http es)
    (hf : Covered http fs) : Covered http (es ++ fs) := by
  induction es generalizing http with
  | nil => exact hf
  | cons e es ih =>
    cases e with
    | request r id =>
      cases r with
      | http body =>
        exact ih h (hf.weaken fun id hid => .inl (List.mem_cons_of_mem _ hid))
      | _ => exact ih h hf
    | httpRequestChunk id b f => exact ⟨h.1, ih h.2 hf⟩
    | _ => exact ih h hf

/-- Events other than requests and chunks need no entry. -/
theorem covered_plain {http : List Nat} {es : List Event} (h : ∀ e ∈ es, e.plain = true) :
    Covered http es := by
  induction es with
  | nil => trivial
  | cons e es ih =>
    have hrest := ih fun e he => h e (List.mem_cons_of_mem _ he)
    have hplain := h e List.mem_cons_self
    cases e with
    | request r id => simp at hplain
    | httpRequestChunk id b f => simp at hplain
    | _ => exact hrest

theorem covered_chunks {http : List Nat} {id : Nat} (hid : id ∈ http) {es : List Event}
    (h : ∀ e ∈ es, ∃ b f, e = .httpRequestChunk id b f) : Covered http es := by
  induction es with
  | nil => trivial
  | cons e es ih =>
    obtain ⟨b, f, rfl⟩ := h e List.mem_cons_self
    exact ⟨hid, ih fun e he => h e (List.mem_cons_of_mem _ he)⟩

/-- A request brings its own entry. -/
theorem covered_events {http : List Nat} (r : Request) (id : Nat) : Covered http (r.events id) := by
  cases r with
  | http body =>
    have hid : id ∈ id :: http := List.mem_cons_self
    refine covered_chunks hid ?_
    intro e he
    obtain ⟨c, -, rfl⟩ := List.mem_map.mp he
    exact ⟨_, _, rfl⟩
  | _ => trivial

theorem PumpSide.Handled.http {p p' : PumpSide} {e : Event} (h : p.Handled e p') :
    p'.http = p.http := by
  cases h <;> rfl

/-- A handled event that is not a request leaves the rest of the queue covered. -/
theorem Covered.tail {http : List Nat} {e : Event} {rest : List Event}
    (h : Covered http (e :: rest)) (he : e.request? = none) : Covered http rest := by
  cases e with
  | request r id => simp at he
  | httpRequestChunk id b f => exact h.2
  | _ => exact h

theorem PumpSide.Handled.request? {p p' : PumpSide} {e : Event} (h : p.Handled e p') :
    e.request? = none := by
  cases h <;> rfl

theorem Covered.poll {draining : Bool} {e : Event} {rest : List Event} {p p' : PumpSide}
    {cs : List Command} (h : Covered p.http (e :: rest))
    (hhandle : p.handleInternalEvent identity draining true e = .ok (p', cs)) :
    Covered p'.http rest := by
  obtain ⟨r, id, rfl, hreq⟩ | ⟨rfl, hother⟩ := PumpSide.handleInternalEvent_eq_ok hhandle
  · obtain ⟨-, -, -, -, ⟨hnot, hhttp⟩ | ⟨body, rfl, -, hhttp⟩, -⟩ :=
      PumpSide.handleRequest_eq_ok hreq
    · rw [hhttp]
      cases r with
      | http body => exact absurd rfl (hnot body)
      | _ => exact h
    · exact hhttp ▸ h
  · exact hother.http ▸ h.tail hother.request?

theorem Move.covered {a : Action} (h : Move identity s a s') (hc : Contained s a)
    (hs : Covered s.pump.http s.native.events) : Covered s'.pump.http s'.native.events := by
  cases h with
  | request hn =>
    obtain ⟨-, -, -, -, -, hevents, -⟩ := NativeSide.request_eq_some hn
    exact hevents ▸ hs.append (covered_events _ _)
  | @receive c rest hcmd =>
    obtain ⟨es, hes, hplain⟩ := NativeSide.dispatch_events { s.native with commands := rest } c
    exact hes ▸ hs.append (covered_plain hplain)
  | expire hn =>
    obtain ⟨es, hes, hplain⟩ := NativeSide.expire_events hn
    exact hes ▸ hs.append (covered_plain hplain)
  | start | persist => exact hs.append trivial
  | wsMessage hn | wsClose hn =>
    obtain ⟨-, -, rfl⟩ := NativeSide.send_eq_some hn
    exact hs.append trivial
  | poll hevents hhandle => exact (hevents ▸ hs).poll hhandle
  | persisted hp =>
    obtain ⟨_, _, _, _, rfl⟩ := hp.frame
    exact hs
  | @finishRequest r id o p cs hworker hfin =>
    obtain ⟨-, -, -, ⟨-, hhttp⟩ | ⟨body, rfl, hhttp⟩, -⟩ := PumpSide.finishRequest_eq_some hfin
    · exact hhttp ▸ hs
    · have hgone := (hc _ id hworker).2 body rfl
      refine hs.weaken ?_
      intro id' hid'
      by_cases heq : id' = id
      · exact .inr (heq ▸ hgone)
      · exact .inl (hhttp ▸ (List.mem_erase_of_ne heq).mpr hid')
  | abort => exact hs.weaken fun id hid => .inr (hc id hid)
  | _ => exact hs

/-! ### Identities -/

/-- The WebSocket that a request opens. -/
@[simp] def wsId? : Request × Nat → Option String
  | (.wsOpen wsId _, _) => some wsId
  | _ => none

/-- The WebSockets that the event queue is to open. -/
def NativeSide.wsIds (n : NativeSide) : List String := (requests n.events).filterMap wsId?

/-- What is in a table and what the event queue is to put there: nothing twice, and only what
native has given an identity. -/
structure Listed {α : Type} (given : α → Prop) (table queued : List α) : Prop where
  nodup : (table ++ queued).Nodup
  given : ∀ x ∈ table ++ queued, given x

section
variable {α : Type} {given given' : α → Prop} {table table' queued queued' : List α}

theorem Listed.mono (h : Listed given table queued)
    (hsub : (table' ++ queued').Subperm (table ++ queued)) (hgiven : ∀ x, given x → given' x) :
    Listed given' table' queued' := by
  refine ⟨?_, fun x hx => hgiven x (h.given x (hsub.subset hx))⟩
  obtain ⟨l, hperm, hl⟩ := hsub
  exact hperm.nodup_iff.mp (h.nodup.sublist hl)

theorem Listed.enqueue (h : Listed given table queued) (x : Option α)
    (hnew : ∀ y ∈ x, ¬ given y ∧ given' y) (hgiven : ∀ y, given y → given' y) :
    Listed given' table (queued ++ x.toList) := by
  cases x with
  | none => exact h.mono (by simpa using .refl _) hgiven
  | some x =>
    obtain ⟨hfresh, hx⟩ := hnew x rfl
    have hperm : (table ++ (queued ++ [x])).Perm (x :: (table ++ queued)) := by
      rw [← List.append_assoc]
      exact List.perm_append_singleton x _
    refine ⟨hperm.nodup_iff.mpr (List.nodup_cons.mpr ⟨fun hmem => hfresh (h.given x hmem),
      h.nodup⟩), fun y hy => ?_⟩
    obtain rfl | hy := List.mem_cons.mp (hperm.mem_iff.mp hy)
    · exact hx
    · exact hgiven y (h.given y hy)

end

structure Tables (s : State) : Prop where
  http : Listed (· ≤ s.native.lastId) s.pump.http s.native.httpIds
  sockets : Listed (· ∈ s.native.opened) (s.pump.websockets.map Prod.fst) s.native.wsIds

theorem tables_initial : Tables initial := by
  constructor <;> constructor <;> simp [initial, NativeSide.httpIds, NativeSide.wsIds]

/-- Native opens nothing, and Go drops entries. -/
theorem Tables.frame (hs : Tables s) (hhttp : s'.pump.http.Sublist s.pump.http)
    (hsockets : s'.pump.websockets.Sublist s.pump.websockets)
    (hreq : requests s'.native.events = requests s.native.events)
    (hlast : s'.native.lastId = s.native.lastId) (hopened : s'.native.opened = s.native.opened) :
    Tables s' := by
  refine ⟨hs.http.mono ?_ fun id h => hlast ▸ h, hs.sockets.mono ?_ fun wsId h => hopened ▸ h⟩
  · rw [NativeSide.httpIds, hreq]
    exact (hhttp.append_right _).subperm
  · rw [NativeSide.wsIds, hreq]
    exact ((hsockets.map Prod.fst).append_right _).subperm

theorem Tables.request {r : Request} {id : Nat} {n : NativeSide} (hs : Tables s)
    (h : s.native.request r id = some n) : Tables { s with native := n } := by
  obtain ⟨-, hlt, hopens, -, hlast, hevents, -⟩ := NativeSide.request_eq_some h
  have hids {α : Type} (f : Request × Nat → Option α) : (requests n.events).filterMap f =
      (requests s.native.events).filterMap f ++ (f (r.head, id)).toList := by
    cases hf : f (r.head, id) <;> simp [hevents, Request.events, hf]
  refine ⟨?_, ?_⟩
  · simp only [NativeSide.httpIds, hids]
    refine hs.http.enqueue _ ?_ fun id' hid' => by omega
    intro id' hid'
    obtain rfl : id = id' := by cases r <;> simp_all [Request.head]
    omega
  · simp only [NativeSide.wsIds, hids]
    obtain ⟨hnot, hopened⟩ | ⟨wsId, c, rfl, hnew, hopened⟩ := hopens
    · refine hs.sockets.enqueue _ ?_ fun wsId hmem => hopened ▸ hmem
      cases r with
      | wsOpen wsId c => exact absurd rfl (hnot wsId c)
      | _ => simp [Request.head]
    · refine hs.sockets.enqueue (some wsId) ?_ fun wsId hmem => by simp [hopened, hmem]
      simp [hnew, hopened]

theorem PumpSide.Handled.websockets {p p' : PumpSide} {e : Event} (h : p.Handled e p') :
    p'.websockets.Sublist p.websockets := by
  cases h with
  | wsClose => exact List.filter_sublist
  | wsCloseUnknown => exact List.filter_sublist
  | _ => exact .refl _

/-- A request that opens something moves from the queue into the table. -/
theorem Tables.poll {draining : Bool} {e : Event} {rest : List Event} {p : PumpSide}
    {cs : List Command} (hs : Tables s) (hevents : s.native.events = e :: rest)
    (hhandle : s.pump.handleInternalEvent identity draining true e = .ok (p, cs)) :
    Tables ({ s with native := { s.native with events := rest } }.submit (p, cs)) := by
  obtain ⟨r, id, rfl, hreq⟩ | ⟨rfl, hother⟩ := PumpSide.handleInternalEvent_eq_ok hhandle
  · obtain ⟨-, -, -, -, hhttp, hsockets, -⟩ := PumpSide.handleRequest_eq_ok hreq
    refine ⟨hs.http.mono ?_ fun _ h => h, hs.sockets.mono ?_ fun _ h => h⟩
    · simp only [State.submit, NativeSide.httpIds, hevents]
      obtain ⟨hnot, hhttp⟩ | ⟨body, rfl, -, hhttp⟩ := hhttp
      · rw [hhttp]
        cases r with
        | http body => exact absurd rfl (hnot body)
        | _ => exact .refl _
      · rw [hhttp]
        exact List.perm_middle.symm.subperm
    · simp only [State.submit, NativeSide.wsIds, hevents]
      obtain ⟨hnot, hsub⟩ | ⟨wsId, c, rfl, hnew⟩ := hsockets
      · have hsub := ((hsub.map Prod.fst).append_right ((requests rest).filterMap wsId?)).subperm
        cases r with
        | wsOpen wsId c => exact absurd rfl (hnot wsId c)
        | _ => exact hsub
      · rw [hnew]
        exact List.perm_middle.symm.subperm
  · refine hs.frame (hother.http ▸ .refl _) hother.websockets ?_ rfl rfl
    rw [hevents, requests_cons, hother.request?]
    rfl

theorem Move.tables {a : Action} (h : Move identity s a s') (hs : Tables s) : Tables s' := by
  cases h with
  | request hn => exact hs.request hn
  | receive hcmd =>
    exact hs.frame (.refl _) (.refl _) (by simp) (passive_dispatch hcmd rfl).lastId (by simp)
  | expire hn =>
    exact hs.frame (.refl _) (.refl _) (NativeSide.requests_expire hn) (passive_expire hn).lastId
      (NativeSide.expire_frame hn).1
  | start | persist => exact hs.frame (.refl _) (.refl _) (by simp) rfl rfl
  | wsMessage hn | wsClose hn =>
    obtain ⟨-, -, rfl⟩ := NativeSide.send_eq_some hn
    exact hs.frame (.refl _) (.refl _) (by simp) rfl rfl
  | poll hevents hhandle => exact hs.poll hevents hhandle
  | persisted hp =>
    obtain ⟨_, _, _, _, rfl⟩ := hp.frame
    exact ⟨hs.http, hs.sockets⟩
  | finishRequest hworker hfin =>
    obtain ⟨-, -, -, hhttp, hsub, -⟩ := PumpSide.finishRequest_eq_some hfin
    refine hs.frame ?_ hsub rfl rfl rfl
    obtain ⟨-, hhttp⟩ | ⟨-, -, hhttp⟩ := hhttp
    · exact hhttp ▸ .refl _
    · exact hhttp ▸ List.erase_sublist
  | abort => exact hs.frame (List.nil_sublist _) (.refl _) rfl rfl rfl
  | remove => exact hs.frame (.refl _) (List.nil_sublist _) rfl rfl rfl
  | _ => exact ⟨hs.http, hs.sockets⟩

/-! ### State writes -/

/-- The acknowledgements of state writes that are still to come. -/
def NativeSide.acknowledgements (n : NativeSide) : Nat :=
  n.commands.count .saveState + n.saving + n.events.count .statePersisted

/-- The saves that an acknowledgement can find. -/
def PumpSide.openSaves (p : PumpSide) : Nat := p.saveResult.toNat + p.lateSave.toNat

/-- The session takes no save. -/
def Worker.shut : Worker → Bool
  | .unborn => true
  | .aborted => true
  | .removed => true
  | _ => false

/-- The acknowledgement that the poller has taken off the queue. -/
def Poller.inHand : Poller → Nat
  | .ready => 0
  | _ => 1

/-- The poller finds the save that its acknowledgement is for. -/
def PumpSide.Accounted (p : PumpSide) : Prop :=
  match p.poller with
  | .ready => True
  | .found => p.saveResult = false → p.savePoisoned = true ∧ p.lateSave = true
  | .notPending => p.savePoisoned = true ∧ p.lateSave = true
  | .consuming => p.savePoisoned = false ∧ p.lateSave = true
  | .late _ => p.worker.registered = false ∧ p.lateSave = true

/-- Every acknowledgement to come has its save. While the poller has the poison
taken away but not the entry, another save may wait beside it. -/
structure SaveBook (s : State) : Prop where
  count : s.native.acknowledgements + s.pump.poller.inHand = s.pump.openSaves
  accounted : s.pump.Accounted
  apart : s.pump.poller ≠ .consuming → s.pump.saveResult = true → s.pump.lateSave = false
  poisoned : s.pump.poller ≠ .consuming → s.pump.worker.registered = true →
    s.pump.savePoisoned = s.pump.lateSave
  unborn : s.pump.worker = .unborn → s.pump.savePoisoned = false ∧ s.pump.lateSave = false
  closed : s.pump.worker.registered = false → s.pump.saveResult = false
  shut : s.pump.worker.shut = true → s.pump.accepting = false

theorem saveBook_initial : SaveBook initial := by
  constructor <;>
    simp [initial, NativeSide.acknowledgements, PumpSide.openSaves, Poller.inHand,
      PumpSide.Accounted, Worker.registered]

/-- Native moves acknowledgements along and Go does not touch its saves. -/
theorem SaveBook.frame (hs : SaveBook s)
    (hcount : s'.native.acknowledgements = s.native.acknowledgements)
    (hregistered : s'.pump.worker.registered = s.pump.worker.registered)
    (hunborn : s'.pump.worker = .unborn → s.pump.worker = .unborn)
    (hshut : s'.pump.worker.shut = true → s.pump.accepting = false → s'.pump.accepting = false)
    (hwas : s'.pump.worker.shut = true → s.pump.worker.shut = true ∨ s'.pump.accepting = false)
    (hsaves : s'.pump.saves = s.pump.saves) : SaveBook s' := by
  simp only [PumpSide.saves, Prod.mk.injEq] at hsaves
  obtain ⟨hresult, hpoisoned, hlate, hpoller⟩ := hsaves
  refine ⟨?_, ?_, ?_, ?_, ?_, ?_, ?_⟩
  · simpa [hcount, PumpSide.openSaves, hresult, hlate, hpoller] using hs.count
  · simpa only [PumpSide.Accounted, hresult, hpoisoned, hlate, hpoller, hregistered] using
      hs.accounted
  · rw [hresult, hlate, hpoller]
    exact hs.apart
  · rw [hpoisoned, hlate, hpoller, hregistered]
    exact hs.poisoned
  · intro hu
    rw [hpoisoned, hlate]
    exact hs.unborn (hunborn hu)
  · intro hreg
    exact hresult.trans (hs.closed (hregistered ▸ hreg))
  · intro hsh
    obtain hold | hnew := hwas hsh
    · exact hshut hsh (hs.shut hold)
    · exact hnew

/-- The worker stays where it is. -/
theorem SaveBook.of_worker (hs : SaveBook s)
    (hcount : s'.native.acknowledgements = s.native.acknowledgements)
    (hworker : s'.pump.worker = s.pump.worker) (haccepting : s'.pump.accepting = s.pump.accepting)
    (hsaves : s'.pump.saves = s.pump.saves) : SaveBook s' :=
  hs.frame hcount (by rw [hworker]) (by rw [hworker]; exact id)
    (fun _ h => haccepting.trans h) (fun h => .inl (hworker ▸ h)) hsaves

theorem SaveBook.of_native {n : NativeSide} (hs : SaveBook s)
    (hcount : n.acknowledgements = s.native.acknowledgements) :
    SaveBook { s with native := n } :=
  hs.of_worker hcount rfl rfl rfl

/-- The entry of an abandoned save is all that waits for an acknowledgement, or
there is none. -/
theorem SaveBook.lateSave_of_pos (hs : SaveBook s) (hresult : s.pump.saveResult = false)
    (hpos : 0 < s.native.acknowledgements) : s.pump.lateSave = true := by
  have hcount := hs.count
  cases hlate : s.pump.lateSave with
  | true => rfl
  | false =>
    simp only [PumpSide.openSaves, hresult, hlate, Bool.toNat_false] at hcount
    omega

/-- The poller takes an acknowledgement off the queue. -/
theorem SaveBook.found {rest : List Event} (hs : SaveBook s) (hready : s.pump.poller = .ready)
    (hevents : s.native.events = .statePersisted :: rest) :
    SaveBook { native := { s.native with events := rest }
               pump := { s.pump with
                poller := if s.pump.worker.registered then .found else .late false } } := by
  have hpos : 0 < s.native.acknowledgements := by
    simp only [NativeSide.acknowledgements, hevents, List.count_cons_self]
    omega
  have hidle : s.pump.poller ≠ .consuming := by simp [hready]
  have hcount := hs.count
  simp only [NativeSide.acknowledgements, hevents, List.count_cons_self, hready,
    Poller.inHand] at hcount
  cases hreg : s.pump.worker.registered with
  | true =>
    refine ⟨?_, ?_, fun _ => hs.apart hidle, fun _ => hs.poisoned hidle, hs.unborn, hs.closed,
      hs.shut⟩
    · simp only [NativeSide.acknowledgements, PumpSide.openSaves, if_true, Poller.inHand]
        at hcount ⊢
      omega
    · intro hresult
      have hlate := hs.lateSave_of_pos hresult hpos
      exact ⟨(hs.poisoned hidle hreg).trans hlate, hlate⟩
  | false =>
    refine ⟨?_, ⟨hreg, hs.lateSave_of_pos (hs.closed hreg) hpos⟩, fun _ => hs.apart hidle,
      fun _ => hs.poisoned hidle, hs.unborn, hs.closed, hs.shut⟩
    simp only [NativeSide.acknowledgements, PumpSide.openSaves, Bool.false_eq_true, if_false,
      Poller.inHand] at hcount ⊢
    omega

/-- The entry goes away with the acknowledgement. -/
theorem SaveBook.consumed (hs : SaveBook s) (hlate : s.pump.lateSave = true)
    (hhand : s.pump.poller.inHand = 1)
    (hclean : s.pump.worker.registered = true → s.pump.savePoisoned = false) :
    SaveBook { s with pump := { s.pump with lateSave := false, poller := .ready } } := by
  have hcount := hs.count
  simp only [PumpSide.openSaves, hlate, hhand, Bool.toNat_true] at hcount
  refine ⟨?_, trivial, fun _ _ => rfl, fun _ => hclean, ?_, hs.closed, hs.shut⟩
  · simp only [PumpSide.openSaves, Poller.inHand, Bool.toNat_false]
    omega
  · intro hu
    exact ⟨(hs.unborn hu).1, rfl⟩

/-- A step with an acknowledgement: it has its save, so that it never comes to
the second look for an entry. -/
theorem SaveBook.persisted {p : PumpSide} (hs : SaveBook s) (h : s.pump.Persisted p) :
    SaveBook { s with pump := p } := by
  have hcount := hs.count
  have haccounted := hs.accounted
  cases h with
  | ready => exact hs
  | completed hpoller hresult =>
    refine ⟨?_, trivial, by simp, ?_, hs.unborn, fun _ => rfl, hs.shut⟩
    · simp only [PumpSide.openSaves, hresult, hpoller, Poller.inHand, Bool.toNat_true,
        Bool.toNat_false] at hcount ⊢
      omega
    · intro _
      exact hs.poisoned (by simp [hpoller])
  | notPending hpoller hresult =>
    have hidle : s.pump.poller ≠ .consuming := by simp [hpoller]
    simp only [PumpSide.Accounted, hpoller] at haccounted
    simp only [hpoller, Poller.inHand] at hcount
    exact ⟨hcount, haccounted hresult, fun _ => hs.apart hidle, fun _ => hs.poisoned hidle,
      hs.unborn, hs.closed, hs.shut⟩
  | unpoisoned hpoller hpoisoned =>
    simp only [PumpSide.Accounted, hpoller] at haccounted
    simp only [hpoller, Poller.inHand] at hcount
    refine ⟨hcount, ⟨rfl, haccounted.2⟩, by simp, by simp, ?_, hs.closed, hs.shut⟩
    intro hu
    exact ⟨rfl, (hs.unborn hu).2⟩
  | notPoisoned hpoller hpoisoned =>
    simp only [PumpSide.Accounted, hpoller, hpoisoned] at haccounted
    exact absurd haccounted.1 Bool.false_ne_true
  | consumed hpoller hlate =>
    simp only [PumpSide.Accounted, hpoller] at haccounted
    exact hs.consumed hlate (by simp [hpoller, Poller.inHand]) fun _ => haccounted.1
  | notConsumed hpoller hlate =>
    simp only [PumpSide.Accounted, hpoller, hlate] at haccounted
    exact absurd haccounted.2 Bool.false_ne_true
  | late hpoller hlate =>
    simp only [PumpSide.Accounted, hpoller] at haccounted
    refine hs.consumed hlate (by simp [hpoller, Poller.inHand]) fun hreg => ?_
    exact absurd (haccounted.1.symm.trans hreg) Bool.false_ne_true

/-- The generation starts without a save. -/
theorem SaveBook.actorStart {rest : List Event} (hs : SaveBook s)
    (hready : s.pump.poller = .ready) (hunborn : s.pump.worker = .unborn)
    (hevents : s.native.events = .actorStart :: rest) :
    SaveBook { native := { s.native with events := rest }
               pump := { s.pump with worker := .starting, accepting := true, done := false } } := by
  obtain ⟨hpoisoned, hlate⟩ := hs.unborn hunborn
  refine ⟨?_, ?_, fun _ _ => hlate, ?_, by simp, by simp [Worker.registered],
    by simp [Worker.shut]⟩
  · have hcount := hs.count
    simpa [NativeSide.acknowledgements, PumpSide.openSaves, hevents] using hcount
  · simp [PumpSide.Accounted, hready]
  · intro _ _
    exact hpoisoned.trans hlate.symm

theorem SaveBook.poll {draining : Bool} {e : Event} {rest : List Event} {p : PumpSide}
    {cs : List Command} (hs : SaveBook s) (hst : Starts s) (hready : s.pump.poller = .ready)
    (hevents : s.native.events = e :: rest)
    (hhandle : s.pump.handleInternalEvent identity draining true e = .ok (p, cs)) :
    SaveBook ({ s with native := { s.native with events := rest } }.submit (p, cs)) := by
  have hcount : e ≠ .statePersisted → .saveState ∉ cs →
      ({ s with native := { s.native with events := rest } }.submit (p, cs)).native.acknowledgements
        = s.native.acknowledgements := by
    intro he hcs
    simp [State.submit, NativeSide.acknowledgements, hevents, he, List.count_eq_zero.mpr hcs]
  obtain ⟨r, id, rfl, hreq⟩ | ⟨rfl, hother⟩ := PumpSide.handleInternalEvent_eq_ok hhandle
  · obtain ⟨-, -, hcs, hworker, -, -, haccepting, hsaves⟩ := PumpSide.handleRequest_eq_ok hreq
    refine hs.of_worker (hcount (by simp) ?_) hworker haccepting hsaves
    intro hmem
    obtain ⟨wsId, hws⟩ := hcs _ hmem
    cases hws
  · cases hother with
    | statePersisted => simpa [State.submit] using hs.found hready hevents
    | actorStart hreg =>
      have hunborn : s.pump.worker = .unborn := by
        by_contra hne
        exact hst.born hne (hevents ▸ List.mem_cons_self)
      simpa [State.submit] using hs.actorStart hready hunborn hevents
    | _ => exact hs.of_worker (hcount (by simp) (by simp)) rfl rfl rfl

theorem SaveBook.dispatch {c : Command} {rest : List Command} (hs : SaveBook s)
    (hc : s.native.commands = c :: rest) :
    SaveBook { s with native := { s.native with commands := rest }.dispatch c } := by
  refine hs.of_native ?_
  obtain ⟨es, hes, hplain⟩ := NativeSide.dispatch_events { s.native with commands := rest } c
  have hnone := List.count_eq_zero.mpr (not_mem_of_plain hplain (e := .statePersisted) rfl)
  simp only [NativeSide.acknowledgements, NativeSide.dispatch_commands, NativeSide.dispatch_saving,
    hes, List.count_append, hnone, hc, List.count_cons, beq_iff_eq]
  omega

theorem SaveBook.request {r : Request} {id : Nat} {n : NativeSide} (hs : SaveBook s)
    (h : s.native.request r id = some n) : SaveBook { s with native := n } := by
  obtain ⟨-, -, -, -, -, hevents, hcommands, -, hsaving⟩ := NativeSide.request_eq_some h
  have hnone : .statePersisted ∉ r.events id := by
    cases r <;> simp [Request.events, Request.tail, chunkEvents]
  refine hs.of_native ?_
  simp [NativeSide.acknowledgements, hevents, hcommands, hsaving, List.count_eq_zero.mpr hnone]

/-- A save begins. If the poller is taking the entry of an earlier one away, both
wait for their acknowledgements. -/
theorem SaveBook.save (hs : SaveBook s) (haccepting : s.pump.accepting = true)
    (hpoisoned : s.pump.savePoisoned = false) (hresult : s.pump.saveResult = false) :
    SaveBook (s.submit ({ s.pump with activeSave := true, saveResult := true }, [.saveState])) := by
  have hshut : s.pump.worker.shut = false := by
    apply Bool.eq_false_iff.mpr
    intro hshut
    have hclosed := hs.shut hshut
    simp [haccepting] at hclosed
  have hreg : s.pump.worker.registered = true := by
    cases hw : s.pump.worker <;> simp_all [Worker.shut, Worker.registered]
  have haccounted := hs.accounted
  refine ⟨?_, ?_, ?_, hs.poisoned, hs.unborn, ?_, hs.shut⟩
  · have hcount := hs.count
    simp only [NativeSide.acknowledgements, PumpSide.openSaves, State.submit, hresult,
      List.count_append, List.count_singleton_self, Bool.toNat_false, Bool.toNat_true] at hcount ⊢
    omega
  · cases hpoller : s.pump.poller <;>
      simp_all [PumpSide.Accounted, State.submit]
  · intro hidle _
    exact (hs.poisoned hidle hreg).symm.trans hpoisoned
  · intro hno
    simp [State.submit, hreg] at hno

theorem SaveBook.abandon (hs : SaveBook s) (hresult : s.pump.saveResult = true)
    (hidle : s.pump.poller ≠ .consuming) :
    SaveBook { s with
      pump := { s.pump with
        activeSave := false, saveResult := false, savePoisoned := true, lateSave := true } } := by
  have hlate := hs.apart hidle hresult
  have haccounted := hs.accounted
  refine ⟨?_, ?_, by simp, fun _ _ => rfl, ?_, fun _ => rfl, hs.shut⟩
  · have hcount := hs.count
    simpa [PumpSide.openSaves, hresult, hlate] using hcount
  · cases hpoller : s.pump.poller <;>
      simp_all [PumpSide.Accounted]
  · intro hu
    have hno : s.pump.saveResult = false := hs.closed (by simp_all [Worker.registered])
    simp [hresult] at hno

theorem Move.saveBook {a : Action} (h : Move identity s a s') (hc : Contained s a) (hst : Starts s)
    (hs : SaveBook s) : SaveBook s' := by
  cases h with
  | request hn => exact hs.request hn
  | receive hcmd => exact hs.dispatch hcmd
  | expire hn =>
    obtain ⟨es, hes, hplain⟩ := NativeSide.expire_events hn
    obtain ⟨-, hsaving, hcommands⟩ := NativeSide.expire_frame hn
    have hnone := List.count_eq_zero.mpr (not_mem_of_plain hplain (e := .statePersisted) rfl)
    exact hs.of_native (by simp [NativeSide.acknowledgements, hes, hsaving, hcommands, hnone])
  | start => exact hs.of_native (by simp [NativeSide.acknowledgements])
  | persist hk =>
    refine hs.of_native ?_
    simp only [NativeSide.acknowledgements, hk, List.count_append, List.count_singleton_self]
    omega
  | wsMessage hn | wsClose hn =>
    obtain ⟨-, -, rfl⟩ := NativeSide.send_eq_some hn
    exact hs.of_native (by simp [NativeSide.acknowledgements])
  | endLoop | sweep => exact hs.of_native rfl
  | poll hevents hhandle hready => exact hs.poll hst hready hevents hhandle
  | persisted hp => exact hs.persisted hp
  | @started o hworker =>
    refine hs.frame (by simp [State.submit, NativeSide.acknowledgements]) ?_ ?_ (fun _ h => h) ?_
      rfl <;>
      by_cases ho : o = .ok <;>
      simp [State.submit, hworker, ho, Worker.registered, Worker.shut]
  | take hworker hmailbox | finishOther hworker =>
    exact hs.frame rfl (by simp [hworker, Worker.registered]) (by simp) (fun _ h => h)
      (by simp [Worker.shut]) rfl
  | respond hworker =>
    exact hs.of_worker (by simp [State.submit, NativeSide.acknowledgements]) rfl rfl rfl
  | @finishRequest r id o p cs hworker hfin =>
    obtain ⟨hworker', -, hcs, -, -, -, hsaves⟩ := PumpSide.finishRequest_eq_some hfin
    have hnot : .saveState ∉ cs := by
      obtain ⟨rfl, -⟩ | rfl := hcs <;> simp
    have hshut : p.worker.shut = false ∧ p.worker.registered = true ∧ p.worker ≠ .unborn := by
      rw [hworker']
      cases r.leaves o <;> simp [Worker.shut, Worker.registered]
    exact hs.frame (by simp [State.submit, NativeSide.acknowledgements,
      List.count_eq_zero.mpr hnot]) (by rw [hworker]; exact hshut.2.1)
      (by simp [State.submit, hshut]) (by simp [State.submit, hshut])
      (by simp [State.submit, hshut]) hsaves
  | abort hworker =>
    exact hs.frame rfl (by simp [hworker, Worker.registered]) (by simp) (fun _ _ => rfl)
      (fun _ => .inr rfl) rfl
  | remove hworker =>
    have hshut : s.pump.worker.shut = true := by simp [hworker, Worker.shut]
    have haccounted := hs.accounted
    refine ⟨hs.count, ?_, hs.apart, by simp [Worker.registered], by simp, fun _ => hc,
      fun _ => hs.shut hshut⟩
    cases hpoller : s.pump.poller <;>
      simp_all [PumpSide.Accounted, Worker.registered]
  | save haccepting hpoisoned hresult => exact hs.save haccepting hpoisoned hresult
  | saved | interruptSave =>
    exact ⟨hs.count, hs.accounted, hs.apart, hs.poisoned, hs.unborn, hs.closed, hs.shut⟩
  | abandonSave hresult => exact hs.abandon hresult hc

end RivetGo.Pump

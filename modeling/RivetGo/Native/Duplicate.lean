import RivetGo.Data.Correlation
import RivetGo.Native.Emit

/-!
# Registering what is registered already

A WebSocket is entered into the table of WebSockets before the proxy looks whether there
was one of that ID, and so is the number of a result that is awaited: `insert` of a map
returns the old entry and has replaced it. The caller that finds an old entry fails, and
the tables stay as they are then.

A duplicate WebSocket leaves its own registration behind, a duplicate open ends both, and
a duplicate lifecycle request leaves its number in the place of the first one and its
correlation in the table.
-/

namespace RivetGo.Duplicate

open Native (ActorIdentity ConnHandle Request WireError Event)

/-! ## The tables -/

inductive LifecycleKind where
  | start
  | stop
  | alarm
  deriving DecidableEq

structure LifecycleKey where
  aid : String
  generation : UInt64
  kind : LifecycleKind
  deriving DecidableEq

/-- Who waits for a result. -/
inductive Waiter where
  | wsOpen (wsId : String)
  | lifecycle (key : LifecycleKey)
  | other
  deriving DecidableEq

structure CorrelationTable where
  nextId : UInt64 := 0
  entries : AList fun _ : UInt64 => Waiter := ∅

namespace CorrelationTable

/-- The loop of `insert` ends unless every number is in use. -/
def insert (t : CorrelationTable) (who : Waiter) : Option (UInt64 × CorrelationTable) :=
  (Correlation.draw (· + 1) (fun id => id ≠ 0 ∧ id ∉ t.entries) (2 ^ 64) t.nextId).map fun id =>
    (id, ⟨id, t.entries.insert id who⟩)

def resolve (t : CorrelationTable) (id : UInt64) : CorrelationTable :=
  { t with entries := t.entries.erase id }

theorem insert_eq_some {t t' : CorrelationTable} {who : Waiter} {id : UInt64}
    (h : t.insert who = some (id, t')) :
    id ∉ t.entries ∧ t' = ⟨id, t.entries.insert id who⟩ := by
  obtain ⟨id', hdraw, heq⟩ := Option.map_eq_some_iff.mp h
  obtain ⟨rfl, rfl⟩ := Prod.ext_iff.mp heq
  have hfree := Correlation.free_of_draw hdraw
  simp only [decide_eq_true_eq] at hfree
  exact ⟨hfree.2, rfl⟩

end CorrelationTable

structure ActiveWebSocket where
  actor : ActorIdentity
  canHibernate : Bool
  /-- The channel of the messages to the client. -/
  outbound : Nat

structure Tables where
  websockets : AList fun _ : String => ActiveWebSocket
  restoringWebsockets : AList fun _ : String => ActorIdentity
  pendingWsOpen : AList fun _ : String => UInt64
  pending : AList fun _ : LifecycleKey => UInt64
  correlations : CorrelationTable
  /-- What was sent to Go. -/
  events : List Event
  /-- Go still takes events. -/
  eventsOpen : Bool
  /-- The channels made so far. -/
  channels : Nat
  /-- A new channel is nobody's. -/
  made : ∀ wsId active, websockets.lookup wsId = some active → active.outbound < channels

namespace Tables

variable (t : Tables)

def resolve (id : UInt64) : Tables := { t with correlations := t.correlations.resolve id }

def correlate (who : Waiter) : Option (UInt64 × Tables) :=
  (t.correlations.insert who).map fun r => (r.1, { t with correlations := r.2 })

theorem made_insert {websockets : AList fun _ : String => ActiveWebSocket} {channels : Nat}
    (h : ∀ wsId active, websockets.lookup wsId = some active → active.outbound < channels)
    (wsId : String) (actor : ActorIdentity) (canHibernate : Bool) :
    ∀ wsId' active,
      (websockets.insert wsId ⟨actor, canHibernate, channels⟩).lookup wsId' = some active →
      active.outbound < channels + 1 := by
  intro wsId' active hactive
  by_cases heq : wsId' = wsId
  · subst heq
    rw [AList.lookup_insert] at hactive
    obtain rfl := Option.some.inj hactive
    exact Nat.lt_succ_self channels
  · rw [AList.lookup_insert_ne heq] at hactive
    exact Nat.lt_succ_of_lt (h wsId' active hactive)

theorem made_erase {websockets : AList fun _ : String => ActiveWebSocket} {channels : Nat}
    (h : ∀ wsId active, websockets.lookup wsId = some active → active.outbound < channels)
    (wsId : String) :
    ∀ wsId' active, (websockets.erase wsId).lookup wsId' = some active →
      active.outbound < channels := by
  intro wsId' active hactive
  by_cases heq : wsId' = wsId
  · subst heq
    rw [AList.lookup_erase] at hactive
    exact absurd hactive.symm (Option.some_ne_none _)
  · rw [AList.lookup_erase_ne heq] at hactive
    exact h wsId' active hactive

/-- The new registration is in the table whether or not there was one. -/
def insertWebSocket (wsId : String) (actor : ActorIdentity) (canHibernate : Bool) : Tables :=
  { t with
    websockets := t.websockets.insert wsId ⟨actor, canHibernate, t.channels⟩
    channels := t.channels + 1
    made := made_insert t.made wsId actor canHibernate }

/-- `WsOpenPending::insert`. -/
def insertWsOpen (wsId : String) (id : UInt64) : Tables × Except String Unit :=
  ({ t with pendingWsOpen := t.pendingWsOpen.insert wsId id },
    if wsId ∈ t.pendingWsOpen then .error "duplicate pending WebSocket open result" else .ok ())

/-- `LifecyclePending::insert`. -/
def insertLifecycle (key : LifecycleKey) (id : UInt64) : Tables × Except String Unit :=
  ({ t with pending := t.pending.insert key id },
    if key ∈ t.pending then .error "duplicate pending actor lifecycle result" else .ok ())

/-- The pending open of a WebSocket that goes is answered. -/
def closeWs (wsId : String) (code : Option UInt16) (reason : Option String) : Tables :=
  if wsId ∈ t.websockets then
    { t with
      websockets := t.websockets.erase wsId
      made := made_erase t.made wsId
      pendingWsOpen := t.pendingWsOpen.erase wsId
      correlations := (t.pendingWsOpen.lookup wsId).elim t.correlations t.correlations.resolve
      events := if t.eventsOpen then t.events ++ [.wsClose wsId code reason] else t.events }
  else t

def takeRestoring (wsId : String) (identity : ActorIdentity) : Bool × Tables :=
  ((t.restoringWebsockets.lookup wsId).any fun owner =>
      owner.aid = identity.aid ∧ owner.generation = identity.generation,
    { t with restoringWebsockets := t.restoringWebsockets.erase wsId })

end Tables

/-! ## The calls -/

/-- `request_ws_open` from the number of its result on. -/
def announceWsOpen (t : Tables) (wsId : String) (id : UInt64) (event : Event) :
    Tables × Except WireError UInt64 :=
  let r := t.insertWsOpen wsId id
  match r.2 with
  | .error message =>
    (r.1.closeWs wsId (some 1011) (some "actor.ws_open_duplicate"),
      .error (.new "ws_open_duplicate" message))
  | .ok () =>
    if r.1.eventsOpen then ({ r.1 with events := r.1.events ++ [event] }, .ok id)
    else
      let removed := { r.1 with pendingWsOpen := r.1.pendingWsOpen.erase wsId }
      ((removed.closeWs wsId (some 1011) (some "runner event queue closed")).resolve id, .ok id)

/-- `request_ws_open` up to its wait for the result of the number it returns. -/
def requestWsOpen (t : Tables) (identity : ActorIdentity) (conn : ConnHandle)
    (request : Option Request) : Option (Tables × Except WireError UInt64) :=
  let restored := t.takeRestoring conn.id identity
  match Native.requestWsOpen identity conn request restored.1 with
  | .error e => some (t, .error e)
  | .ok event =>
    let registered := restored.2.insertWebSocket conn.id identity conn.isHibernatable
    if conn.id ∈ restored.2.websockets then
      some (registered, .error (.new "ws_duplicate" s!"WebSocket `{conn.id}` is already active"))
    else
      (registered.correlate (.wsOpen conn.id)).map fun r =>
        announceWsOpen r.2 conn.id r.1 event

/-- `request_lifecycle` from the number of its result on. -/
def announceLifecycle (t : Tables) (key : LifecycleKey) (id : UInt64) (event : Event) :
    Tables × Except String UInt64 :=
  let r := t.insertLifecycle key id
  match r.2 with
  | .error message => (r.1, .error message)
  | .ok () =>
    if r.1.eventsOpen then ({ r.1 with events := r.1.events ++ [event] }, .ok id)
    else
      ({ r.1 with pending := r.1.pending.erase key }.resolve id,
        .error "Go event queue is closed")

/-- `request_lifecycle` up to its wait. -/
def requestLifecycle (t : Tables) (key : LifecycleKey) (event : Event) :
    Option (Tables × Except String UInt64) :=
  (t.correlate (.lifecycle key)).map fun r => announceLifecycle r.2 key r.1 event

inductive Call where
  | requestWsOpen (identity : ActorIdentity) (conn : ConnHandle) (request : Option Request)
  | insertWsOpen (wsId : String) (id : UInt64)
  | requestLifecycle (key : LifecycleKey) (event : Event)

/-- The tables after a call, and the error it returns. -/
def Call.run (t : Tables) : Call → Option (Tables × Option String)
  | .requestWsOpen identity conn request =>
    (Duplicate.requestWsOpen t identity conn request).map fun r =>
      (r.1, match r.2 with
        | .error e => some e.code
        | .ok _ => none)
  | .insertWsOpen wsId id =>
    let r := t.insertWsOpen wsId id
    some (r.1, match r.2 with
      | .error message => some message
      | .ok _ => none)
  | .requestLifecycle key event =>
    (Duplicate.requestLifecycle t key event).map fun r =>
      (r.1, match r.2 with
        | .error message => some message
        | .ok _ => none)

/-- The errors of a call that was made twice. -/
def duplicateErrors : List String :=
  ["ws_duplicate", "ws_open_duplicate", "duplicate pending WebSocket open result",
    "duplicate pending actor lifecycle result"]

/-! ## What a duplicate leaves -/

namespace Tables

/-- Whom the result of an open reaches. -/
def opener (t : Tables) (wsId : String) : Option Waiter :=
  (t.pendingWsOpen.lookup wsId).bind t.correlations.entries.lookup

/-- Whom the result of a lifecycle event reaches. -/
def requester (t : Tables) (key : LifecycleKey) : Option Waiter :=
  (t.pending.lookup key).bind t.correlations.entries.lookup

end Tables

/-- The registrations and what is pending are as before, every waiter can still be reached,
and there is no correlation that was not there before. -/
structure Unchanged (t t' : Tables) : Prop where
  websockets : ∀ wsId, t'.websockets.lookup wsId = t.websockets.lookup wsId
  pendingWsOpen : ∀ wsId, t'.pendingWsOpen.lookup wsId = t.pendingWsOpen.lookup wsId
  pending : ∀ key, t'.pending.lookup key = t.pending.lookup key
  opener : ∀ wsId who, t.opener wsId = some who → t'.opener wsId = some who
  requester : ∀ key who, t.requester key = some who → t'.requester key = some who
  correlations : ∀ id, id ∈ t'.correlations.entries → id ∈ t.correlations.entries

/-- The call enters the number that is there already. -/
def Call.Repeats (t : Tables) : Call → Prop
  | .insertWsOpen wsId id => t.pendingWsOpen.lookup wsId = some id
  | _ => False

variable {t t' : Tables}

/-- A registration that takes the place of another is another one. -/
theorem not_unchanged_of_insertWebSocket {wsId : String} {actor : ActorIdentity}
    {canHibernate : Bool} (hmem : wsId ∈ t.websockets) (hchannels : t'.channels = t.channels) :
    ¬Unchanged t (t'.insertWebSocket wsId actor canHibernate) := by
  intro h
  obtain ⟨active, hactive⟩ := Option.isSome_iff_exists.mp (AList.lookup_isSome.mpr hmem)
  have hsame := h.websockets wsId
  rw [hactive, Tables.insertWebSocket, AList.lookup_insert, hchannels] at hsame
  have hmade := t.made wsId active hactive
  rw [← Option.some.inj hsame] at hmade
  exact Nat.lt_irrefl _ hmade

/-- Closing a WebSocket ends its pending open. -/
theorem not_unchanged_of_closeWs {wsId : String} {code : Option UInt16} {reason : Option String}
    (hpending : wsId ∈ t.pendingWsOpen) (hmem : wsId ∈ t'.websockets) :
    ¬Unchanged t (t'.closeWs wsId code reason) := by
  intro h
  have hsame := h.pendingWsOpen wsId
  rw [Tables.closeWs, if_pos hmem, AList.lookup_erase] at hsame
  exact AList.lookup_eq_none.mp hsame.symm hpending

theorem code_of_checkHeaders {tooMany tooLarge e : WireError} {headers : Native.StringMap}
    (h : Native.checkHeaders tooMany tooLarge headers = .error e) : e = tooMany ∨ e = tooLarge := by
  rw [Native.checkHeaders] at h
  split_ifs at h
  · exact .inl (Except.error.inj h).symm
  · exact .inr (Except.error.inj h).symm

/-- The checks on the headers have errors of their own. -/
theorem not_duplicate_of_requestWsOpen {identity : ActorIdentity} {conn : ConnHandle}
    {request : Option Request} {resumed : Bool} {e : WireError}
    (h : Native.requestWsOpen identity conn request resumed = .error e) :
    e.code ∉ duplicateErrors := by
  rw [Native.requestWsOpen] at h
  cases hcheck : Native.checkHeaders _ _ (request.elim Native.noHeaders Request.headers) with
  | error e' =>
    rw [hcheck] at h
    obtain rfl : e' = e := Except.error.inj h
    rcases code_of_checkHeaders hcheck with rfl | rfl <;>
      simp [duplicateErrors, Native.WireError.new]
  | ok _ =>
    rw [hcheck] at h
    exact absurd h (by simp [bind, Except.bind, pure, Except.pure])

theorem correlate_eq_some {who : Waiter} {id : UInt64} (h : t.correlate who = some (id, t')) :
    id ∉ t.correlations.entries ∧
      t' = { t with correlations := ⟨id, t.correlations.entries.insert id who⟩ } := by
  obtain ⟨⟨id', correlations⟩, hinsert, heq⟩ := Option.map_eq_some_iff.mp h
  obtain ⟨rfl, rfl⟩ := Prod.ext_iff.mp heq
  obtain ⟨hfresh, rfl⟩ := CorrelationTable.insert_eq_some hinsert
  exact ⟨hfresh, rfl⟩

theorem announceWsOpen_eq_error {wsId : String} {id : UInt64} {event : Event} {e : WireError}
    (h : announceWsOpen t wsId id event = (t', .error e)) :
    wsId ∈ t.pendingWsOpen ∧ t' = (t.insertWsOpen wsId id).1.closeWs wsId (some 1011)
      (some "actor.ws_open_duplicate") := by
  by_cases hmem : wsId ∈ t.pendingWsOpen
  · have hresult : (t.insertWsOpen wsId id).2 = .error "duplicate pending WebSocket open result" :=
      if_pos hmem
    rw [announceWsOpen, hresult] at h
    exact ⟨hmem, (Prod.ext_iff.mp h).1.symm⟩
  · have hresult : (t.insertWsOpen wsId id).2 = .ok () := if_neg hmem
    rw [announceWsOpen, hresult] at h
    dsimp only at h
    split_ifs at h
    · exact absurd (Prod.ext_iff.mp h).2 (by simp)
    · exact absurd (Prod.ext_iff.mp h).2 (by simp)

theorem not_unchanged_of_requestWsOpen {identity : ActorIdentity} {conn : ConnHandle}
    {request : Option Request} {e : WireError}
    (hrun : requestWsOpen t identity conn request = some (t', .error e))
    (he : e.code ∈ duplicateErrors) : ¬Unchanged t t' := by
  rw [requestWsOpen] at hrun
  dsimp only at hrun
  split at hrun
  case h_1 e' hcheck =>
    obtain ⟨-, herror⟩ := Prod.ext_iff.mp (Option.some.inj hrun)
    obtain rfl := Except.error.inj herror
    exact absurd he (not_duplicate_of_requestWsOpen hcheck)
  case h_2 event _ =>
    split_ifs at hrun with hmem
    · obtain ⟨rfl, -⟩ := Prod.ext_iff.mp (Option.some.inj hrun)
      exact not_unchanged_of_insertWebSocket hmem rfl
    · obtain ⟨⟨id, correlated⟩, hcorrelate, hrun⟩ := Option.map_eq_some_iff.mp hrun
      obtain ⟨-, rfl⟩ := correlate_eq_some hcorrelate
      obtain ⟨hpending, rfl⟩ := announceWsOpen_eq_error hrun
      -- The registration was entered just now, so the close finds it.
      exact not_unchanged_of_closeWs hpending (AList.mem_insert _ |>.mpr (.inl rfl))

theorem announceLifecycle_eq_error {key : LifecycleKey} {id : UInt64} {event : Event}
    {message : String} (h : announceLifecycle t key id event = (t', .error message))
    (he : message ∈ duplicateErrors) : t' = (t.insertLifecycle key id).1 := by
  by_cases hmem : key ∈ t.pending
  · have hresult :
        (t.insertLifecycle key id).2 = .error "duplicate pending actor lifecycle result" :=
      if_pos hmem
    rw [announceLifecycle, hresult] at h
    exact (Prod.ext_iff.mp h).1.symm
  · have hresult : (t.insertLifecycle key id).2 = .ok () := if_neg hmem
    rw [announceLifecycle, hresult] at h
    dsimp only at h
    split_ifs at h
    · exact absurd (Prod.ext_iff.mp h).2 (by simp)
    · obtain rfl := Except.error.inj (Prod.ext_iff.mp h).2
      exact absurd he (by simp [duplicateErrors])

/-- The correlation of the call stays behind. -/
theorem not_unchanged_of_requestLifecycle {key : LifecycleKey} {event : Event} {message : String}
    (hrun : requestLifecycle t key event = some (t', .error message))
    (he : message ∈ duplicateErrors) : ¬Unchanged t t' := by
  obtain ⟨⟨id, correlated⟩, hcorrelate, hrun⟩ := Option.map_eq_some_iff.mp hrun
  obtain ⟨hfresh, rfl⟩ := correlate_eq_some hcorrelate
  obtain rfl := announceLifecycle_eq_error hrun he
  intro h
  exact hfresh (h.correlations id ((AList.mem_insert _).mpr (.inl rfl)))

theorem unchanged_of_pendingWsOpen {pendingWsOpen : AList fun _ : String => UInt64}
    (h : ∀ wsId, pendingWsOpen.lookup wsId = t.pendingWsOpen.lookup wsId) :
    Unchanged t { t with pendingWsOpen := pendingWsOpen } where
  websockets _ := rfl
  pendingWsOpen := h
  pending _ := rfl
  opener wsId who hwho := by
    rw [Tables.opener, h wsId]
    exact hwho
  requester _ _ hwho := hwho
  correlations _ hid := hid

theorem unchanged_insertWsOpen_iff {wsId : String} {id : UInt64} :
    Unchanged t (t.insertWsOpen wsId id).1 ↔ t.pendingWsOpen.lookup wsId = some id := by
  constructor
  · intro h
    have hsame := h.pendingWsOpen wsId
    rw [Tables.insertWsOpen, AList.lookup_insert] at hsame
    exact hsame.symm
  · intro hid
    refine unchanged_of_pendingWsOpen fun wsId' => ?_
    by_cases heq : wsId' = wsId
    · subst heq
      rw [AList.lookup_insert, hid]
    · rw [AList.lookup_insert_ne heq]

/-- A call that was made twice leaves the tables as they were exactly if it enters the number
that is there already, which only `WsOpenPending::insert` can do. -/
theorem unchanged_iff {call : Call} {error : String} (hrun : call.run t = some (t', some error))
    (he : error ∈ duplicateErrors) : Unchanged t t' ↔ call.Repeats t := by
  cases call with
  | requestWsOpen identity conn request =>
    obtain ⟨⟨t'', result⟩, hcall, heq⟩ := Option.map_eq_some_iff.mp hrun
    obtain ⟨rfl, herror⟩ := Prod.ext_iff.mp heq
    cases result with
    | error e =>
      obtain rfl := Option.some.inj herror
      exact iff_of_false (not_unchanged_of_requestWsOpen hcall he) not_false
    | ok _ => exact absurd herror.symm (Option.some_ne_none _)
  | insertWsOpen wsId id =>
    obtain ⟨rfl, -⟩ := Prod.ext_iff.mp (Option.some.inj hrun)
    exact unchanged_insertWsOpen_iff
  | requestLifecycle key event =>
    obtain ⟨⟨t'', result⟩, hcall, heq⟩ := Option.map_eq_some_iff.mp hrun
    obtain ⟨rfl, herror⟩ := Prod.ext_iff.mp heq
    cases result with
    | error message =>
      obtain rfl := Option.some.inj herror
      exact iff_of_false (not_unchanged_of_requestLifecycle hcall he) not_false
    | ok _ => exact absurd herror.symm (Option.some_ne_none _)

/-! ## Three duplicates -/

theorem actor_ne_empty : "actor" ≠ "" := by decide

theorem actor_size : "actor".utf8ByteSize ≤ 2 ^ 20 := by decide

def actor : ActorIdentity := ⟨"actor", 1, actor_ne_empty, actor_size⟩

def socket : ConnHandle := ⟨"ws", [], [], false⟩

def stopKey : LifecycleKey := ⟨"actor", 1, .stop⟩

theorem made_empty (wsId : String) (active : ActiveWebSocket)
    (h : (∅ : AList fun _ : String => ActiveWebSocket).lookup wsId = some active) :
    active.outbound < 0 := by
  rw [AList.lookup_empty] at h
  exact absurd h.symm (Option.some_ne_none _)

/-- One open and one stop are pending, and the WebSocket is registered or not. -/
def busy (registered : Bool) : Tables :=
  let t : Tables :=
    { websockets := ∅, restoringWebsockets := ∅
      pendingWsOpen := (∅ : AList fun _ : String => UInt64).insert "ws" 1
      pending := (∅ : AList fun _ : LifecycleKey => UInt64).insert stopKey 2
      correlations := ⟨2, ((∅ : AList fun _ : UInt64 => Waiter).insert 1 (.wsOpen "ws")).insert 2
        (.lifecycle stopKey)⟩
      events := [], eventsOpen := true, channels := 0, made := made_empty }
  if registered then t.insertWebSocket "ws" actor true else t

/-- The number is entered a second time. -/
theorem insertWsOpen_again_unchanged :
    ∃ t', (Call.insertWsOpen "ws" 1).run (busy true) =
        some (t', some "duplicate pending WebSocket open result") ∧
      Unchanged (busy true) t' := by
  refine ⟨_, rfl, ?_⟩
  exact (unchanged_iff (show (Call.insertWsOpen "ws" 1).run (busy true) = some (_, some _) from rfl)
    (by decide)).mpr rfl

/-- A second registration takes the place of the first. A second open takes away the pending
one. A second stop takes the place of the first, whose result reaches the second waiter then,
and its correlation stays. -/
theorem duplicate_changes_tables :
    (∃ t', (Call.requestWsOpen actor socket none).run (busy true) = some (t', some "ws_duplicate") ∧
      (t'.websockets.lookup "ws").map (·.outbound) = some 1 ∧
      ((busy true).websockets.lookup "ws").map (·.outbound) = some 0) ∧
    (∃ t', (Call.requestWsOpen actor socket none).run (busy false) =
        some (t', some "ws_open_duplicate") ∧
      (busy false).opener "ws" = some (.wsOpen "ws") ∧ t'.opener "ws" = none) ∧
    ∃ t', (Call.requestLifecycle stopKey (.actorStop "actor" 1 "stop")).run (busy true) =
        some (t', some "duplicate pending actor lifecycle result") ∧
      t'.pending.lookup stopKey = some 3 ∧
      t'.correlations.entries.lookup 2 = some (.lifecycle stopKey) ∧
      3 ∈ t'.correlations.entries ∧ ¬3 ∈ (busy true).correlations.entries := by
  refine ⟨⟨_, rfl, rfl, rfl⟩, ⟨_, rfl, rfl, rfl⟩, ⟨_, rfl, rfl, rfl, ?_, ?_⟩⟩
  · decide
  · decide

end RivetGo.Duplicate

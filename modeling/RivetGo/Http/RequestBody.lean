import Mathlib
import RivetGo.Data.Run
import RivetGo.Boundary.Event
import RivetGo.Native.Emit

/-!
# The body of an HTTP request

`request_http` sends the first part of the body with the request and the rest in chunks, the
last of which is marked. The pump appends them to an `httpRequestBody`, from which the handler
reads with buffers of any size. The body can be aborted, by an event of the engine or with its
actor, and closed, by the handler or after it. Append, abort, close and each pass of a read are
sections under the lock of the body.

A read that finds nothing waits, and is tried again or ends with the cause of the context of
the request, which is not `io.EOF`; neither changes the body.
-/

namespace RivetGo.Http

open RivetGo.Native (ActorIdentity CorrelationId requestHttp httpRequestChunks maxBodyChunk)

/-- An `httpRequestBody`; an error is its text. -/
structure RequestBody where
  chunks : List Bytes := []
  offset : Nat := 0
  finished : Bool := false
  err : Option String := none
  closed : Bool := false
  deriving DecidableEq

inductive ReadResult where
  | bytes (data : Bytes)
  | eof
  | closedPipe
  | failed (err : String)
  deriving DecidableEq

namespace RequestBody

/-- `count` bytes of the first chunk are read. -/
def advance (b : RequestBody) (chunk : Bytes) (rest : List Bytes) (count : Nat) : RequestBody :=
  if b.offset + count = chunk.length then { b with chunks := rest, offset := 0 }
  else { b with offset := b.offset + count }

/-- One pass of `Read` with a buffer of `size` bytes; `none` if it waits. -/
def read (b : RequestBody) (size : Nat) : Option (ReadResult × RequestBody) :=
  match b.chunks with
  | chunk :: rest =>
    let data := (chunk.drop b.offset).take size
    some (.bytes data, b.advance chunk rest data.length)
  | [] =>
    if b.closed then some (.closedPipe, b)
    else if b.finished then
      match b.err with
      | some err => some (.failed err, b)
      | none => some (.eof, b)
    else none

def close (b : RequestBody) : RequestBody := { b with closed := true }

def append (b : RequestBody) (chunk : Bytes) (finish : Bool) : RequestBody :=
  { b with
    chunks := if !b.closed && !b.finished && chunk.length != 0 then b.chunks ++ [chunk]
      else b.chunks
    finished := b.finished || finish }

def abort (b : RequestBody) (err : String) : RequestBody :=
  if b.finished then b else { b with finished := true, err := some err }

end RequestBody

/-- One request. -/
structure Delivery where
  /-- The events of `request_http` that the pump has not handled. -/
  events : List Wire.Event
  /-- The body, once the request is known to the pump. -/
  body : Option RequestBody := none
  /-- The request is in `httpPending`. -/
  pending : Bool := false
  /-- What the reads have returned so far. -/
  returned : Bytes := []
  /-- A read has returned `io.EOF`. -/
  ended : Bool := false
  aborted : Bool := false
  /-- It was aborted before its last chunk was there. -/
  cut : Bool := false

inductive Delivery.Action where
  /-- The pump handles the next event of `request_http`. -/
  | deliver
  /-- It handles `HttpRequestAbort`. -/
  | abortEvent
  /-- `abortHTTPForActor`. -/
  | abortActor (cause : String)
  /-- `finishHTTPRequest`. -/
  | finish
  /-- The handler closes the body. -/
  | close
  | read (size : Nat)

namespace Delivery

/-- `handleInternalEvent` for `HttpRequest` and `HttpRequestChunk`. A chunk of a request that is
not pending is an error of the pump. -/
def deliver (d : Delivery) (event : Wire.Event) : Delivery :=
  match event.kind, d.body with
  | .httpRequest, _ =>
    { d with
      body := some (({} : RequestBody).append (event.body.getD []) (!event.stream))
      pending := true }
  | .httpRequestChunk, some b =>
    if d.pending then
      { d with body := some (b.append (event.body.getD []) event.finish) }
    else d
  | _, _ => d

def abort (d : Delivery) (b : RequestBody) (err : String) : Delivery :=
  { d with body := some (b.abort err), aborted := true, cut := d.cut || !b.finished }

def receive (d : Delivery) (b : RequestBody) : ReadResult → Delivery
  | .bytes data => { d with body := some b, returned := d.returned ++ data }
  | .eof => { d with body := some b, ended := true }
  | .closedPipe | .failed _ => { d with body := some b }

def step (d : Delivery) : Action → Option Delivery
  | .deliver => match d.events with
    | event :: events => some ({ d with events := events }.deliver event)
    | [] => none
  | .abortEvent => match d.body with
    | some b => if d.pending then some (d.abort b "HTTP request aborted by engine") else some d
    | none => some d
  | .abortActor cause => match d.body with
    | some b => if d.pending then some ({ d with pending := false }.abort b cause) else some d
    | none => some d
  | .finish => match d.body with
    | some b =>
      if d.pending then some { d with pending := false, body := some b.close } else some d
    | none => some d
  | .close => d.body.map fun b => { d with body := some b.close }
  | .read size => d.body.bind fun b => (b.read size).map fun r => d.receive r.2 r.1

/-- The pump has seen nothing of the request yet. -/
def start (events : List Native.Event) : Delivery := { events := events.map Native.Event.received }

end Delivery

/-- The reads return a prefix of the body, and `io.EOF` only after all of it, and not if it was
aborted. -/
structure Delivered (body : Bytes) (d : Delivery) (aborted : Bool) : Prop where
  inOrder : d.returned <+: body
  eof : d.ended = true → d.returned = body ∧ aborted = false

/-! ## The chunks -/

/-- The events carry the bytes, and the last of them is marked. -/
inductive Feeds : List Wire.Event → Bytes → Prop where
  | nil : Feeds [] []
  | last {e : Wire.Event} (hkind : e.kind = .httpRequestChunk) (hfinish : e.finish = true) :
      Feeds [e] (e.body.getD [])
  | cons {e : Wire.Event} {events : List Wire.Event} {rest : Bytes}
      (hkind : e.kind = .httpRequestChunk) (hfinish : e.finish = false) (h : Feeds events rest) :
      Feeds (e :: events) (e.body.getD [] ++ rest)

theorem Feeds.kind {events : List Wire.Event} {rest : Bytes} (h : Feeds events rest) :
    ∀ e ∈ events, e.kind = .httpRequestChunk := by
  induction h with
  | nil => exact fun e he => absurd he List.not_mem_nil
  | last hkind _ => exact fun e he => List.mem_singleton.mp he ▸ hkind
  | cons hkind _ _ ih => exact List.forall_mem_cons.mpr ⟨hkind, ih⟩

theorem feeds_zipIdx (reqId : UInt64) (pieces : List Bytes) (k : Nat) :
    Feeds (((pieces.zipIdx k).map fun chunk =>
      Native.Event.httpRequestChunk reqId chunk.1 (chunk.2 + 1 == k + pieces.length)).map
        Native.Event.received) pieces.flatten := by
  induction pieces generalizing k with
  | nil => exact .nil
  | cons piece pieces ih =>
    rw [List.zipIdx_cons, List.map_cons, List.map_cons, List.flatten_cons]
    cases pieces with
    | nil =>
      rw [List.flatten_nil, List.append_nil]
      exact .last rfl (by simp [Native.Event.received])
    | cons next pieces =>
      have hcount : k + (piece :: next :: pieces).length = k + 1 + (next :: pieces).length := by
        simp only [List.length_cons]
        omega
      rw [hcount]
      refine .cons rfl ?_ (ih (k + 1))
      simp [Native.Event.received]

theorem feeds_httpRequestChunks (reqId : CorrelationId) (remaining : Bytes) :
    Feeds ((httpRequestChunks reqId remaining).map Native.Event.received) remaining := by
  have hpos : 0 < maxBodyChunk := by decide
  have h := feeds_zipIdx reqId (Chunk.chunks maxBodyChunk remaining) 0
  rw [Chunk.flatten_chunks hpos, Nat.zero_add, Chunk.length_chunks hpos] at h
  exact h

/-- The request carries the first part of the body and says whether more follows. -/
def Begins (body : Bytes) (events : List Wire.Event) : Prop :=
  ∃ first rest tail, events = first :: tail ∧ first.kind = .httpRequest ∧
    first.body.getD [] ++ rest = body ∧ (first.stream = false → rest = []) ∧ Feeds tail rest

theorem begins_requestHttp {identity : ActorIdentity} {reqId : CorrelationId}
    {request : RivetGo.Native.Request}
    {events : List Native.Event} (h : requestHttp identity reqId request = .ok events) :
    Begins request.body (events.map Native.Event.received) := by
  simp only [requestHttp, bind, Except.bind] at h
  split at h
  case h_1 => cases h
  case h_2 =>
    obtain rfl := Except.ok.inj h
    refine ⟨_, request.body.drop (min request.body.length maxBodyChunk), _, List.map_cons, rfl,
      List.take_append_drop _ _, fun hstream => ?_, feeds_httpRequestChunks reqId _⟩
    have hlen := of_decide_eq_false hstream
    exact List.drop_eq_nil_of_le (by omega)

/-! ## What a run keeps -/

variable {d d' : Delivery} {b b' : RequestBody} {body : Bytes}

/-- The bytes that are there and not read yet. -/
def RequestBody.queued (b : RequestBody) : Bytes :=
  match b.chunks with
  | [] => []
  | chunk :: rest => chunk.drop b.offset ++ rest.flatten

theorem queued_cons {chunk : Bytes} {rest : List Bytes} (h : b.chunks = chunk :: rest) :
    b.queued = chunk.drop b.offset ++ rest.flatten := by
  rw [RequestBody.queued, h]

theorem queued_nil (h : b.chunks = []) : b.queued = [] := by
  rw [RequestBody.queued, h]

theorem queued_of_offset (h : b.offset = 0) : b.queued = b.chunks.flatten := by
  cases hchunks : b.chunks with
  | nil => rw [queued_nil hchunks, List.flatten_nil]
  | cons chunk rest => rw [queued_cons hchunks, h, List.drop_zero, List.flatten_cons]

/-- The body keeps no offset without a chunk, and is finished if it has an error. -/
structure RequestBody.Sound (b : RequestBody) : Prop where
  offset : b.chunks = [] → b.offset = 0
  err : b.err.isSome → b.finished = true

/-- What is read leaves the queue at its front. -/
theorem queued_advance {chunk : Bytes} {rest : List Bytes} (h : b.chunks = chunk :: rest)
    {data : Bytes} (hdata : data <+: chunk.drop b.offset) :
    b.queued = data ++ (b.advance chunk rest data.length).queued := by
  have hfront := List.prefix_iff_eq_append.mp hdata
  rw [List.drop_drop] at hfront
  rw [queued_cons h, RequestBody.advance]
  split_ifs with hend
  · -- The chunk is read to its end.
    rw [hend, List.drop_length, List.append_nil] at hfront
    rw [queued_of_offset rfl, hfront]
  · have hrest : { b with offset := b.offset + data.length }.queued =
        chunk.drop (b.offset + data.length) ++ rest.flatten := queued_cons h
    rw [hrest, ← List.append_assoc, hfront]

theorem advance_sound {chunk : Bytes} {rest : List Bytes} (h : b.chunks = chunk :: rest)
    (hb : b.Sound) (count : Nat) : (b.advance chunk rest count).Sound := by
  rw [RequestBody.advance]
  split_ifs
  · exact ⟨fun _ => rfl, hb.err⟩
  · exact ⟨fun hnil => absurd (h.symm.trans hnil) (List.cons_ne_nil _ _), hb.err⟩

/-- Reading changes the place in the queue only. -/
theorem advance_eq (b : RequestBody) (chunk : Bytes) (rest : List Bytes) (count : Nat) :
    b.advance chunk rest count = { b with
      chunks := (b.advance chunk rest count).chunks
      offset := (b.advance chunk rest count).offset } := by
  rw [RequestBody.advance]
  split_ifs <;> rfl

/-- What a pass of a read can do. -/
inductive Reads (b : RequestBody) : ReadResult → RequestBody → Prop
  | bytes (data chunk : Bytes) (rest : List Bytes) (hchunks : b.chunks = chunk :: rest)
      (hdata : data <+: chunk.drop b.offset) :
      Reads b (.bytes data) (b.advance chunk rest data.length)
  | eof (hchunks : b.chunks = []) (hclosed : b.closed = false) (hfinished : b.finished = true)
      (herr : b.err = none) : Reads b .eof b
  | closedPipe : Reads b .closedPipe b
  | failed (err : String) : Reads b (.failed err) b

theorem reads_of_read {size : Nat} {r : ReadResult} (h : b.read size = some (r, b')) :
    Reads b r b' := by
  rw [RequestBody.read] at h
  split at h
  case h_1 chunk rest hchunks =>
    obtain ⟨rfl, rfl⟩ := Prod.mk.inj (Option.some.inj h)
    exact .bytes _ chunk rest hchunks (List.take_prefix _ _)
  case h_2 hchunks =>
    split_ifs at h with hclosed hfinished
    · obtain ⟨rfl, rfl⟩ := Prod.mk.inj (Option.some.inj h)
      exact .closedPipe
    · split at h <;> obtain ⟨rfl, rfl⟩ := Prod.mk.inj (Option.some.inj h)
      case h_1 err _ => exact .failed err
      case h_2 herr => exact .eof hchunks (Bool.eq_false_iff.mpr hclosed) hfinished herr

theorem append_sound (hb : b.Sound) (chunk : Bytes) (finish : Bool) :
    (b.append chunk finish).Sound where
  offset h := by
    refine hb.offset ?_
    rw [RequestBody.append] at h
    split_ifs at h
    · exact absurd h (by simp)
    · exact h
  err h := by
    rw [RequestBody.append, hb.err h]
    rfl

/-- A body that is open and not finished takes the chunk. -/
theorem queued_append (hb : b.Sound) (hclosed : b.closed = false) (hfinished : b.finished = false)
    (chunk : Bytes) (finish : Bool) : (b.append chunk finish).queued = b.queued ++ chunk := by
  cases chunk with
  | nil => simp [RequestBody.append, RequestBody.queued]
  | cons x xs =>
    cases hchunks : b.chunks with
    | nil =>
      simp [RequestBody.append, RequestBody.queued, hclosed, hfinished, hchunks,
        hb.offset hchunks]
    | cons chunk rest =>
      simp [RequestBody.append, RequestBody.queued, hclosed, hfinished, hchunks]

/-- Another one does not. -/
theorem queued_append_of_ne (h : b.closed = true ∨ b.finished = true) (chunk : Bytes)
    (finish : Bool) : (b.append chunk finish).queued = b.queued := by
  have hdropped : (!b.closed && !b.finished && chunk.length != 0) = false := by
    obtain h | h := h <;> simp [h]
  rw [RequestBody.append, hdropped]
  rfl

/-- What holds of a body, of what was read from it, and of the events to come. -/
structure Fed (body returned : Bytes) (events : List Wire.Event) (b : RequestBody) : Prop where
  sound : b.Sound
  /-- What was read and what is queued are the beginning of the body. -/
  inOrder : returned ++ b.queued <+: body
  /-- As long as nothing is dropped, the events have the rest. -/
  complete : b.closed = false → b.err = none → ∃ rest, returned ++ b.queued ++ rest = body ∧
    if b.finished then rest = [] else Feeds events rest

section
variable {returned : Bytes} {events : List Wire.Event}

/-- The next chunk is appended. -/
theorem Fed.append {e : Wire.Event} (h : Fed body returned (e :: events) b) :
    Fed body returned events (b.append (e.body.getD []) e.finish) := by
  by_cases hdropped : b.closed = true ∨ b.finished = true
  · have hqueued := queued_append_of_ne hdropped (e.body.getD []) e.finish
    refine ⟨append_sound h.sound _ _, hqueued ▸ h.inOrder, fun hclosed herr => ?_⟩
    have hfinished : b.finished = true :=
      hdropped.resolve_left fun hc => absurd (hc.symm.trans hclosed) Bool.noConfusion
    obtain ⟨rest, hbody, hrest⟩ := h.complete hclosed herr
    rw [if_pos hfinished] at hrest
    refine ⟨rest, hqueued ▸ hbody, ?_⟩
    rw [if_pos (by rw [RequestBody.append, hfinished]; rfl)]
    exact hrest
  · obtain ⟨hclosed, hfinished⟩ := not_or.mp hdropped
    replace hclosed := Bool.eq_false_iff.mpr hclosed
    replace hfinished := Bool.eq_false_iff.mpr hfinished
    have herr : b.err = none := by
      refine Option.not_isSome_iff_eq_none.mp fun herr => ?_
      exact absurd ((h.sound.err herr).symm.trans hfinished) Bool.noConfusion
    have hqueued := queued_append h.sound hclosed hfinished (e.body.getD []) e.finish
    have hfinished' : (b.append (e.body.getD []) e.finish).finished = e.finish := by
      rw [RequestBody.append, hfinished, Bool.false_or]
    obtain ⟨rest, hbody, hrest⟩ := h.complete hclosed herr
    rw [hfinished, if_neg Bool.false_ne_true] at hrest
    -- The chunk is the first part of the rest, and all of it if it is the last.
    obtain ⟨rest', rfl, hrest'⟩ : ∃ rest', rest = e.body.getD [] ++ rest' ∧
        if e.finish then rest' = [] else Feeds events rest' := by
      cases hrest with
      | last _ hfinish => exact ⟨[], (List.append_nil _).symm, by rw [if_pos hfinish]⟩
      | cons _ hfinish hlater =>
        exact ⟨_, rfl, by rw [hfinish, if_neg Bool.false_ne_true]; exact hlater⟩
    have hbody' : returned ++ (b.append (e.body.getD []) e.finish).queued ++ rest' = body := by
      rw [hqueued, ← hbody]
      simp only [List.append_assoc]
    refine ⟨append_sound h.sound _ _, ⟨rest', hbody'⟩, fun _ _ => ⟨rest', hbody', ?_⟩⟩
    rw [hfinished']
    exact hrest'

/-- An event is lost on a body that takes no more. -/
theorem Fed.skip {e : Wire.Event} (h : Fed body returned (e :: events) b)
    (hdropped : b.closed = true ∨ b.finished = true) : Fed body returned events b := by
  refine ⟨h.sound, h.inOrder, fun hclosed herr => ?_⟩
  have hfinished : b.finished = true :=
    hdropped.resolve_left fun hc => absurd (hc.symm.trans hclosed) Bool.noConfusion
  obtain ⟨rest, hbody, hrest⟩ := h.complete hclosed herr
  rw [if_pos hfinished] at hrest
  exact ⟨rest, hbody, by rw [if_pos hfinished]; exact hrest⟩

theorem Fed.abort (h : Fed body returned events b) (err : String) :
    Fed body returned events (b.abort err) := by
  rw [RequestBody.abort]
  split_ifs
  · exact h
  · exact ⟨⟨h.sound.offset, fun _ => rfl⟩, h.inOrder,
      fun _ herr => absurd herr (Option.some_ne_none _)⟩

theorem Fed.close (h : Fed body returned events b) : Fed body returned events b.close :=
  ⟨⟨h.sound.offset, h.sound.err⟩, h.inOrder, fun hclosed => absurd hclosed Bool.noConfusion⟩

theorem Fed.advance {chunk data : Bytes} {rest : List Bytes} (h : Fed body returned events b)
    (hchunks : b.chunks = chunk :: rest) (hdata : data <+: chunk.drop b.offset) :
    Fed body (returned ++ data) events (b.advance chunk rest data.length) := by
  have hqueued := queued_advance hchunks hdata
  have hsame : returned ++ data ++ (b.advance chunk rest data.length).queued =
      returned ++ b.queued := by
    rw [hqueued, List.append_assoc]
  refine ⟨advance_sound hchunks h.sound _, hsame ▸ h.inOrder, fun hclosed herr => ?_⟩
  rw [advance_eq] at hclosed herr
  obtain ⟨tail, hbody, htail⟩ := h.complete hclosed herr
  refine ⟨tail, hsame ▸ hbody, ?_⟩
  rw [advance_eq]
  exact htail

end

/-- What every run keeps. -/
structure Inv (body : Bytes) (d : Delivery) : Prop where
  unknown : d.body = none → Begins body d.events ∧ d.returned = [] ∧ d.ended = false ∧
    d.cut = false
  fed : ∀ b, d.body = some b → Fed body d.returned d.events b
  later : ∀ b, d.body = some b → ∀ e ∈ d.events, e.kind = .httpRequestChunk
  /-- A request that is not pending any more takes no more chunks. -/
  gone : ∀ b, d.body = some b → d.pending = false → b.closed = true ∨ b.finished = true
  cut : ∀ b, d.body = some b → d.cut = true → b.err.isSome
  ended : d.ended = true → d.returned = body ∧ d.cut = false ∧
    ∀ b, d.body = some b → b.finished = true

theorem Inv.delivered (h : Inv body d) : Delivered body d d.cut where
  inOrder := by
    cases hb : d.body with
    | none =>
      rw [(h.unknown hb).2.1]
      exact List.nil_prefix
    | some b => exact (List.prefix_append _ _).trans (h.fed b hb).inOrder
  eof hended := ⟨(h.ended hended).1, (h.ended hended).2.1⟩

theorem Inv.of_body (hb : d.body = some b) (hfed : Fed body d.returned d.events b)
    (hlater : ∀ e ∈ d.events, e.kind = .httpRequestChunk)
    (hgone : d.pending = false → b.closed = true ∨ b.finished = true)
    (hcut : d.cut = true → b.err.isSome)
    (hended : d.ended = true → d.returned = body ∧ d.cut = false ∧ b.finished = true) :
    Inv body d := by
  have hunique : ∀ b', d.body = some b' → b' = b := fun b' hb' =>
    Option.some.inj (hb'.symm.trans hb)
  refine ⟨fun hnone => absurd (hb.symm.trans hnone) (Option.some_ne_none b), fun b' hb' => ?_,
    fun _ _ => hlater, fun b' hb' => ?_, fun b' hb' => ?_, fun he => ?_⟩
  · rw [hunique b' hb']
    exact hfed
  · rw [hunique b' hb']
    exact hgone
  · rw [hunique b' hb']
    exact hcut
  · obtain ⟨hreturned, hnot, hfinished⟩ := hended he
    exact ⟨hreturned, hnot, fun b' hb' => hunique b' hb' ▸ hfinished⟩

theorem Inv.deliver (h : Inv body d) (hs : d.step .deliver = some d') : Inv body d' := by
  cases hb : d.body with
  | none =>
    obtain ⟨hbegins, hreturned, hended, hcut⟩ := h.unknown hb
    obtain ⟨first, rest, tail, hevents, hkind, hbody, hstream, hfeeds⟩ := hbegins
    simp only [Delivery.step, hevents, Delivery.deliver, hkind] at hs
    obtain rfl := Option.some.inj hs
    have hqueued := queued_append (b := {}) ⟨fun _ => rfl, fun h => absurd h Bool.noConfusion⟩ rfl
      rfl (first.body.getD []) (!first.stream)
    have hbody' : d.returned ++ (({} : RequestBody).append (first.body.getD [])
        (!first.stream)).queued ++ rest = body := by
      rw [hqueued, hreturned]
      exact hbody
    refine Inv.of_body rfl ⟨?_, ⟨rest, hbody'⟩, fun _ _ => ⟨rest, hbody', ?_⟩⟩ hfeeds.kind
      (fun hp => absurd hp Bool.noConfusion)
      (fun hc => absurd (hcut.symm.trans hc) Bool.noConfusion)
      (fun he => absurd (hended.symm.trans he) Bool.noConfusion)
    · exact append_sound ⟨fun _ => rfl, fun h => absurd h Bool.noConfusion⟩ _ _
    · show if (!first.stream) = true then rest = [] else Feeds tail rest
      cases hs : first.stream with
      | true => exact hfeeds
      | false => exact hstream hs
  | some b =>
    rw [Delivery.step] at hs
    split at hs
    case h_1 e events hevents =>
      obtain rfl := Option.some.inj hs
      have hfed := hevents ▸ h.fed b hb
      have hlater : ∀ e' ∈ e :: events, e'.kind = .httpRequestChunk := hevents ▸ h.later b hb
      have hkind := hlater e List.mem_cons_self
      have hlater' := fun e' he' => hlater e' (List.mem_cons_of_mem _ he')
      simp only [Delivery.deliver, hkind, hb]
      split_ifs with hpending
      · refine Inv.of_body rfl hfed.append hlater' ?_ (h.cut b hb) fun he => ?_
        · exact fun hp => absurd (hpending.symm.trans hp) Bool.noConfusion
        · obtain ⟨hreturned, hcut, hfinished⟩ := h.ended he
          refine ⟨hreturned, hcut, ?_⟩
          rw [RequestBody.append, hfinished b hb]
          rfl
      · have hgone := h.gone b hb (Bool.eq_false_iff.mpr hpending)
        refine Inv.of_body rfl (hfed.skip hgone) hlater' (fun _ => hgone) (h.cut b hb)
          fun he => ?_
        obtain ⟨hreturned, hcut, hfinished⟩ := h.ended he
        exact ⟨hreturned, hcut, hfinished b hb⟩
    case h_2 => exact absurd hs.symm (Option.some_ne_none _)

theorem Inv.abort (h : Inv body d) (hb : d.body = some b) (pending : Bool) (err : String) :
    Inv body ({ d with pending := pending }.abort b err) := by
  have habort : (b.abort err).finished = true := by
    rw [RequestBody.abort]
    split_ifs with hf
    · exact hf
    · rfl
  refine Inv.of_body rfl ((h.fed b hb).abort err) (h.later b hb) (fun _ => .inr habort)
    (fun hc => ?_) fun he => ?_
  · rw [RequestBody.abort]
    cases hf : b.finished with
    | true =>
      refine h.cut b hb ?_
      simpa [Delivery.abort, hf] using hc
    | false => rfl
  · obtain ⟨hreturned, hcut, hfinished⟩ := h.ended he
    refine ⟨hreturned, ?_, habort⟩
    show (d.cut || !b.finished) = false
    rw [hcut, hfinished b hb]
    rfl

theorem Inv.close (h : Inv body d) (hb : d.body = some b) (pending : Bool) :
    Inv body { d with pending := pending, body := some b.close } := by
  refine Inv.of_body rfl (h.fed b hb).close (h.later b hb) (fun _ => .inl rfl) (h.cut b hb)
    fun he => ?_
  obtain ⟨hreturned, hcut, hfinished⟩ := h.ended he
  exact ⟨hreturned, hcut, hfinished b hb⟩

theorem Inv.read (h : Inv body d) {size : Nat} (hs : d.step (.read size) = some d') :
    Inv body d' := by
  obtain ⟨b, hb, hs⟩ := Option.bind_eq_some_iff.mp hs
  obtain ⟨⟨r, b'⟩, hread, rfl⟩ := Option.map_eq_some_iff.mp hs
  have hfed := h.fed b hb
  have hsame : Inv body { d with body := some b } := by
    rw [← hb]
    exact h
  cases reads_of_read hread with
  | bytes data chunk rest hchunks hdata =>
    refine Inv.of_body rfl (hfed.advance hchunks hdata) (h.later b hb) (fun hp => ?_)
      (fun hc => ?_) fun he => ?_
    · rw [advance_eq]
      exact h.gone b hb hp
    · rw [advance_eq]
      exact h.cut b hb hc
    · obtain ⟨hreturned, hcut, hfinished⟩ := h.ended he
      rw [advance_eq]
      refine ⟨?_, hcut, hfinished b hb⟩
      -- All of it was returned before, so there is nothing more to return.
      have hprefix := (hfed.advance hchunks hdata).inOrder
      have hle := hprefix.length_le
      have hdata : data.length = 0 := by
        simp only [hreturned, List.length_append] at hle
        omega
      show d.returned ++ data = body
      rw [List.length_eq_zero_iff.mp hdata, List.append_nil, hreturned]
  | eof hchunks hclosed hfinished herr =>
    refine Inv.of_body rfl hfed (h.later b hb) (h.gone b hb) (h.cut b hb) fun _ => ?_
    obtain ⟨rest, hbody, hrest⟩ := hfed.complete hclosed herr
    rw [if_pos hfinished] at hrest
    rw [queued_nil hchunks, hrest, List.append_nil, List.append_nil] at hbody
    refine ⟨hbody, Bool.eq_false_iff.mpr fun hc => ?_, hfinished⟩
    exact absurd (h.cut b hb hc) (by rw [herr]; exact Bool.false_ne_true)
  | closedPipe => exact hsame
  | failed err => exact hsame

theorem Inv.step {a : Delivery.Action} (h : Inv body d) (hs : d.step a = some d') :
    Inv body d' := by
  cases a with
  | deliver => exact h.deliver hs
  | abortEvent =>
    rw [Delivery.step] at hs
    split at hs
    case h_1 b hb =>
      split_ifs at hs <;> obtain rfl := Option.some.inj hs
      · exact h.abort hb d.pending _
      · exact h
    case h_2 => exact Option.some.inj hs ▸ h
  | abortActor cause =>
    rw [Delivery.step] at hs
    split at hs
    case h_1 b hb =>
      split_ifs at hs <;> obtain rfl := Option.some.inj hs
      · exact h.abort hb false cause
      · exact h
    case h_2 => exact Option.some.inj hs ▸ h
  | finish =>
    rw [Delivery.step] at hs
    split at hs
    case h_1 b hb =>
      split_ifs at hs <;> obtain rfl := Option.some.inj hs
      · exact h.close hb false
      · exact h
    case h_2 => exact Option.some.inj hs ▸ h
  | close =>
    obtain ⟨b, hb, rfl⟩ := Option.map_eq_some_iff.mp hs
    exact h.close hb d.pending
  | read size => exact h.read hs

/-- For every request that is sent, and every order of events, aborts, closes and reads, the
reads return a prefix of the body, and `io.EOF` only after all of it, and not if it was aborted
before its last chunk was there. -/
theorem requestBody_delivered {identity : ActorIdentity} {reqId : CorrelationId}
    {request : RivetGo.Native.Request} {events : List Native.Event}
    (hsent : requestHttp identity reqId request = .ok events)
    (h : Run.Reachable Delivery.step Run.anyAction (.start events) d) :
    Delivered request.body d d.cut := by
  have hstart : Inv request.body (.start events) :=
    ⟨fun _ => ⟨begins_requestHttp hsent, rfl, rfl, rfl⟩,
      fun _ hb => absurd hb.symm (Option.some_ne_none _),
      fun _ hb => absurd hb.symm (Option.some_ne_none _),
      fun _ hb => absurd hb.symm (Option.some_ne_none _),
      fun _ hb => absurd hb.symm (Option.some_ne_none _), fun he => absurd he Bool.noConfusion⟩
  exact (h.invariant (P := Inv request.body) hstart fun _ _ _ hI _ hs => hI.step hs).delivered

theorem owner_aid_ne : "actor" ≠ "" := by decide

theorem owner_aid_le : "actor".utf8ByteSize ≤ 2 ^ 20 := by decide

def owner : ActorIdentity := ⟨"actor", 1, owner_aid_ne, owner_aid_le⟩

theorem one_valid : (1 : UInt64) ≠ 0 := by decide

def firstRequest : CorrelationId := ⟨1, one_valid⟩

def post : RivetGo.Native.Request :=
  { method := "POST", path := "/", headers := Native.noHeaders, body := [1, 2, 3] }

def postEvents : List Native.Event :=
  [.httpRequest "actor" 1 1 "POST" "/" Native.noHeaders [1, 2, 3] false]

theorem requestHttp_post : requestHttp owner firstRequest post = .ok postEvents := rfl

/-- The body is read in two parts; then the actor is stopped, and the handler returns. -/
def readAndReturn : List Delivery.Action :=
  [.deliver, .read 2, .read 2, .read 2, .abortActor "shutting down", .finish, .read 2]

theorem post_delivered : ∃ d, Run.run Delivery.step (.start postEvents) readAndReturn = some d ∧
    d.returned = [1, 2, 3] ∧ d.ended = true ∧ Delivered post.body d d.cut :=
  ⟨_, rfl, rfl, rfl,
    requestBody_delivered requestHttp_post (Run.reachable_of_run readAndReturn rfl)⟩

/-- A body that is aborted when its last chunk is there already is read to its end, and then
`io.EOF` is returned. -/
theorem aborted_post_ends : ∃ d,
    Run.run Delivery.step (.start postEvents) [.deliver, .abortEvent, .read 3, .read 3] = some d ∧
    requestHttp owner firstRequest post = .ok postEvents ∧ d.aborted = true ∧ d.ended = true ∧
    ¬ Delivered post.body d d.aborted :=
  ⟨_, rfl, rfl, rfl, rfl, fun h => absurd (h.eof rfl).2 Bool.noConfusion⟩

end RivetGo.Http

import RivetGo.Boundary.Limits

/-!
# Everything the proxy emits for clients and operations

An `Emission` is one pass through a place of the actor proxy that sends events:
the close of a WebSocket, a report of a connection, a request, or the result of
a queue or schedule operation. Go accepts all the events of an emission exactly
when it is within the limits that Go has and the proxy does not check. Above all
a close code or a reason that a client chose is passed on as it is.
-/

namespace RivetGo.Native

/-- One pass through a place that sends events. -/
inductive Emission where
  | wsClosed (wsId : String) (code : Option UInt16) (reason : Option String)
  | connection (identity : ActorIdentity) (known : Bool) (opId : CorrelationId)
      (report : ConnectionReport)
  | wsOpen (identity : ActorIdentity) (conn : ConnHandle) (request : Option Request)
      (restoring : Bool)
  | http (identity : ActorIdentity) (reqId : CorrelationId) (request : Request)
  | action (identity : ActorIdentity) (callId : CorrelationId) (name : String) (args : Bytes)
      (connId : Option String) (known : String → Bool)
  | queueSend (op : Operation) (admission : Admission) (result : Except CoreError QueueMessage)
  | queueEnqueueWait (op : Operation) (admission : Admission)
      (result : Except CoreError (Option Bytes))
  | queueNext (op : Operation) (admission : Admission)
      (result : Except CoreError (Option QueueMessage))
  | queueComplete (op : Operation) (admission : Admission) (messageId : UInt64) (retained : Bool)
      (result : Except CoreError Unit)
  | queueRetry (op : Operation) (admission : Admission) (messageId : UInt64) (retained : Bool)
  | scheduleCreate (op : Operation) (admission : Admission) (result : Except CoreError String)
  | scheduleCancel (op : Operation) (admission : Admission) (result : Except CoreError Bool)
  | scheduleGet (op : Operation) (admission : Admission)
      (result : Except CoreError (Option ScheduledEvent))
  | scheduleList (op : Operation) (admission : Admission)
      (result : Except CoreError (List ScheduledEvent))

/-- The events that are sent; none if the proxy refuses the request. -/
def Emission.events : Emission → List Event
  | .wsClosed wsId code reason => [websocketClosed wsId code reason]
  | .connection identity known opId report => report.events identity known opId
  | .wsOpen identity conn request restoring =>
    (requestWsOpen identity conn request restoring).toOption.toList
  | .http identity reqId request => (requestHttp identity reqId request).toOption.getD []
  | .action identity callId name args connId known =>
    (requestAction identity callId name args connId known).toOption.toList
  | .queueSend op admission result => [dispatchQueueSend op admission result]
  | .queueEnqueueWait op admission result => [dispatchQueueEnqueueWait op admission result]
  | .queueNext op admission result => [dispatchQueueNext op admission result]
  | .queueComplete op admission messageId retained result =>
    [dispatchQueueComplete op admission messageId retained result]
  | .queueRetry op admission messageId retained =>
    [dispatchQueueRetry op admission messageId retained]
  | .scheduleCreate op admission result => [dispatchScheduleCreate op admission result]
  | .scheduleCancel op admission result => [dispatchScheduleCancel op admission result]
  | .scheduleGet op admission result => [dispatchScheduleGet op admission result]
  | .scheduleList op admission result => [dispatchScheduleList op admission result]

/-! ### The limits -/

/-- A connection with the path and the headers of its request. -/
def ConnHandle.WithinGoLimits (conn : ConnHandle) (request : Option Request) : Prop :=
  Named conn.id ∧ conn.params.length ≤ 2 ^ 20 ∧ conn.state.length ≤ 2 ^ 20 ∧
    ∀ r ∈ request, Small r.path ∧ r.headers.Checked

def ConnectionReport.WithinGoLimits (known : Bool) : ConnectionReport → Prop
  | .preflight conn request =>
    isActorConnectRequest request = true → conn.WithinGoLimits request
  | .opened conn request => isActorConnectRequest request = true → conn.WithinGoLimits request
  | .closed conn => known = true → conn.WithinGoLimits none

/-- The text that refuses an operation names the actor and its generation. -/
def Operation.Within (op : Operation) (admission : Admission) (admitted : Prop) : Prop :=
  let name := op.aid.utf8ByteSize + (toString op.generation).utf8ByteSize
  match admission with
  | .stale => name + 32 ≤ 2 ^ 20
  | .stopping => name + 30 ≤ 2 ^ 20
  | .admitted => admitted

/-- What core returned: a result within the limits, or an error that can be
presented. -/
def ResultWithin {α : Type} (limits : α → Prop) : Except CoreError α → Prop
  | .ok a => limits a
  | .error e => Named e.code ∧ Named e.message

/-- The limits of Go that the proxy does not check itself. -/
def Emission.WithinGoLimits : Emission → Prop
  | .wsClosed wsId code reason =>
    Named wsId ∧ code.all Wire.validWebSocketCloseCode = true ∧
      ∀ r ∈ reason, r.utf8ByteSize ≤ 123
  | .connection _ known _ report => report.WithinGoLimits known
  | .wsOpen _ conn request restoring =>
    (∀ r ∈ request, r.headers.Checked) →
      Named conn.id ∧ (∀ r ∈ request, Named r.path) ∧
        (restoring = true → conn.isHibernatable = true)
  | .http _ _ request => request.headers.Checked → Named request.method ∧ Named request.path
  | .action _ _ name args connId known =>
    args.length ≤ maxBodyChunk → Named name ∧ ∀ c ∈ connId, known c = true → Small c
  | .queueSend op admission result =>
    op.Within admission (ResultWithin QueueMessage.WithinGoLimits result)
  | .queueEnqueueWait op admission result =>
    op.Within admission (ResultWithin (fun response => ∀ r ∈ response, r.length ≤ 2 ^ 20) result)
  | .queueNext op admission result =>
    op.Within admission (ResultWithin (fun message => ∀ m ∈ message, m.WithinGoLimits) result)
  | .queueComplete op admission _ retained result =>
    op.Within admission (retained = true → ResultWithin (fun _ => True) result)
  | .queueRetry op admission _ _ => op.Within admission True
  | .scheduleCreate op admission result => op.Within admission (ResultWithin Named result)
  | .scheduleCancel op admission result =>
    op.Within admission (ResultWithin (fun _ => True) result)
  | .scheduleGet op admission result =>
    op.Within admission (ResultWithin (fun event =>
      schedulesTooLarge (visibleSchedules event.toList) = false →
        SchedulesNamed (visibleSchedules event.toList)) result)
  | .scheduleList op admission result =>
    op.Within admission (ResultWithin (fun events =>
      schedulesTooLarge (visibleSchedules events) = false →
        SchedulesNamed (visibleSchedules events)) result)

/-! ### Operations -/

section Operations

variable {quote : Bytes → String} {op : Operation} {admission : Admission} {operation : String}

theorem named_of_size {s : String} {n : Nat} (hsize : s.utf8ByteSize = n) (hpos : 0 < n) :
    Named s ↔ n ≤ 2 ^ 20 := by
  rw [Named, Small, hsize]
  refine and_iff_right ?_
  rintro rfl
  exact absurd hsize (Nat.ne_of_lt hpos)

/-- How long the text is that refuses an operation. -/
theorem size_refusal (rest : String) :
    s!"actor {op.aid} generation {op.generation}{rest}".utf8ByteSize =
      op.aid.utf8ByteSize + (toString op.generation).utf8ByteSize + (18 + rest.utf8ByteSize) := by
  have hactor : "actor ".utf8ByteSize = 6 := rfl
  have hgeneration : " generation ".utf8ByteSize = 12 := rfl
  simp only [String.utf8ByteSize_append]
  change "actor ".utf8ByteSize + op.aid.utf8ByteSize + " generation ".utf8ByteSize +
    (toString op.generation).utf8ByteSize + rest.utf8ByteSize + 0 = _
  omega

theorem refusal_presentable {error : WireError} {admitted : Prop}
    (h : op.refusal admission = some error) :
    error.Presentable ↔ op.Within admission admitted := by
  cases admission with
  | stale =>
    obtain rfl := Option.some.inj h
    have hcode : Named "actor_generation_stale" := by decide
    exact (and_iff_right hcode).trans
      (named_of_size (size_refusal " is not active") (Nat.succ_pos _))
  | stopping =>
    obtain rfl := Option.some.inj h
    have hcode : Named "actor_stopping" := by decide
    exact (and_iff_right hcode).trans
      (named_of_size (size_refusal " is stopping") (Nat.succ_pos _))
  | admitted => cases h

variable {α : Type} {settled : α → Event}

/-- An operation that is not admitted is answered with its refusal. -/
theorem settleQueue_acceptable {result : Except WireError α} {limits : Prop}
    (hop : Small operation) (hok : ∀ a, result = .ok a → ((settled a).Acceptable quote ↔ limits))
    (herror : ∀ e, result = .error e → (e.Presentable ↔ limits)) :
    (settleQueue op admission operation result settled).Acceptable quote ↔
      op.Within admission limits := by
  cases h : op.refusal admission with
  | some error =>
    simp only [settleQueue, h]
    rw [queueWireError_acceptable hop, refusal_presentable h]
  | none =>
    obtain rfl : admission = .admitted := by cases admission <;> first | rfl | cases h
    simp only [settleQueue, h]
    cases result with
    | ok a => exact hok a rfl
    | error e =>
      rw [queueWireError_acceptable hop]
      exact herror e rfl

theorem settleQueue_core_acceptable {result : Except CoreError α} {limits : α → Prop}
    (hop : Small operation) (h : ∀ a, (settled a).Acceptable quote ↔ limits a) :
    (settleQueue op admission operation (result.mapError CoreError.toWireError)
      settled).Acceptable quote ↔ op.Within admission (ResultWithin limits result) := by
  apply settleQueue_acceptable hop
  · intro a ha
    cases result with
    | ok b =>
      obtain rfl := Except.ok.inj ha
      exact h b
    | error e => cases ha
  · intro e he
    cases result with
    | ok b => cases he
    | error e' =>
      obtain rfl := Except.error.inj he
      exact Iff.rfl

theorem settleSchedule_acceptable {result : Except CoreError α} {limits : α → Prop}
    (hop : Small operation) (hok : ∀ a, (settled a).Acceptable quote ↔ limits a) :
    (settleSchedule op admission operation result settled).Acceptable quote ↔
      op.Within admission (ResultWithin limits result) := by
  have hname : Small "operation" := by decide
  cases h : op.refusal admission with
  | some error =>
    simp only [settleSchedule, h]
    rw [scheduleWireError_acceptable hname, refusal_presentable h]
  | none =>
    obtain rfl : admission = .admitted := by cases admission <;> first | rfl | cases h
    simp only [settleSchedule, h]
    cases result with
    | ok a => exact hok a
    | error e =>
      rw [scheduleWireError_acceptable hop]
      rfl

theorem queueMessageUnavailable_presentable (messageId : UInt64) (pending : String)
    (h : pending.utf8ByteSize ≤ 100) : (queueMessageUnavailable messageId pending).Presentable := by
  have hcode : Named "queue_message_unavailable" := by decide
  have hprefix : "queue message ".utf8ByteSize = 14 := rfl
  have hmiddle : " is not pending ".utf8ByteSize = 16 := rfl
  have hid := Utf8.utf8ByteSize_toString_le messageId
  have hsize : (queueMessageUnavailable messageId pending).message.utf8ByteSize =
      (toString messageId).utf8ByteSize + pending.utf8ByteSize + 30 := by
    simp only [queueMessageUnavailable, WireError.new, String.utf8ByteSize_append]
    change "queue message ".utf8ByteSize + (toString messageId).utf8ByteSize +
      " is not pending ".utf8ByteSize + pending.utf8ByteSize + 0 = _
    omega
  refine ⟨hcode, (named_of_size hsize (Nat.succ_pos _)).mpr ?_⟩
  omega

end Operations

section Sites

variable {quote : Bytes → String} {op : Operation} {admission : Admission}

theorem queueSend_acceptable {result : Except CoreError QueueMessage} :
    (dispatchQueueSend op admission result).Acceptable quote ↔
      op.Within admission (ResultWithin QueueMessage.WithinGoLimits result) := by
  apply settleQueue_core_acceptable (by decide)
  intro m
  rw [queueResult_acceptable (by decide)]
  · simp
  · simp [Wire.validateQueuePayload, emitQueueResult, Event.received, Wire.QueueOperation.ofTag?]

theorem queueEnqueueWait_acceptable {result : Except CoreError (Option Bytes)} :
    (dispatchQueueEnqueueWait op admission result).Acceptable quote ↔
      op.Within admission
        (ResultWithin (fun response => ∀ r ∈ response, r.length ≤ 2 ^ 20) result) := by
  apply settleQueue_core_acceptable (by decide)
  intro response
  rw [queueResult_acceptable (by decide)]
  · simp
  · simp [Wire.validateQueuePayload, emitQueueResult, Event.received, Wire.QueueOperation.ofTag?]

theorem queueNext_acceptable {result : Except CoreError (Option QueueMessage)} :
    (dispatchQueueNext op admission result).Acceptable quote ↔
      op.Within admission
        (ResultWithin (fun message => ∀ m ∈ message, m.WithinGoLimits) result) := by
  apply settleQueue_core_acceptable (by decide)
  intro message
  rw [queueResult_acceptable (by decide)]
  · simp
  · simp [Wire.validateQueuePayload, emitQueueResult, Event.received, Wire.QueueOperation.ofTag?]

theorem queueComplete_acceptable {messageId : UInt64} {retained : Bool}
    {result : Except CoreError Unit} :
    (dispatchQueueComplete op admission messageId retained result).Acceptable quote ↔
      op.Within admission (retained = true → ResultWithin (fun _ => True) result) := by
  have hdone : (emitQueueResult op "complete" none none).Acceptable quote := by
    rw [queueResult_acceptable (by decide)]
    · simp
    · simp [Wire.validateQueuePayload, emitQueueResult, Event.received,
        Wire.QueueOperation.ofTag?]
  cases retained with
  | true =>
    have h := @settleQueue_core_acceptable quote op admission "complete" Unit
      (fun _ => emitQueueResult op "complete" none none) result (fun _ => True) (by decide)
      (fun _ => iff_true_intro hdone)
    simpa [dispatchQueueComplete] using h
  | false =>
    apply settleQueue_acceptable (by decide)
    · intro a ha
      cases ha
    · rintro e he
      obtain rfl := Except.error.inj he
      simp [queueMessageUnavailable_presentable messageId "completion" (by decide)]

theorem queueRetry_acceptable {messageId : UInt64} {retained : Bool} :
    (dispatchQueueRetry op admission messageId retained).Acceptable quote ↔
      op.Within admission True := by
  apply settleQueue_acceptable (by decide)
  · rintro ⟨⟩ -
    rw [queueResult_acceptable (by decide)]
    · simp
    · simp [Wire.validateQueuePayload, emitQueueResult, Event.received,
        Wire.QueueOperation.ofTag?]
  · intro e he
    cases retained with
    | true => cases he
    | false =>
      obtain rfl := Except.error.inj he
      exact iff_true_intro (queueMessageUnavailable_presentable messageId "retry" (by decide))

theorem scheduleGet_acceptable {result : Except CoreError (Option ScheduledEvent)} :
    (dispatchScheduleGet op admission result).Acceptable quote ↔
      op.Within admission (ResultWithin (fun event =>
        schedulesTooLarge (visibleSchedules event.toList) = false →
          SchedulesNamed (visibleSchedules event.toList)) result) := by
  apply settleSchedule_acceptable (by decide)
  intro event
  apply scheduleEvents_acceptable (by decide)
  have hone : (visibleSchedules event.toList).length ≤ 1 :=
    (List.length_filter_le _ _).trans (by cases event <;> simp)
  simp [Wire.validateSchedulePayload, Event.received, Wire.ScheduleOperation.ofTag?, optionalText,
    hone]

theorem scheduleList_acceptable {result : Except CoreError (List ScheduledEvent)} :
    (dispatchScheduleList op admission result).Acceptable quote ↔
      op.Within admission (ResultWithin (fun events =>
        schedulesTooLarge (visibleSchedules events) = false →
          SchedulesNamed (visibleSchedules events)) result) := by
  apply settleSchedule_acceptable (by decide)
  intro events
  apply scheduleEvents_acceptable (by decide)
  simp [Wire.validateSchedulePayload, Event.received, Wire.ScheduleOperation.ofTag?, optionalText]

/-! ### Requests -/

variable {identity : ActorIdentity} {id : CorrelationId}

theorem noHeaders_checked : noHeaders.Checked := by
  simp [StringMap.Checked, noHeaders]

theorem requestConnection_acceptable {conn : ConnHandle} {request : Option Request} {known : Bool}
    {kind : ConnectionEventKind} (h : (isActorConnectRequest request || known) = true) :
    (requestConnection identity conn request known id kind).Acceptable quote ↔
      conn.WithinGoLimits request := by
  have hlimits : ∀ c : Connection, c.id = conn.id → c.parameters = conn.params →
      c.state = conn.state → c.path = request.elim "" Request.path →
      c.headers = request.elim noHeaders Request.headers →
        (c.WithinGoLimits ↔ conn.WithinGoLimits request) := by
    intro c hid hparameters hstate hpath hheaders
    rw [Connection.WithinGoLimits, ConnHandle.WithinGoLimits, hid, hparameters, hstate, hpath,
      hheaders]
    cases request with
    | none =>
      have hsmall : Small "" := by decide
      simp [hsmall, noHeaders_checked]
    | some r => simp
  cases kind with
  | preflight =>
    exact (connectionEvent_acceptable (.inl rfl) h).trans (hlimits _ rfl rfl rfl rfl rfl)
  | opened =>
    exact (connectionEvent_acceptable (.inr (.inl rfl)) h).trans (hlimits _ rfl rfl rfl rfl rfl)
  | closed =>
    exact (connectionEvent_acceptable (.inr (.inr rfl)) h).trans (hlimits _ rfl rfl rfl rfl rfl)

theorem connectionReport_acceptable {known : Bool} {report : ConnectionReport} :
    (∀ e ∈ report.events identity known id, e.Acceptable quote) ↔ report.WithinGoLimits known := by
  cases report with
  | preflight conn request | opened conn request =>
    rw [ConnectionReport.events, ConnectionReport.WithinGoLimits]
    split_ifs with hconnect
    · rw [List.forall_mem_singleton, requestConnection_acceptable (by simp [hconnect])]
      simp [hconnect]
    · simp [hconnect]
  | closed conn =>
    rw [ConnectionReport.events, ConnectionReport.WithinGoLimits]
    split_ifs with hknown
    · rw [List.forall_mem_singleton, requestConnection_acceptable (by simp [hknown])]
      simp [hknown]
    · simp [hknown]

theorem requestWsOpen_acceptable {conn : ConnHandle} {request : Option Request}
    {restoring : Bool} :
    (∀ e ∈ (requestWsOpen identity conn request restoring).toOption.toList,
      e.Acceptable quote) ↔
        ((∀ r ∈ request, r.headers.Checked) →
          Named conn.id ∧ (∀ r ∈ request, Named r.path) ∧
            (restoring = true → conn.isHibernatable = true)) := by
  have hheaders : (request.elim noHeaders Request.headers).Checked ↔
      ∀ r ∈ request, r.headers.Checked := by
    cases request with
    | none => simp [noHeaders_checked]
    | some r => simp
  have hpath : Named (request.elim "/" Request.path) ↔ ∀ r ∈ request, Named r.path := by
    cases request with
    | none =>
      have hslash : Named "/" := by decide
      simp [hslash]
    | some r => simp
  rw [requestWsOpen, ← hheaders, ← hpath]
  cases hcheck : checkHeaders _ _ (request.elim noHeaders Request.headers) with
  | ok _ =>
    have hchecked := checkHeaders_eq_ok.mp hcheck
    simp only [bind, Except.bind, pure, Except.pure, Except.toOption,
      Option.toList_some, List.forall_mem_singleton]
    rw [wsOpen_acceptable hchecked]
    simp [hchecked]
  | error error =>
    have hchecked : ¬ (request.elim noHeaders Request.headers).Checked := by
      intro h
      rw [checkHeaders_eq_ok.mpr h] at hcheck
      cases hcheck
    simp [bind, Except.bind, Except.toOption, hchecked]

/-- The chunks of a body are always accepted. -/
theorem httpRequestChunks_acceptable {remaining : Bytes} {e : Event}
    (he : e ∈ httpRequestChunks id remaining) : e.Acceptable quote := by
  obtain ⟨chunk, hchunk, rfl⟩ := List.mem_map.mp he
  obtain ⟨hne, hle⟩ := Chunk.of_mem_chunks (by decide) (List.fst_mem_of_mem_zipIdx hchunk)
  exact httpRequestChunk_acceptable hne hle

theorem requestHttp_acceptable {request : Request} :
    (∀ e ∈ (requestHttp identity id request).toOption.getD [], e.Acceptable quote) ↔
      (request.headers.Checked → Named request.method ∧ Named request.path) := by
  rw [requestHttp]
  cases hcheck : checkHeaders _ _ request.headers with
  | ok _ =>
    have hchecked := checkHeaders_eq_ok.mp hcheck
    have hbody : (request.body.take (min request.body.length maxBodyChunk)).length ≤
        maxBodyChunk := by
      rw [List.length_take]
      omega
    simp only [bind, Except.bind, pure, Except.pure, Except.toOption, Option.getD_some,
      List.forall_mem_cons]
    rw [httpRequest_acceptable hchecked hbody]
    simp only [hchecked, true_implies]
    exact and_iff_left fun e he => httpRequestChunks_acceptable he
  | error error =>
    have hchecked : ¬ request.headers.Checked := by
      intro h
      rw [checkHeaders_eq_ok.mpr h] at hcheck
      cases hcheck
    simp [bind, Except.bind, Except.toOption, hchecked]

theorem requestAction_acceptable {name : String} {args : Bytes} {connId : Option String}
    {known : String → Bool} :
    (∀ e ∈ (requestAction identity id name args connId known).toOption.toList,
      e.Acceptable quote) ↔
        (args.length ≤ maxBodyChunk → Named name ∧ ∀ c ∈ connId, known c = true → Small c) := by
  rw [requestAction]
  split_ifs with hlarge
  · simp [Except.toOption, Nat.not_le_of_gt hlarge]
  · simp only [Except.toOption, Option.toList_some, List.forall_mem_singleton]
    rw [actionCall_acceptable (Nat.le_of_not_gt hlarge)]
    simp [Nat.le_of_not_gt hlarge, Option.filter_eq_some_iff]

end Sites

/-! ### All emissions -/

variable {quote : Bytes → String} {seq : UInt64} {x : Emission}

theorem emission_acceptable_iff :
    (∀ e ∈ x.events, e.Acceptable quote) ↔ x.WithinGoLimits := by
  cases x with
  | wsClosed wsId code reason => exact List.forall_mem_singleton.trans wsClose_acceptable
  | connection identity known opId report => exact connectionReport_acceptable
  | wsOpen identity conn request restoring => exact requestWsOpen_acceptable
  | http identity reqId request => exact requestHttp_acceptable
  | action identity callId name args connId known => exact requestAction_acceptable
  | queueSend op admission result => exact List.forall_mem_singleton.trans queueSend_acceptable
  | queueEnqueueWait op admission result =>
    exact List.forall_mem_singleton.trans queueEnqueueWait_acceptable
  | queueNext op admission result => exact List.forall_mem_singleton.trans queueNext_acceptable
  | queueComplete op admission messageId retained result =>
    exact List.forall_mem_singleton.trans queueComplete_acceptable
  | queueRetry op admission messageId retained =>
    exact List.forall_mem_singleton.trans queueRetry_acceptable
  | scheduleCreate op admission result =>
    exact List.forall_mem_singleton.trans
      (settleSchedule_acceptable (by decide) fun _ => scheduleCreate_acceptable)
  | scheduleCancel op admission result =>
    exact List.forall_mem_singleton.trans
      (settleSchedule_acceptable (by decide) fun _ => iff_true_intro scheduleCancel_acceptable)
  | scheduleGet op admission result =>
    exact List.forall_mem_singleton.trans scheduleGet_acceptable
  | scheduleList op admission result =>
    exact List.forall_mem_singleton.trans scheduleList_acceptable

/-- Every poll that returns an event of the emission, between events that Go
accepts, is decoded. -/
def Emission.Decoded (quote : Bytes → String) (x : Emission) : Prop :=
  ∀ e ∈ x.events, ∀ (seq : UInt64) (before after : List Event),
    before.length + after.length < maxPollBatch →
    (∀ e' ∈ before ++ after, e'.Acceptable quote ∧ e'.toValue.Fits) →
      ∃ batch, Wire.decodeEventBatch quote (poll seq (before ++ e :: after)).1 = .ok batch

/-- The events of an emission are decoded exactly when it is within the limits
that only Go checks. -/
theorem emission_decoded_iff (hfits : ∀ e ∈ x.events, e.toValue.Fits) :
    x.Decoded quote ↔ x.WithinGoLimits := by
  rw [← @emission_acceptable_iff quote]
  refine forall₂_congr fun e he => ?_
  constructor
  · intro h
    obtain ⟨batch, hbatch⟩ := h 0 [] [] (by decide) (by simp)
    have hone : ∀ e' ∈ [e].take maxPollBatch, e'.toValue.Fits :=
      List.forall_mem_singleton.mpr (hfits e he)
    exact List.forall_mem_singleton.mp ((decodeEventBatch_poll hone).mp hbatch).1
  · intro h seq before after hlength hothers
    have htake : (before ++ e :: after).take maxPollBatch = before ++ e :: after := by
      apply List.take_of_length_le
      rw [List.length_append, List.length_cons]
      omega
    have hall : ∀ e' ∈ before ++ e :: after, e'.Acceptable quote ∧ e'.toValue.Fits := by
      intro e' he'
      rw [List.mem_append, List.mem_cons] at he'
      obtain hmem | rfl | hmem := he'
      · exact hothers e' (List.mem_append_left after hmem)
      · exact ⟨h, hfits e' he⟩
      · exact hothers e' (List.mem_append_right before hmem)
    have hpoll := @decodeEventBatch_poll quote seq (before ++ e :: after)
      ⟨seq, (before ++ e :: after).map Event.received⟩
    rw [htake] at hpoll
    exact ⟨_, (hpoll fun e' he' => (hall e' he').2).mpr ⟨fun e' he' => (hall e' he').1, rfl⟩⟩

theorem websocketClosed_fits {wsId reason : String} {code : UInt16}
    (hid : wsId.utf8ByteSize < 2 ^ 32) (hreason : reason.utf8ByteSize < 2 ^ 32) :
    (websocketClosed wsId (some code) (some reason)).toValue.Fits := by
  apply event_fits
  simp only [websocketClosed, Event.fields, Wire.pointer, List.forall_mem_cons, utf8,
    MessagePack.Value.str_fits, MessagePack.Value.uint16_fits, List.not_mem_nil, false_implies,
    implies_true, and_true, true_and]
  exact ⟨hid, hreason⟩

theorem normal_close_decoded :
    (Emission.wsClosed "ws" (some 1000) (some "bye")).Decoded fun _ => "" := by
  have hfits : ∀ e ∈ (Emission.wsClosed "ws" (some 1000) (some "bye")).events, e.toValue.Fits :=
    List.forall_mem_singleton.mpr (websocketClosed_fits (by decide) (by decide))
  refine (emission_decoded_iff hfits).mpr ⟨by decide, by decide, ?_⟩
  rintro r ⟨⟩
  decide

/-- A connection that breaks down is closed with code 1006, and no poll that
returns that event is decoded. -/
theorem abnormal_close_not_decoded :
    ¬ ∃ quote seq batch,
      Wire.decodeEventBatch quote (poll seq [websocketClosed "ws" (some 1006) (some "")]).1 =
        .ok batch := by
  rintro ⟨quote, seq, batch, hbatch⟩
  have hfits : ∀ e ∈ [websocketClosed "ws" (some 1006) (some "")].take maxPollBatch,
      e.toValue.Fits :=
    List.forall_mem_singleton.mpr (websocketClosed_fits (by decide) (by decide))
  have hacceptable := List.forall_mem_singleton.mp ((decodeEventBatch_poll hfits).mp hbatch).1
  have hcode := (wsClose_acceptable.mp hacceptable).2.1
  exact absurd hcode (by decide)

end RivetGo.Native

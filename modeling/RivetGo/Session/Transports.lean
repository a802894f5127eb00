import RivetGo.Session.SqliteCommit
import RivetGo.Socket.Commit

/-!
# Committed mutations on both transports

A SQLite command goes through the FFI or through the runtime socket. On both, a
caller that may have written and whose context ended gets the context error in
the place of an error. An executed command is answered with an error if its
result cannot be returned, and on the socket also if the client is closed before
the answer is there.
-/

namespace RivetGo.Transports

open Native (ExecuteResult)

/-- On the FFI, the caller of an executed command that may write never gets the
context error exactly if the result is within the limits. On the socket it never
gets it in runs in which no response to a request that may write is too large and
the client is not closed while such a request has no answer. -/
theorem executed_not_contextError (call : SqliteCall.Call) (hcall : call.mayWrite = true)
    (mayWrite : Nat → Bool) (t : Socket.State)
    (ht : Run.Reachable (Socket.step mayWrite) (Socket.Settles mayWrite) Socket.initial t) :
    ((∀ s, SqliteCall.Reaches call s → s.settled = true → call.fate.Executed →
        s.caller ≠ .returned .contextError) ↔
      ∀ inTime r, call.fate = .ran inTime (.ok r) → (call.command.returned r).Returnable) ∧
    ∀ k, mayWrite k = true → k ∈ t.executed → t.phase k ≠ .done .contextError := by
  refine ⟨SqliteCall.contextError_free_iff hcall, ?_⟩
  intro k hwrite hexecuted
  exact Socket.no_contextError_of_settles ht hwrite hexecuted

/-- An insertion, executed after its deadline. -/
def lateInsert : SqliteCall.Call :=
  { command :=
      { requestId := 1, aid := "actor", generation := 1, kind := .exec,
        sql := "INSERT INTO log VALUES (1)", deadlineMs := 1000 }
    fate := .ran false (.ok
      { columns := [], rows := [], changes := 1, lastInsertRowId := some 1 }) }

/-- A call on the socket whose context ended before the response came. -/
def cancelledRun : List Socket.Action :=
  [.register 0, .acquire 0, .write 0, .cancel 0, .notice 0, .answer 0 .result, .read, .lookup,
    .deliver, .receive 0]

theorem lateInsert_not_contextError :
    lateInsert.mayWrite = true ∧
      (∀ s, SqliteCall.Reaches lateInsert s → s.settled = true → lateInsert.fate.Executed →
        s.caller ≠ .returned .contextError) ∧
      ∃ s, Run.run (Socket.step fun _ => true) Socket.initial cancelledRun = some s ∧
        0 ∈ s.executed ∧ s.phase 0 ≠ .done .contextError := by
  have hallowed : ∀ a ∈ cancelledRun, ∀ s, Socket.Settles (fun _ => true) s a := by
    simp [cancelledRun, Socket.Settles]
  have hrun := Run.Reachable.init.run (Run.allowed_of_forall hallowed)
    (rfl : Run.run (Socket.step fun _ => true) Socket.initial cancelledRun = some _)
  have hboth := executed_not_contextError lateInsert (by decide) (fun _ => true) _ hrun
  refine ⟨by decide, hboth.1.mpr ?_, _, rfl, by decide, hboth.2 0 rfl (by decide)⟩
  intro inTime r _
  exact ⟨nofun, Nat.zero_le _, nofun, Nat.zero_le _⟩

/-- One column and `n` rows with a blob of some size. -/
def blobs (n size : Nat) : ExecuteResult :=
  { columns := ["data"], rows := List.replicate n [.blob (List.replicate size 0)],
    changes := Int64.ofNat n, lastInsertRowId := none }

theorem accountedBytes_blobs (n size : Nat) :
    (blobs n size).accountedBytes = 4 + n * (size + 16) := by
  have hvalues : (blobs n size).values = List.replicate n (.blob (List.replicate size 0)) := by
    simp [ExecuteResult.values, blobs, Native.ColumnValue.toSqlite]
  have hcolumns : (blobs n size).columnBytes = 4 := rfl
  rw [ExecuteResult.accountedBytes, hcolumns, hvalues, Packing.total, List.map_replicate,
    List.sum_replicate_nat, Native.SqliteValue.accountedBytes, List.length_replicate]

theorem blobs_not_returnable : ¬ (blobs 33 (2 ^ 20)).Returnable := by
  intro h
  have hsize := h.size
  rw [accountedBytes_blobs] at hsize
  omega

/-- An update that returns 33 blobs of one mebibyte. -/
def returningQuery : SqliteCall.Call :=
  { command :=
      { requestId := 1, aid := "actor", generation := 1, kind := .query,
        sql := "UPDATE files SET seen = 1 RETURNING data", deadlineMs := 1000 }
    fate := .ran true (.ok (blobs 33 (2 ^ 20))) }

/-- An executed command is reported as the context error: on the FFI because its
result is too large, and on the socket because its response is too large, or
because the client is closed before the response is read. -/
theorem executed_reported_as_contextError :
    (returningQuery.mayWrite = true ∧
      ¬ ∀ s, SqliteCall.Reaches returningQuery s → s.settled = true →
        returningQuery.fate.Executed → s.caller ≠ .returned .contextError) ∧
    (∃ s, Socket.Reaches (fun _ => true) s ∧ s.closer = .open ∧ 0 ∈ s.executed ∧
      s.phase 0 = .done .contextError) ∧
    (∃ s, Socket.Reaches (fun _ => true) s ∧ s.responses = [((1, 0), .result)] ∧
      0 ∈ s.executed ∧ s.phase 0 = .done .contextError) := by
  refine ⟨⟨by decide, ?_⟩, ?_, ?_⟩
  · intro h
    exact blobs_not_returnable
      ((SqliteCall.contextError_free_iff (by decide)).mp h true (blobs 33 (2 ^ 20)) rfl)
  · exact ⟨_, Run.reachable_of_run [.register 0, .acquire 0, .write 0, .cancel 0, .notice 0,
      .answer 0 .tooLarge, .read, .lookup, .deliver, .receive 0] rfl, rfl, by decide, rfl⟩
  · exact ⟨_, Run.reachable_of_run [.register 0, .acquire 0, .write 0, .cancel 0, .notice 0,
      .answer 0 .result, .disconnect, .signal, .empty, .tell 0, .receive 0] rfl, rfl, by decide,
      rfl⟩

end RivetGo.Transports

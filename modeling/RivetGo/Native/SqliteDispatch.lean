import Mathlib.Data.List.DropRight
import RivetGo.Native.Sqlite

/-!
# What native answers to a SQLite command

A command is refused if its generation is gone or stopping or if its lease is
not the right one. Otherwise core runs it with a deadline. A statement that can
only read is abandoned at the deadline; any other one is awaited beyond it, and
then a success is still reported as one. A success is answered with the chunk
events of its result, and every error with a single event.
-/

namespace RivetGo.Native

/-- The five SQLite commands. -/
inductive SqliteRequestKind where
  | exec | query | begin | commit | rollback
  deriving DecidableEq

/-- A SQLite command as far as its answer depends on it. Only the first two
kinds have a statement. -/
structure SqliteCommand where
  requestId : UInt64
  aid : String
  generation : UInt64
  kind : SqliteRequestKind
  sql : String
  deadlineMs : UInt32

/-- White space is trimmed, and the text has to begin with the word `SELECT`. -/
def definitelyReadOnly (sql : String) : Bool :=
  let trimmed := (sql.toList.dropWhile Utf8.isWhiteSpace).rdropWhile Utf8.isWhiteSpace
  (trimmed.take 6).map Char.toUpper == "SELECT".toList &&
    trimmed[6]?.all fun c => c ∈ [' ', '\t', '\n', '\r', '\x0c']

/-- What is given up at the deadline. -/
def SqliteCommand.abandonSafe (c : SqliteCommand) : Bool :=
  (c.kind = .exec || c.kind = .query) && definitelyReadOnly c.sql

inductive SqliteDeadlineResult where
  | onTime (result : Except WireError ExecuteResult)
  | late (result : Except WireError ExecuteResult)
  | abandoned

def awaitSqliteDeadline (abandonSafe inTime : Bool) (result : Except WireError ExecuteResult) :
    SqliteDeadlineResult :=
  if inTime then .onTime result
  else if abandonSafe then .abandoned
  else .late result

/-- Why a command is refused before it runs. -/
inductive Refusal where
  | stale | stopping | lease
  deriving DecidableEq

def Refusal.error (c : SqliteCommand) : Refusal → WireError
  | .stale =>
    match c.kind with
    | .exec | .query =>
      .new "actor_generation_stale"
        s!"actor {c.aid} generation {c.generation} is not active"
    | _ => .new "actor_generation_stale" "actor generation is not active"
  | .stopping => .new "actor_stopping" "actor generation is stopping"
  | .lease =>
    .new "invalid_lease_key"
      (if c.kind = .begin then "SQLite transaction lease was already used"
      else "SQLite transaction lease is not active")

/-- What becomes of a command: it is refused, or core runs it, and ends before
the deadline or after it. -/
inductive Fate where
  | refused (reason : Refusal)
  | ran (inTime : Bool) (result : Except WireError ExecuteResult)

/-- Core ran the command with success. -/
def Fate.Executed : Fate → Prop
  | .ran _ (.ok _) => True
  | _ => False

def deadlineError (c : SqliteCommand) : WireError :=
  let subject :=
    match c.kind with
    | .exec | .query => "SQLite operation"
    | .begin => "SQLite begin"
    | .commit | .rollback => "SQLite transaction finish"
  .new "sqlite_deadline_exceeded" s!"{subject} exceeded its {c.deadlineMs} ms boundary deadline"

/-- The part of the result that is sent back. Only a query returns rows, and only
a statement has counts. -/
def SqliteCommand.returned (c : SqliteCommand) (result : ExecuteResult) : ExecuteResult :=
  match c.kind with
  | .query => result
  | .exec => { result with columns := [], rows := [] }
  | _ => { columns := [], rows := [], changes := 0, lastInsertRowId := none }

def emitSqliteError (requestId : UInt64) (error : WireError) : List Event :=
  [.sqliteResult requestId 0 true [] [] 0 none (some error)]

def emitSqliteExecuteResult (requestId : UInt64) (result : ExecuteResult) : List Event :=
  match sqliteResultEvents requestId result with
  | .ok events => events
  | .error error => emitSqliteError requestId error

/-- The events that answer a command. -/
def SqliteCommand.answer (c : SqliteCommand) : Fate → List Event
  | .refused reason => emitSqliteError c.requestId (reason.error c)
  | .ran inTime result =>
    match awaitSqliteDeadline c.abandonSafe inTime result with
    | .onTime (.ok result) | .late (.ok result) =>
      emitSqliteExecuteResult c.requestId (c.returned result)
    | .onTime (.error error) => emitSqliteError c.requestId error
    | .late (.error _) | .abandoned => emitSqliteError c.requestId (deadlineError c)

/-! ### The shape of an answer -/

/-- An event with the last chunk of a result. -/
def Event.isLast : Event → Bool
  | .sqliteResult _ _ done _ _ _ _ _ => done
  | _ => false

/-- An answer ends with the event that says so, and with no other one. -/
def EndsOnce (events : List Event) : Prop :=
  ∀ i event, events[i]? = some event → (event.isLast = true ↔ i + 1 = events.length)

theorem endsOnce_error (requestId : UInt64) (error : WireError) :
    EndsOnce (emitSqliteError requestId error) := by
  intro i event h
  obtain ⟨hi, rfl⟩ := List.getElem?_eq_some_iff.mp h
  obtain rfl : i = 0 := by simpa [emitSqliteError] using hi
  simp [emitSqliteError, Event.isLast]

theorem endsOnce_chunkEvents (requestId : UInt64) (r : ExecuteResult)
    (chunks : List (List SqliteValue)) : EndsOnce (chunkEvents requestId r chunks) := by
  intro i event h
  rw [chunkEvents, List.getElem?_mapIdx, Option.map_eq_some_iff] at h
  obtain ⟨chunk, hchunk, rfl⟩ := h
  obtain ⟨hi, -⟩ := List.getElem?_eq_some_iff.mp hchunk
  rw [chunkEvents, List.length_mapIdx, chunkEvent, Event.isLast, beq_iff_eq]
  omega

theorem endsOnce_result (requestId : UInt64) (r : ExecuteResult) :
    EndsOnce (emitSqliteExecuteResult requestId r) := by
  unfold emitSqliteExecuteResult
  split
  case h_1 events h =>
    obtain ⟨-, c, -, rfl⟩ := sqliteResultEvents_eq_ok h
    exact endsOnce_chunkEvents requestId r c.chunks.all
  case h_2 error _ => exact endsOnce_error requestId error

theorem endsOnce_answer (c : SqliteCommand) (fate : Fate) : EndsOnce (c.answer fate) := by
  cases fate with
  | refused reason => exact endsOnce_error c.requestId _
  | ran inTime result =>
    rw [SqliteCommand.answer]
    split
    · exact endsOnce_result c.requestId _
    · exact endsOnce_result c.requestId _
    · exact endsOnce_error c.requestId _
    · exact endsOnce_error c.requestId _
    · exact endsOnce_error c.requestId _

end RivetGo.Native

import Mathlib
import RivetGo.Data.Mutex
import RivetGo.Data.Run
import RivetGo.Native.Command

/-!
# Setting the alarm

The alarm of an actor is a row of core's schedule table under a reserved action. `SetAlarm` adds
one to the revision of the generation and starts a task. The task takes the lock `apply`, and
goes on only as long as the revision is its own: it lists the schedules, cancels the reserved
ones, adds its own row, waits for the transport to settle, and reports.

A task is named by its number in the order of the admissions. Its steps are the calls to core
and the loads of the revision. The tasks and the command loop run on the one worker thread of the
runner, and there is no await between a load and the report that follows from it, so these two
are one step. Core names a row by an id that it has not used before. Schedules of user actions
come and go at any time; `userRows` follows them alone.
-/

namespace RivetGo.SetAlarm

open Native (WireError)

/-- A row of the schedule table. -/
structure Row where
  id : Nat
  /-- Its action is `INTERNAL_ALARM_ACTION`. -/
  reserved : Bool
  timestamp : Int
  deriving DecidableEq

/-- Where the task of a `SetAlarm` is. -/
inductive Phase where
  | unmade
  | waiting
  /-- It has the lock, and loads the revision for the first time. -/
  | locked
  | listing
  /-- The reserved schedules of the list that are left; then it loads the revision again. -/
  | cancelling (ids : List Nat)
  | setting
  /-- The row is there; the revision is loaded for the last time. -/
  | settling
  | finished

/-- The task has the lock. -/
def Phase.holding : Phase → Bool
  | .unmade | .waiting | .finished => false
  | .locked | .listing | .cancelling _ | .setting | .settling => true

def superseded : WireError :=
  { code := "alarm_superseded", message := "alarm update was superseded by a newer request" }

/-- An `ActorIntentResult` of a task. -/
structure Report where
  task : Nat
  result : Except WireError Unit
  /-- The `SetAlarm` commands that were admitted when it was sent. -/
  admitted : Nat

structure State where
  rows : List Row
  nextId : Nat
  stopping : Bool := false
  revision : UInt64 := 0
  /-- The `SetAlarm` commands that were admitted so far. -/
  admitted : Nat := 0
  request : Nat → Option Int := fun _ => none
  ticket : Nat → UInt64 := fun _ => 0
  phase : Nat → Phase := fun _ => .unmade
  apply : Option Nat := none
  reports : List Report := []
  userRows : List Row

inductive Action where
  | setAlarm (alarm : Option Int)
  /-- `begin_stop` of the operations of the generation. -/
  | beginStop
  | lock (k : Nat)
  | load (k : Nat)
  | list (k : Nat)
  | cancel (k : Nat)
  | schedule (k : Nat)
  | userAdd (timestamp : Int)
  /-- The schedule of a user action is cancelled or fires. -/
  | userRemove (id : Nat)

def State.alarms (s : State) : List Row := s.rows.filter Row.reserved

def State.setPhase (s : State) (k : Nat) (phase : Phase) : State :=
  { s with phase := Function.update s.phase k phase }

def State.addRow (s : State) (reserved : Bool) (timestamp : Int) : State :=
  { s with rows := s.rows ++ [⟨s.nextId, reserved, timestamp⟩], nextId := s.nextId + 1 }

/-- The task reports and returns, which drops the guard of `apply`. -/
def State.finish (s : State) (k : Nat) (result : Except WireError Unit) : State :=
  { s with apply := none, reports := ⟨k, result, s.admitted⟩ :: s.reports }.setPhase k .finished

/-- The task loads the revision and goes on, or ends as superseded. -/
def State.load (s : State) (k : Nat) (next : State) : State :=
  if s.revision = s.ticket k then next else s.finish k (.error superseded)

def step (s : State) : Action → Option State
  | .setAlarm alarm =>
    if s.stopping then some s
    else
      some { s with
        revision := s.revision + 1
        admitted := s.admitted + 1
        request := Function.update s.request s.admitted alarm
        ticket := Function.update s.ticket s.admitted (s.revision + 1)
        phase := Function.update s.phase s.admitted .waiting }
  | .beginStop => some { s with stopping := true }
  | .lock k => match s.phase k, s.apply with
    | .waiting, none => some ({ s with apply := some k }.setPhase k .locked)
    | _, _ => none
  | .load k => match s.phase k with
    | .locked => some (s.load k (s.setPhase k .listing))
    | .cancelling [] => some (s.load k (s.setPhase k .setting))
    | .settling => some (s.load k (s.finish k (.ok ())))
    | _ => none
  | .list k => match s.phase k with
    | .listing => some (s.setPhase k (.cancelling (s.alarms.map Row.id)))
    | _ => none
  | .cancel k => match s.phase k with
    | .cancelling (id :: ids) =>
      some ({ s with rows := s.rows.filter (·.id ≠ id) }.setPhase k (.cancelling ids))
    | _ => none
  | .schedule k => match s.phase k with
    | .setting => match s.request k with
      | some alarm => some ((s.addRow true alarm).setPhase k .settling)
      | none => some (s.setPhase k .settling)
    | _ => none
  | .userAdd timestamp =>
    some { s.addRow false timestamp with
      userRows := s.userRows ++ [⟨s.nextId, false, timestamp⟩] }
  | .userRemove id =>
    if id ∈ s.userRows.map Row.id then
      some { s with
        rows := s.rows.filter (·.id ≠ id)
        userRows := s.userRows.filter (·.id ≠ id) }
    else none

/-- The schedule table when the first task starts. -/
structure Start where
  rows : List Row
  nextId : Nat
  used : ∀ row ∈ rows, row.id < nextId
  distinct : (rows.map Row.id).Nodup
  single : (rows.filter Row.reserved).length ≤ 1

def Start.state (start : Start) : State :=
  { rows := start.rows
    nextId := start.nextId
    userRows := start.rows.filter fun row => !row.reserved }

/-! ## The property -/

/-- All tasks have reported. -/
def State.Done (s : State) : Prop := ∀ k < s.admitted, s.phase k = .finished

/-- The last request wins, and a task that reports success is the latest when it does. -/
structure LastWriterWins (s : State) : Prop where
  single : s.alarms.length ≤ 1
  stored : s.Done → ∀ last, s.admitted = last + 1 →
    s.alarms.map Row.timestamp = (s.request last).toList
  latest : ∀ r ∈ s.reports, r.result = .ok () → r.admitted = r.task + 1
  users : (s.rows.filter fun row => !row.reserved) = s.userRows

/-- A command is admitted only if no task is left that has been overtaken `2 ^ 64 - 1` times, so
that the revision does not come round to the one of an older task. -/
def NotRound (s : State) : Action → Prop
  | .setAlarm _ => ∀ k < s.admitted, s.phase k ≠ .finished → s.admitted < k + 2 ^ 64
  | _ => True

/-! ## What a run keeps -/

variable {s s' : State} {a : Action} {k : Nat}

/-- What the task with the lock knows of the reserved rows. -/
def State.Fits (s : State) (k : Nat) : Phase → Prop
  | .cancelling ids =>
    (∀ row ∈ s.alarms, row.id ∈ ids) ∧
      ∀ id ∈ ids, id < s.nextId ∧ ∀ row ∈ s.rows, row.id = id → row.reserved = true
  | .setting => s.alarms = []
  | .settling => s.alarms.map Row.timestamp = (s.request k).toList
  | _ => True

/-- A phase that leaves the rows alone for good when the task is not the latest. -/
def Phase.Quiet : Phase → Prop
  | .unmade | .waiting | .locked | .finished => True
  | _ => False

/-- The schedule table. -/
structure Table (rows : List Row) (nextId : Nat) (userRows : List Row) : Prop where
  used : ∀ row ∈ rows, row.id < nextId
  distinct : (rows.map Row.id).Nodup
  single : (rows.filter Row.reserved).length ≤ 1
  users : (rows.filter fun row => !row.reserved) = userRows

/-- The tasks and their revisions. -/
structure Tasks (revision : UInt64) (admitted : Nat) (ticket : Nat → UInt64)
    (phase : Nat → Phase) : Prop where
  revision : revision = UInt64.ofNat admitted
  ticket : ∀ k < admitted, ticket k = UInt64.ofNat (k + 1)
  made : ∀ k, phase k ≠ .unmade ↔ k < admitted
  near : ∀ k < admitted, phase k ≠ .finished → admitted ≤ k + 2 ^ 64

structure Inv (s : State) : Prop where
  table : Table s.rows s.nextId s.userRows
  tasks : Tasks s.revision s.admitted s.ticket s.phase
  apply : Mutex.Owned Phase.holding s.phase s.apply
  fits : ∀ k, s.apply = some k → s.Fits k (s.phase k)
  /-- Once the latest task is done, its request is what is stored, and the others give up. -/
  settled : ∀ last, s.admitted = last + 1 → s.phase last = .finished →
    s.alarms.map Row.timestamp = (s.request last).toList ∧ ∀ k, (s.phase k).Quiet
  latest : ∀ r ∈ s.reports, r.result = .ok () → r.admitted = r.task + 1

theorem Inv.start (start : Start) : Inv start.state where
  table := ⟨start.used, start.distinct, start.single, rfl⟩
  tasks :=
    { revision := rfl
      ticket := fun _ h => absurd h (Nat.not_lt_zero _)
      made := fun _ => ⟨fun h => absurd rfl h, fun h => absurd h (Nat.not_lt_zero _)⟩
      near := fun _ h => absurd h (Nat.not_lt_zero _) }
  apply k := ⟨fun h => absurd h Bool.noConfusion, fun h => absurd h.symm (Option.some_ne_none k)⟩
  fits k h := absurd h.symm (Option.some_ne_none k)
  settled _ h := absurd h.symm (Nat.succ_ne_zero _)
  latest _ h := absurd h List.not_mem_nil

/-! ### The tasks -/

theorem setPhase_phase (s : State) (k j : Nat) (phase : Phase) :
    (s.setPhase k phase).phase j = if j = k then phase else s.phase j :=
  Function.update_apply s.phase k phase j

/-- A task that is not done goes on. -/
theorem Tasks.update {revision : UInt64} {admitted : Nat} {ticket : Nat → UInt64}
    {phases : Nat → Phase} (h : Tasks revision admitted ticket phases) {phase : Phase}
    (hk : phases k ≠ .unmade) (hne : phases k ≠ .finished) (hphase : phase ≠ .unmade) :
    Tasks revision admitted ticket (Function.update phases k phase) where
  revision := h.revision
  ticket := h.ticket
  made j := by
    rw [Function.update_apply, ← h.made j]
    split_ifs with hjk
    · rw [hjk]
      exact ⟨fun _ => hk, fun _ => hphase⟩
    · exact Iff.rfl
  near j hj hf := by
    refine h.near j hj ?_
    rw [Function.update_apply] at hf
    split_ifs at hf with hjk
    · rw [hjk]
      exact hne
    · exact hf

/-- A new task has the next revision. -/
theorem Tasks.admit {revision : UInt64} {admitted : Nat} {ticket : Nat → UInt64}
    {phases : Nat → Phase} (h : Tasks revision admitted ticket phases)
    (hnear : ∀ k < admitted, phases k ≠ .finished → admitted < k + 2 ^ 64) :
    Tasks (revision + 1) (admitted + 1) (Function.update ticket admitted (revision + 1))
      (Function.update phases admitted .waiting) := by
  have hrevision : revision + 1 = UInt64.ofNat (admitted + 1) := by
    rw [h.revision, UInt64.ofNat_add]
    rfl
  refine ⟨hrevision, fun j hj => ?_, fun j => ?_, fun j hj hf => ?_⟩
  · rw [Function.update_apply]
    split_ifs with hja
    · rw [hja, hrevision]
    · exact h.ticket j (by omega)
  · have hmade := h.made j
    rw [Function.update_apply]
    split_ifs with hja
    · exact ⟨fun _ => by omega, fun _ => Phase.noConfusion⟩
    · rw [hmade]
      omega
  · rw [Function.update_apply] at hf
    split_ifs at hf with hja
    · omega
    · exact hnear j (by omega) hf

theorem Phase.ne_of_holding {phase : Phase} (h : phase.holding = true) :
    phase ≠ .unmade ∧ phase ≠ .finished := by
  constructor <;> rintro rfl <;> exact absurd h Bool.noConfusion

theorem Inv.admitted_of_holding (h : Inv s) (hk : (s.phase k).holding = true) :
    k < s.admitted :=
  (h.tasks.made k).mp (Phase.ne_of_holding hk).1

/-- A task that finds its own revision is the latest. -/
theorem Inv.latest_of_revision (h : Inv s) (hk : (s.phase k).holding = true)
    (hrevision : s.revision = s.ticket k) : k + 1 = s.admitted := by
  have hlt := h.admitted_of_holding hk
  have hnear := h.tasks.near k hlt (Phase.ne_of_holding hk).2
  rw [h.tasks.revision, h.tasks.ticket k hlt] at hrevision
  have hmod := congrArg UInt64.toNat hrevision
  simp only [UInt64.toNat_ofNat'] at hmod
  omega

theorem Inv.revision_of_latest (h : Inv s) (hk : k + 1 = s.admitted) :
    s.revision = s.ticket k := by
  rw [h.tasks.revision, h.tasks.ticket k (by omega), hk]

/-- A task that may still write is at work, so the latest one is not done. -/
theorem Inv.not_settled (h : Inv s) (hk : ¬ (s.phase k).Quiet) {last : Nat}
    (hlast : s.admitted = last + 1) : s.phase last ≠ .finished :=
  fun hf => hk ((h.settled last hlast hf).2 k)

/-- The task with the lock goes on. It touches the rows only while the latest is not done. -/
theorem Inv.advance (h : Inv s) {phase : Phase} {rows : List Row} {nextId : Nat}
    (hk : s.apply = some k) (hphase : phase.holding = true)
    (htable : Table rows nextId s.userRows)
    (hfits : { s with rows := rows, nextId := nextId }.Fits k phase)
    (hquiet : ∀ last, s.admitted = last + 1 → s.phase last = .finished →
      phase.Quiet ∧ rows = s.rows) :
    Inv ({ s with rows := rows, nextId := nextId }.setPhase k phase) := by
  obtain ⟨hmade, hunfinished⟩ := Phase.ne_of_holding ((h.apply k).mpr hk)
  obtain ⟨hne, hfinished⟩ := Phase.ne_of_holding hphase
  refine ⟨htable, h.tasks.update hmade hunfinished hne, h.apply.within hk hphase, fun j hj => ?_,
    fun last hlast hf => ?_, h.latest⟩
  · obtain rfl : k = j := Option.some.inj (hk.symm.trans hj)
    rw [setPhase_phase, if_pos rfl]
    cases phase <;> exact hfits
  · rw [setPhase_phase] at hf
    split_ifs at hf
    · exact absurd hf hfinished
    · obtain ⟨hq, hrows⟩ := hquiet last hlast hf
      obtain ⟨halarms, hothers⟩ := h.settled last hlast hf
      subst hrows
      refine ⟨halarms, fun j => ?_⟩
      rw [setPhase_phase]
      split_ifs
      · exact hq
      · exact hothers j

/-- The task with the lock goes on and leaves the rows alone. -/
theorem Inv.moves (h : Inv s) {phase : Phase} (hk : s.apply = some k)
    (hphase : phase.holding = true) (hfits : s.Fits k phase)
    (hquiet : ¬ (s.phase k).Quiet ∨ phase.Quiet ∨ k + 1 = s.admitted) :
    Inv (s.setPhase k phase) := by
  refine h.advance hk hphase h.table hfits fun last hlast hf => ?_
  obtain hbusy | hquiet | hlatest := hquiet
  · exact absurd hf (h.not_settled hbusy hlast)
  · exact ⟨hquiet, rfl⟩
  · obtain rfl : last = k := by omega
    have hholding := (h.apply last).mpr hk
    rw [hf] at hholding
    exact absurd hholding Bool.noConfusion

theorem Inv.apply_of_phase (h : Inv s) {phase : Phase} (hk : s.phase k = phase)
    (hphase : phase.holding = true) : s.apply = some k :=
  (h.apply k).mp (hk ▸ hphase)

theorem Inv.fits_of_phase (h : Inv s) {phase : Phase} (hk : s.phase k = phase)
    (hphase : phase.holding = true) : s.Fits k phase := by
  subst hk
  exact h.fits k ((h.apply k).mp hphase)

/-- The task with the lock ends, and gives it back. -/
theorem Inv.finish (h : Inv s) (hk : s.apply = some k) {result : Except WireError Unit}
    (hdone : k + 1 = s.admitted → s.alarms.map Row.timestamp = (s.request k).toList)
    (hlatest : result = .ok () → s.admitted = k + 1) : Inv (s.finish k result) := by
  obtain ⟨hmade, hunfinished⟩ := Phase.ne_of_holding ((h.apply k).mpr hk)
  refine ⟨h.table, h.tasks.update hmade hunfinished Phase.noConfusion, h.apply.release hk rfl,
    fun j hj => absurd hj.symm (Option.some_ne_none _), fun last hlast hf => ?_, ?_⟩
  · rw [State.finish, setPhase_phase] at hf
    have halarms : s.alarms.map Row.timestamp = (s.request last).toList := by
      split_ifs at hf with hjk
      · subst hjk
        exact hdone hlast.symm
      · exact (h.settled last hlast hf).1
    refine ⟨halarms, fun j => ?_⟩
    rw [State.finish, setPhase_phase]
    split_ifs with hjk
    · trivial
    · have hj := h.apply.not_holding_of_ne hk hjk
      show (s.phase j).Quiet
      cases hphase : s.phase j <;> rw [hphase] at hj <;> trivial
  · rintro r (_ | ⟨_, hr⟩) hok
    · exact hlatest hok
    · exact h.latest r hr hok

/-- A task whose revision is not its own any more has been overtaken. -/
theorem Inv.gives_up (h : Inv s) (hk : s.apply = some k) (hne : s.revision ≠ s.ticket k) :
    Inv (s.finish k (.error superseded)) :=
  h.finish hk (fun hlatest => absurd (h.revision_of_latest hlatest) hne) fun hok => by cases hok

theorem Inv.load (h : Inv s) (hs : step s (.load k) = some s') : Inv s' := by
  rw [step] at hs
  split at hs
  case h_1 hphase =>
    obtain rfl := Option.some.inj hs
    have hk := h.apply_of_phase hphase rfl
    rw [State.load]
    split_ifs with hrevision
    · have hlatest := h.latest_of_revision (k := k) ((h.apply k).mpr hk) hrevision
      exact h.moves hk rfl trivial (.inr (.inr hlatest))
    · exact h.gives_up hk hrevision
  case h_2 hphase =>
    obtain rfl := Option.some.inj hs
    have hk := h.apply_of_phase hphase rfl
    obtain ⟨hcancelled, -⟩ := h.fits_of_phase hphase rfl
    rw [State.load]
    split_ifs with hrevision
    · refine h.moves hk rfl ?_ (.inl (by rw [hphase]; exact fun h => h))
      exact List.eq_nil_iff_forall_not_mem.mpr fun row hrow =>
        List.not_mem_nil (hcancelled row hrow)
    · exact h.gives_up hk hrevision
  case h_3 hphase =>
    obtain rfl := Option.some.inj hs
    have hk := h.apply_of_phase hphase rfl
    have hfits := h.fits_of_phase hphase rfl
    rw [State.load]
    split_ifs with hrevision
    · have hlatest := h.latest_of_revision ((h.apply k).mpr hk) hrevision
      exact h.finish hk (fun _ => hfits) fun _ => hlatest.symm
    · exact h.gives_up hk hrevision
  case h_4 => exact absurd hs.symm (Option.some_ne_none _)

theorem Inv.list (h : Inv s) (hs : step s (.list k) = some s') : Inv s' := by
  rw [step] at hs
  split at hs
  case h_1 hphase =>
    obtain rfl := Option.some.inj hs
    refine h.moves (h.apply_of_phase hphase rfl) rfl ⟨?_, ?_⟩
      (.inl (by rw [hphase]; exact fun h => h))
    · exact fun row hrow => List.mem_map_of_mem hrow
    · intro id hid
      obtain ⟨row, hrow, rfl⟩ := List.mem_map.mp hid
      obtain ⟨hmem, hreserved⟩ := List.mem_filter.mp hrow
      refine ⟨h.table.used row hmem, fun row' hmem' hid' => ?_⟩
      rw [List.inj_on_of_nodup_map h.table.distinct hmem' hmem hid']
      exact hreserved
  case h_2 => exact absurd hs.symm (Option.some_ne_none _)

/-- Rows that are not the user's are taken out. -/
theorem Table.remove {rows userRows : List Row} {nextId : Nat} (h : Table rows nextId userRows)
    {id : Nat} (hid : ∀ row ∈ rows, row.id = id → row.reserved = true) :
    Table (rows.filter (·.id ≠ id)) nextId userRows where
  used row hrow := h.used row (List.mem_of_mem_filter hrow)
  distinct := h.distinct.sublist (List.filter_sublist.map Row.id)
  single := (List.filter_sublist.filter Row.reserved).length_le.trans h.single
  users := by
    rw [← h.users, List.filter_filter]
    refine List.filter_congr fun row hrow => ?_
    cases hreserved : row.reserved with
    | true => rfl
    | false =>
      refine decide_eq_true fun heq => ?_
      rw [hid row hrow heq] at hreserved
      exact absurd hreserved Bool.noConfusion

theorem Inv.cancel (h : Inv s) (hs : step s (.cancel k) = some s') : Inv s' := by
  rw [step] at hs
  split at hs
  case h_1 id ids hphase =>
    obtain rfl := Option.some.inj hs
    obtain ⟨hall, hreserved⟩ := h.fits_of_phase hphase rfl
    have htable := h.table.remove (hreserved id List.mem_cons_self).2
    refine h.advance (h.apply_of_phase hphase rfl) rfl htable ⟨fun row hrow => ?_, ?_⟩
      fun last hlast hf => ?_
    · obtain ⟨hmem, hr⟩ := List.mem_filter.mp hrow
      obtain ⟨hmem, hne⟩ := List.mem_filter.mp hmem
      have hid := hall row (List.mem_filter.mpr ⟨hmem, hr⟩)
      exact (List.mem_cons.mp hid).resolve_left (of_decide_eq_true hne)
    · intro id' hid'
      obtain ⟨hused, hr⟩ := hreserved id' (List.mem_cons_of_mem _ hid')
      exact ⟨hused, fun row hrow => hr row (List.mem_of_mem_filter hrow)⟩
    · exact absurd hf (h.not_settled (k := k) (by rw [hphase]; exact fun h => h) hlast)
  case h_2 => exact absurd hs.symm (Option.some_ne_none _)

/-- A row with a new id is added. -/
theorem Table.add {rows userRows : List Row} {nextId : Nat} (h : Table rows nextId userRows)
    (reserved : Bool) (timestamp : Int)
    (hsingle : reserved = true → rows.filter Row.reserved = []) :
    Table (rows ++ [⟨nextId, reserved, timestamp⟩]) (nextId + 1)
      (userRows ++ if reserved then [] else [⟨nextId, false, timestamp⟩]) where
  used row hrow := by
    obtain hrow | hrow := List.mem_append.mp hrow
    · exact Nat.lt_succ_of_lt (h.used row hrow)
    · obtain rfl := List.mem_singleton.mp hrow
      exact Nat.lt_succ_self _
  distinct := by
    rw [List.map_append]
    refine h.distinct.append (List.nodup_singleton _) fun id hid hnew => ?_
    obtain rfl : id = nextId := List.mem_singleton.mp hnew
    obtain ⟨row, hrow, heq⟩ := List.mem_map.mp hid
    exact absurd (h.used row hrow) (by omega)
  single := by
    cases reserved with
    | true => simp [hsingle rfl]
    | false => simpa using h.single
  users := by
    rw [← h.users]
    cases reserved <;> simp

theorem Inv.schedule (h : Inv s) (hs : step s (.schedule k) = some s') : Inv s' := by
  rw [step] at hs
  split at hs
  case h_1 hphase =>
    have halarms : s.alarms = [] := h.fits_of_phase hphase rfl
    have hk := h.apply_of_phase hphase rfl
    have hbusy : ¬ (s.phase k).Quiet := by rw [hphase]; exact fun h => h
    split at hs
    case h_1 alarm hrequest =>
      obtain rfl := Option.some.inj hs
      have htable := h.table.add true alarm fun _ => halarms
      rw [if_pos rfl, List.append_nil] at htable
      refine h.advance hk rfl htable ?_ fun last hlast hf => ?_
      · simp only [State.alarms] at halarms
        simp [State.Fits, State.alarms, hrequest, halarms]
      · exact absurd hf (h.not_settled hbusy hlast)
    case h_2 hrequest =>
      obtain rfl := Option.some.inj hs
      refine h.moves hk rfl ?_ (.inl hbusy)
      simp [State.Fits, halarms, hrequest]
  case h_2 => exact absurd hs.symm (Option.some_ne_none _)

theorem Inv.lock (h : Inv s) (hs : step s (.lock k) = some s') : Inv s' := by
  rw [step] at hs
  split at hs
  case h_1 hphase hfree =>
    obtain rfl := Option.some.inj hs
    have happly : Mutex.Owned Phase.holding s.phase none := hfree ▸ h.apply
    refine ⟨h.table, h.tasks.update ?_ ?_ Phase.noConfusion, happly.acquire rfl, fun j hj => ?_,
      fun last hlast hf => ?_, h.latest⟩
    · rw [hphase]
      exact Phase.noConfusion
    · rw [hphase]
      exact Phase.noConfusion
    · obtain rfl := Option.some.inj hj
      rw [setPhase_phase, if_pos rfl]
      trivial
    · rw [setPhase_phase] at hf
      split_ifs at hf
      obtain ⟨halarms, hothers⟩ := h.settled last hlast hf
      refine ⟨halarms, fun j => ?_⟩
      rw [setPhase_phase]
      split_ifs
      · trivial
      · exact hothers j
  case h_2 => exact absurd hs.symm (Option.some_ne_none _)

/-- What the task with the lock knows does not depend on what is not its own. -/
theorem State.Fits.of_eq {phase : Phase} (h : s.Fits k phase) (hrows : s'.rows = s.rows)
    (hnextId : s'.nextId = s.nextId) (hrequest : s'.request k = s.request k) :
    s'.Fits k phase := by
  have halarms : s'.alarms = s.alarms := by rw [State.alarms, State.alarms, hrows]
  cases phase with
  | cancelling ids => simpa only [State.Fits, halarms, hrows, hnextId] using h
  | setting => exact halarms.trans h
  | settling => simpa only [State.Fits, halarms, hrequest] using h
  | _ => trivial

theorem Inv.setAlarm (h : Inv s) {alarm : Option Int} (ha : NotRound s (.setAlarm alarm))
    (hs : step s (.setAlarm alarm) = some s') : Inv s' := by
  rw [step] at hs
  split_ifs at hs with hstopping
  · obtain rfl := Option.some.inj hs
    exact h
  obtain rfl := Option.some.inj hs
  have hphase : ∀ j, Function.update s.phase s.admitted .waiting j =
      if j = s.admitted then .waiting else s.phase j := Function.update_apply _ _ _
  have hnew : s.apply ≠ some s.admitted := fun hk =>
    Nat.lt_irrefl _ (h.admitted_of_holding ((h.apply _).mpr hk))
  refine ⟨h.table, h.tasks.admit ha, h.apply.outside hnew rfl, fun j hj => ?_,
    fun last hlast hf => ?_, h.latest⟩
  · have hja : j ≠ s.admitted := fun hja => hnew (hja ▸ hj)
    refine State.Fits.of_eq (s := s) ?_ rfl rfl (Function.update_of_ne hja _ _)
    show s.Fits j (Function.update s.phase s.admitted .waiting j)
    rw [hphase, if_neg hja]
    exact h.fits j hj
  · obtain rfl : last = s.admitted := by have : s.admitted + 1 = last + 1 := hlast; omega
    have hf : Function.update s.phase s.admitted .waiting s.admitted = .finished := hf
    rw [Function.update_self] at hf
    exact absurd hf Phase.noConfusion

/-! ### The user's schedules -/

/-- Rows of the user are added or taken out. -/
theorem Inv.userRows (h : Inv s) {rows userRows : List Row} {nextId : Nat}
    (htable : Table rows nextId userRows) (hle : s.nextId ≤ nextId)
    (halarms : rows.filter Row.reserved = s.alarms)
    (hnew : ∀ row ∈ rows, row ∈ s.rows ∨ s.nextId ≤ row.id) :
    Inv { s with rows := rows, nextId := nextId, userRows := userRows } := by
  refine ⟨htable, h.tasks, h.apply, fun k hk => ?_, fun last hlast hf => ?_, h.latest⟩
  · have hfits := h.fits k hk
    have halarms' : { s with rows := rows, nextId := nextId, userRows := userRows }.alarms =
      s.alarms := halarms
    show State.Fits _ k (s.phase k)
    cases hphase : s.phase k <;> rw [hphase] at hfits
    case cancelling ids =>
      refine ⟨fun row hrow => hfits.1 row (halarms' ▸ hrow), fun id hid => ?_⟩
      obtain ⟨hused, hreserved⟩ := hfits.2 id hid
      refine ⟨Nat.lt_of_lt_of_le hused hle, fun row hrow heq => ?_⟩
      obtain hrow | hrow := hnew row hrow
      · exact hreserved row hrow heq
      · exact absurd hused (by omega)
    case setting => exact halarms'.trans hfits
    case settling => simpa only [State.Fits, halarms'] using hfits
    all_goals trivial
  · obtain ⟨hstored, hothers⟩ := h.settled last hlast hf
    exact ⟨(congrArg (List.map Row.timestamp) halarms).trans hstored, hothers⟩

theorem Inv.userAdd (h : Inv s) {timestamp : Int} (hs : step s (.userAdd timestamp) = some s') :
    Inv s' := by
  obtain rfl := Option.some.inj hs
  have htable := h.table.add false timestamp fun hf => absurd hf Bool.noConfusion
  refine h.userRows htable (Nat.le_succ _) ?_ fun row hrow => ?_
  · simp [State.alarms, State.addRow]
  · refine (List.mem_append.mp hrow).imp_right fun hrow => ?_
    rw [List.mem_singleton.mp hrow]

theorem Inv.userRemove (h : Inv s) {id : Nat} (hs : step s (.userRemove id) = some s') :
    Inv s' := by
  obtain ⟨hid, rfl⟩ := Run.guard_eq_some.mp hs
  obtain ⟨row, hrow, rfl⟩ := List.mem_map.mp hid
  rw [← h.table.users] at hrow
  obtain ⟨hmem, huser⟩ := List.mem_filter.mp hrow
  -- The row with this id is the user's, so no reserved row has it.
  have hkeep : ∀ row' ∈ s.rows, row'.reserved = true → row'.id ≠ row.id := by
    intro row' hmem' hreserved heq
    rw [List.inj_on_of_nodup_map h.table.distinct hmem' hmem heq] at hreserved
    simp [hreserved] at huser
  refine h.userRows ⟨fun r hr => h.table.used r (List.mem_of_mem_filter hr),
    h.table.distinct.sublist (List.filter_sublist.map Row.id),
    (List.filter_sublist.filter Row.reserved).length_le.trans h.table.single, ?_⟩
    (Nat.le_refl _) ?_ fun r hr => .inl (List.mem_of_mem_filter hr)
  · rw [← h.table.users, List.filter_comm]
  · rw [List.filter_filter]
    refine List.filter_congr fun r hr => ?_
    cases hreserved : r.reserved with
    | true => exact decide_eq_true (hkeep r hr hreserved)
    | false => rfl

theorem Inv.step (h : Inv s) (ha : NotRound s a) (hs : step s a = some s') : Inv s' := by
  cases a with
  | setAlarm alarm => exact h.setAlarm ha hs
  | beginStop =>
    obtain rfl := Option.some.inj hs
    exact ⟨h.table, h.tasks, h.apply, h.fits, h.settled, h.latest⟩
  | lock k => exact h.lock hs
  | load k => exact h.load hs
  | list k => exact h.list hs
  | cancel k => exact h.cancel hs
  | schedule k => exact h.schedule hs
  | userAdd timestamp => exact h.userAdd hs
  | userRemove id => exact h.userRemove hs

theorem Inv.lastWriterWins (h : Inv s) : LastWriterWins s where
  single := h.table.single
  stored hdone last hlast := (h.settled last hlast (hdone last (by omega))).1
  latest := h.latest
  users := h.table.users

/-- As long as the revision does not come round, there is at most one alarm, the last request is
the one that is stored in the end, the user's schedules are untouched, and a task that reports
success is the latest at that moment. -/
theorem setAlarm_lastWriterWins (start : Start) (h : Run.Reachable step NotRound start.state s) :
    LastWriterWins s := by
  have hinv : Inv s :=
    h.invariant (P := Inv) (Inv.start start) fun _ _ _ hI ha hs => hI.step ha hs
  exact hinv.lastWriterWins

/-- An alarm and a schedule of a user action. -/
def alarmAndUser : Start where
  rows := [⟨0, true, 100⟩, ⟨1, false, 200⟩]
  nextId := 2
  used := by decide
  distinct := by decide
  single := by decide

/-- The second command comes when the first task has cancelled the alarm. -/
def overtaken : List Action :=
  [.setAlarm (some 300), .lock 0, .load 0, .list 0, .cancel 0, .load 0, .setAlarm (some 400),
    .schedule 0, .userAdd 500, .load 0, .lock 1, .load 1, .list 1, .cancel 1, .load 1,
    .schedule 1, .load 1]

theorem overtaken_lastWriterWins : ∃ s, Run.run step alarmAndUser.state overtaken = some s ∧
    s.rows = [⟨1, false, 200⟩, ⟨3, false, 500⟩, ⟨4, true, 400⟩] ∧
    s.reports = [⟨1, .ok (), 2⟩, ⟨0, .error superseded, 2⟩] ∧ LastWriterWins s := by
  have hallowed : Run.Allowed step NotRound alarmAndUser.state overtaken := by
    refine ⟨fun k hk => absurd hk (Nat.not_lt_zero k), trivial, trivial, trivial, trivial, trivial,
      fun k hk _ => ?_, trivial, trivial, trivial, trivial, trivial, trivial, trivial, trivial,
      trivial, trivial, trivial⟩
    exact show 1 < k + 2 ^ 64 by omega
  exact ⟨_, rfl, rfl, rfl,
    setAlarm_lastWriterWins alarmAndUser (Run.Reachable.init.run hallowed rfl)⟩

/-! ## A revision that comes round -/

def noSchedules : Start where
  rows := []
  nextId := 0
  used := by decide
  distinct := by decide
  single := by decide

/-- Task 0 has not run yet, and task `n` is the latest. -/
structure LeftBehind (n : Nat) (s : State) : Prop where
  rows : s.rows = []
  stopping : s.stopping = false
  admitted : s.admitted = n + 1
  revision : s.revision = UInt64.ofNat (n + 1)
  free : s.apply = none
  first : s.phase 0 = .waiting
  ticket : s.ticket 0 = 1
  clears : s.request 0 = none
  latest : s.phase n = .waiting
  own : s.ticket n = UInt64.ofNat (n + 1)

theorem LeftBehind.start :
    ∃ s, Run.run step noSchedules.state [.setAlarm none, .setAlarm none] = some s ∧
      LeftBehind 1 s :=
  ⟨_, rfl, rfl, rfl, rfl, rfl, rfl, rfl, rfl, rfl, rfl, rfl⟩

/-- A further command, after which the task before it ends as superseded. -/
def oneMore (n : Nat) : List Action := [.setAlarm none, .lock n, .load n]

theorem LeftBehind.next {n : Nat} (h : LeftBehind (n + 1) s) :
    ∃ s', Run.run step s (oneMore (n + 1)) = some s' ∧ LeftBehind (n + 2) s' := by
  have hrevision : s.revision + 1 ≠ s.ticket (n + 1) := by
    rw [h.revision, h.own]
    intro heq
    have := congrArg UInt64.toNat heq
    simp only [UInt64.toNat_add, UInt64.toNat_ofNat', UInt64.toNat_one] at this
    omega
  simp only [oneMore, Run.run, step, h.stopping, h.latest, h.free, Bool.false_eq_true, if_false,
    Option.bind_some, State.setPhase, State.load, State.finish, Function.update_of_ne, h.admitted,
    hrevision, ne_eq, Function.update_self, show n + 1 ≠ n + 1 + 1 by omega, not_false_eq_true]
  have hnext : s.revision + 1 = UInt64.ofNat (n + 2 + 1) := by
    rw [h.revision, UInt64.ofNat_add (n + 2)]
    rfl
  refine ⟨_, rfl, h.rows, rfl, rfl, hnext, rfl, ?_, ?_, ?_, ?_, ?_⟩
  · simp [h.first]
  · simp [h.ticket]
  · simp [h.clears]
  · simp
  · simp [hnext]

theorem LeftBehind.exists_run (n : Nat) : ∃ actions s,
    Run.run step noSchedules.state actions = some s ∧ LeftBehind (n + 1) s := by
  induction n with
  | zero =>
    obtain ⟨s, hs, h⟩ := LeftBehind.start
    exact ⟨_, s, hs, h⟩
  | succ n ih =>
    obtain ⟨actions, s, hs, h⟩ := ih
    obtain ⟨s', hs', h'⟩ := h.next
    refine ⟨actions ++ oneMore (n + 1), s', ?_, h'⟩
    rw [Run.run_append, hs]
    exact hs'

/-- Task 0 runs now. -/
def lateFirst : List Action :=
  [.lock 0, .load 0, .list 0, .load 0, .schedule 0, .load 0]

/-- If the revision is its own again it succeeds, whichever task is the latest. -/
theorem LeftBehind.succeeds {n : Nat} (h : LeftBehind n s) (hround : s.revision = 1) :
    ∃ s', Run.run step s lateFirst = some s' ∧ ⟨0, .ok (), n + 1⟩ ∈ s'.reports := by
  simp only [lateFirst, Run.run, step, h.first, h.free, Option.bind_some, State.setPhase,
    State.load, State.finish, h.ticket, hround, Function.update_self, if_true, State.alarms, h.rows,
    List.filter_nil, List.map_nil, h.clears]
  refine ⟨_, rfl, ?_⟩
  rw [h.admitted]
  exact List.mem_cons_self

/-- After `2 ^ 64` further commands a task can find its own revision, and report success without
being the latest. -/
theorem success_not_latest : ∃ actions s, Run.run step noSchedules.state actions = some s ∧
    ⟨0, .ok (), 2 ^ 64 + 1⟩ ∈ s.reports ∧ ¬ LastWriterWins s := by
  obtain ⟨actions, s, hs, h⟩ := LeftBehind.exists_run (2 ^ 64 - 1)
  have hround : s.revision = 1 := by
    rw [h.revision]
    decide
  obtain ⟨s', hs', hreport⟩ := h.succeeds hround
  refine ⟨actions ++ lateFirst, s', ?_, hreport, fun hwins => ?_⟩
  · rw [Run.run_append, hs]
    exact hs'
  · exact absurd (hwins.latest _ hreport rfl) (by decide)

end RivetGo.SetAlarm

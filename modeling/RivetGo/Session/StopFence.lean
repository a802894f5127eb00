import Mathlib
import RivetGo.Data.Run

/-!
# The stop fence of a session

`Save` and the SQLite calls of a session count themselves in while the session is
accepting, hand their command to the submit queue, wait for the answer and count
themselves out. `closeGracefully` and `abort` end the acceptance and wait on a
condition variable until both counts are zero. The worker closes its session
gracefully before it submits `ActorStopResult`; `abort` is also called for all
workers when the pump ends.

Any number of goroutines call the session. `Save` holds a lock of its own from
before it counts itself in until after it has counted itself out. A call may end
at any time after it was let in: before it has handed over its command, because of
its context or a state that cannot be saved now, or after.
-/

namespace RivetGo.SessionFence

inductive Kind where
  | save
  | sqlite
  deriving DecidableEq

/-- What a session hands to the submit queue. -/
inductive Command where
  | operation (k : Kind)
  | actorStopResult
  deriving DecidableEq

/-- The calls of one kind that were let in and have not returned. -/
structure Calls where
  entered : Nat := 0
  submitted : Nat := 0
  deriving DecidableEq

def Calls.active (c : Calls) : Nat := c.entered + c.submitted

/-- Where `closeGracefully` or `abort` is in its loop. -/
inductive Phase where
  | checking
  | waiting (woken : Bool)
  | returned
  deriving DecidableEq

structure Closer where
  graceful : Bool
  phase : Phase := .checking
  deriving DecidableEq

structure State where
  accepting : Bool := true
  activeSaves : Nat := 0
  activeSQLite : Nat := 0
  doneClosed : Bool := false
  saveMu : Bool := false
  calls : Kind → Calls := fun _ => {}
  closers : List Closer := []
  /-- What was handed to the submit queue, in this order. -/
  handed : List Command := []

def initial : State := {}

def State.idle (s : State) : Bool := s.activeSaves = 0 && s.activeSQLite = 0

def State.setCalls (s : State) (k : Kind) (c : Calls) : State :=
  { s with calls := Function.update s.calls k c }

def State.beginSave (s : State) : Option State :=
  if s.accepting then some { s with activeSaves := s.activeSaves + 1 } else none

def State.beginSQLite (s : State) : Option State :=
  if s.accepting then some { s with activeSQLite := s.activeSQLite + 1 } else none

def Closer.wake (c : Closer) : Closer :=
  match c.phase with
  | .waiting _ => { c with phase := .waiting true }
  | _ => c

/-- The last call that goes wakes those that wait. -/
def State.broadcast (s : State) : State :=
  if s.idle then { s with closers := s.closers.map Closer.wake } else s

def State.finishSave (s : State) : State :=
  { s with activeSaves := s.activeSaves - 1 }.broadcast

def State.finishSQLite (s : State) : State :=
  { s with activeSQLite := s.activeSQLite - 1 }.broadcast

inductive Action where
  | save
  | sqlite
  /-- A call hands its command to the submit queue. -/
  | submit (k : Kind)
  /-- A call returns, before or after it has handed over its command. -/
  | finish (k : Kind) (submitted : Bool)
  | closeGracefully
  | abort
  /-- The `i`-th closer goes on. -/
  | close (i : Nat)
  /-- The worker submits the result of its stop. -/
  | actorStopResult

/-- One step of a closer under the lock. `Wait` needs a wake-up to return. -/
def Closer.next (c : Closer) (idle : Bool) : Option Closer :=
  match c.phase with
  | .checking => some { c with phase := if idle then .returned else .waiting false }
  | .waiting true => some { c with phase := .checking }
  | .waiting false => none
  | .returned => none

def State.finish (s : State) : Kind → State
  | .save => { s.finishSave with saveMu := false }
  | .sqlite => s.finishSQLite

def step (s : State) : Action → Option State
  | .save =>
    if s.saveMu then none
    else
      match s.beginSave with
      | none => some s
      | some s' =>
        let c := s.calls .save
        some ({ s' with saveMu := true }.setCalls .save { c with entered := c.entered + 1 })
  | .sqlite =>
    match s.beginSQLite with
    | none => some s
    | some s' =>
      let c := s.calls .sqlite
      some (s'.setCalls .sqlite { c with entered := c.entered + 1 })
  | .submit k =>
    match (s.calls k).entered with
    | 0 => none
    | n + 1 =>
      let s' := s.setCalls k ⟨n, (s.calls k).submitted + 1⟩
      some { s' with handed := s.handed ++ [.operation k] }
  | .finish k true =>
    match (s.calls k).submitted with
    | 0 => none
    | n + 1 => some ((s.setCalls k { s.calls k with submitted := n }).finish k)
  | .finish k false =>
    match (s.calls k).entered with
    | 0 => none
    | n + 1 => some ((s.setCalls k { s.calls k with entered := n }).finish k)
  | .closeGracefully =>
    some { s with accepting := false, closers := s.closers ++ [⟨true, .checking⟩] }
  | .abort =>
    some { s with
      accepting := false
      doneClosed := true
      closers := s.closers ++ [⟨false, .checking⟩] }
  | .close i => do
      let c ← s.closers[i]?
      let c' ← c.next s.idle
      return { s with
        closers := s.closers.set i c'
        doneClosed := s.doneClosed || c'.phase = .returned }
  | .actorStopResult =>
    if s.closers.any fun c => c.graceful && c.phase = .returned then
      some { s with handed := s.handed ++ [.actorStopResult] }
    else none

abbrev Reaches (s : State) : Prop := Run.Reachable step Run.anyAction initial s

abbrev Later (s s' : State) : Prop := Run.Reachable step Run.anyAction s s'

/-- No call of the session is under way. -/
def State.Quiet (s : State) : Prop := ∀ k, (s.calls k).active = 0

variable {s s' : State} {a : Action}

/-! ### What a step can do -/

/-- Everything a step can do. -/
inductive Move (s : State) : State → Prop where
  | refused : Move s s
  | save : s.accepting = true →
      Move s ({ s with activeSaves := s.activeSaves + 1, saveMu := true }.setCalls .save
        { s.calls .save with entered := (s.calls .save).entered + 1 })
  | sqlite : s.accepting = true →
      Move s ({ s with activeSQLite := s.activeSQLite + 1 }.setCalls .sqlite
        { s.calls .sqlite with entered := (s.calls .sqlite).entered + 1 })
  | submit {k : Kind} {n : Nat} : (s.calls k).entered = n + 1 →
      Move s { s.setCalls k ⟨n, (s.calls k).submitted + 1⟩ with
        handed := s.handed ++ [.operation k] }
  | finish {k : Kind} {c : Calls} : (s.calls k).active = c.active + 1 →
      Move s ((s.setCalls k c).finish k)
  | shut (graceful doneClosed : Bool) :
      Move s { s with
        accepting := false
        doneClosed := doneClosed
        closers := s.closers ++ [⟨graceful, .checking⟩] }
  | close {i : Nat} {c c' : Closer} (doneClosed : Bool) : s.closers[i]? = some c →
      c.next s.idle = some c' →
      Move s { s with closers := s.closers.set i c', doneClosed := doneClosed }
  | stop {c : Closer} : c ∈ s.closers → c.phase = .returned →
      Move s { s with handed := s.handed ++ [.actorStopResult] }

theorem move_of_step (hs : step s a = some s') : Move s s' := by
  cases a with
  | save =>
    obtain ⟨-, hs⟩ := Option.ite_none_left_eq_some.mp hs
    cases hopen : s.accepting with
    | false =>
      obtain rfl : s = s' := by simpa [State.beginSave, hopen] using hs
      exact .refused
    | true =>
      rw [State.beginSave, if_pos hopen] at hs
      obtain rfl := Option.some.inj hs
      exact .save hopen
  | sqlite =>
    cases hopen : s.accepting with
    | false =>
      obtain rfl : s = s' := by simpa [step, State.beginSQLite, hopen] using hs
      exact .refused
    | true =>
      rw [step, State.beginSQLite, if_pos hopen] at hs
      obtain rfl := Option.some.inj hs
      exact .sqlite hopen
  | submit k =>
    cases hn : (s.calls k).entered with
    | zero => simp [step, hn] at hs
    | succ n =>
      obtain rfl : _ = s' := by simpa [step, hn] using hs
      exact .submit hn
  | finish k submitted =>
    cases submitted with
    | true =>
      cases hn : (s.calls k).submitted with
      | zero => simp [step, hn] at hs
      | succ n =>
        obtain rfl : _ = s' := by simpa [step, hn] using hs
        refine .finish ?_
        simp only [Calls.active]
        omega
    | false =>
      cases hn : (s.calls k).entered with
      | zero => simp [step, hn] at hs
      | succ n =>
        obtain rfl : _ = s' := by simpa [step, hn] using hs
        refine .finish ?_
        simp only [Calls.active]
        omega
  | closeGracefully =>
    obtain rfl := Option.some.inj hs
    exact .shut true s.doneClosed
  | abort =>
    obtain rfl := Option.some.inj hs
    exact .shut false true
  | close i =>
    obtain ⟨c, hc, hs⟩ := Option.bind_eq_some_iff.mp hs
    obtain ⟨c', hnext, hs⟩ := Option.bind_eq_some_iff.mp hs
    obtain rfl := Option.some.inj hs
    exact .close _ hc hnext
  | actorStopResult =>
    obtain ⟨hclosed, rfl⟩ := Run.guard_eq_some.mp hs
    obtain ⟨c, hc, hreturned⟩ := List.any_eq_true.mp hclosed
    exact .stop hc (by simpa using (Bool.and_eq_true_iff.mp hreturned).2)

/-! ### The invariant -/

/-- A closer waits at a shut session. When it has returned no call is under way,
and while it sleeps some call will wake it. -/
structure Closer.Sound (accepting idle : Bool) (c : Closer) : Prop where
  shut : accepting = false
  returned : c.phase = .returned → idle = true
  asleep : c.phase = .waiting false → idle = false

structure Fenced (s : State) : Prop where
  saves : s.activeSaves = (s.calls .save).active
  sqlite : s.activeSQLite = (s.calls .sqlite).active
  closers : ∀ c ∈ s.closers, c.Sound s.accepting s.idle
  stopped : .actorStopResult ∈ s.handed → s.accepting = false ∧ s.idle = true

theorem fenced_initial : Fenced initial := by
  constructor <;> simp [initial, Calls.active]

theorem idle_iff : s.idle = true ↔ s.activeSaves = 0 ∧ s.activeSQLite = 0 := by
  simp [State.idle]

theorem Fenced.idle_iff_quiet (h : Fenced s) : s.idle = true ↔ s.Quiet := by
  rw [idle_iff, h.saves, h.sqlite]
  refine ⟨fun hidle k => ?_, fun hquiet => ⟨hquiet .save, hquiet .sqlite⟩⟩
  cases k with
  | save => exact hidle.1
  | sqlite => exact hidle.2

/-- A call is let in: the session was accepting, so nobody closes it. -/
theorem Fenced.enter (h : Fenced s) (hopen : s.accepting = true)
    (hsaves : s'.activeSaves = (s'.calls .save).active)
    (hsqlite : s'.activeSQLite = (s'.calls .sqlite).active) (hclosers : s'.closers = s.closers)
    (hhanded : s'.handed = s.handed) : Fenced s' where
  saves := hsaves
  sqlite := hsqlite
  closers c hc := by
    have hshut := (h.closers c (hclosers ▸ hc)).shut
    simp [hopen] at hshut
  stopped hstop := by
    have hshut := (h.stopped (hhanded ▸ hstop)).1
    simp [hopen] at hshut

/-- A call returns: as long as it was under way nobody had seen the session idle. -/
theorem Fenced.leave (h : Fenced s) (hbusy : s.idle = false) {t : State}
    (hsaves : t.activeSaves = (t.calls .save).active)
    (hsqlite : t.activeSQLite = (t.calls .sqlite).active) (haccepting : t.accepting = s.accepting)
    (hclosers : t.closers = s.closers) (hhanded : t.handed = s.handed) : Fenced t.broadcast := by
  have hnone : ∀ c ∈ s.closers, c.phase ≠ .returned := fun c hc hreturned => by
    simpa [hbusy] using (h.closers c hc).returned hreturned
  have hnot : .actorStopResult ∉ t.handed := fun hstop => by
    simpa [hbusy] using (h.stopped (hhanded ▸ hstop)).2
  cases hidle : t.idle with
  | false =>
    rw [State.broadcast, hidle]
    refine ⟨hsaves, hsqlite, fun c hc => ?_, fun hstop => absurd hstop hnot⟩
    have hc := hclosers ▸ hc
    exact ⟨haccepting ▸ (h.closers c hc).shut, fun hr => absurd hr (hnone c hc),
      fun _ => hidle⟩
  | true =>
    rw [State.broadcast, hidle]
    refine ⟨hsaves, hsqlite, fun c' hc' => ?_, fun hstop => absurd hstop hnot⟩
    obtain ⟨c, hc, rfl⟩ := List.mem_map.mp hc'
    have hc := hclosers ▸ hc
    refine ⟨haccepting ▸ (h.closers c hc).shut, fun _ => hidle, fun hasleep => ?_⟩
    obtain ⟨graceful, phase⟩ := c
    cases phase <;> simp [Closer.wake] at hasleep

theorem Closer.Sound.next {accepting idle : Bool} {c c' : Closer} (h : c.Sound accepting idle)
    (hnext : c.next idle = some c') : c'.Sound accepting idle := by
  obtain ⟨graceful, phase⟩ := c
  cases phase with
  | checking =>
    obtain rfl : _ = c' := by simpa [Closer.next] using hnext
    refine ⟨h.shut, ?_, ?_⟩ <;> cases idle <;> simp
  | waiting woken =>
    cases woken with
    | true =>
      obtain rfl : _ = c' := by simpa [Closer.next] using hnext
      exact ⟨h.shut, by simp, by simp⟩
    | false => simp [Closer.next] at hnext
  | returned => simp [Closer.next] at hnext

/-- One of the calls returns. -/
theorem Fenced.finish (h : Fenced s) {k : Kind} {c : Calls}
    (hless : (s.calls k).active = c.active + 1) : Fenced ((s.setCalls k c).finish k) := by
  have hbusy : s.idle = false := by
    refine Bool.eq_false_iff.mpr fun hidle => ?_
    have hquiet := h.idle_iff_quiet.mp hidle k
    omega
  cases k with
  | save =>
    have hsaves : s.activeSaves - 1 = c.active := by
      rw [h.saves, hless]
      rfl
    have hleave := h.leave (t := { s.setCalls .save c with activeSaves := s.activeSaves - 1 })
      hbusy (by simpa [State.setCalls] using hsaves)
      (by simpa [State.setCalls] using h.sqlite) rfl rfl rfl
    exact ⟨hleave.saves, hleave.sqlite, hleave.closers, hleave.stopped⟩
  | sqlite =>
    have hsqlite : s.activeSQLite - 1 = c.active := by
      rw [h.sqlite, hless]
      rfl
    exact h.leave hbusy (by simpa [State.setCalls] using h.saves)
      (by simpa [State.setCalls] using hsqlite) rfl rfl rfl

/-- Handing over a command changes no count. -/
theorem Fenced.submit (h : Fenced s) {k : Kind} {n : Nat} (hn : (s.calls k).entered = n + 1) :
    Fenced { s.setCalls k ⟨n, (s.calls k).submitted + 1⟩ with
      handed := s.handed ++ [.operation k] } where
  saves := by
    have hsaves := h.saves
    cases k with
    | save =>
      simp only [State.setCalls, Function.update_self, Calls.active] at *
      omega
    | sqlite => simpa [State.setCalls] using hsaves
  sqlite := by
    have hsqlite := h.sqlite
    cases k with
    | save => simpa [State.setCalls] using hsqlite
    | sqlite =>
      simp only [State.setCalls, Function.update_self, Calls.active] at *
      omega
  closers := h.closers
  stopped hstop := by
    obtain hstop | hstop := List.mem_append.mp hstop
    · exact h.stopped hstop
    · cases List.mem_singleton.mp hstop

theorem Fenced.shut (h : Fenced s) (graceful doneClosed : Bool) :
    Fenced { s with
      accepting := false
      doneClosed := doneClosed
      closers := s.closers ++ [⟨graceful, .checking⟩] } where
  saves := h.saves
  sqlite := h.sqlite
  closers c hc := by
    obtain hc | hc := List.mem_append.mp hc
    · have hold := h.closers c hc
      exact ⟨rfl, hold.returned, hold.asleep⟩
    · obtain rfl := List.mem_singleton.mp hc
      exact ⟨rfl, by simp, by simp⟩
  stopped hstop := ⟨rfl, (h.stopped hstop).2⟩

theorem fenced_step : Run.Keeps step Run.anyAction Fenced := by
  intro s a s' h _ hs
  cases move_of_step hs with
  | refused => exact h
  | save hopen =>
    refine h.enter hopen ?_ (by simpa [State.setCalls] using h.sqlite) rfl rfl
    simp only [State.setCalls, Function.update_self, Calls.active, h.saves]
    omega
  | sqlite hopen =>
    refine h.enter hopen (by simpa [State.setCalls] using h.saves) ?_ rfl rfl
    simp only [State.setCalls, Function.update_self, Calls.active, h.sqlite]
    omega
  | submit hn => exact h.submit hn
  | finish hless => exact h.finish hless
  | shut graceful doneClosed => exact h.shut graceful doneClosed
  | close doneClosed hc hnext =>
    refine ⟨h.saves, h.sqlite, fun d hd => ?_, h.stopped⟩
    obtain hd | rfl := List.mem_or_eq_of_mem_set hd
    · exact h.closers d hd
    · exact (h.closers _ (List.mem_of_getElem? hc)).next hnext
  | stop hc hreturned =>
    have hsound := h.closers _ hc
    exact ⟨h.saves, h.sqlite, h.closers, fun _ => ⟨hsound.shut, hsound.returned hreturned⟩⟩

theorem Fenced.of_reaches (h : Reaches s) : Fenced s := h.invariant fenced_initial fenced_step

/-! ### After the stop -/

/-- The session is shut and no call is under way. -/
def Shut (s : State) : Prop := s.accepting = false ∧ s.Quiet

theorem Shut.beginSave (h : Shut s) : s.beginSave = none := by simp [State.beginSave, h.1]

theorem Shut.beginSQLite (h : Shut s) : s.beginSQLite = none := by simp [State.beginSQLite, h.1]

theorem shut_step : Run.Keeps step Run.anyAction Shut := by
  intro s a s' h _ hs
  cases move_of_step hs with
  | save hopen => simp [h.1] at hopen
  | sqlite hopen => simp [h.1] at hopen
  | @submit k n hn =>
    have hquiet := h.2 k
    simp only [Calls.active] at hquiet
    omega
  | @finish k c hless =>
    have hquiet := h.2 k
    omega
  | shut graceful doneClosed => exact ⟨rfl, h.2⟩
  | _ => exact h

/-- `y` is no command of a call if `x` is the result of the stop. -/
def Before (x y : Command) : Prop := x = .actorStopResult → ∀ k, y ≠ .operation k

theorem handed_finish (s : State) (k : Kind) : (s.finish k).handed = s.handed := by
  cases k with
  | save =>
    simp only [State.finish, State.finishSave, State.broadcast]
    split_ifs <;> rfl
  | sqlite =>
    simp only [State.finish, State.finishSQLite, State.broadcast]
    split_ifs <;> rfl

theorem before_step : Run.Keeps step Run.anyAction fun s =>
    Fenced s ∧ s.handed.Pairwise Before := by
  intro s a s' ⟨h, hbefore⟩ _ hs
  refine ⟨fenced_step s a s' h trivial hs, ?_⟩
  cases move_of_step hs with
  | @submit k n hn =>
    refine List.pairwise_append.mpr ⟨hbefore, List.pairwise_singleton _ _, ?_⟩
    rintro x hx y hy rfl
    -- a call is under way, so the result of the stop was not handed over
    have hquiet := h.idle_iff_quiet.mp (h.stopped hx).2 k
    simp only [Calls.active] at hquiet
    omega
  | finish hless =>
    rw [handed_finish]
    exact hbefore
  | stop hc hreturned =>
    refine List.pairwise_append.mpr ⟨hbefore, List.pairwise_singleton _ _, ?_⟩
    rintro x - y hy - k rfl
    cases List.mem_singleton.mp hy
  | _ => exact hbefore

/-- In every run: once `closeGracefully` or `abort` has returned, no call of the
session is under way and none is let in; no command of a call is handed to the
submit queue after the result of the stop; and a closer sleeps only while a call is
under way. -/
theorem session_fence (h : Reaches s) :
    (∀ c ∈ s.closers, c.phase = .returned → ∀ s', Later s s' →
      s'.Quiet ∧ s'.beginSave = none ∧ s'.beginSQLite = none) ∧
    (∀ before after k, s.handed = before ++ .actorStopResult :: after → .operation k ∉ after) ∧
    ∀ c ∈ s.closers, c.phase = .waiting false → ¬ s.Quiet := by
  have hfenced := Fenced.of_reaches h
  refine ⟨?_, ?_, ?_⟩
  · intro c hc hreturned s' hlater
    have hsound := hfenced.closers c hc
    have hshut : Shut s :=
      ⟨hsound.shut, hfenced.idle_iff_quiet.mp (hsound.returned hreturned)⟩
    have hshut' := hlater.invariant hshut shut_step
    exact ⟨hshut'.2, hshut'.beginSave, hshut'.beginSQLite⟩
  · intro before after k hhanded hafter
    have hbefore := (h.invariant ⟨fenced_initial, .nil⟩ before_step).2
    rw [hhanded] at hbefore
    have hcons := (List.pairwise_append.mp hbefore).2.1
    exact (List.pairwise_cons.mp hcons).1 _ hafter rfl k rfl
  · intro c hc hasleep hquiet
    have hbusy := (hfenced.closers c hc).asleep hasleep
    simp [hfenced.idle_iff_quiet.mpr hquiet] at hbusy

/-- A save and a query are under way when the worker stops; the query hands its
command over after the stop has begun. -/
def stopDuringCalls : List Action :=
  [.save, .sqlite, .submit .save, .closeGracefully, .close 0, .submit .sqlite, .finish .save true,
    .sqlite, .finish .sqlite true, .close 0, .close 0, .actorStopResult]

theorem stopDuringCalls_fenced : ∃ s, Run.run step initial stopDuringCalls = some s ∧
    s.handed = [.operation .save, .operation .sqlite, .actorStopResult] ∧ s.Quiet ∧
    s.beginSave = none ∧ s.beginSQLite = none := by
  refine ⟨_, rfl, rfl, ?_⟩
  have hreaches := Run.reachable_of_run _ (rfl : Run.run step initial stopDuringCalls = some _)
  exact (session_fence hreaches).1 ⟨true, .returned⟩ (.head _) rfl _ .init

end RivetGo.SessionFence

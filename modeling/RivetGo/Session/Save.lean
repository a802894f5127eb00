import Mathlib
import RivetGo.Data.Run

/-!
# Saves and their acknowledgements

`Save` leaves a channel in `saveResult`, submits `SaveState` and waits. The poller gives
the next `StatePersisted` of the generation to the channel it finds there. A caller that
stops waiting takes its channel out again, poisons the session and puts the identity
into the `lateSaves` of the pump, and the late acknowledgement then takes the poison and
the mark away. A `Save` that ends because the session is done does none of this.

The model is of one generation. Saves are numbered in the order in which they take
`saveMu`; native answers the accepted ones in order, once each. What the poller does
with one event is cut where it takes a lock.
-/

namespace RivetGo.Save

/-- Where the caller that holds `saveMu` is. -/
inductive Saver where
  | idle
  | entered (i : Nat)
  /-- The channel is in `saveResult` and the command under way. -/
  | submitting (i : Nat)
  /-- The submission has failed. -/
  | failing (i : Nat)
  /-- Native has accepted the command. -/
  | submitted (i : Nat)
  | waiting (i : Nat)
  /-- The context or the timer has ended the wait. -/
  | abandoning (i : Nat)
  /-- `Save` returns, with `nil` or with an error. -/
  | leaving (i : Nat) (ok : Bool)
  deriving DecidableEq

/-- What the poller does with the acknowledgement of a save. -/
inductive Poller where
  | ready
  /-- The worker was found. -/
  | found (i : Nat) (ok : Bool)
  /-- `completeSave` had no channel. -/
  | notPending (i : Nat)
  /-- `completeAbandonedSave` has taken the poison away. -/
  | consuming (i : Nat)
  /-- Only a mark in `lateSaves` can account for the event. -/
  | late (i : Nat)
  /-- `handleInternalEvent` has returned an error. -/
  | failed (i : Nat)
  /-- The poll loop has ended. -/
  | stopped
  deriving DecidableEq

def Poller.Ended : Poller → Prop
  | .failed _ => True
  | .stopped => True
  | _ => False

instance : DecidablePred Poller.Ended
  | .failed _ => isTrue trivial
  | .stopped => isTrue trivial
  | .ready => isFalse not_false
  | .found _ _ => isFalse not_false
  | .notPending _ => isFalse not_false
  | .consuming _ => isFalse not_false
  | .late _ => isFalse not_false

/-- A result on the channel of a save, and the save whose acknowledgement it is. -/
structure Delivery where
  save : Nat
  acknowledged : Nat
  ok : Bool
  deriving DecidableEq

structure State where
  /-- `p.actors` has the worker. -/
  registered : Bool := true
  accepting : Bool := true
  done : Bool := false
  saver : Saver := .idle
  next : Nat := 0
  saveResult : Option Nat := none
  savePoisoned : Bool := false
  /-- `p.lateSaves` has the identity. -/
  lateSave : Bool := false
  /-- The saves that native has accepted and whose events are not handled yet. -/
  accepted : List Nat := []
  poller : Poller := .ready
  delivered : List Delivery := []
  returned : List (Nat × Bool) := []
  deriving DecidableEq

def initial : State := {}

inductive Action where
  | beginSave
  /-- The context was done before anything happened. -/
  | cancelled
  | enter
  | accept
  | refuse
  | clearSaveResult
  | confirm
  /-- The pump ends before the result of the submission is read. -/
  | cutOff
  | receive
  | giveUp
  | abandonSave
  | sessionDone
  | pumpDone
  | finishSave
  | stopAccepting
  /-- `closeGracefully` is through with its wait. -/
  | closeDone
  | abort
  | removeActor
  /-- The poller's next step, with the next event if it has none in hand. -/
  | poll (ok : Bool)
  | endPolling
  deriving DecidableEq

namespace State

def leave (s : State) (i : Nat) (ok : Bool) : State := { s with saver := .leaving i ok }

/-- The poller's part of `StatePersisted`. -/
def poll (s : State) (ok : Bool) : Option State :=
  match s.poller with
  | .ready =>
    match s.accepted with
    | [] => none
    | i :: rest =>
      some { s with accepted := rest, poller := if s.registered then .found i ok else .late i }
  | .found i ok =>
    match s.saveResult with
    | some j =>
      some { s with
        saveResult := none, delivered := ⟨j, i, ok⟩ :: s.delivered, poller := .ready }
    | none => some { s with poller := .notPending i }
  | .notPending i =>
    if s.savePoisoned then some { s with savePoisoned := false, poller := .consuming i }
    else some { s with poller := .late i }
  | .consuming i =>
    if s.lateSave then some { s with lateSave := false, poller := .ready }
    else some { s with poller := .late i }
  | .late i =>
    if s.lateSave then some { s with lateSave := false, poller := .ready }
    else some { s with poller := .failed i }
  | .failed _ | .stopped => none

def enter (s : State) (i : Nat) : State :=
  if s.savePoisoned ∨ s.saveResult ≠ none then s.leave i false
  else { s with saveResult := some i, saver := .submitting i }

def clearSaveResult (s : State) (i : Nat) : State :=
  if s.saveResult = some i then { s with saveResult := none } else s

/-- The mark is set with `saveStateMu` locked. -/
def abandonSave (s : State) (i : Nat) : State :=
  if s.saveResult = some i then
    { s with saveResult := none, savePoisoned := true, lateSave := true }
  else s

def receive (s : State) (i : Nat) : Option State :=
  (s.delivered.find? (·.save = i)).map fun d => s.leave i d.ok

end State

def step (s : State) : Action → Option State
  | .beginSave =>
    if s.saver = .idle ∧ s.accepting then
      some { s with saver := .entered s.next, next := s.next + 1 }
    else none
  | .cancelled => match s.saver with
    | .entered i => some (s.leave i false)
    | _ => none
  | .enter => match s.saver with
    | .entered i => some (s.enter i)
    | _ => none
  | .accept => match s.saver with
    | .submitting i => some { s with accepted := s.accepted ++ [i], saver := .submitted i }
    | _ => none
  | .refuse => match s.saver with
    | .submitting i => some { s with saver := .failing i }
    | _ => none
  | .clearSaveResult => match s.saver with
    | .failing i => some ((s.clearSaveResult i).leave i false)
    | _ => none
  | .confirm => match s.saver with
    | .submitted i => some { s with saver := .waiting i }
    | _ => none
  | .cutOff => match s.saver with
    | .submitted i => if s.poller.Ended then some { s with saver := .failing i } else none
    | _ => none
  | .receive => match s.saver with
    | .waiting i => s.receive i
    | _ => none
  | .giveUp => match s.saver with
    | .waiting i => some { s with saver := .abandoning i }
    | _ => none
  | .abandonSave => match s.saver with
    | .abandoning i => some ((s.abandonSave i).leave i false)
    | _ => none
  | .sessionDone => match s.saver with
    | .waiting i => if s.done then some (s.leave i false) else none
    | _ => none
  | .pumpDone => match s.saver with
    | .waiting i => if s.poller.Ended then some (s.leave i false) else none
    | _ => none
  | .finishSave => match s.saver with
    | .leaving i ok => some { s with saver := .idle, returned := (i, ok) :: s.returned }
    | _ => none
  | .stopAccepting => some { s with accepting := false }
  | .closeDone =>
    if s.accepting = false ∧ s.saver = .idle then some { s with done := true } else none
  | .abort => some { s with accepting := false, done := true }
  | .removeActor =>
    if s.done ∧ s.saver = .idle then some { s with registered := false } else none
  | .poll ok => s.poll ok
  | .endPolling => if s.poller = .ready then some { s with poller := .stopped } else none

variable {s s' : State} {a : Action} {i : Nat} {ok : Bool}

/-! ## What a step can do -/

/-- The moves of the caller that leave the shared state alone. -/
inductive Quiet (s : State) : Action → Saver → Prop
  | cancelled (i : Nat) (h : s.saver = .entered i) : Quiet s .cancelled (.leaving i false)
  | notEntered (i : Nat) (h : s.saver = .entered i) : Quiet s .enter (.leaving i false)
  | refused (i : Nat) (h : s.saver = .submitting i) : Quiet s .refuse (.failing i)
  | forgotten (i : Nat) (h : s.saver = .failing i) : Quiet s .clearSaveResult (.leaving i false)
  | confirmed (i : Nat) (h : s.saver = .submitted i) : Quiet s .confirm (.waiting i)
  | cutOff (i : Nat) (h : s.saver = .submitted i) (hended : s.poller.Ended) :
      Quiet s .cutOff (.failing i)
  | received (i : Nat) (h : s.saver = .waiting i) (d : Delivery) (hd : d ∈ s.delivered)
      (hsave : d.save = i) : Quiet s .receive (.leaving i d.ok)
  | gaveUp (i : Nat) (h : s.saver = .waiting i) : Quiet s .giveUp (.abandoning i)
  | completed (i : Nat) (h : s.saver = .abandoning i) (hslot : s.saveResult ≠ some i) :
      Quiet s .abandonSave (.leaving i false)
  | sessionDone (i : Nat) (h : s.saver = .waiting i) : Quiet s .sessionDone (.leaving i false)
  | pumpDone (i : Nat) (h : s.saver = .waiting i) : Quiet s .pumpDone (.leaving i false)

inductive Move (s : State) : Action → State → Prop
  | beginSave (hidle : s.saver = .idle) (haccepting : s.accepting = true) :
      Move s .beginSave { s with saver := .entered s.next, next := s.next + 1 }
  | quiet (a : Action) (saver : Saver) (h : Quiet s a saver) : Move s a { s with saver := saver }
  | enter (i : Nat) (h : s.saver = .entered i) (hpoisoned : s.savePoisoned = false)
      (hslot : s.saveResult = none) :
      Move s .enter { s with saveResult := some i, saver := .submitting i }
  | accept (i : Nat) (h : s.saver = .submitting i) :
      Move s .accept { s with accepted := s.accepted ++ [i], saver := .submitted i }
  | clear (i : Nat) (h : s.saver = .failing i) (hslot : s.saveResult = some i) :
      Move s .clearSaveResult { s with saveResult := none, saver := .leaving i false }
  | abandon (i : Nat) (h : s.saver = .abandoning i) (hslot : s.saveResult = some i) :
      Move s .abandonSave
        { s with
          saveResult := none, savePoisoned := true, lateSave := true, saver := .leaving i false }
  | finish (i : Nat) (ok : Bool) (h : s.saver = .leaving i ok) :
      Move s .finishSave { s with saver := .idle, returned := (i, ok) :: s.returned }
  | stopAccepting : Move s .stopAccepting { s with accepting := false }
  | closeDone (haccepting : s.accepting = false) : Move s .closeDone { s with done := true }
  | abort : Move s .abort { s with accepting := false, done := true }
  | removeActor (hdone : s.done = true) (hidle : s.saver = .idle) :
      Move s .removeActor { s with registered := false }
  | poll (ok : Bool) (s' : State) (h : s.poll ok = some s') : Move s (.poll ok) s'
  | endPolling (h : s.poller = .ready) : Move s .endPolling { s with poller := .stopped }

theorem move_enter (h : s.saver = .entered i) : Move s .enter (s.enter i) := by
  rw [State.enter]
  split_ifs with hrefused
  · exact .quiet _ _ (.notEntered i h)
  · obtain ⟨hpoisoned, hslot⟩ := not_or.mp hrefused
    exact .enter i h (Bool.eq_false_iff.mpr hpoisoned) (not_not.mp hslot)

theorem move_clearSaveResult (h : s.saver = .failing i) :
    Move s .clearSaveResult ((s.clearSaveResult i).leave i false) := by
  rw [State.clearSaveResult]
  split_ifs with hslot
  · exact .clear i h hslot
  · exact .quiet _ _ (.forgotten i h)

theorem move_abandonSave (h : s.saver = .abandoning i) :
    Move s .abandonSave ((s.abandonSave i).leave i false) := by
  rw [State.abandonSave]
  split_ifs with hslot
  · exact .abandon i h hslot
  · exact .quiet _ _ (.completed i h hslot)

theorem move_receive (h : s.saver = .waiting i) (hs : s.receive i = some s') :
    Move s .receive s' := by
  obtain ⟨d, hfind, rfl⟩ := Option.map_eq_some_iff.mp hs
  have hsave : d.save = i := by simpa using List.find?_some hfind
  exact .quiet _ _ (.received i h d (List.mem_of_find?_eq_some hfind) hsave)

theorem move_of_step (hs : step s a = some s') : Move s a s' := by
  cases a with
  | beginSave =>
    obtain ⟨⟨hidle, haccepting⟩, rfl⟩ := Run.guard_eq_some.mp hs
    exact .beginSave hidle haccepting
  | stopAccepting =>
    obtain rfl := Option.some.inj hs
    exact .stopAccepting
  | closeDone =>
    obtain ⟨⟨haccepting, -⟩, rfl⟩ := Run.guard_eq_some.mp hs
    exact .closeDone haccepting
  | abort =>
    obtain rfl := Option.some.inj hs
    exact .abort
  | removeActor =>
    obtain ⟨⟨hdone, hidle⟩, rfl⟩ := Run.guard_eq_some.mp hs
    exact .removeActor hdone hidle
  | poll ok => exact .poll ok s' hs
  | endPolling =>
    obtain ⟨hready, rfl⟩ := Run.guard_eq_some.mp hs
    exact .endPolling hready
  | cancelled =>
    cases hsaver : s.saver <;> simp only [step, hsaver, reduceCtorEq] at hs
    obtain rfl := Option.some.inj hs
    exact .quiet _ _ (.cancelled _ hsaver)
  | enter =>
    cases hsaver : s.saver <;> simp only [step, hsaver, reduceCtorEq] at hs
    obtain rfl := Option.some.inj hs
    exact move_enter hsaver
  | accept =>
    cases hsaver : s.saver <;> simp only [step, hsaver, reduceCtorEq] at hs
    obtain rfl := Option.some.inj hs
    exact .accept _ hsaver
  | refuse =>
    cases hsaver : s.saver <;> simp only [step, hsaver, reduceCtorEq] at hs
    obtain rfl := Option.some.inj hs
    exact .quiet _ _ (.refused _ hsaver)
  | clearSaveResult =>
    cases hsaver : s.saver <;> simp only [step, hsaver, reduceCtorEq] at hs
    obtain rfl := Option.some.inj hs
    exact move_clearSaveResult hsaver
  | confirm =>
    cases hsaver : s.saver <;> simp only [step, hsaver, reduceCtorEq] at hs
    obtain rfl := Option.some.inj hs
    exact .quiet _ _ (.confirmed _ hsaver)
  | cutOff =>
    cases hsaver : s.saver <;> simp only [step, hsaver, reduceCtorEq] at hs
    obtain ⟨hif, rfl⟩ := Run.guard_eq_some.mp hs
    exact .quiet _ _ (.cutOff _ hsaver hif)
  | receive =>
    cases hsaver : s.saver <;> simp only [step, hsaver, reduceCtorEq] at hs
    exact move_receive hsaver hs
  | giveUp =>
    cases hsaver : s.saver <;> simp only [step, hsaver, reduceCtorEq] at hs
    obtain rfl := Option.some.inj hs
    exact .quiet _ _ (.gaveUp _ hsaver)
  | abandonSave =>
    cases hsaver : s.saver <;> simp only [step, hsaver, reduceCtorEq] at hs
    obtain rfl := Option.some.inj hs
    exact move_abandonSave hsaver
  | sessionDone =>
    cases hsaver : s.saver <;> simp only [step, hsaver, reduceCtorEq] at hs
    obtain ⟨-, rfl⟩ := Run.guard_eq_some.mp hs
    exact .quiet _ _ (.sessionDone _ hsaver)
  | pumpDone =>
    cases hsaver : s.saver <;> simp only [step, hsaver, reduceCtorEq] at hs
    obtain ⟨-, rfl⟩ := Run.guard_eq_some.mp hs
    exact .quiet _ _ (.pumpDone _ hsaver)
  | finishSave =>
    cases hsaver : s.saver <;> simp only [step, hsaver, reduceCtorEq] at hs
    obtain rfl := Option.some.inj hs
    exact .finish _ _ hsaver

/-- The steps of the poller. -/
inductive Polls (s : State) (ok : Bool) : State → Prop
  | take (i : Nat) (rest : List Nat) (hpoller : s.poller = .ready) (h : s.accepted = i :: rest) :
      Polls s ok
        { s with accepted := rest, poller := if s.registered then .found i ok else .late i }
  | deliver (i j : Nat) (ok' : Bool) (hpoller : s.poller = .found i ok')
      (hslot : s.saveResult = some j) :
      Polls s ok
        { s with saveResult := none, delivered := ⟨j, i, ok'⟩ :: s.delivered, poller := .ready }
  | miss (i : Nat) (ok' : Bool) (hpoller : s.poller = .found i ok') (hslot : s.saveResult = none) :
      Polls s ok { s with poller := .notPending i }
  | unpoison (i : Nat) (hpoller : s.poller = .notPending i) :
      Polls s ok { s with savePoisoned := false, poller := .consuming i }
  | clean (i : Nat) (hpoller : s.poller = .notPending i) (hpoisoned : s.savePoisoned = false) :
      Polls s ok { s with poller := .late i }
  | unmark (i : Nat) (hpoller : s.poller = .consuming i ∨ s.poller = .late i) :
      Polls s ok { s with lateSave := false, poller := .ready }
  | unmarked (i : Nat) (hpoller : s.poller = .consuming i) (hlate : s.lateSave = false) :
      Polls s ok { s with poller := .late i }
  | fail (i : Nat) (hpoller : s.poller = .late i) (hlate : s.lateSave = false) :
      Polls s ok { s with poller := .failed i }

theorem polls_of_poll (hs : s.poll ok = some s') : Polls s ok s' := by
  rw [State.poll] at hs
  split at hs
  case h_1 hpoller =>
    split at hs
    case h_1 => cases hs
    case h_2 i rest haccepted => exact Option.some.inj hs ▸ .take i rest hpoller haccepted
  case h_2 i ok' hpoller =>
    split at hs
    case h_1 j hslot => exact Option.some.inj hs ▸ .deliver i j ok' hpoller hslot
    case h_2 hslot => exact Option.some.inj hs ▸ .miss i ok' hpoller hslot
  case h_3 i hpoller =>
    split_ifs at hs with hpoisoned
    · exact Option.some.inj hs ▸ .unpoison i hpoller
    · exact Option.some.inj hs ▸ .clean i hpoller (Bool.eq_false_iff.mpr hpoisoned)
  case h_4 i hpoller =>
    split_ifs at hs with hlate
    · exact Option.some.inj hs ▸ .unmark i (.inl hpoller)
    · exact Option.some.inj hs ▸ .unmarked i hpoller (Bool.eq_false_iff.mpr hlate)
  case h_5 i hpoller =>
    split_ifs at hs with hlate
    · exact Option.some.inj hs ▸ .unmark i (.inr hpoller)
    · exact Option.some.inj hs ▸ .fail i hpoller (Bool.eq_false_iff.mpr hlate)
  all_goals cases hs

/-! ## The slot and the acknowledgements under way -/

/-- An acknowledgement of save `i` finds its channel, or the poison it left. -/
def Awaited (s : State) (i : Nat) : Prop :=
  s.saveResult = some i ∧ s.savePoisoned = false ∨
    s.saveResult = none ∧ s.savePoisoned = true

/-- The poller has not looked for the channel or the poison of an acknowledgement that
it has in hand. -/
def Poller.Searching : Poller → Prop
  | .found _ _ => True
  | .notPending _ => True
  | _ => False

structure Slot (s : State) : Prop where
  short : s.accepted.length ≤ 1
  awaited : ∀ i ∈ s.accepted, Awaited s i
  alone : s.poller.Searching → s.accepted = []
  found : ∀ i ok, s.poller = .found i ok → Awaited s i
  notPending : ∀ i, s.poller = .notPending i → s.saveResult = none ∧ s.savePoisoned = true
  /-- Before native has accepted a save, no acknowledgement is under way. -/
  unsent : ∀ i, s.saver = .submitting i ∨ s.saver = .failing i →
    s.saveResult = some i ∧ s.savePoisoned = false ∧ s.accepted = [] ∧ ¬ s.poller.Searching

structure Lifecycle (s : State) : Prop where
  busy : s.saver ≠ .idle → s.registered = true
  closed : s.done = true → s.accepting = false
  gone : s.registered = false → s.done = true

structure Inv (s : State) : Prop where
  lifecycle : Lifecycle s
  slot : ¬ s.poller.Ended → Slot s

theorem inv_initial : Inv initial where
  lifecycle := ⟨fun h => absurd rfl h, fun h => absurd h (by decide), fun h => absurd h (by decide)⟩
  slot _ := {
    short := Nat.zero_le 1
    awaited := fun _ h => absurd h List.not_mem_nil
    alone := fun h => h.elim
    found := fun _ _ h => Poller.noConfusion h
    notPending := fun _ h => Poller.noConfusion h
    unsent := fun _ h => by simp [initial] at h }

/-- With the slot empty and no poison, no acknowledgement is under way. -/
theorem Slot.accepted_eq_nil (h : Slot s) (hslot : s.saveResult = none)
    (hpoisoned : s.savePoisoned = false) : s.accepted = [] := by
  refine List.eq_nil_iff_forall_not_mem.mpr fun i hi => ?_
  rcases h.awaited i hi with ⟨hsome, -⟩ | ⟨-, htrue⟩
  · simp [hslot] at hsome
  · simp [hpoisoned] at htrue

theorem Slot.not_searching (h : Slot s) (hslot : s.saveResult = none)
    (hpoisoned : s.savePoisoned = false) : ¬ s.poller.Searching := by
  intro hsearching
  cases hpoller : s.poller with
  | found i ok =>
    rcases h.found i ok hpoller with ⟨hsome, -⟩ | ⟨-, htrue⟩
    · simp [hslot] at hsome
    · simp [hpoisoned] at htrue
  | notPending i => simp [h.notPending i hpoller |>.2] at hpoisoned
  | _ => simp [hpoller, Poller.Searching] at hsearching

/-- Only the caller's stage has changed, and not to one before the acceptance. -/
theorem Slot.setSaver {saver : Saver} (h : Slot s)
    (hsaver : ∀ i, saver ≠ .submitting i ∧ (saver = .failing i → s.saver = .submitting i)) :
    Slot { s with saver := saver } :=
  { h with
    unsent := by
      rintro i (hi | hi)
      · exact absurd hi (hsaver i).1
      · exact h.unsent i (.inl ((hsaver i).2 hi)) }

theorem Slot.quiet {saver : Saver} (h : Slot s) (hended : ¬ s.poller.Ended)
    (hq : Quiet s a saver) : Slot { s with saver := saver } := by
  refine h.setSaver fun i => ?_
  cases hq with
  | cutOff j hj hpoller => exact absurd hpoller hended
  | refused j hj =>
    refine ⟨Saver.noConfusion, fun heq => ?_⟩
    obtain rfl := Saver.failing.inj heq
    exact hj
  | _ => exact ⟨Saver.noConfusion, fun heq => Saver.noConfusion heq⟩

/-- No acknowledgement is under way, and none is about to be. -/
theorem slot_of_accepted_nil (hempty : s.accepted = []) (hsearching : ¬ s.poller.Searching)
    (hsent : ∀ i, ¬ (s.saver = .submitting i ∨ s.saver = .failing i)) : Slot s where
  short := by simp [hempty]
  awaited := fun i hi => by simp [hempty] at hi
  alone := fun h => absurd h hsearching
  found := fun i ok hi => absurd (hi ▸ trivial) hsearching
  notPending := fun i hi => absurd (hi ▸ trivial) hsearching
  unsent := fun i hi => absurd hi (hsent i)

/-- The poller goes on without looking for anything. -/
theorem Slot.setPoller {poller : Poller} {lateSave : Bool} (h : Slot s)
    (hsearching : ¬ poller.Searching) :
    Slot { s with lateSave := lateSave, poller := poller } where
  short := h.short
  awaited := h.awaited
  alone := fun h => absurd h hsearching
  found := by
    rintro i ok rfl
    exact absurd trivial hsearching
  notPending := by
    rintro i rfl
    exact absurd trivial hsearching
  unsent := fun i hi => by
    obtain ⟨hslot, hpoisoned, hempty, -⟩ := h.unsent i hi
    exact ⟨hslot, hpoisoned, hempty, hsearching⟩

theorem Slot.sent (h : Slot s) (hsearching : s.poller.Searching) (i : Nat) :
    ¬ (s.saver = .submitting i ∨ s.saver = .failing i) :=
  fun hi => (h.unsent i hi).2.2.2 hsearching

theorem Slot.rest_eq_nil {rest : List Nat} (h : Slot s) (haccepted : s.accepted = i :: rest) :
    rest = [] := by
  have hshort := h.short
  rw [haccepted, List.length_cons] at hshort
  exact List.eq_nil_of_length_eq_zero (by omega)

theorem Slot.take {rest : List Nat} (h : Slot s) (haccepted : s.accepted = i :: rest) :
    Slot { s with
      accepted := rest, poller := if s.registered then .found i ok else .late i } := by
  obtain rfl := h.rest_eq_nil haccepted
  refine ⟨Nat.zero_le 1, fun _ hj => absurd hj List.not_mem_nil, fun _ => rfl,
    fun j ok' hj => ?_, fun j hj => ?_, fun j hj => ?_⟩
  · split_ifs at hj
    obtain ⟨rfl, -⟩ := Poller.found.inj hj
    exact h.awaited i (by simp [haccepted])
  · split_ifs at hj
  · have hempty := (h.unsent j hj).2.2.1
    simp [haccepted] at hempty

theorem Slot.poll (h : Slot s) (hs : s.poll ok = some s') : Slot s' := by
  cases polls_of_poll hs with
  | take i rest hpoller haccepted => exact h.take haccepted
  | deliver i j ok' hpoller hslot | unpoison i hpoller =>
    have hsearching : s.poller.Searching := hpoller ▸ trivial
    exact slot_of_accepted_nil (h.alone hsearching) not_false (h.sent hsearching)
  | miss i ok' hpoller hslot =>
    have hsearching : s.poller.Searching := hpoller ▸ trivial
    have hempty := h.alone hsearching
    rcases h.found i ok' hpoller with ⟨hsome, -⟩ | ⟨-, hpoisoned⟩
    · simp [hslot] at hsome
    · exact ⟨h.short, h.awaited, fun _ => hempty, fun _ _ hj => Poller.noConfusion hj,
        fun _ _ => ⟨hslot, hpoisoned⟩, fun j hj => absurd hj (h.sent hsearching j)⟩
  | clean | unmark | unmarked | fail => exact h.setPoller not_false

theorem Slot.enter (h : Slot s) (hpoisoned : s.savePoisoned = false) (hslot : s.saveResult = none) :
    Slot { s with saveResult := some i, saver := .submitting i } := by
  have hempty := h.accepted_eq_nil hslot hpoisoned
  have hsearching := h.not_searching hslot hpoisoned
  refine ⟨h.short, fun j hj => by simp [hempty] at hj, h.alone, fun j ok hj => ?_, fun j hj => ?_,
    fun j hj => ?_⟩
  · exact absurd (by simp_all [Poller.Searching]) hsearching
  · exact absurd (by simp_all [Poller.Searching]) hsearching
  · rcases hj with hj | hj
    · obtain rfl := Saver.submitting.inj hj
      exact ⟨rfl, hpoisoned, hempty, hsearching⟩
    · exact Saver.noConfusion hj

theorem Slot.accept (h : Slot s) (hsaver : s.saver = .submitting i) :
    Slot { s with accepted := s.accepted ++ [i], saver := .submitted i } := by
  obtain ⟨hslot, hpoisoned, hempty, hsearching⟩ := h.unsent i (.inl hsaver)
  refine ⟨by simp [hempty], fun j hj => ?_, fun hj => absurd hj hsearching, h.found, h.notPending,
    fun j hj => ?_⟩
  · obtain rfl : j = i := by simpa [hempty] using hj
    exact .inl ⟨hslot, hpoisoned⟩
  · rcases hj with hj | hj <;> exact Saver.noConfusion hj

theorem Slot.clear (h : Slot s) (hsaver : s.saver = .failing i) :
    Slot { s with saveResult := none, saver := .leaving i false } := by
  obtain ⟨-, -, hempty, hsearching⟩ := h.unsent i (.inr hsaver)
  refine slot_of_accepted_nil hempty hsearching fun j hj => ?_
  rcases hj with hj | hj <;> exact Saver.noConfusion hj

/-- A channel is taken out and leaves the poison behind. -/
theorem Slot.abandon (h : Slot s) :
    Slot { s with
      saveResult := none, savePoisoned := true, lateSave := true, saver := .leaving i false } := by
  refine ⟨h.short, fun _ _ => .inr ⟨rfl, rfl⟩, h.alone, fun _ _ _ => .inr ⟨rfl, rfl⟩,
    fun _ _ => ⟨rfl, rfl⟩, fun j hj => ?_⟩
  rcases hj with hj | hj <;> exact Saver.noConfusion hj

theorem slot_move (h : Slot s) (hended : ¬ s.poller.Ended) (hended' : ¬ s'.poller.Ended)
    (hm : Move s a s') : Slot s' := by
  cases hm with
  | beginSave hidle haccepting =>
    exact ⟨h.short, h.awaited, h.alone, h.found, h.notPending, fun j hj => by simp at hj⟩
  | quiet a saver hq => exact h.quiet hended hq
  | enter i hi hpoisoned hslot => exact h.enter hpoisoned hslot
  | accept i hi => exact h.accept hi
  | clear i hi hslot => exact h.clear hi
  | abandon i hi hslot => exact h.abandon
  | finish i ok hi =>
    exact ⟨h.short, h.awaited, h.alone, h.found, h.notPending, fun j hj => by simp at hj⟩
  | poll ok s' hs => exact h.poll hs
  | endPolling hready => exact absurd trivial hended'
  | _ => exact ⟨h.short, h.awaited, h.alone, h.found, h.notPending, h.unsent⟩

theorem State.poll_frame (hs : s.poll ok = some s') :
    s'.registered = s.registered ∧ s'.accepting = s.accepting ∧ s'.done = s.done ∧
      s'.saver = s.saver ∧ s'.returned = s.returned := by
  cases polls_of_poll hs <;> exact ⟨rfl, rfl, rfl, rfl, rfl⟩

theorem lifecycle_move (h : Lifecycle s) (hm : Move s a s') : Lifecycle s' := by
  cases hm with
  | beginSave hidle haccepting =>
    refine ⟨fun _ => ?_, h.closed, h.gone⟩
    by_contra hgone
    have hclosed := h.closed (h.gone (Bool.eq_false_iff.mpr hgone))
    simp [haccepting] at hclosed
  | quiet a saver hq =>
    refine ⟨fun _ => h.busy ?_, h.closed, h.gone⟩
    cases hq <;> simp_all
  | enter i hi hpoisoned hslot => exact ⟨fun _ => h.busy (by simp [hi]), h.closed, h.gone⟩
  | accept i hi => exact ⟨fun _ => h.busy (by simp [hi]), h.closed, h.gone⟩
  | clear i hi hslot => exact ⟨fun _ => h.busy (by simp [hi]), h.closed, h.gone⟩
  | abandon i hi hslot => exact ⟨fun _ => h.busy (by simp [hi]), h.closed, h.gone⟩
  | finish i ok hi => exact ⟨fun hne => absurd rfl hne, h.closed, h.gone⟩
  | stopAccepting => exact ⟨h.busy, fun _ => rfl, h.gone⟩
  | closeDone haccepting => exact ⟨h.busy, fun _ => haccepting, fun _ => rfl⟩
  | abort => exact ⟨h.busy, fun _ => rfl, fun _ => rfl⟩
  | removeActor hdone hidle => exact ⟨fun hne => absurd hidle hne, h.closed, fun _ => hdone⟩
  | poll ok s' hs =>
    obtain ⟨hregistered, haccepting, hdone, hsaver, -⟩ := State.poll_frame hs
    exact ⟨by rw [hsaver, hregistered]; exact h.busy, by rw [hdone, haccepting]; exact h.closed,
      by rw [hregistered, hdone]; exact h.gone⟩
  | endPolling hready => exact ⟨h.busy, h.closed, h.gone⟩

/-- A poll loop that has ended does not start again. -/
theorem ended_move (h : s.poller.Ended) (hm : Move s a s') : s'.poller.Ended := by
  cases hm with
  | poll ok s' hs => cases hpoller : s.poller <;> simp_all [State.poll, Poller.Ended]
  | endPolling hready => simp [hready, Poller.Ended] at h
  | _ => exact h

theorem inv_step (h : Inv s) (hs : step s a = some s') : Inv s' := by
  have hm := move_of_step hs
  refine ⟨lifecycle_move h.lifecycle hm, fun hended' => ?_⟩
  have hended : ¬ s.poller.Ended := fun hended => hended' (ended_move hended hm)
  exact slot_move (h.slot hended) hended hended' hm

theorem inv_of_reachable (h : Run.Reachable step Run.anyAction initial s) : Inv s :=
  h.invariant (P := Inv) inv_initial fun _ _ _ h _ hs => inv_step h hs

theorem Inv.slotAt {poller : Poller} (h : Inv s) (hpoller : s.poller = poller)
    (hended : ¬ poller.Ended) : Slot s :=
  h.slot (hpoller ▸ hended)

/-! ## Every acknowledgement is consumed -/

/-- The poller takes its next step, if there is one. -/
def State.advance (s : State) : State := (s.poll true).getD s

/-- Whatever acknowledgement is under way is consumed, if it is handled now. -/
def Consumed (s : State) : Prop := ∀ n i, (State.advance^[n] s).poller ≠ .failed i

/-- The worker is there and a channel is in the slot. -/
def Held (s : State) : Prop := s.registered = true ∧ s.saveResult ≠ none

/-- What `Consumed` comes to at each stage of the poller. -/
def Consumable (s : State) : Prop :=
  match s.poller with
  | .ready => s.accepted = [] ∨ Held s ∨ s.lateSave = true
  | .found _ _ => s.saveResult ≠ none ∨ s.lateSave = true
  | .notPending _ => s.lateSave = true
  | .consuming _ => s.lateSave = true ∧ (s.accepted = [] ∨ Held s)
  | .late _ => s.lateSave = true ∧ (s.accepted = [] ∨ Held s)
  | .failed _ => False
  | .stopped => True

theorem Consumed.poll (h : Consumed s) (hs : s.poll true = some s') : Consumed s' := by
  intro n i
  have hnext : s.advance = s' := by simp [State.advance, hs]
  have := h (n + 1) i
  rwa [Function.iterate_succ_apply, hnext] at this

theorem Consumed.lateSave_of_late (h : Consumed s) (hpoller : s.poller = .late i) :
    s.lateSave = true := by
  by_contra hlate
  have hs : s.poll true = some { s with poller := .failed i } := by
    simp [State.poll, hpoller, hlate]
  exact h.poll hs 0 i rfl

theorem Consumed.lateSave_of_consuming (h : Consumed s) (hpoller : s.poller = .consuming i) :
    s.lateSave = true := by
  by_contra hlate
  have hs : s.poll true = some { s with poller := .late i } := by
    simp [State.poll, hpoller, hlate]
  exact hlate ((h.poll hs).lateSave_of_late rfl)

theorem Consumed.lateSave_of_notPending (h : Consumed s) (hpoller : s.poller = .notPending i)
    (hpoisoned : s.savePoisoned = true) : s.lateSave = true := by
  have hs : s.poll true = some { s with savePoisoned := false, poller := .consuming i } := by
    simp [State.poll, hpoller, hpoisoned]
  exact (h.poll hs).lateSave_of_consuming rfl

theorem Consumed.of_found (h : Consumed s) (hpoller : s.poller = .found i ok)
    (hi : Awaited s i) : s.saveResult ≠ none ∨ s.lateSave = true := by
  rcases hi with ⟨hslot, -⟩ | ⟨hslot, hpoisoned⟩
  · exact .inl (by simp [hslot])
  · have hs : s.poll true = some { s with poller := .notPending i } := by
      simp [State.poll, hpoller, hslot]
    exact .inr ((h.poll hs).lateSave_of_notPending rfl hpoisoned)

theorem Consumed.of_ready (h : Consumed s) (hslot : Slot s) (hpoller : s.poller = .ready) :
    s.accepted = [] ∨ Held s ∨ s.lateSave = true := by
  cases haccepted : s.accepted with
  | nil => exact .inl rfl
  | cons i rest =>
    right
    have hi : Awaited s i := hslot.awaited i (by simp [haccepted])
    by_cases hregistered : s.registered = true
    · have hs : s.poll true = some { s with accepted := rest, poller := .found i true } := by
        simp [State.poll, hpoller, haccepted, hregistered]
      exact ((h.poll hs).of_found rfl hi).imp_left fun hne => ⟨hregistered, hne⟩
    · have hs : s.poll true = some { s with accepted := rest, poller := .late i } := by
        simp [State.poll, hpoller, haccepted, hregistered]
      exact .inr ((h.poll hs).lateSave_of_late rfl)

/-- With the mark used up, what is still under way needs its channel. -/
theorem Consumed.of_unmarked (h : Consumed s) (hslot : Slot s)
    (hs : s.poll true = some { s with lateSave := false, poller := .ready }) :
    s.accepted = [] ∨ Held s := by
  have hnext := (h.poll hs).of_ready (hslot.poll hs) rfl
  exact hnext.imp_right fun hor => hor.resolve_right Bool.false_ne_true

theorem Consumed.consumable (h : Consumed s) (hinv : Inv s) : Consumable s := by
  rw [Consumable]
  cases hpoller : s.poller with
  | ready => exact h.of_ready (hinv.slotAt hpoller not_false) hpoller
  | found i ok => exact h.of_found hpoller ((hinv.slotAt hpoller not_false).found i ok hpoller)
  | notPending i =>
    have hslot := hinv.slotAt hpoller not_false
    exact h.lateSave_of_notPending hpoller (hslot.notPending i hpoller).2
  | consuming i =>
    have hlate := h.lateSave_of_consuming hpoller
    exact ⟨hlate, h.of_unmarked (hinv.slotAt hpoller not_false)
      (by simp [State.poll, hpoller, hlate])⟩
  | late i =>
    have hlate := h.lateSave_of_late hpoller
    exact ⟨hlate, h.of_unmarked (hinv.slotAt hpoller not_false)
      (by simp [State.poll, hpoller, hlate])⟩
  | failed i => exact absurd hpoller (h 0 i)
  | stopped => trivial

theorem Consumable.take {rest : List Nat} (h : Consumable s) (hslot : Slot s)
    (hpoller : s.poller = .ready) (haccepted : s.accepted = i :: rest) :
    Consumable { s with
      accepted := rest, poller := if s.registered then .found i ok else .late i } := by
  simp only [Consumable, hpoller, haccepted, reduceCtorEq, false_or] at h
  by_cases hregistered : s.registered = true
  · simp only [Consumable, hregistered, if_true]
    exact h.imp_left fun hheld => hheld.2
  · simp only [Consumable, hregistered]
    exact ⟨h.resolve_left fun hheld => hregistered hheld.1, .inl (hslot.rest_eq_nil haccepted)⟩

theorem Consumable.poll (h : Consumable s) (hinv : Inv s) (hs : s.poll ok = some s') :
    Consumable s' := by
  cases polls_of_poll hs with
  | take i rest hpoller haccepted => exact h.take (hinv.slotAt hpoller not_false) hpoller haccepted
  | deliver i j ok' hpoller hslot =>
    exact .inl ((hinv.slotAt hpoller not_false).alone (hpoller ▸ trivial))
  | miss i ok' hpoller hslot =>
    simp only [Consumable, hpoller] at h
    exact h.resolve_left fun hne => hne hslot
  | unpoison i hpoller =>
    simp only [Consumable, hpoller] at h
    exact ⟨h, .inl ((hinv.slotAt hpoller not_false).alone (hpoller ▸ trivial))⟩
  | clean i hpoller hpoisoned =>
    have htrue := ((hinv.slotAt hpoller not_false).notPending i hpoller).2
    simp [hpoisoned] at htrue
  | unmark i hpoller =>
    rcases hpoller with hpoller | hpoller <;> simp only [Consumable, hpoller] at h
    · exact h.2.imp_right .inl
    · exact h.2.imp_right .inl
  | unmarked i hpoller hlate => simp [Consumable, hpoller, hlate] at h
  | fail i hpoller hlate => simp [Consumable, hpoller, hlate] at h

theorem Consumable.consumed (h : Consumable s) (hinv : Inv s) : Consumed s := by
  intro n
  induction n generalizing s with
  | zero =>
    intro i hpoller
    simp [Consumable, show s.poller = .failed i from hpoller] at h
  | succ n ih =>
    rw [Function.iterate_succ_apply]
    cases hs : s.poll true with
    | none =>
      have hsame : s.advance = s := by simp [State.advance, hs]
      rw [hsame]
      exact ih h hinv
    | some s' =>
      have hnext : s.advance = s' := by simp [State.advance, hs]
      rw [hnext]
      exact ih (h.poll hinv hs) (inv_step (a := .poll true) hinv hs)

theorem consumed_iff (hinv : Inv s) : Consumed s ↔ Consumable s :=
  ⟨fun h => h.consumable hinv, fun h => h.consumed hinv⟩

/-! ## An acknowledgement reaches its own save -/

structure Own (s : State) : Prop where
  delivered : ∀ d ∈ s.delivered, d.acknowledged = d.save
  leaving : ∀ i, s.saver = .leaving i true → ⟨i, i, true⟩ ∈ s.delivered
  returned : ∀ i, (i, true) ∈ s.returned → ⟨i, i, true⟩ ∈ s.delivered

theorem own_initial : Own initial :=
  ⟨fun _ h => absurd h List.not_mem_nil, fun _ h => Saver.noConfusion h,
    fun _ h => absurd h List.not_mem_nil⟩

theorem Own.setSaver {saver : Saver} (h : Own s)
    (hleaving : ∀ i, saver = .leaving i true → ⟨i, i, true⟩ ∈ s.delivered) :
    Own { s with saver := saver } :=
  ⟨h.delivered, hleaving, h.returned⟩

theorem Own.quiet {saver : Saver} (h : Own s) (hq : Quiet s a saver) :
    Own { s with saver := saver } := by
  refine h.setSaver fun i hi => ?_
  cases hq with
  | received j hj d hd hsave =>
    obtain ⟨rfl, hok⟩ := Saver.leaving.inj hi
    have howner := h.delivered d hd
    obtain ⟨save, acknowledged, ok⟩ := d
    obtain rfl : save = j := hsave
    obtain rfl : acknowledged = save := howner
    obtain rfl : ok = true := hok
    exact hd
  | _ => simp at hi

theorem Own.poll (h : Own s) (hinv : Inv s) (hs : s.poll ok = some s') : Own s' := by
  have hsame : s'.delivered = s.delivered → Own s' := fun hdelivered => by
    obtain ⟨-, -, -, hsaver, hreturned⟩ := State.poll_frame hs
    exact ⟨hdelivered ▸ h.delivered, by rw [hsaver, hdelivered]; exact h.leaving,
      by rw [hreturned, hdelivered]; exact h.returned⟩
  cases polls_of_poll hs with
  | deliver i j ok' hpoller hresult =>
    have hj : j = i := by
      rcases (hinv.slotAt hpoller not_false).found i ok' hpoller with ⟨hslot, -⟩ | ⟨hslot, -⟩
      · exact Option.some.inj (hresult.symm.trans hslot)
      · simp [hresult] at hslot
    refine ⟨fun d hd => ?_, fun k hk => List.mem_cons_of_mem _ (h.leaving k hk),
      fun k hk => List.mem_cons_of_mem _ (h.returned k hk)⟩
    rcases List.mem_cons.mp hd with rfl | hd
    · exact hj.symm
    · exact h.delivered d hd
  | _ => exact hsame rfl

theorem own_step (h : Own s) (hinv : Inv s) (hs : step s a = some s') : Own s' := by
  cases move_of_step hs with
  | quiet a saver hq => exact h.quiet hq
  | poll ok s' hs => exact h.poll hinv hs
  | finish i ok hi =>
    refine ⟨h.delivered, fun _ hj => Saver.noConfusion hj, fun j hj => ?_⟩
    rcases List.mem_cons.mp hj with heq | hj
    · obtain ⟨rfl, rfl⟩ := Prod.mk.inj heq
      exact h.leaving j hi
    · exact h.returned j hj
  | beginSave hidle haccepting => exact ⟨h.delivered, fun _ hj => Saver.noConfusion hj, h.returned⟩
  | enter i hi hpoisoned hslot =>
    exact ⟨h.delivered, fun _ hj => Saver.noConfusion hj, h.returned⟩
  | accept i hi => exact ⟨h.delivered, fun _ hj => Saver.noConfusion hj, h.returned⟩
  | clear i hi hslot => exact ⟨h.delivered, fun _ hj => by simp at hj, h.returned⟩
  | abandon i hi hslot => exact ⟨h.delivered, fun _ hj => by simp at hj, h.returned⟩
  | _ => exact ⟨h.delivered, h.leaving, h.returned⟩

theorem own_of_reachable (h : Run.Reachable step Run.anyAction initial s) : Own s := by
  have hboth : Inv s ∧ Own s :=
    h.invariant (P := fun s => Inv s ∧ Own s) ⟨inv_initial, own_initial⟩
      fun _ _ _ h _ hs => ⟨inv_step h.1 hs, own_step h.2 h.1 hs⟩
  exact hboth.2

/-! ## Whole runs -/

/-- `Save` returns `nil` only for the acknowledgement of its own command, none completes
another `Save`, and none that is under way ends in an error. -/
structure Matched (s : State) : Prop where
  returned : ∀ i, (i, true) ∈ s.returned → ⟨i, i, true⟩ ∈ s.delivered
  delivered : ∀ d ∈ s.delivered, d.acknowledged = d.save
  consumed : Consumed s

/-- The poller is about to take the mark of an acknowledgement that it has in hand. -/
def Poller.Taking : Poller → Prop
  | .consuming _ => True
  | .late _ => True
  | _ => False

/-- A worker is removed when no acknowledgement is to come, or only one for which the
mark is set; and no mark is set for a second acknowledgement while the poller is about
to take the mark of a first. -/
def InOrder (s : State) : Action → Prop
  | .removeActor =>
    s.accepted = [] ∨ s.lateSave = true ∧ s.poller = .ready ∨ s.poller = .stopped
  | .abandonSave =>
    ∀ i, s.saver = .abandoning i → s.saveResult = some i → s.poller.Taking → s.accepted = []
  | _ => True

theorem removeActor_iff (hslot : ¬ s.poller.Ended → Slot s) (h : Consumable s) :
    Consumable { s with registered := false } ↔ InOrder s .removeActor := by
  rw [Consumable] at h
  cases hpoller : s.poller with
  | ready => simp [Consumable, InOrder, Held, hpoller]
  | found i ok | notPending i =>
    have hempty := (hslot (hpoller ▸ not_false)).alone (hpoller ▸ trivial)
    simp only [hpoller] at h
    simpa [Consumable, InOrder, hpoller, hempty] using h
  | consuming i =>
    simp only [hpoller] at h
    simp [Consumable, InOrder, Held, hpoller, h.1]
  | late i =>
    simp only [hpoller] at h
    simp [Consumable, InOrder, Held, hpoller, h.1]
  | failed i => simp [hpoller] at h
  | stopped => simp [Consumable, InOrder, hpoller]

theorem abandon_iff (h : Consumable s) (hsaver : s.saver = .abandoning i)
    (hresult : s.saveResult = some i) :
    Consumable { s with
      saveResult := none, savePoisoned := true, lateSave := true, saver := .leaving i false } ↔
      InOrder s .abandonSave := by
  rw [Consumable] at h
  cases hpoller : s.poller with
  | failed j => simp [hpoller] at h
  | _ => simp [Consumable, InOrder, Held, hpoller, hsaver, hresult, Poller.Taking]

theorem consumable_enter (h : Consumable s) (hinv : Inv s) (hpoisoned : s.savePoisoned = false)
    (hresult : s.saveResult = none) :
    Consumable { s with saveResult := some i, saver := .submitting i } := by
  rw [Consumable] at h
  cases hpoller : s.poller with
  | ready =>
    have hslot := hinv.slotAt hpoller not_false
    simp [Consumable, hslot.accepted_eq_nil hresult hpoisoned]
  | failed j => simp [hpoller] at h
  | _ => simp_all [Consumable, Held]

theorem consumable_accept (h : Consumable s) (hinv : Inv s) (hsaver : s.saver = .submitting i) :
    Consumable { s with accepted := s.accepted ++ [i], saver := .submitted i } := by
  by_cases hended : s.poller.Ended
  · cases hpoller : s.poller <;> simp_all [Consumable, Poller.Ended]
  · have hregistered := hinv.lifecycle.busy (by simp [hsaver])
    obtain ⟨hresult, -, -, hsearching⟩ := (hinv.slot hended).unsent i (.inl hsaver)
    cases hpoller : s.poller <;>
      simp_all [Consumable, Held, Poller.Ended, Poller.Searching]

theorem consumable_clear (h : Consumable s) (hinv : Inv s) (hsaver : s.saver = .failing i) :
    Consumable { s with saveResult := none, saver := .leaving i false } := by
  by_cases hended : s.poller.Ended
  · cases hpoller : s.poller <;> simp_all [Consumable, Poller.Ended]
  · obtain ⟨-, -, hempty, hsearching⟩ := (hinv.slot hended).unsent i (.inr hsaver)
    cases hpoller : s.poller <;>
      simp_all [Consumable, Held, Poller.Ended, Poller.Searching]

theorem consumable_step_iff (h : Consumable s) (hinv : Inv s) (hs : step s a = some s') :
    Consumable s' ↔ InOrder s a := by
  cases move_of_step hs with
  | removeActor hdone hidle => exact removeActor_iff hinv.slot h
  | abandon i hi hslot => exact abandon_iff h hi hslot
  | quiet a saver hq =>
    refine iff_of_true h ?_
    cases hq with
    | completed i hi hslot =>
      intro j hj hresult
      obtain rfl := Saver.abandoning.inj (hi.symm.trans hj)
      exact absurd hresult hslot
    | _ => trivial
  | enter i hi hpoisoned hslot =>
    exact iff_of_true (consumable_enter h hinv hpoisoned hslot) trivial
  | accept i hi => exact iff_of_true (consumable_accept h hinv hi) trivial
  | clear i hi hslot => exact iff_of_true (consumable_clear h hinv hi) trivial
  | poll ok s' hs => exact iff_of_true (h.poll hinv hs) trivial
  | endPolling hready => exact iff_of_true trivial trivial
  | _ => exact iff_of_true h trivial

theorem matched_step_iff (hr : Run.Reachable step Run.anyAction initial s) (h : Matched s)
    (hs : step s a = some s') : Matched s' ↔ InOrder s a := by
  have hinv := inv_of_reachable hr
  have hown' := own_step (own_of_reachable hr) hinv hs
  rw [← consumable_step_iff ((consumed_iff hinv).mp h.consumed) hinv hs,
    ← consumed_iff (inv_step hinv hs)]
  exact ⟨fun h' => h'.consumed, fun h' => ⟨hown'.returned, hown'.delivered, h'⟩⟩

/-- Acknowledgements and saves match, at every moment of a run, exactly if no worker is
removed over an acknowledgement without a mark and no mark is taken for another one. -/
theorem matched_iff {as : List Action} (hrun : Run.run step initial as = some s) :
    Run.Throughout step Matched initial as ↔ Run.Allowed step InOrder initial as :=
  Run.throughout_iff .init
    ⟨own_initial.returned, own_initial.delivered, (consumed_iff inv_initial).mpr (.inl rfl)⟩
    (fun _ _ _ hr h hs => matched_step_iff hr h hs) hrun

/-- A save that is accepted, up to the wait for its acknowledgement. -/
def accepted : List Action := [.beginSave, .enter, .accept, .confirm]

/-- A save is abandoned, its acknowledgement comes late, the next save is in time, and the
worker ends. -/
def lateAcknowledgement : List Action :=
  accepted ++
    ([.giveUp, .abandonSave, .finishSave, .poll true, .poll true, .poll true,
      .poll true] : List Action) ++
    accepted ++ ([.poll true, .poll true, .receive, .finishSave, .abort,
      .removeActor] : List Action)

theorem lateAcknowledgement_matched : ∃ s, Run.run step initial lateAcknowledgement = some s ∧
    s.returned = [(1, true), (0, false)] ∧ s.poller = .ready ∧
    Run.Throughout step Matched initial lateAcknowledgement := by
  refine ⟨_, rfl, rfl, rfl,
    (matched_iff (rfl : Run.run step initial lateAcknowledgement = some _)).mpr ?_⟩
  refine ⟨trivial, trivial, trivial, trivial, trivial, fun _ _ _ h => h.elim, trivial, trivial,
    trivial, trivial, trivial, trivial, trivial, trivial, trivial, trivial, trivial, trivial,
    trivial, trivial, .inl rfl, trivial⟩

/-- The session is aborted while a save waits, and the worker is removed. -/
def abortedSave : List Action := accepted ++ [.abort, .sessionDone, .finishSave, .removeActor]

/-- A second save is abandoned while the poller is about to take the mark of the first. -/
def stolenMark : List Action :=
  accepted ++ ([.giveUp, .abandonSave, .finishSave, .poll true, .poll true,
      .poll true] : List Action) ++
    accepted ++ ([.giveUp, .abandonSave, .finishSave, .poll true] : List Action)

/-- In both runs the next acknowledgement ends in an error of the poller. -/
theorem acknowledgement_unconsumed :
    (∃ s, Run.run step initial (abortedSave ++ [.poll true, .poll true]) = some s ∧
      s.poller = .failed 0 ∧ ¬ Matched s) ∧
    ∃ s, Run.run step initial (stolenMark ++ List.replicate 5 (.poll true)) = some s ∧
      s.poller = .failed 1 ∧ ¬ Matched s :=
  ⟨⟨_, rfl, rfl, fun h => h.consumed 0 0 rfl⟩, _, rfl, rfl, fun h => h.consumed 0 1 rfl⟩

end RivetGo.Save

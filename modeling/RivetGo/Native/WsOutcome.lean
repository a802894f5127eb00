import Mathlib
import RivetGo.Data.Run

/-!
# How a registered WebSocket ends

`request_ws_open` enters the WebSocket in the table and then waits for Go, with its correlation
in `pending_ws_open`. `close_ws`, `websocket_closed` and `hibernate_ws` take the WebSocket out of
the table, take the open out of `pending_ws_open`, answer it, and send `WsClose` unless the
WebSocket hibernates. `hibernate_ws` puts a WebSocket that cannot hibernate back first, and
closes it.

This is the part of the tables that belongs to one id. The steps are the sections under a lock.
A registration is named by its number, and so are its open and its correlation. A removal that
is under way is a `Call`.
-/

namespace RivetGo.WsOutcome

structure Entry where
  number : Nat
  canHibernate : Bool
  deriving DecidableEq

/-- Where a call of `request_ws_open` is. -/
inductive Stage where
  | unmade
  /-- The WebSocket is in the table. -/
  | registered
  /-- The correlation is in `pending_ws_open`. -/
  | entered
  /-- It has replaced another one there. -/
  | duplicated
  /-- The event queue was closed. -/
  | refused
  /-- The correlation was taken back. -/
  | withdrawn
  | waiting
  /-- The answer was an error. -/
  | rejecting
  | returned
  deriving DecidableEq

/-- What a correlation was resolved with. -/
inductive Answer where
  | accepted
  | rejected
  /-- The removal of this registration has resolved it. -/
  | closed (registration : Nat)
  /-- The deadline has passed, or the runner has drained the correlations. -/
  | expired
  deriving DecidableEq

inductive CallStage where
  /-- `hibernate_ws` has to put the WebSocket back. -/
  | held
  | removed
  | taken (opening : Option Nat)
  | answered
  deriving DecidableEq

structure Call where
  registration : Nat
  hibernates : Bool
  stage : CallStage
  deriving DecidableEq

structure State where
  entry : Option Entry := none
  registrations : Nat := 0
  pendingOpen : Option Nat := none
  stage : Nat → Stage := fun _ => .unmade
  answer : Nat → Option Answer := fun _ => none
  /-- Correlations taken out of `pending_ws_open` and about to be resolved, with the error. -/
  results : List (Nat × Bool) := []
  calls : List Call := []
  /-- The `WsClose` events so far. -/
  closed : List Nat := []
  hibernated : List Nat := []
  eventsOpen : Bool := true

def initial : State := {}

inductive Action where
  | register (canHibernate : Bool)
  /-- `correlations.insert` and `pending_ws_open.insert`. -/
  | enter (r : Nat)
  /-- `events.send` of `WsOpen`. -/
  | send (r : Nat)
  /-- `pending_ws_open.remove` after it has failed. -/
  | withdraw (r : Nat)
  /-- The `close_ws` of `request_ws_open` itself. -/
  | closeOwn (r : Nat)
  /-- `WsOpenResult` from Go. -/
  | openResult (error : Bool)
  | resolve (r : Nat) (error : Bool)
  | expire (r : Nat)
  | wake (r : Nat)
  /-- The removal of any `close_ws` or `websocket_closed`, of an overflow in `enqueue_ws` and
  of `begin_shutdown` too. -/
  | close
  /-- The removal of `hibernate_ws`. -/
  | hibernate
  /-- `hibernate_ws` puts the WebSocket back; the `close_ws` that follows is a `close`. -/
  | reinsert (c : Call)
  /-- The removal looks for the open. -/
  | take (c : Call)
  | answer (c : Call)
  /-- `events.send` of `WsClose`, or the end of `hibernate_ws`. -/
  | emit (c : Call)
  /-- `retain_live` and `clear` of `pending_ws_open`. -/
  | forget
  | shutEvents
  deriving DecidableEq

/-- The entry is removed, if there is one. -/
def State.close (s : State) : State :=
  match s.entry with
  | none => s
  | some g => { s with entry := none, calls := ⟨g.number, false, .removed⟩ :: s.calls }

def State.hibernate (s : State) : State :=
  match s.entry with
  | none => s
  | some g =>
    { s with
      entry := none
      calls := ⟨g.number, g.canHibernate, if g.canHibernate then .removed else .held⟩ ::
        s.calls }

def State.setStage (s : State) (r : Nat) (stage : Stage) : State :=
  { s with stage := Function.update s.stage r stage }

/-- A correlation is resolved once. -/
def State.settle (s : State) (r : Nat) (answer : Answer) : State :=
  { s with answer := Function.update s.answer r (s.answer r <|> some answer) }

/-- The call goes on to its next stage. -/
def State.advance (s : State) (c : Call) (stage : CallStage) : State :=
  { s with calls := { c with stage := stage } :: s.calls.erase c }

def State.emit (s : State) (c : Call) : State :=
  if c.hibernates then
    { s with calls := s.calls.erase c, hibernated := c.registration :: s.hibernated }
  else if s.eventsOpen then
    { s with calls := s.calls.erase c, closed := c.registration :: s.closed }
  else { s with calls := s.calls.erase c }

def step (s : State) : Action → Option State
  | .register canHibernate =>
    some { s with
      entry := some ⟨s.registrations, canHibernate⟩
      registrations := s.registrations + 1
      stage := Function.update s.stage s.registrations
        (if s.entry.isSome then .returned else .registered) }
  | .enter r =>
    if s.stage r = .registered then
      some ({ s with pendingOpen := some r }.setStage r
        (if s.pendingOpen.isSome then .duplicated else .entered))
    else none
  | .send r =>
    if s.stage r = .entered then
      some (s.setStage r (if s.eventsOpen then .waiting else .refused))
    else none
  | .withdraw r =>
    if s.stage r = .refused then some ({ s with pendingOpen := none }.setStage r .withdrawn)
    else none
  | .closeOwn r => match s.stage r with
    | .duplicated => some (s.close.setStage r .returned)
    | .rejecting => some (s.close.setStage r .returned)
    | .withdrawn => some ({ s.close with results := (r, true) :: s.results }.setStage r .waiting)
    | _ => none
  | .openResult error => match s.pendingOpen with
    | some r => some { s with pendingOpen := none, results := (r, error) :: s.results }
    | none => some s
  | .resolve r error =>
    if (r, error) ∈ s.results then
      some ({ s with results := s.results.erase (r, error) }.settle r
        (if error then .rejected else .accepted))
    else none
  | .expire r =>
    if s.stage r ≠ .unmade ∧ s.stage r ≠ .registered then some (s.settle r .expired) else none
  | .wake r =>
    if s.stage r = .waiting then
      match s.answer r with
      | none => none
      | some .expired => some (s.setStage r .returned)
      | some .accepted => some ({ s with pendingOpen := none }.setStage r .returned)
      | some _ => some ({ s with pendingOpen := none }.setStage r .rejecting)
    else none
  | .close => some s.close
  | .hibernate => some s.hibernate
  | .reinsert c =>
    if c ∈ s.calls ∧ c.stage = .held then
      some { s with entry := some ⟨c.registration, false⟩, calls := s.calls.erase c }
    else none
  | .take c =>
    if c ∈ s.calls ∧ c.stage = .removed then
      some ({ s with pendingOpen := none }.advance c (.taken s.pendingOpen))
    else none
  | .answer c => match c.stage with
    | .taken none => if c ∈ s.calls then some (s.advance c .answered) else none
    | .taken (some r) =>
      if c ∈ s.calls then some ((s.settle r (.closed c.registration)).advance c .answered)
      else none
    | _ => none
  | .emit c => if c ∈ s.calls ∧ c.stage = .answered then some (s.emit c) else none
  | .forget => some { s with pendingOpen := none }
  | .shutEvents => some { s with eventsOpen := false }

/-! ## The property -/

/-- Where the registrations are: in the table, held by a removal, or ended. -/
def State.places (s : State) : List Nat :=
  s.entry.toList.map Entry.number ++ s.calls.map Call.registration ++ s.closed ++ s.hibernated

structure OneOutcome (s : State) : Prop where
  /-- A registration is in the table or with one removal, or it has one `WsClose` or one
  hibernation. -/
  once : ∀ r < s.registrations, s.places.count r = 1
  /-- The open of one that has ended is not left waiting. -/
  resolved : ∀ r ∈ s.closed ++ s.hibernated, s.pendingOpen ≠ some r ∧
    (s.stage r = .returned ∨ (s.answer r).isSome ∨ r ∈ s.results.map Prod.fst)
  /-- An open that a removal resolves is the one of the removed registration. -/
  owner : ∀ r g, s.answer r = some (.closed g) → g = r

/-- A registration is made when the earlier ones of the id have ended and their opens have
returned. A removal looks for the open when it is in `pending_ws_open` already. The event queue
takes what is sent, and `pending_ws_open` is cleared of opens that have their answer. -/
def Orderly (s : State) : Action → Prop
  | .register _ =>
    s.entry = none ∧ s.calls = [] ∧ ∀ r < s.registrations, s.stage r = .returned
  | .take c => s.stage c.registration ≠ .registered
  | .send _ => s.eventsOpen = true
  | .emit c => c.hibernates = false → s.eventsOpen = true
  | .forget => ∀ r, s.pendingOpen = some r → (s.answer r).isSome
  | _ => True

/-! ## The registrations -/

variable {s s' : State} {a : Action} {c : Call} {r : Nat}

/-- A call that goes on holds the same registration. -/
theorem count_registrations (hc : c ∈ s.calls) (r : Nat) :
    (s.calls.map Call.registration).count r =
      (c.registration :: (s.calls.erase c).map Call.registration).count r :=
  ((List.perm_cons_erase hc).map Call.registration).count_eq r

theorem count_places_advance (hc : c ∈ s.calls) (stage : CallStage) (r : Nat) :
    (s.advance c stage).places.count r = s.places.count r := by
  simp only [State.places, State.advance, List.count_append, List.map_cons,
    count_registrations hc r]

theorem count_places_emit (hc : c ∈ s.calls) (hopen : c.hibernates = false → s.eventsOpen = true)
    (r : Nat) : (s.emit c).places.count r = s.places.count r := by
  rw [State.emit]
  cases hh : c.hibernates with
  | true =>
    simp only [State.places, List.count_append, count_registrations hc r, List.count_cons,
      if_true]
    omega
  | false =>
    simp only [hopen hh, State.places, List.count_append, count_registrations hc r,
      List.count_cons, if_true, Bool.false_eq_true, if_false]
    omega

/-- Every registration is in one place. -/
def Counted (s : State) : Prop :=
  ∀ r, s.places.count r = if r < s.registrations then 1 else 0

/-- The registrations that have not ended. -/
def State.present (s : State) : List Nat :=
  s.entry.toList.map Entry.number ++ s.calls.map Call.registration

/-- The removal is past `pending_ws_open`. -/
def Call.looked (c : Call) : Bool :=
  match c.stage with
  | .held | .removed => false
  | .taken _ | .answered => true

/-- The open that the removal is about to resolve. -/
def Call.takes (c : Call) : Option Nat :=
  match c.stage with
  | .taken opening => opening
  | _ => none

/-- The removal of the registration has looked for its open. -/
def State.Looked (s : State) (r : Nat) : Prop :=
  r ∈ (s.calls.filter Call.looked).map Call.registration ∨ r ∈ s.closed ∨ r ∈ s.hibernated

/-- The open has its answer, or somebody is about to give it. -/
def State.Settling (s : State) (r : Nat) : Prop :=
  (s.answer r).isSome ∨ r ∈ s.results.map Prod.fst ∨ r ∈ s.calls.filterMap Call.takes

/-- What is known of an open by where it is. -/
def State.Opening (s : State) (r : Nat) : Stage → Prop
  | .unmade => s.registrations ≤ r
  | .registered => r + 1 = s.registrations ∧ ¬ s.Looked r
  | .entered | .waiting => r + 1 = s.registrations ∧ (s.Settling r ∨ s.pendingOpen = some r)
  | .rejecting => r + 1 = s.registrations ∧ s.Settling r
  | .returned => r < s.registrations
  | .duplicated | .refused | .withdrawn => False

/-- What an orderly run keeps. Only the last registration can be present. -/
structure Inv (s : State) : Prop where
  counted : Counted s
  last : ∀ r ∈ s.present, r + 1 = s.registrations
  opening : ∀ r, s.Opening r (s.stage r)
  pending : ∀ r, s.pendingOpen = some r →
    r + 1 = s.registrations ∧ s.stage r ≠ .registered ∧ ¬ s.Looked r
  takes : ∀ c ∈ s.calls, ∀ r, c.takes = some r → r = c.registration
  owner : ∀ r g, s.answer r = some (.closed g) → g = r

theorem Inv.initial : Inv initial where
  counted _ := rfl
  last _ h := absurd h List.not_mem_nil
  opening _ := Nat.zero_le _
  pending _ h := absurd h.symm (Option.some_ne_none _)
  takes _ h := absurd h List.not_mem_nil
  owner _ _ h := absurd h.symm (Option.some_ne_none _)

theorem Inv.call_last (h : Inv s) (hc : c ∈ s.calls) : c.registration + 1 = s.registrations :=
  h.last _ (List.mem_append_right _ (List.mem_map_of_mem hc))

/-- A removal that is under way is the only one, and the entry is gone. -/
theorem Inv.alone (h : Inv s) (hc : c ∈ s.calls) :
    s.entry = none ∧ s.calls = [c] ∧ c.registration ∉ s.closed ∧
      c.registration ∉ s.hibernated := by
  have hlast := h.call_last hc
  have hcount := h.counted c.registration
  rw [if_pos (by omega)] at hcount
  simp only [State.places, List.count_append, count_registrations hc, List.count_cons_self]
    at hcount
  refine ⟨?_, ?_, List.count_eq_zero.mp (by omega), List.count_eq_zero.mp (by omega)⟩
  · refine Option.eq_none_iff_forall_ne_some.mpr fun g hg => ?_
    have hg' := h.last g.number (by simp [State.present, hg])
    have : g.number = c.registration := by omega
    simp only [hg, this, Option.toList_some, List.map_cons, List.map_nil,
      List.count_singleton_self] at hcount
    omega
  · have herase : s.calls.erase c = [] := by
      refine List.eq_nil_iff_forall_not_mem.mpr fun c' hc' => ?_
      have hlast' := h.call_last (List.mem_of_mem_erase hc')
      refine List.count_eq_zero.mp (show ((s.calls.erase c).map Call.registration).count
        c.registration = 0 by omega) ?_
      exact List.mem_map.mpr ⟨c', hc', by omega⟩
    have hperm := List.perm_cons_erase hc
    rw [herase] at hperm
    exact List.perm_singleton.mp hperm

/-- With one removal under way the registrations looked for are its own and those that ended. -/
theorem looked_iff (hcalls : s.calls = [c]) (r : Nat) :
    s.Looked r ↔ (c.looked = true ∧ r = c.registration) ∨ r ∈ s.closed ∨ r ∈ s.hibernated := by
  rw [State.Looked, hcalls]
  cases h : c.looked <;> simp [h]

theorem advance_calls (hcalls : s.calls = [c]) (stage : CallStage) :
    (s.advance c stage).calls = [{ c with stage := stage }] := by
  rw [State.advance, hcalls, List.erase_cons_head]

theorem Inv.oneOutcome (h : Inv s) : OneOutcome s where
  once r hr := by rw [h.counted r, if_pos hr]
  resolved r hr := by
    have hlooked : s.Looked r := .inr (List.mem_append.mp hr)
    have hcalls : r ∉ s.calls.filterMap Call.takes := by
      intro hmem
      obtain ⟨c, hc, htakes⟩ := List.mem_filterMap.mp hmem
      obtain rfl := h.takes c hc r htakes
      obtain ⟨-, -, hclosed, hhibernated⟩ := h.alone hc
      exact (List.mem_append.mp hr).elim hclosed hhibernated
    have hpending : s.pendingOpen ≠ some r := fun hp => (h.pending r hp).2.2 hlooked
    have hplace : r ∈ s.places := by
      rw [State.places, List.append_assoc]
      exact List.mem_append_right _ hr
    have hmade : r < s.registrations := by
      by_contra hr
      have hcount := h.counted r
      rw [if_neg hr] at hcount
      exact List.count_eq_zero.mp hcount hplace
    have hsettled : s.Settling r → (s.answer r).isSome ∨ r ∈ s.results.map Prod.fst :=
      fun hs => hs.imp_right fun h => h.resolve_right hcalls
    refine ⟨hpending, ?_⟩
    have hopening := h.opening r
    cases hstage : s.stage r <;> rw [hstage] at hopening
    case unmade => exact absurd hmade (Nat.not_lt.mpr hopening)
    case registered => exact absurd hlooked hopening.2
    case entered => exact .inr (hsettled (hopening.2.resolve_right hpending))
    case waiting => exact .inr (hsettled (hopening.2.resolve_right hpending))
    case rejecting => exact .inr (hsettled hopening.2)
    case returned => exact .inl rfl
    all_goals exact hopening.elim
  owner := h.owner

/-! ## The steps of an orderly run -/

/-- No open has moved, and one that was taken care of still is. -/
theorem Inv.of_frame (h : Inv s) (hregistrations : s'.registrations = s.registrations)
    (hstage : s'.stage = s.stage) (hcounted : ∀ r, s'.places.count r = s.places.count r)
    (hpresent : ∀ r ∈ s'.present, r ∈ s.present)
    (hpending : ∀ r, s'.pendingOpen = some r → s.pendingOpen = some r ∧ ¬ s'.Looked r)
    (hlooked : ∀ r, s.stage r = .registered → s'.Looked r → s.Looked r)
    (hsettling : ∀ r, s.Settling r → s'.Settling r)
    (hopen : ∀ r, s.pendingOpen = some r → s'.Settling r ∨ s'.pendingOpen = some r)
    (htakes : ∀ c ∈ s'.calls, ∀ r, c.takes = some r → r = c.registration)
    (howner : ∀ r g, s'.answer r = some (.closed g) → g = r) : Inv s' where
  counted r := by rw [hcounted, h.counted, hregistrations]
  last r hr := by rw [h.last r (hpresent r hr), hregistrations]
  opening r := by
    have hopening := h.opening r
    rw [hstage]
    cases hs : s.stage r <;> rw [hs] at hopening <;> simp only [State.Opening, hregistrations]
    case registered => exact ⟨hopening.1, fun hl => hopening.2 (hlooked r hs hl)⟩
    case entered => exact ⟨hopening.1, hopening.2.elim (fun h => .inl (hsettling r h)) (hopen r)⟩
    case waiting => exact ⟨hopening.1, hopening.2.elim (fun h => .inl (hsettling r h)) (hopen r)⟩
    case rejecting => exact ⟨hopening.1, hsettling r hopening.2⟩
    all_goals exact hopening
  pending r hr := by
    obtain ⟨hp, hl⟩ := hpending r hr
    obtain ⟨hlast, hregistered, -⟩ := h.pending r hp
    rw [hregistrations, hstage]
    exact ⟨hlast, hregistered, hl⟩
  takes := htakes
  owner := howner

/-- The open goes on to a stage it is fit for. -/
theorem Inv.setStage {stage : Stage} (h : Inv s) (hstage : s.Opening r stage)
    (hne : stage ≠ .registered) : Inv (s.setStage r stage) where
  counted := h.counted
  last := h.last
  opening r' := by
    show s.Opening r' (Function.update s.stage r stage r')
    by_cases hr : r' = r
    · subst hr
      rw [Function.update_self]
      exact hstage
    · rw [Function.update_of_ne hr]
      exact h.opening r'
  pending r' hr' := by
    obtain ⟨hlast, hregistered, hlooked⟩ := h.pending r' hr'
    refine ⟨hlast, ?_, hlooked⟩
    show Function.update s.stage r stage r' ≠ .registered
    by_cases hr : r' = r
    · subst hr
      rw [Function.update_self]
      exact hne
    · rw [Function.update_of_ne hr]
      exact hregistered
  takes := h.takes
  owner := h.owner

/-- The entry is taken out by a removal that has not looked for the open yet. -/
theorem Inv.removal (h : Inv s) {g : Entry} (hg : s.entry = some g) (hlooked : c.looked = false)
    (hreg : c.registration = g.number) :
    Inv { s with entry := none, calls := c :: s.calls } := by
  have htakes : c.takes = none := by
    cases hstage : c.stage <;> simp_all [Call.takes, Call.looked]
  have hlooked' : ∀ r, { s with entry := none, calls := c :: s.calls }.Looked r ↔ s.Looked r := by
    intro r
    simp only [State.Looked, List.filter_cons, hlooked, Bool.false_eq_true, if_false]
  have hsettling : ∀ r, { s with entry := none, calls := c :: s.calls }.Settling r ↔
      s.Settling r := by
    intro r
    simp only [State.Settling, List.filterMap_cons, htakes]
  refine h.of_frame rfl rfl (fun r => ?_) (fun r hr => ?_) ?_ (fun r _ => (hlooked' r).mp)
    (fun r => (hsettling r).mpr) (fun _ => .inr) ?_ h.owner
  · simp only [State.places, hg, List.count_append, List.map_cons, List.count_cons,
      Option.toList_none, Option.toList_some, List.map_nil, List.count_nil, hreg]
    omega
  · simpa [State.present, hg, hreg] using hr
  · exact fun r hr => ⟨hr, fun hl => (h.pending r hr).2.2 ((hlooked' r).mp hl)⟩
  · rintro c' hc' r hr
    obtain rfl | hc' := List.mem_cons.mp hc'
    · exact absurd (htakes.symm.trans hr).symm (Option.some_ne_none _)
    · exact h.takes c' hc' r hr

theorem Inv.close (h : Inv s) : Inv s.close := by
  rw [State.close]
  split
  case h_1 => exact h
  case h_2 g hg => exact h.removal hg rfl rfl

theorem Inv.hibernate (h : Inv s) : Inv s.hibernate := by
  rw [State.hibernate]
  split
  case h_1 => exact h
  case h_2 g hg =>
    refine h.removal hg ?_ rfl
    cases g.canHibernate <;> rfl

/-- With no registration present, no open is pending. -/
theorem Inv.pendingOpen_eq_none (h : Inv s) (hentry : s.entry = none) (hcalls : s.calls = []) :
    s.pendingOpen = none := by
  refine Option.eq_none_iff_forall_ne_some.mpr fun r hr => ?_
  obtain ⟨hlast, -, hlooked⟩ := h.pending r hr
  have hcount := h.counted r
  rw [if_pos (by omega)] at hcount
  have hplace : r ∈ s.places := List.count_pos_iff.mp (by omega)
  refine hlooked (.inr ?_)
  simpa [State.places, hentry, hcalls] using hplace

theorem Inv.register (h : Inv s) {canHibernate : Bool} (ha : Orderly s (.register canHibernate))
    (hs : step s (.register canHibernate) = some s') : Inv s' := by
  obtain ⟨hentry, hcalls, hreturned⟩ := ha
  have hpending := h.pendingOpen_eq_none hentry hcalls
  obtain rfl := Option.some.inj hs
  have hnew : s.registrations ∉ s.closed ∧ s.registrations ∉ s.hibernated := by
    have hcount := h.counted s.registrations
    rw [if_neg (Nat.lt_irrefl _)] at hcount
    simpa [State.places, hentry, hcalls, List.count_eq_zero] using hcount
  refine ⟨fun r => ?_, fun r hr => ?_, fun r => ?_, fun r hr => ?_, fun c hc => ?_, h.owner⟩
  · have hcount := h.counted r
    simp only [State.places, hentry, hcalls, List.count_append, Option.toList_none,
      Option.toList_some, List.map_nil, List.map_cons, List.count_nil, List.count_singleton,
      beq_iff_eq] at hcount ⊢
    split_ifs at hcount ⊢ <;> omega
  · obtain rfl : r = s.registrations := by simpa [State.present, hcalls] using hr
    rfl
  · by_cases hr : r = s.registrations
    · subst hr
      simp only [Function.update_self, hentry, Option.isSome_none, Bool.false_eq_true, if_false]
      refine ⟨rfl, ?_⟩
      simpa [State.Looked, hcalls] using hnew
    · simp only [Function.update_of_ne hr]
      have hopening := h.opening r
      obtain hlt | hle := Nat.lt_or_ge r s.registrations
      · rw [hreturned r hlt]
        exact Nat.lt_succ_of_lt hlt
      · have hstage : s.stage r = .unmade := by
          cases hstage : s.stage r <;> rw [hstage] at hopening <;>
            simp only [State.Opening] at hopening <;> first | rfl | omega
        rw [hstage]
        exact show s.registrations + 1 ≤ r by omega
  · exact absurd (hpending.symm.trans hr).symm (Option.some_ne_none _)
  · rw [hcalls] at hc
    exact absurd hc List.not_mem_nil

theorem Inv.enter (h : Inv s) (hs : step s (.enter r) = some s') : Inv s' := by
  obtain ⟨hstage, hs⟩ := Option.ite_none_right_eq_some.mp hs
  obtain ⟨hlast, hlooked⟩ : s.Opening r .registered := hstage ▸ h.opening r
  -- The open of another registration would be pending for the same place.
  have hpending : s.pendingOpen = none := by
    refine Option.eq_none_iff_forall_ne_some.mpr fun r' hr' => ?_
    obtain ⟨hlast', hregistered, -⟩ := h.pending r' hr'
    obtain rfl : r' = r := by omega
    exact hregistered hstage
  rw [hpending] at hs
  obtain rfl := Option.some.inj hs
  refine ⟨h.counted, h.last, fun r' => ?_, fun r' hr' => ?_, h.takes, h.owner⟩
  · show State.Opening _ r' (Function.update s.stage r .entered r')
    by_cases hr : r' = r
    · subst hr
      rw [Function.update_self]
      exact ⟨hlast, .inr rfl⟩
    · rw [Function.update_of_ne hr]
      have hopening := h.opening r'
      cases hstage' : s.stage r' <;> rw [hstage'] at hopening
      case entered => exact absurd hopening.1 (by omega)
      case waiting => exact absurd hopening.1 (by omega)
      all_goals exact hopening
  · obtain rfl : r = r' := Option.some.inj hr'
    refine ⟨hlast, ?_, hlooked⟩
    show Function.update s.stage r .entered r ≠ .registered
    rw [Function.update_self]
    exact Stage.noConfusion

theorem Inv.send (h : Inv s) (ha : Orderly s (.send r)) (hs : step s (.send r) = some s') :
    Inv s' := by
  obtain ⟨hstage, hs⟩ := Option.ite_none_right_eq_some.mp hs
  have hopen : s.eventsOpen = true := ha
  rw [hopen, if_pos rfl] at hs
  obtain rfl := Option.some.inj hs
  have hopening : s.Opening r .entered := hstage ▸ h.opening r
  exact h.setStage hopening Stage.noConfusion

theorem Inv.closeOwn (h : Inv s) (hs : step s (.closeOwn r) = some s') : Inv s' := by
  have hopening := h.opening r
  rw [step] at hs
  split at hs
  case h_1 hstage => rw [hstage] at hopening; exact hopening.elim
  case h_2 hstage =>
    rw [hstage] at hopening
    obtain rfl := Option.some.inj hs
    refine h.close.setStage ?_ Stage.noConfusion
    have hregistrations : s.close.registrations = s.registrations := by
      rw [State.close]; split <;> rfl
    exact show r < s.close.registrations by rw [hregistrations]; have := hopening.1; omega
  case h_3 hstage => rw [hstage] at hopening; exact hopening.elim
  case h_4 => exact absurd hs.symm (Option.some_ne_none _)

/-- Opens that are answered, or are about to be, leave `pending_ws_open`. -/
theorem Inv.unpend (h : Inv s) (hsettling : ∀ r, s.pendingOpen = some r → s.Settling r) :
    Inv { s with pendingOpen := none } :=
  h.of_frame rfl rfl (fun _ => rfl) (fun _ hr => hr)
    (fun _ hr => absurd hr.symm (Option.some_ne_none _)) (fun _ _ hl => hl) (fun _ hr => hr)
    (fun r hr => .inl (hsettling r hr)) h.takes h.owner

/-- An answer is about to be given. -/
theorem Inv.promise (h : Inv s) (r : Nat) (error : Bool) :
    Inv { s with results := (r, error) :: s.results } :=
  h.of_frame rfl rfl (fun _ => rfl) (fun _ hr => hr)
    (fun r hr => ⟨hr, (h.pending r hr).2.2⟩) (fun _ _ hl => hl)
    (fun _ hr => hr.imp_right fun hr => hr.imp_left (List.mem_cons_of_mem _))
    (fun _ => .inr) h.takes h.owner

theorem Inv.openResult (h : Inv s) {error : Bool} (hs : step s (.openResult error) = some s') :
    Inv s' := by
  rw [step] at hs
  split at hs
  case h_1 r hr =>
    obtain rfl := Option.some.inj hs
    refine (h.promise r error).unpend fun r' hr' => ?_
    obtain rfl : r = r' := Option.some.inj (hr.symm.trans hr')
    exact .inr (.inl List.mem_cons_self)
  case h_2 =>
    obtain rfl := Option.some.inj hs
    exact h

theorem isSome_settle (s : State) (r : Nat) (answer : Answer) (r' : Nat) :
    ((s.settle r answer).answer r').isSome ↔ (s.answer r').isSome ∨ r' = r := by
  by_cases hr : r' = r
  · subst hr
    cases h : s.answer r' <;> simp [State.settle, h]
  · simp [State.settle, hr]

/-- The correlation is resolved with an answer that is not another removal's. -/
theorem Inv.settle (h : Inv s) {answer : Answer} (hanswer : ∀ g, answer = .closed g → g = r) :
    Inv (s.settle r answer) := by
  refine h.of_frame rfl rfl (fun _ => rfl) (fun _ hr => hr)
    (fun r hr => ⟨hr, (h.pending r hr).2.2⟩) (fun _ _ hl => hl)
    (fun r' hr' => hr'.imp_left fun hr' => (isSome_settle s r answer r').mpr (.inl hr'))
    (fun _ => .inr) h.takes fun r' g hg => ?_
  by_cases hr : r' = r
  · subst hr
    cases hold : s.answer r' with
    | none =>
      simp only [State.settle, hold, Function.update_self] at hg
      exact hanswer g (Option.some.inj hg)
    | some old =>
      simp only [State.settle, hold, Function.update_self] at hg
      exact h.owner r' g (hold.trans hg)
  · simp only [State.settle, Function.update_of_ne hr] at hg
    exact h.owner r' g hg

theorem Inv.resolve (h : Inv s) {error : Bool} (hs : step s (.resolve r error) = some s') :
    Inv s' := by
  obtain ⟨hmem, rfl⟩ := Run.guard_eq_some.mp hs
  have hsettled : Inv (s.settle r (if error then .rejected else .accepted)) := by
    refine h.settle fun g hg => ?_
    cases error <;> exact absurd hg Answer.noConfusion
  refine hsettled.of_frame rfl rfl (fun _ => rfl) (fun _ hr => hr)
    (fun r hr => ⟨hr, (h.pending r hr).2.2⟩) (fun _ _ hl => hl) (fun r' hr' => ?_)
    (fun _ => .inr) h.takes hsettled.owner
  -- The answer of the result that goes away has been given.
  obtain hanswer | hresult | htaken := hr'
  · exact .inl hanswer
  · by_cases hr : r' = r
    · exact .inl ((isSome_settle s r _ r').mpr (.inr hr))
    · refine .inr (.inl ?_)
      obtain ⟨⟨_, e⟩, hp, rfl⟩ := List.mem_map.mp hresult
      exact List.mem_map.mpr ⟨_, (List.mem_erase_of_ne fun heq => hr (by rw [heq])).mpr hp, rfl⟩
  · exact .inr (.inr htaken)

theorem Inv.wake (h : Inv s) (hs : step s (.wake r) = some s') : Inv s' := by
  obtain ⟨hstage, hs⟩ := Option.ite_none_right_eq_some.mp hs
  have hopening : s.Opening r .waiting := hstage ▸ h.opening r
  have hlast := hopening.1
  -- The open that leaves is the one that wakes.
  have hunpend : (s.answer r).isSome → Inv { s with pendingOpen := none } := by
    refine fun hsome => h.unpend fun r' hr' => ?_
    have hlast' := (h.pending r' hr').1
    obtain rfl : r' = r := by omega
    exact .inl hsome
  split at hs
  case h_1 => exact absurd hs.symm (Option.some_ne_none _)
  case h_2 hanswer =>
    obtain rfl := Option.some.inj hs
    exact h.setStage (show r < s.registrations by omega) Stage.noConfusion
  case h_3 hanswer =>
    obtain rfl := Option.some.inj hs
    exact (hunpend (by rw [hanswer]; rfl)).setStage (show r < s.registrations by omega)
      Stage.noConfusion
  case h_4 answer _ _ hanswer =>
    obtain rfl := Option.some.inj hs
    have hsome : (s.answer r).isSome := by rw [hanswer]; rfl
    exact (hunpend hsome).setStage ⟨hlast, .inl hsome⟩ Stage.noConfusion

theorem Inv.reinsert (h : Inv s) (hs : step s (.reinsert c) = some s') : Inv s' := by
  obtain ⟨⟨hc, hstage⟩, rfl⟩ := Run.guard_eq_some.mp hs
  obtain ⟨hentry, hcalls, -, -⟩ := h.alone hc
  have hlooked : c.looked = false := by rw [Call.looked, hstage]
  have htakes : c.takes = none := by rw [Call.takes, hstage]
  refine h.of_frame rfl rfl (fun r => ?_) (fun r hr => ?_) (fun r hr => ⟨hr, fun hl => ?_⟩)
    (fun r _ hl => ?_) (fun r hr => ?_) (fun _ => .inr) (fun c' hc' => ?_) h.owner
  · simp [State.places, hentry, hcalls]
  · simpa [State.present, hentry, hcalls] using hr
  · refine (h.pending r hr).2.2 ?_
    simpa [State.Looked, hcalls, hlooked] using hl
  · simpa [State.Looked, hcalls, hlooked] using hl
  · simpa [State.Settling, hcalls, htakes] using hr
  · simp [hcalls] at hc'

theorem Inv.take (h : Inv s) (ha : Orderly s (.take c)) (hs : step s (.take c) = some s') :
    Inv s' := by
  obtain ⟨⟨hc, hstage⟩, rfl⟩ := Run.guard_eq_some.mp hs
  obtain ⟨hentry, hcalls, -, -⟩ := h.alone hc
  have hlast := h.call_last hc
  have hlooked : c.looked = false := by rw [Call.looked, hstage]
  have htakes : c.takes = none := by rw [Call.takes, hstage]
  refine h.of_frame rfl rfl (fun r => ?_) (fun r hr => ?_)
    (fun r hr => absurd hr.symm (Option.some_ne_none _)) (fun r hr hl => ?_) (fun r hr => ?_)
    (fun r hr => .inl ?_) (fun c' hc' r hr => ?_) h.owner
  · exact count_places_advance (s := { s with pendingOpen := none }) hc _ r
  · simpa [State.present, State.advance, hentry, hcalls] using hr
  · have hne : r ≠ c.registration := fun heq => ha (heq ▸ hr)
    exact ((looked_iff (advance_calls (s := { s with pendingOpen := none }) hcalls _) r).mp hl).elim
      (fun h => absurd h.2 hne) .inr
  · refine hr.imp_right fun hr => hr.imp_right fun hr => ?_
    simp [hcalls, htakes] at hr
  · refine .inr (.inr ?_)
    simp [State.advance, hcalls, Call.takes, hr]
  · obtain rfl : c' = { c with stage := .taken s.pendingOpen } := by
      simpa [State.advance, hcalls] using hc'
    have hlast' := (h.pending r hr).1
    show r = c.registration
    omega

theorem Inv.answered (h : Inv s) (hc : c ∈ s.calls) (hlooked : c.looked = true)
    (hsettled : ∀ r, c.takes = some r → (s.answer r).isSome) : Inv (s.advance c .answered) := by
  obtain ⟨hentry, hcalls, -, -⟩ := h.alone hc
  have hlooked' : ∀ r, (s.advance c .answered).Looked r → s.Looked r := fun r hl =>
    (looked_iff hcalls r).mpr (((looked_iff (advance_calls hcalls _) r).mp hl).imp_left
      fun h => ⟨hlooked, h.2⟩)
  refine h.of_frame rfl rfl (fun r => ?_) (fun r hr => ?_)
    (fun r hr => ⟨hr, fun hl => (h.pending r hr).2.2 (hlooked' r hl)⟩) (fun r _ => hlooked' r)
    (fun r hr => ?_) (fun _ => .inr) (fun c' hc' r hr => ?_) h.owner
  · exact count_places_advance hc _ r
  · simpa [State.present, State.advance, hentry, hcalls] using hr
  · obtain hanswer | hresult | htaken := hr
    · exact .inl hanswer
    · exact .inr (.inl hresult)
    · refine .inl (hsettled r ?_)
      simpa [hcalls] using htaken
  · obtain rfl : c' = { c with stage := .answered } := by
      simpa [State.advance, hcalls] using hc'
    exact absurd hr.symm (Option.some_ne_none _)

theorem Inv.answer (h : Inv s) (hs : step s (.answer c) = some s') : Inv s' := by
  rw [step] at hs
  split at hs
  case h_1 hstage =>
    obtain ⟨hc, rfl⟩ := Run.guard_eq_some.mp hs
    refine h.answered hc (by rw [Call.looked, hstage]) fun r hr => ?_
    rw [Call.takes, hstage] at hr
    exact absurd hr.symm (Option.some_ne_none _)
  case h_2 r hstage =>
    obtain ⟨hc, rfl⟩ := Run.guard_eq_some.mp hs
    have htakes : c.takes = some r := by rw [Call.takes, hstage]
    obtain rfl := h.takes c hc r htakes
    refine (h.settle fun g hg => (Answer.closed.inj hg).symm).answered hc
      (by rw [Call.looked, hstage]) fun r hr => ?_
    obtain rfl := Option.some.inj (htakes.symm.trans hr)
    exact (isSome_settle s _ _ _).mpr (.inr rfl)
  case h_3 => exact absurd hs.symm (Option.some_ne_none _)

/-- The end of a removal changes what has ended, and the removals. -/
theorem emit_eq (s : State) (c : Call) :
    s.emit c = { s with
      calls := s.calls.erase c
      closed := (s.emit c).closed
      hibernated := (s.emit c).hibernated } := by
  rw [State.emit]
  split_ifs <;> rfl

theorem mem_ended_emit (s : State) (c : Call) {r : Nat}
    (hr : r ∈ (s.emit c).closed ∨ r ∈ (s.emit c).hibernated) :
    r = c.registration ∨ r ∈ s.closed ∨ r ∈ s.hibernated := by
  rw [State.emit] at hr
  split_ifs at hr <;> simp only [List.mem_cons] at hr <;> tauto

theorem Inv.emit (h : Inv s) (ha : Orderly s (.emit c)) (hs : step s (.emit c) = some s') :
    Inv s' := by
  obtain ⟨⟨hc, hstage⟩, rfl⟩ := Run.guard_eq_some.mp hs
  obtain ⟨hentry, hcalls, -, -⟩ := h.alone hc
  have hlooked : c.looked = true := by rw [Call.looked, hstage]
  have htakes : c.takes = none := by rw [Call.takes, hstage]
  have hcount := count_places_emit hc ha
  have hlooked' : ∀ r, (s.emit c).Looked r → s.Looked r := by
    intro r hl
    rw [State.Looked, emit_eq, hcalls, List.erase_cons_head] at hl
    have hended := mem_ended_emit s c (hl.resolve_left List.not_mem_nil)
    exact (looked_iff hcalls r).mpr (hended.imp_left fun h => ⟨hlooked, h⟩)
  rw [emit_eq, hcalls, List.erase_cons_head] at hcount hlooked' ⊢
  refine h.of_frame rfl rfl hcount (fun r hr => ?_)
    (fun r hr => ⟨hr, fun hl => (h.pending r hr).2.2 (hlooked' r hl)⟩) (fun r _ => hlooked' r)
    (fun r hr => ?_) (fun _ => .inr) (fun c' hc' => absurd hc' List.not_mem_nil) h.owner
  · simp [State.present, hentry] at hr
  · refine hr.imp_right fun hr => hr.imp_right fun hr => ?_
    simp [hcalls, htakes] at hr

theorem Inv.step (h : Inv s) (ha : Orderly s a) (hs : step s a = some s') : Inv s' := by
  cases a with
  | register => exact h.register ha hs
  | enter => exact h.enter hs
  | send => exact h.send ha hs
  | withdraw r =>
    obtain ⟨hstage, -⟩ := Option.ite_none_right_eq_some.mp hs
    exact (hstage ▸ h.opening r : s.Opening r .refused).elim
  | closeOwn => exact h.closeOwn hs
  | openResult => exact h.openResult hs
  | resolve => exact h.resolve hs
  | expire r =>
    obtain ⟨-, rfl⟩ := Run.guard_eq_some.mp hs
    exact h.settle fun g hg => absurd hg Answer.noConfusion
  | wake => exact h.wake hs
  | close =>
    obtain rfl := Option.some.inj hs
    exact h.close
  | hibernate =>
    obtain rfl := Option.some.inj hs
    exact h.hibernate
  | reinsert => exact h.reinsert hs
  | take => exact h.take ha hs
  | answer => exact h.answer hs
  | emit => exact h.emit ha hs
  | forget =>
    obtain rfl := Option.some.inj hs
    exact h.unpend fun r hr => .inl (ha r hr)
  | shutEvents =>
    obtain rfl := Option.some.inj hs
    exact ⟨h.counted, h.last, h.opening, h.pending, h.takes, h.owner⟩

/-- In every orderly run a registration ends once, by one `WsClose` or one hibernation, and its
open does not outlast it. -/
theorem registration_oneOutcome (h : Run.Reachable step Orderly initial s) : OneOutcome s :=
  (h.invariant (P := Inv) Inv.initial fun _ _ _ hI ha hs => hI.step ha hs).oneOutcome

/-- A WebSocket that cannot hibernate is put back and closed while Go opens it, and another one
of the same id hibernates. -/
def sleepThenHibernate : List Action :=
  [.register false, .enter 0, .send 0, .hibernate, .close, .reinsert ⟨0, false, .held⟩, .close,
    .take ⟨0, false, .removed⟩, .answer ⟨0, false, .taken (some 0)⟩, .openResult false,
    .emit ⟨0, false, .answered⟩, .wake 0, .closeOwn 0, .register true, .enter 1, .send 1,
    .openResult false, .hibernate, .resolve 1 false, .wake 1, .take ⟨1, true, .removed⟩,
    .answer ⟨1, true, .taken none⟩, .emit ⟨1, true, .answered⟩]

theorem sleepThenHibernate_oneOutcome : ∃ s, Run.run step initial sleepThenHibernate = some s ∧
    s.closed = [0] ∧ s.hibernated = [1] ∧ s.answer 0 = some (.closed 0) ∧ OneOutcome s := by
  have hallowed : Run.Allowed step Orderly initial sleepThenHibernate :=
    ⟨⟨rfl, rfl, fun _ h => absurd h (Nat.not_lt_zero _)⟩, trivial, rfl, trivial, trivial, trivial,
      trivial, (Stage.noConfusion : Stage.waiting ≠ .registered), trivial, trivial, fun _ => rfl,
      trivial, trivial, ⟨rfl, rfl, by decide⟩, trivial, rfl, trivial, trivial, trivial, trivial,
      (Stage.noConfusion : Stage.returned ≠ .registered), trivial,
      fun h => absurd h Bool.noConfusion, trivial⟩
  exact ⟨_, rfl, rfl, rfl, rfl, registration_oneOutcome (Run.Reachable.init.run hallowed rfl)⟩

/-! ## The races -/

/-- The WebSocket is closed before its open is in `pending_ws_open`. -/
def closedBeforePending : List Action :=
  [.register false, .close, .take ⟨0, false, .removed⟩, .answer ⟨0, false, .taken none⟩,
    .emit ⟨0, false, .answered⟩, .enter 0, .send 0]

/-- A WebSocket that hibernates during its open comes back, and the first open wakes late. -/
def lateWake : List Action :=
  [.register true, .enter 0, .send 0, .hibernate, .take ⟨0, true, .removed⟩,
    .answer ⟨0, true, .taken (some 0)⟩, .emit ⟨0, true, .answered⟩, .register true, .enter 1,
    .send 1, .wake 0, .closeOwn 0, .take ⟨1, false, .removed⟩, .answer ⟨1, false, .taken none⟩,
    .emit ⟨1, false, .answered⟩]

/-- The event queue is closed before the WebSocket is. -/
def closedWithoutQueue : List Action :=
  [.register false, .enter 0, .send 0, .shutEvents, .close, .take ⟨0, false, .removed⟩,
    .answer ⟨0, false, .taken (some 0)⟩, .emit ⟨0, false, .answered⟩]

/-- In the first two runs the open of a closed WebSocket is left waiting. In the last one the
entry is gone with no outcome. -/
theorem outcome_lost_in_races :
    (∃ s, Run.run step initial closedBeforePending = some s ∧ s.closed = [0] ∧
      s.stage 0 = .waiting ∧ s.pendingOpen = some 0 ∧ ¬ OneOutcome s) ∧
    (∃ s, Run.run step initial lateWake = some s ∧ s.closed = [1] ∧
      s.stage 1 = .waiting ∧ s.pendingOpen = none ∧ ¬ OneOutcome s) ∧
    (∃ s, Run.run step initial closedWithoutQueue = some s ∧ 0 ∉ s.places ∧ ¬ OneOutcome s) := by
  refine ⟨⟨_, rfl, rfl, rfl, rfl, fun h => ?_⟩, ⟨_, rfl, rfl, rfl, rfl, fun h => ?_⟩,
    ⟨_, rfl, by decide, fun h => ?_⟩⟩
  · exact (h.resolved 0 List.mem_cons_self).1 rfl
  · exact absurd (h.resolved 1 List.mem_cons_self).2 (by decide)
  · exact absurd (h.once 0 (by decide)) (by decide)

end RivetGo.WsOutcome

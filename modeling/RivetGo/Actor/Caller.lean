import Mathlib
import RivetGo.Data.Mutex
import RivetGo.Data.Run
import RivetGo.Data.Utf8

/-!
# The caller of an action

The callbacks of a generation take turns. An action sets `currentConnection` to the ActorConnect
connection that has called it, if there is one, and clears it before it gives the turn back. A
queue wait clears it, gives the turn back, waits, takes the turn and sets it again.
`RunContext.KeepAwake` gives the turn back and takes it again, and leaves `currentConnection`
alone.

Any number of callbacks can be under way, and a callback waits only while it has the turn. The
steps are the sections under `currentConnectionMu`, and the locks and unlocks of `turnMu`.
`current` is the local variable of `Action`.
-/

namespace RivetGo.Caller

structure Connection where
  id : Bytes
  actorConnect : Bool
  deriving DecidableEq

inductive Kind where
  /-- An action call, whether its action is registered, and the `ConnID` of the event. -/
  | action (registered : Bool) (connID : Option Bytes)
  | run
  /-- Any other callback. -/
  | other
  deriving DecidableEq

inductive Phase where
  | unmade
  | waiting
  /-- An action that has the turn and has not looked its caller up. -/
  | entered
  | running
  /-- A queue wait has cleared `currentConnection`. -/
  | cleared (saved : Option Connection)
  | yielded (saved : Option Connection)
  /-- It has the turn again. -/
  | resumed (saved : Option Connection)
  /-- `KeepAwake` has given the turn back. -/
  | awake
  | leaving
  | done
  deriving DecidableEq

def Phase.holding : Phase → Bool
  | .unmade | .waiting | .yielded _ | .awake | .done => false
  | .entered | .running | .cleared _ | .resumed _ | .leaving => true

/-- What a queue wait has put aside. -/
def Phase.saved : Phase → Option (Option Connection)
  | .cleared saved | .yielded saved | .resumed saved => some saved
  | _ => none

structure State where
  connections : List Connection := []
  /-- Who has `turnMu`. -/
  turn : Option Nat := none
  currentConnection : Option Connection := none
  made : Nat := 0
  kind : Nat → Kind := fun _ => .other
  phase : Nat → Phase := fun _ => .unmade
  current : Nat → Option Connection := fun _ => none

def initial : State := {}

inductive Action where
  /-- The table of connections changes. -/
  | setConnections (connections : List Connection)
  | begin (kind : Kind)
  | lock (k : Nat)
  /-- The look-up of an action and its write to `currentConnection`. -/
  | enter (k : Nat)
  /-- The first section of `yieldTurn`. -/
  | clear (k : Nat)
  | unlock (k : Nat)
  | relock (k : Nat)
  /-- The last section of `yieldTurn`. -/
  | restore (k : Nat)
  | keepAwake (k : Nat)
  | keptAwake (k : Nat)
  /-- The callback is over; an action clears `currentConnection`. -/
  | finish (k : Nat)
  | release (k : Nat)

def State.setPhase (s : State) (k : Nat) (phase : Phase) : State :=
  { s with phase := Function.update s.phase k phase }

/-- The connection that has called the action, or `none` if it is not there. -/
def State.callerOf (s : State) (connID : Option Bytes) : Option (Option Connection) :=
  match connID with
  | none => some none
  | some id =>
    (s.connections.find? (·.id = id)).map fun c => if c.actorConnect then some c else none

def State.enter (s : State) (k : Nat) (registered : Bool) (connID : Option Bytes) : State :=
  match registered, s.callerOf connID with
  | true, some current =>
    { s with
      currentConnection := current
      current := Function.update s.current k current }.setPhase k .running
  | _, _ => s.setPhase k .leaving

def step (s : State) : Action → Option State
  | .setConnections connections => some { s with connections := connections }
  | .begin kind =>
    some ({ s with
      made := s.made + 1
      kind := Function.update s.kind s.made kind }.setPhase s.made .waiting)
  | .lock k => match s.phase k, s.turn with
    | .waiting, none =>
      some ({ s with turn := some k }.setPhase k
        (match s.kind k with
          | .action _ _ => .entered
          | .run | .other => .running))
    | _, _ => none
  | .enter k => match s.phase k, s.kind k with
    | .entered, .action registered connID => some (s.enter k registered connID)
    | _, _ => none
  | .clear k => match s.phase k with
    | .running =>
      some ({ s with currentConnection := none }.setPhase k (.cleared s.currentConnection))
    | _ => none
  | .unlock k => match s.phase k with
    | .cleared saved => some ({ s with turn := none }.setPhase k (.yielded saved))
    | _ => none
  | .relock k => match s.phase k, s.turn with
    | .yielded saved, none => some ({ s with turn := some k }.setPhase k (.resumed saved))
    | _, _ => none
  | .restore k => match s.phase k with
    | .resumed saved => some ({ s with currentConnection := saved }.setPhase k .running)
    | _ => none
  | .keepAwake k => match s.phase k with
    | .running => some ({ s with turn := none }.setPhase k .awake)
    | _ => none
  | .keptAwake k => match s.phase k, s.turn with
    | .awake, none => some ({ s with turn := some k }.setPhase k .running)
    | _, _ => none
  | .finish k => match s.phase k, s.kind k with
    | .running, .action _ _ => some ({ s with currentConnection := none }.setPhase k .leaving)
    | .running, _ => some (s.setPhase k .leaving)
    | _, _ => none
  | .release k => match s.phase k with
    | .leaving => some ({ s with turn := none }.setPhase k .done)
    | _ => none

/-! ## The property -/

structure FollowsTurn (s : State) : Prop where
  /-- If there is a current connection, then an action has the turn that it has called. -/
  owner : ∀ c, s.currentConnection = some c → c.actorConnect = true ∧
    ∃ k registered, s.turn = some k ∧ s.kind k = .action registered (some c.id) ∧
      s.current k = some c
  /-- The code of a callback sees its own caller, before and after every wait. -/
  sees : ∀ k, s.phase k = .running → s.currentConnection = s.current k

/-- `RunContext.KeepAwake` is called by `Run`. -/
def KeepAwakeByRun (s : State) : Action → Prop
  | .keepAwake k => s.kind k = .run
  | _ => True

/-! ## What a run keeps -/

variable {s s' : State} {a : Action} {k : Nat}

/-- What `currentConnection` is, by where the callback with the turn is. -/
def State.expected (s : State) (k : Nat) : Option Connection :=
  if s.phase k = .running then s.current k else none

structure Inv (s : State) : Prop where
  turn : Mutex.Owned Phase.holding s.phase s.turn
  free : s.turn = none → s.currentConnection = none
  held : ∀ k, s.turn = some k → s.currentConnection = s.expected k
  saved : ∀ k saved, (s.phase k).saved = some saved → saved = s.current k
  awake : ∀ k, s.phase k = .awake → s.current k = none
  caller : ∀ k c, s.current k = some c → k < s.made ∧ c.actorConnect = true ∧
    ∃ registered, s.kind k = .action registered (some c.id)
  made : ∀ k, s.made ≤ k → s.phase k = .unmade

theorem Inv.initial : Inv initial where
  turn k := ⟨fun h => absurd h Bool.noConfusion, fun h => absurd h.symm (Option.some_ne_none k)⟩
  free _ := rfl
  held k h := absurd h.symm (Option.some_ne_none k)
  saved _ _ h := absurd h.symm (Option.some_ne_none _)
  awake _ _ := rfl
  caller _ _ h := absurd h.symm (Option.some_ne_none _)
  made _ _ := rfl

theorem Inv.followsTurn (h : Inv s) : FollowsTurn s where
  owner c hc := by
    cases hturn : s.turn with
    | none => exact absurd ((h.free hturn).symm.trans hc) (Option.some_ne_none c).symm
    | some k =>
      have hheld := h.held k hturn
      rw [State.expected, hc] at hheld
      split_ifs at hheld
      obtain ⟨-, hconnect, registered, hkind⟩ := h.caller k c hheld.symm
      exact ⟨hconnect, k, registered, rfl, hkind, hheld.symm⟩
  sees k hk := by
    have hturn : s.turn = some k := (h.turn k).mp (by rw [hk]; rfl)
    rw [h.held k hturn, State.expected, if_pos hk]

theorem setPhase_phase (s : State) (k j : Nat) (phase : Phase) :
    (s.setPhase k phase).phase j = if j = k then phase else s.phase j :=
  Function.update_apply s.phase k phase j

/-- One callback goes on, the table of callbacks and what they have called stay. -/
theorem Inv.setPhase (h : Inv s) {turn : Option Nat} {currentConnection : Option Connection}
    {phase : Phase} (hk : k < s.made)
    (hturn : Mutex.Owned Phase.holding (Function.update s.phase k phase) turn)
    (hfree : turn = none → currentConnection = none)
    (hheld : turn ≠ none → turn = some k ∧
      currentConnection = if phase = .running then s.current k else none)
    (hsaved : phase.saved = none ∨ phase.saved = some (s.current k))
    (hawake : phase = .awake → s.current k = none) :
    Inv ({ s with turn := turn, currentConnection := currentConnection }.setPhase k phase) := by
  refine ⟨hturn, hfree, fun j hj => ?_, fun j saved hj => ?_, fun j hj => ?_, h.caller,
    fun j hj => ?_⟩
  · obtain ⟨hk, hcurrent⟩ := hheld (by rw [show turn = some j from hj]; exact Option.some_ne_none j)
    obtain rfl : k = j := Option.some.inj (hk.symm.trans hj)
    rw [State.expected, setPhase_phase, if_pos rfl]
    exact hcurrent
  · rw [setPhase_phase] at hj
    split_ifs at hj with hjk
    · subst hjk
      obtain hsaved | hsaved := hsaved
      · exact absurd (hsaved.symm.trans hj) (Option.some_ne_none _).symm
      · exact Option.some.inj (hj.symm.trans hsaved)
    · exact h.saved j saved hj
  · rw [setPhase_phase] at hj
    split_ifs at hj with hjk
    · subst hjk
      exact hawake hj
    · exact h.awake j hj
  · have hne : j ≠ k := fun hjk => absurd hk (Nat.not_lt.mpr (hjk ▸ hj))
    rw [setPhase_phase, if_neg hne]
    exact h.made j hj

theorem Inv.lt_made (h : Inv s) (hk : s.phase k ≠ .unmade) : k < s.made := by
  by_contra hlt
  exact hk (h.made k (Nat.not_lt.mp hlt))

theorem Inv.turn_of_phase (h : Inv s) {phase : Phase} (hk : s.phase k = phase)
    (hphase : phase.holding = true) : s.turn = some k :=
  (h.turn k).mp (hk ▸ hphase)

/-- A callback that is not running has cleared `currentConnection`, or not set it yet. -/
theorem Inv.currentConnection_eq_none (h : Inv s) (hturn : s.turn = some k)
    (hk : s.phase k ≠ .running) : s.currentConnection = none := by
  rw [h.held k hturn, State.expected, if_neg hk]

theorem Inv.currentConnection_eq_current (h : Inv s) (hk : s.phase k = .running) :
    s.currentConnection = s.current k :=
  h.followsTurn.sees k hk

/-- Only an action has a caller. -/
theorem Inv.current_eq_none (h : Inv s) (hk : ∀ registered connID, s.kind k ≠
    .action registered connID) : s.current k = none := by
  refine Option.eq_none_iff_forall_ne_some.mpr fun c hc => ?_
  obtain ⟨-, -, registered, hkind⟩ := h.caller k c hc
  exact hk _ _ hkind

theorem Inv.begin (h : Inv s) {kind : Kind} (hs : step s (.begin kind) = some s') : Inv s' := by
  obtain rfl := Option.some.inj hs
  have hnew : s.phase s.made = .unmade := h.made _ (Nat.le_refl _)
  have hturn : s.turn ≠ some s.made := fun ht => by
    have hholding := (h.turn _).mpr ht
    rw [hnew] at hholding
    exact absurd hholding Bool.noConfusion
  refine ⟨h.turn.outside hturn rfl, h.free, fun j hj => ?_, fun j saved hj => ?_, fun j hj => ?_,
    fun j c hc => ?_, fun j hj => ?_⟩
  · have hne : j ≠ s.made := fun hjm => hturn (hjm ▸ hj)
    rw [State.expected, setPhase_phase, if_neg hne]
    exact h.held j hj
  · rw [setPhase_phase] at hj
    split_ifs at hj
    · exact absurd hj.symm (Option.some_ne_none _)
    · exact h.saved j saved hj
  · rw [setPhase_phase] at hj
    split_ifs at hj
    exact h.awake j hj
  · obtain ⟨hlt, hconnect, registered, hkind⟩ := h.caller j c hc
    refine ⟨Nat.lt_succ_of_lt hlt, hconnect, registered, ?_⟩
    exact (Function.update_of_ne (Nat.ne_of_lt hlt) _ _).trans hkind
  · have hj : s.made + 1 ≤ j := hj
    rw [setPhase_phase, if_neg (show j ≠ s.made by omega)]
    exact h.made j (by omega)

/-- The callback takes the turn. -/
theorem Inv.takes (h : Inv s) {phase : Phase} (hk : k < s.made) (hfree : s.turn = none)
    (hphase : phase.holding = true) (hcurrent : phase = .running → s.current k = none)
    (hsaved : phase.saved = none ∨ phase.saved = some (s.current k)) :
    Inv ({ s with turn := some k }.setPhase k phase) := by
  have hturn : Mutex.Owned Phase.holding s.phase none := hfree ▸ h.turn
  refine h.setPhase hk (hturn.acquire hphase) (fun hn => absurd hn (Option.some_ne_none k))
    (fun _ => ⟨rfl, ?_⟩) hsaved fun ha => ?_
  · rw [h.free hfree]
    split_ifs with hr
    · exact (hcurrent hr).symm
    · rfl
  · rw [ha] at hphase
    exact absurd hphase Bool.noConfusion

/-- The callback with the turn goes on. -/
theorem Inv.goes (h : Inv s) {phase : Phase} {currentConnection : Option Connection}
    (hturn : s.turn = some k) (hphase : phase.holding = true)
    (hcurrent : currentConnection = if phase = .running then s.current k else none)
    (hsaved : phase.saved = none ∨ phase.saved = some (s.current k)) :
    Inv ({ s with currentConnection := currentConnection }.setPhase k phase) := by
  have hk : s.phase k ≠ .unmade := fun hu => by
    have hholding := (h.turn k).mpr hturn
    rw [hu] at hholding
    exact absurd hholding Bool.noConfusion
  refine h.setPhase (h.lt_made hk) (h.turn.within hturn hphase) (fun hn => ?_)
    (fun _ => ⟨hturn, hcurrent⟩) hsaved fun ha => ?_
  · exact absurd (hturn.symm.trans hn) (Option.some_ne_none k)
  · rw [ha] at hphase
    exact absurd hphase Bool.noConfusion

/-- The callback gives the turn back, with `currentConnection` cleared. -/
theorem Inv.gives (h : Inv s) {phase : Phase} (hturn : s.turn = some k)
    (hphase : phase.holding = false) (hnone : s.currentConnection = none)
    (hsaved : phase.saved = none ∨ phase.saved = some (s.current k))
    (hawake : phase = .awake → s.current k = none) :
    Inv ({ s with turn := none }.setPhase k phase) := by
  have hk : s.phase k ≠ .unmade := fun hu => by
    have hholding := (h.turn k).mpr hturn
    rw [hu] at hholding
    exact absurd hholding Bool.noConfusion
  exact h.setPhase (h.lt_made hk) (h.turn.release hturn hphase) (fun _ => hnone)
    (fun hn => absurd rfl hn) hsaved hawake

theorem Inv.lock (h : Inv s) (hs : step s (.lock k) = some s') : Inv s' := by
  rw [step] at hs
  split at hs
  case h_1 hphase hfree =>
    obtain rfl := Option.some.inj hs
    have hk := h.lt_made (by rw [hphase]; exact Phase.noConfusion)
    cases hkind : s.kind k
    case action => exact h.takes hk hfree rfl (fun hr => absurd hr Phase.noConfusion) (.inl rfl)
    all_goals
      have hcurrent : s.current k = none :=
        h.current_eq_none (by rw [hkind]; exact fun _ _ => Kind.noConfusion)
      exact h.takes hk hfree rfl (fun _ => hcurrent) (.inl rfl)
  case h_2 => exact absurd hs.symm (Option.some_ne_none _)

/-- The connection that is found has the id of the event. -/
theorem callerOf_eq_some {connID : Option Bytes} {c : Connection}
    (h : s.callerOf connID = some (some c)) : c.actorConnect = true ∧ connID = some c.id := by
  cases connID with
  | none => exact absurd (Option.some.inj h) (Option.some_ne_none c).symm
  | some id =>
    obtain ⟨found, hfound, hc⟩ := Option.map_eq_some_iff.mp h
    split_ifs at hc with hconnect
    obtain rfl := Option.some.inj hc
    have hid : found.id = id := by simpa using List.find?_some hfound
    exact ⟨hconnect, congrArg some hid.symm⟩

/-- An action that has the turn remembers its caller. -/
theorem Inv.remember (h : Inv s) {current : Option Connection} {registered : Bool}
    {connID : Option Bytes} (hphase : s.phase k = .entered)
    (hkind : s.kind k = .action registered connID) (hcaller : s.callerOf connID = some current) :
    Inv { s with current := Function.update s.current k current } := by
  have hk := h.lt_made (k := k) (by rw [hphase]; exact Phase.noConfusion)
  refine ⟨h.turn, h.free, fun j hj => ?_, fun j saved hj => ?_, fun j hj => ?_, fun j c hc => ?_,
    h.made⟩
  · obtain rfl : j = k :=
      Option.some.inj (hj.symm.trans (h.turn_of_phase hphase rfl))
    rw [h.currentConnection_eq_none hj (by rw [hphase]; exact Phase.noConfusion), State.expected,
      if_neg (show s.phase j ≠ .running by rw [hphase]; exact Phase.noConfusion)]
  · have hne : j ≠ k := fun hjk => by
      rw [hjk, hphase] at hj
      exact absurd hj.symm (Option.some_ne_none _)
    exact (h.saved j saved hj).trans (Function.update_of_ne hne _ _).symm
  · have hne : j ≠ k := fun hjk => by
      rw [hjk, hphase] at hj
      exact absurd hj Phase.noConfusion
    exact (Function.update_of_ne hne _ _).trans (h.awake j hj)
  · have hc : Function.update s.current k current j = some c := hc
    by_cases hjk : j = k
    · subst hjk
      rw [Function.update_self] at hc
      subst hc
      obtain ⟨hconnect, rfl⟩ := callerOf_eq_some hcaller
      exact ⟨hk, hconnect, registered, hkind⟩
    · rw [Function.update_of_ne hjk] at hc
      exact h.caller j c hc

theorem Inv.enter (h : Inv s) (hs : step s (.enter k) = some s') : Inv s' := by
  rw [step] at hs
  split at hs
  case h_1 registered connID hphase hkind =>
    obtain rfl := Option.some.inj hs
    have hturn := h.turn_of_phase hphase rfl
    unfold State.enter
    split
    case h_1 current hcaller =>
      refine (h.remember hphase hkind hcaller).goes hturn rfl ?_ (.inl rfl)
      rw [if_pos rfl]
      exact (Function.update_self k current s.current).symm
    case h_2 =>
      exact h.goes hturn rfl
        (h.currentConnection_eq_none hturn (by rw [hphase]; exact Phase.noConfusion)) (.inl rfl)
  case h_2 => exact absurd hs.symm (Option.some_ne_none _)

theorem Inv.finish (h : Inv s) (hs : step s (.finish k) = some s') : Inv s' := by
  rw [step] at hs
  split at hs
  case h_1 hphase _ =>
    obtain rfl := Option.some.inj hs
    exact h.goes (h.turn_of_phase hphase rfl) rfl rfl (.inl rfl)
  case h_2 hphase hkind =>
    obtain rfl := Option.some.inj hs
    refine h.goes (h.turn_of_phase hphase rfl) rfl ?_ (.inl rfl)
    rw [h.currentConnection_eq_current hphase, h.current_eq_none fun r c hk => hkind r c hk]
    rfl
  case h_3 => exact absurd hs.symm (Option.some_ne_none _)

theorem Inv.keepAwake (h : Inv s) (hrun : s.kind k = .run)
    (hs : step s (.keepAwake k) = some s') : Inv s' := by
  rw [step] at hs
  split at hs
  case h_1 hphase =>
    obtain rfl := Option.some.inj hs
    have hcurrent : s.current k = none :=
      h.current_eq_none (by rw [hrun]; exact fun _ _ => Kind.noConfusion)
    exact h.gives (h.turn_of_phase hphase rfl) rfl
      ((h.currentConnection_eq_current hphase).trans hcurrent) (.inl rfl) fun _ => hcurrent
  case h_2 => exact absurd hs.symm (Option.some_ne_none _)

theorem Inv.step (h : Inv s) (ha : KeepAwakeByRun s a) (hs : step s a = some s') : Inv s' := by
  cases a with
  | setConnections connections =>
    obtain rfl := Option.some.inj hs
    exact ⟨h.turn, h.free, h.held, h.saved, h.awake, h.caller, h.made⟩
  | begin kind => exact h.begin hs
  | lock k => exact h.lock hs
  | enter k => exact h.enter hs
  | clear k =>
    rw [Caller.step] at hs
    split at hs
    case h_1 hphase =>
      obtain rfl := Option.some.inj hs
      exact h.goes (h.turn_of_phase hphase rfl) rfl rfl
        (.inr (congrArg some (h.currentConnection_eq_current hphase)))
    case h_2 => exact absurd hs.symm (Option.some_ne_none _)
  | unlock k =>
    rw [Caller.step] at hs
    split at hs
    case h_1 saved hphase =>
      obtain rfl := Option.some.inj hs
      have hturn := h.turn_of_phase hphase rfl
      exact h.gives hturn rfl
        (h.currentConnection_eq_none hturn (by rw [hphase]; exact Phase.noConfusion))
        (.inr (congrArg some (h.saved k saved (by rw [hphase]; rfl))))
        fun ha => absurd ha Phase.noConfusion
    case h_2 => exact absurd hs.symm (Option.some_ne_none _)
  | relock k =>
    rw [Caller.step] at hs
    split at hs
    case h_1 saved hphase hfree =>
      obtain rfl := Option.some.inj hs
      exact h.takes (h.lt_made (by rw [hphase]; exact Phase.noConfusion)) hfree rfl
        (fun hr => absurd hr Phase.noConfusion)
        (.inr (congrArg some (h.saved k saved (by rw [hphase]; rfl))))
    case h_2 => exact absurd hs.symm (Option.some_ne_none _)
  | restore k =>
    rw [Caller.step] at hs
    split at hs
    case h_1 saved hphase =>
      obtain rfl := Option.some.inj hs
      refine h.goes (h.turn_of_phase hphase rfl) rfl ?_ (.inl rfl)
      exact h.saved k saved (by rw [hphase]; rfl)
    case h_2 => exact absurd hs.symm (Option.some_ne_none _)
  | keepAwake k => exact h.keepAwake ha hs
  | keptAwake k =>
    rw [Caller.step] at hs
    split at hs
    case h_1 hphase hfree =>
      obtain rfl := Option.some.inj hs
      exact h.takes (h.lt_made (by rw [hphase]; exact Phase.noConfusion)) hfree rfl
        (fun _ => h.awake k hphase) (.inl rfl)
    case h_2 => exact absurd hs.symm (Option.some_ne_none _)
  | finish k => exact h.finish hs
  | release k =>
    rw [Caller.step] at hs
    split at hs
    case h_1 hphase =>
      obtain rfl := Option.some.inj hs
      have hturn := h.turn_of_phase hphase rfl
      exact h.gives hturn rfl
        (h.currentConnection_eq_none hturn (by rw [hphase]; exact Phase.noConfusion)) (.inl rfl)
        fun ha => absurd ha Phase.noConfusion
    case h_2 => exact absurd hs.symm (Option.some_ne_none _)

/-- As long as `RunContext.KeepAwake` is called by `Run`, the current connection is the caller of
the action that has the turn. -/
theorem caller_followsTurn (h : Run.Reachable step KeepAwakeByRun initial s) : FollowsTurn s :=
  (h.invariant (P := Inv) Inv.initial fun _ _ _ hI ha hs => hI.step ha hs).followsTurn

def client : Connection := ⟨[1], true⟩

/-- An action waits for a message, `Run` keeps the actor awake meanwhile, and the action goes on. -/
def waitAndKeepAwake : List Action :=
  [.setConnections [client], .begin .run, .begin (.action true (some [1])), .lock 1, .enter 1,
    .clear 1, .unlock 1, .setConnections [], .lock 0, .keepAwake 0, .relock 1, .restore 1]

theorem waitAndKeepAwake_followsTurn : ∃ s, Run.run step initial waitAndKeepAwake = some s ∧
    s.currentConnection = some client ∧ s.turn = some 1 ∧ FollowsTurn s := by
  have hallowed : Run.Allowed step KeepAwakeByRun initial waitAndKeepAwake :=
    ⟨trivial, trivial, trivial, trivial, trivial, trivial, trivial, trivial, trivial, rfl, trivial,
      trivial, trivial⟩
  exact ⟨_, rfl, rfl, rfl, caller_followsTurn (Run.Reachable.init.run hallowed rfl)⟩

/-- An action keeps the actor awake with the `RunContext` of `Run`, which does so as well. -/
def keepAwakeByAction : List Action :=
  [.setConnections [client], .begin .run, .lock 0, .keepAwake 0,
    .begin (.action true (some [1])), .lock 1, .enter 1, .keepAwake 1, .keptAwake 0]

/-- `Run` then sees the caller of the action. -/
theorem keepAwakeByAction_keeps_caller : ∃ s, Run.run step initial keepAwakeByAction = some s ∧
    s.turn = some 0 ∧ s.kind 0 = .run ∧ s.phase 0 = .running ∧
    s.currentConnection = some client ∧ ¬ FollowsTurn s :=
  ⟨_, rfl, rfl, rfl, rfl, rfl, fun h => absurd (h.sees 0 rfl) (Option.some_ne_none client)⟩

end RivetGo.Caller

import Mathlib.Data.List.Perm.Basic
import RivetGo.Pump.Submit

/-!
# What backpressure does to results

Every submission that native has not taken is in the queue or waits for a retry,
as long as no batch with a result is rejected. A rejected batch with a result, a
stop intent or a hibernation command ends the pump, for this and for every other
actor. A run therefore survives its rejections exactly if none of them meets
such a command.
-/

namespace RivetGo.Submit

variable {s s' : State} {batch : List Submission} {x : Submission}

/-! ### The error that ends the pump -/

/-- The message that a reaction reports. -/
def Reaction.message? : Reaction → Option String
  | .report message _ => some message
  | _ => none

@[simp] theorem enqueueSubmit_failed (s : State) (w : Option Nat) (site : Site) :
    (s.enqueueSubmit w site).failed = s.failed := rfl

@[simp] theorem submitNext_failed (s : State) (b : Busy) : (s.submitNext b).failed = s.failed := by
  cases hb : b.rest <;> simp [State.submitNext, hb]

@[simp] theorem proceed_failed (s : State) (w : Nat) : (s.proceed w).failed = s.failed := by
  cases hb : s.busy.find? (·.worker == w) <;> simp [State.proceed, hb]

@[simp] theorem leave_failed (s : State) (w : Nat) : (s.leave w).failed = s.failed := rfl

theorem react_failed (s : State) (x : Submission) (r : Reaction) :
    (s.react x r).failed = s.failed.or r.message? := by
  cases r with
  | report message leave =>
    cases hw : x.worker <;> cases leave <;>
      simp [State.react, hw, State.reportWorkerError, Reaction.message?]
  | retry => simp [State.react, Reaction.message?]
  | hand => simp [State.react, Reaction.message?]

@[simp] theorem settle_true_failed (s : State) (x : Submission) :
    (s.settle true x).failed = s.failed := by
  cases hw : x.worker <;> simp [State.settle, hw]

theorem settle_false_failed (s : State) (x : Submission) :
    (s.settle false x).failed = s.failed.or x.site.onBackpressure.message? := by
  simp [State.settle, react_failed]

/-- A rejection of a command of this place ends the pump. -/
def Site.fatal (site : Site) : Bool := site.onBackpressure.message?.isSome

theorem foldl_settle_true_failed (xs : List Submission) (s : State) :
    (xs.foldl (State.settle true) s).failed = s.failed := by
  induction xs generalizing s with
  | nil => rfl
  | cons x xs ih => simp [ih]

theorem foldl_settle_false_failed (xs : List Submission) (s : State) :
    (xs.foldl (State.settle false) s).failed = none ↔
      s.failed = none ∧ ∀ x ∈ xs, x.site.fatal = false := by
  induction xs generalizing s with
  | nil => simp
  | cons x xs ih =>
    rw [List.foldl_cons, ih, settle_false_failed]
    simp [Site.fatal, and_assoc]

/-- No rejected batch holds a result, a stop intent or a hibernation command, and
no error response of the worker runs out of time. -/
def Spared (s : State) : Action → Prop
  | .flush k false => ∀ x ∈ s.submitQueue.take k, x.site.fatal = false
  | .giveUp i => ∀ x, s.retrying[i]? = some x → x.site ≠ .httpError
  | _ => True

theorem onTimeout_message {site : Site} {r : Reaction} (h : site.onTimeout = some r) :
    r.message? = none ↔ site ≠ .httpError := by
  cases site <;> simp [Site.onTimeout] at h <;> subst h <;> simp [Reaction.message?]

/-- A step ends the pump exactly if it is not spared. -/
theorem step_failed {a : Action} (h : step s a = some s') :
    s'.failed = none ↔ s.failed = none ∧ Spared s a := by
  cases a with
  | handle w callback o =>
    simp only [step, Option.ite_none_left_eq_some, Option.some.injEq] at h
    obtain ⟨-, rfl⟩ := h
    simp [Spared]
  | call site =>
    simp only [step, Option.ite_none_right_eq_some, Option.some.injEq] at h
    obtain ⟨-, rfl⟩ := h
    simp [Spared]
  | flush k accepted =>
    simp only [step, Option.ite_none_right_eq_some, Option.some.injEq] at h
    obtain ⟨-, rfl⟩ := h
    cases accepted with
    | true => simp [foldl_settle_true_failed, Spared]
    | false => rw [foldl_settle_false_failed, Spared]
  | retry i =>
    simp only [step] at h
    cases hx : s.retrying[i]? with
    | none => simp [hx] at h
    | some x =>
      simp only [hx, Option.some.injEq] at h
      subst h
      simp [Spared]
  | giveUp i =>
    simp only [step] at h
    cases hx : s.retrying[i]? with
    | none => simp [hx] at h
    | some x =>
      cases hr : x.site.onTimeout with
      | none => simp [hx, hr] at h
      | some r =>
        simp only [hx, hr, Option.some.injEq] at h
        subst h
        rw [react_failed, Option.or_eq_none_iff, onTimeout_message hr, Spared]
        simp [hx]

/-- A run leaves the pump running exactly if all of its steps are spared. -/
theorem run_failed {as : List Action} (h : Run.run step s as = some s') :
    s'.failed = none ↔ s.failed = none ∧ Run.Allowed step Spared s as := by
  induction as generalizing s with
  | nil =>
    obtain rfl : s = s' := by simpa [Run.run] using h
    simp [Run.Allowed]
  | cons a as ih =>
    obtain ⟨u, hu, hrest⟩ := Option.bind_eq_some_iff.mp h
    rw [ih hrest, step_failed hu, Run.Allowed, and_assoc]
    simp [hu]

/-! ### Where the submissions are -/

/-- The submissions that native has taken and those that are on their way, with
the batch that native is answering. -/
def State.known (s : State) (batch : List Submission) : List Submission :=
  s.accepted ++ (batch ++ (s.submitQueue ++ s.retrying))

/-- Every submission is in one place only, and every result that was made has
been taken or is queued. -/
structure Book (s : State) (batch : List Submission) : Prop where
  nodup : (s.known batch).Nodup
  numbered : ∀ x ∈ s.known batch, x.id < s.nextId
  kept : ∀ x ∈ s.produced, x.site.isResult = true →
    x ∈ s.accepted ∨ x ∈ batch ∨ x ∈ s.submitQueue

theorem book_initial : Book initial [] := by
  constructor <;> simp [initial, State.known]

/-- Submissions are moved around, and dropped if they are no results. -/
theorem Book.move {batch' : List Submission} (h : Book s batch) {l : List Submission}
    (hperm : (s'.known batch').Perm l) (hsub : l.Sublist (s.known batch))
    (hid : s'.nextId = s.nextId) (hproduced : s'.produced = s.produced)
    (hkept : ∀ x, x.site.isResult = true → (x ∈ s.accepted ∨ x ∈ batch ∨ x ∈ s.submitQueue) →
      x ∈ s'.accepted ∨ x ∈ batch' ∨ x ∈ s'.submitQueue) : Book s' batch' := by
  refine ⟨hperm.nodup_iff.mpr (h.nodup.sublist hsub), ?_, ?_⟩
  · intro x hx
    rw [hid]
    exact h.numbered x (hsub.subset (hperm.mem_iff.mp hx))
  · intro x hx hresult
    exact hkept x hresult (h.kept x (hproduced ▸ hx) hresult)

theorem Book.enqueueSubmit (h : Book s batch) (w : Option Nat) (site : Site) :
    Book (s.enqueueSubmit w site) batch := by
  have hperm :
      ((s.enqueueSubmit w site).known batch).Perm (⟨s.nextId, w, site⟩ :: s.known batch) := by
    simp only [State.known, State.enqueueSubmit, List.append_assoc]
    have hmiddle := @List.perm_middle _ (⟨s.nextId, w, site⟩ : Submission)
      (s.accepted ++ (batch ++ s.submitQueue)) s.retrying
    simpa [List.append_assoc] using hmiddle
  have hnew : (⟨s.nextId, w, site⟩ : Submission) ∉ s.known batch := by
    intro hmem
    exact Nat.lt_irrefl _ (h.numbered _ hmem)
  refine ⟨hperm.nodup_iff.mpr (List.nodup_cons.mpr ⟨hnew, h.nodup⟩), ?_, ?_⟩
  · intro x hx
    obtain rfl | hx := List.mem_cons.mp (hperm.mem_iff.mp hx)
    · exact Nat.lt_succ_self _
    · exact Nat.lt_succ_of_lt (h.numbered x hx)
  · intro x hx hresult
    simp only [State.enqueueSubmit, List.mem_append, List.mem_singleton] at hx ⊢
    obtain hx | rfl := hx
    · obtain hx | hx | hx := h.kept x hx hresult
      · exact .inl hx
      · exact .inr (.inl hx)
      · exact .inr (.inr (.inl hx))
    · exact .inr (.inr (.inr rfl))

theorem Book.workers (h : Book s batch) (busy : List Busy) (left : List Nat) :
    Book { s with busy := busy, left := left } batch :=
  ⟨h.nodup, h.numbered, h.kept⟩

/-- What a worker does next changes no book but by a new submission. -/
theorem Book.submitNext (h : Book s batch) (b : Busy) : Book (s.submitNext b) batch := by
  cases hb : b.rest with
  | nil =>
    simp only [State.submitNext, hb]
    exact h.workers _ _
  | cons site rest =>
    simp only [State.submitNext, hb]
    exact (h.workers ({ b with rest := rest } :: s.busy) s.left).enqueueSubmit _ _

theorem Book.proceed (h : Book s batch) (w : Nat) : Book (s.proceed w) batch := by
  cases hb : s.busy.find? (·.worker == w) with
  | none => simpa [State.proceed, hb] using h
  | some b =>
    simp only [State.proceed, hb]
    exact (h.workers (s.busy.filter (·.worker != w)) s.left).submitNext b

/-- Native takes a submission of the batch. -/
theorem Book.settle_true (h : Book s (x :: batch)) : Book (s.settle true x) batch := by
  have hmoved : Book { s with accepted := s.accepted ++ [x] } batch := by
    refine h.move (.refl _) ?_ rfl rfl ?_
    · simp [State.known]
    · intro y _ hy
      simp only [List.mem_append, List.mem_cons] at hy ⊢
      tauto
  cases hw : x.worker with
  | none => simpa [State.settle, hw] using hmoved
  | some w => simpa [State.settle, hw] using hmoved.proceed w

/-- Native rejects a submission whose place tries again or has a caller. -/
theorem Book.settle_false (h : Book s (x :: batch)) (hfatal : x.site.fatal = false) :
    Book (s.settle false x) batch := by
  have hresult : x.site.isResult = false := by
    cases hs : x.site <;> simp_all [Site.fatal, Site.onBackpressure, Reaction.message?,
      Site.isResult]
  have hkept : ∀ y : Submission, y.site.isResult = true →
      (y ∈ s.accepted ∨ y ∈ x :: batch ∨ y ∈ s.submitQueue) →
      y ∈ s.accepted ∨ y ∈ batch ∨ y ∈ s.submitQueue := by
    intro y hy hmem
    have hne : y ≠ x := by
      rintro rfl
      simp [hresult] at hy
    simpa [hne] using hmem
  simp only [State.settle, Bool.false_eq_true, if_false]
  cases hr : x.site.onBackpressure with
  | report message leave => simp [Site.fatal, hr, Reaction.message?] at hfatal
  | retry =>
    refine h.move ?_ (.refl _) rfl rfl hkept
    simp only [State.react, State.known]
    have hmiddle := @List.perm_middle _ x (batch ++ (s.submitQueue ++ s.retrying)) []
    exact .append_left _ (by simpa [List.append_assoc] using hmiddle)
  | hand =>
    refine h.move (.refl _) ?_ rfl rfl hkept
    exact (List.sublist_cons_self x _).append_left _

theorem Book.foldl_settle {accepted : Bool} (xs : List Submission) (h : Book s xs)
    (hspared : accepted = false → ∀ x ∈ xs, x.site.fatal = false) :
    Book (xs.foldl (State.settle accepted) s) [] := by
  induction xs generalizing s with
  | nil => exact h
  | cons x xs ih =>
    rw [List.foldl_cons]
    refine ih ?_ (fun hacc y hy => hspared hacc y (List.mem_cons_of_mem _ hy))
    cases accepted with
    | true => exact h.settle_true
    | false => exact h.settle_false (hspared rfl x List.mem_cons_self)

theorem Book.flush (h : Book s []) (k : Nat) :
    Book { s with submitQueue := s.submitQueue.drop k } (s.submitQueue.take k) := by
  refine h.move (.refl _) ?_ rfl rfl ?_
  · simp only [State.known, List.nil_append]
    rw [← List.append_assoc (s.submitQueue.take k), List.take_append_drop]
  · intro x _ hx
    simp only [List.not_mem_nil, false_or] at hx
    obtain hx | hx := hx
    · exact .inl hx
    · rw [← List.take_append_drop k s.submitQueue, List.mem_append] at hx
      exact .inr hx

theorem Book.retry {i : Nat} (h : Book s []) (hx : s.retrying[i]? = some x) :
    Book { s with retrying := s.retrying.eraseIdx i, submitQueue := s.submitQueue ++ [x] } [] := by
  refine h.move ?_ (.refl _) rfl rfl ?_
  · have herase : (x :: s.retrying.eraseIdx i).Perm s.retrying := by
      obtain ⟨hi, rfl⟩ := List.getElem?_eq_some_iff.mp hx
      exact List.getElem_cons_eraseIdx_perm hi
    simpa [State.known, List.append_assoc] using
      List.Perm.append_left s.accepted (herase.append_left s.submitQueue)
  · intro y _ hy
    simp only [List.not_mem_nil, false_or, List.mem_append] at hy ⊢
    tauto

/-- A submission without a result is given up. -/
theorem Book.giveUp {i : Nat} (h : Book s []) :
    Book { s with retrying := s.retrying.eraseIdx i } [] := by
  refine h.move (.refl _) ?_ rfl rfl (fun _ _ hy => hy)
  exact (((List.eraseIdx_sublist _ _).append_left _).append_left _).append_left _

theorem book_step : Run.Keeps step Spared (Book · []) := by
  intro s a s' h hspared hstep
  cases a with
  | handle w callback o =>
    simp only [step, Option.ite_none_left_eq_some, Option.some.injEq] at hstep
    obtain ⟨-, rfl⟩ := hstep
    exact h.submitNext _
  | call site =>
    simp only [step, Option.ite_none_right_eq_some, Option.some.injEq] at hstep
    obtain ⟨-, rfl⟩ := hstep
    exact h.enqueueSubmit _ _
  | flush k accepted =>
    simp only [step, Option.ite_none_right_eq_some, Option.some.injEq] at hstep
    obtain ⟨-, rfl⟩ := hstep
    refine (h.flush k).foldl_settle _ ?_
    rintro rfl
    exact hspared
  | retry i =>
    simp only [step] at hstep
    cases hx : s.retrying[i]? with
    | none => simp [hx] at hstep
    | some x =>
      simp only [hx, Option.some.injEq] at hstep
      subst hstep
      exact h.retry hx
  | giveUp i =>
    simp only [step] at hstep
    cases hx : s.retrying[i]? with
    | none => simp [hx] at hstep
    | some x =>
      cases hr : x.site.onTimeout with
      | none => simp [hx, hr] at hstep
      | some r =>
        simp only [hx, hr, Option.some.injEq] at hstep
        subst hstep
        have hhand : r = .hand := by
          have hne := hspared x hx
          cases hs : x.site <;> simp_all [Site.onTimeout]
        subst hhand
        exact h.giveUp

/-! ### The queue drains -/

theorem submitNext_queue (s : State) (b : Busy) :
    (∃ new, (s.submitNext b).submitQueue = s.submitQueue ++ new) ∧
      (s.submitNext b).accepted = s.accepted := by
  cases hb : b.rest with
  | nil => exact ⟨⟨[], by simp [State.submitNext, hb]⟩, by simp [State.submitNext, hb]⟩
  | cons site rest =>
    exact ⟨⟨_, by simp only [State.submitNext, hb, State.enqueueSubmit]; rfl⟩,
      by simp [State.submitNext, hb, State.enqueueSubmit]⟩

theorem settle_true_queue (s : State) (x : Submission) :
    (∃ new, (s.settle true x).submitQueue = s.submitQueue ++ new) ∧
      (s.settle true x).accepted = s.accepted ++ [x] := by
  cases hw : x.worker with
  | none => exact ⟨⟨[], by simp [State.settle, hw]⟩, by simp [State.settle, hw]⟩
  | some w =>
    simp only [State.settle, hw, if_true, State.proceed]
    cases hb : s.busy.find? (·.worker == w) with
    | none => exact ⟨⟨[], by simp⟩, rfl⟩
    | some b => exact submitNext_queue _ b

/-- Native takes one batch after another, and what is queued is taken. -/
theorem drain {pre post : List Submission} (h : Book s [])
    (hq : s.submitQueue = pre ++ x :: post) :
    ∃ n s', Run.run step s (List.replicate n (.flush 1 true)) = some s' ∧ Book s' [] ∧
      x ∈ s'.accepted := by
  induction pre generalizing s post with
  | nil =>
    have hstep : step s (.flush 1 true) =
        some ({ s with submitQueue := post }.settle true x) := by
      simp [step, hq, maxSubmitBatch]
    refine ⟨1, _, by simp [Run.run, hstep], book_step s (.flush 1 true) _ h trivial hstep, ?_⟩
    rw [(settle_true_queue _ _).2]
    simp
  | cons y pre ih =>
    have hstep : step s (.flush 1 true) =
        some ({ s with submitQueue := pre ++ x :: post }.settle true y) := by
      simp [step, hq, maxSubmitBatch]
    obtain ⟨⟨new, hnew⟩, -⟩ := settle_true_queue { s with submitQueue := pre ++ x :: post } y
    have hq' : ({ s with submitQueue := pre ++ x :: post }.settle true y).submitQueue =
        pre ++ x :: (post ++ new) := by
      simpa using hnew
    obtain ⟨n, s', hrun, hbook, hmem⟩ := ih (book_step s (.flush 1 true) _ h trivial hstep) hq'
    exact ⟨n + 1, s', by simpa [List.replicate_succ, Run.run, hstep] using hrun, hbook, hmem⟩

/-! ### The result -/

/-- The pump goes on, and every result that was made is taken exactly once if
native takes the batches that follow. -/
def Harmless (s : State) : Prop :=
  s.failed = none ∧ ∀ x ∈ s.produced, x.site.isResult = true →
    ∃ n s', Run.run step s (List.replicate n (.flush 1 true)) = some s' ∧ s'.accepted.count x = 1

theorem Book.count_accepted (h : Book s batch) (hx : x ∈ s.accepted) : s.accepted.count x = 1 :=
  List.count_eq_one_of_mem (List.nodup_append.mp h.nodup).1 hx

theorem Book.taken (h : Book s []) (hx : x ∈ s.produced) (hresult : x.site.isResult = true) :
    ∃ n s', Run.run step s (List.replicate n (.flush 1 true)) = some s' ∧
      s'.accepted.count x = 1 := by
  obtain hx | hx | hx := h.kept x hx hresult
  · exact ⟨0, s, rfl, h.count_accepted hx⟩
  · cases hx
  · obtain ⟨pre, post, hq⟩ := List.append_of_mem hx
    obtain ⟨n, s', hrun, hbook, hmem⟩ := drain h hq
    exact ⟨n, s', hrun, hbook.count_accepted hmem⟩

/-- Rejections are harmless in a run exactly if no rejected batch holds a command
whose place gives up on it. -/
theorem harmless_iff_spared {as : List Action} (h : Run.run step initial as = some s) :
    Harmless s ↔ Run.Allowed step Spared initial as := by
  constructor
  · intro hs
    exact ((run_failed h).mp hs.1).2
  · intro hallowed
    have hreach := Run.Reachable.init.run hallowed h
    have hbook : Book s [] := hreach.invariant book_initial book_step
    exact ⟨(run_failed h).mpr ⟨rfl, hallowed⟩, fun x hx hresult => hbook.taken hx hresult⟩

/-- A message of a WebSocket is rejected and tried again. -/
def retried : List Action :=
  [.handle 1 .action .ok, .call .webSocket, .flush 1 true, .flush 1 false, .retry 0,
    .flush 1 true]

/-- The state after `retried`: native has taken both submissions. -/
def retriedEnd : State :=
  let result : Submission := ⟨0, some 1, .actionResult⟩
  let message : Submission := ⟨1, none, .webSocket⟩
  { nextId := 2, busy := [], left := [], submitQueue := [], retrying := []
    accepted := [result, message], produced := [result, message], failed := none }

theorem websocket_retry_harmless :
    Run.run step initial retried = some retriedEnd ∧ Harmless retriedEnd := by
  have hrun : Run.run step initial retried = some retriedEnd := rfl
  refine ⟨hrun, (harmless_iff_spared hrun).mpr ?_⟩
  have hbatch : ∀ x ∈ [(⟨1, none, .webSocket⟩ : Submission)], x.site.fatal = false := by decide
  exact ⟨trivial, trivial, trivial, hbatch, trivial, trivial, trivial⟩

/-- The result of a start is in a batch that native rejects once. -/
theorem rejected_start_result_ends_pump :
    ∃ s, Run.run step initial [.handle 1 .start .ok, .flush 1 false] = some s ∧
      s.failed = some "submit ActorStartResult" ∧ ¬ Harmless s := by
  refine ⟨_, rfl, rfl, ?_⟩
  rintro ⟨hfailed, -⟩
  cases hfailed

end RivetGo.Submit

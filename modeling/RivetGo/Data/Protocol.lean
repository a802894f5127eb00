import RivetGo.Data.Run

/-!
# Protocols along a log

A log has entries about many things, each entry about one of them. A protocol
says what may happen to one thing: `step p e` is the phase after entry `e` in
phase `p`, or `none` if the protocol forbids the entry there. The phase of a
thing is the one after all the entries that are about it.
-/

namespace Protocol

variable {φ ε κ : Type} [DecidableEq κ]

/-- The phase of `k` after the log, or `none` if its protocol was broken. -/
def phase (key : ε → κ) (step : φ → ε → Option φ) (init : φ) (log : List ε) (k : κ) : Option φ :=
  Run.run step init (log.filter (key · = k))

/-- An entry that the protocol does not look at. -/
def Silent (step : φ → ε → Option φ) (e : ε) : Prop := ∀ p, step p e = some p

variable {key : ε → κ} {step : φ → ε → Option φ} {init : φ} {log : List ε} {k : κ}

theorem run_silent {entries : List ε} (h : ∀ e ∈ entries, Silent step e) (p : φ) :
    Run.run step p entries = some p := by
  induction entries with
  | nil => rfl
  | cons e rest ih =>
    rw [Run.run, h e List.mem_cons_self p]
    exact ih fun e' he' => h e' (List.mem_cons_of_mem e he')

theorem phase_append (log entries : List ε) (k : κ) :
    phase key step init (log ++ entries) k = (phase key step init log k).bind fun p =>
      Run.run step p (entries.filter (key · = k)) := by
  rw [phase, List.filter_append, Run.run_append]
  rfl

theorem phase_append_of {p : φ} (h : phase key step init log k = some p) (entries : List ε) :
    phase key step init (log ++ entries) k =
      Run.run step p (entries.filter (key · = k)) := by
  rw [phase_append, h]
  rfl

/-- The phase of a thing changes only by entries about it. -/
theorem phase_silent (log : List ε) {entries : List ε}
    (h : ∀ e ∈ entries, key e = k → Silent step e) :
    phase key step init (log ++ entries) k = phase key step init log k := by
  rw [phase_append]
  cases phase key step init log k with
  | none => rfl
  | some p =>
    refine run_silent (fun e he => ?_) p
    obtain ⟨he, hk⟩ := List.mem_filter.mp he
    exact h e he (by simpa using hk)

theorem phase_entry (log : List ε) {e : ε} (h : key e = k) :
    phase key step init (log ++ [e]) k = (phase key step init log k).bind fun p => step p e := by
  rw [phase_append, List.filter_cons_of_pos (by simpa using h)]
  refine Option.bind_congr fun p _ => ?_
  simp [Run.run]

theorem phase_entry_of {p : φ} {e : ε} (h : phase key step init log k = some p) (hk : key e = k) :
    phase key step init (log ++ [e]) k = step p e := by
  rw [phase_entry log hk, h]
  rfl

/-- A protocol that is broken stays broken. -/
theorem phase_none (h : phase key step init log k = none) (entries : List ε) :
    phase key step init (log ++ entries) k = none := by
  rw [phase_append, h]
  rfl

/-- Nothing has happened to a thing that the log does not mention. -/
theorem phase_fresh (h : ∀ e ∈ log, key e ≠ k) : phase key step init log k = some init := by
  have hnone : log.filter (key · = k) = [] := by simpa [List.filter_eq_nil_iff] using h
  rw [phase, hnone]
  rfl

end Protocol

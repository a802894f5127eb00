import RivetGo.Boundary.Command
import RivetGo.Native.Validate

/-!
# Acceptance of a batch

`rk_runner_submit` decodes a batch, refuses it when any command fails to decode
or to validate, and otherwise queues all of it. A batch is therefore accepted
exactly when each of its commands would be accepted alone, and one command that
is not takes the whole batch with it.
-/

namespace RivetGo

open Utf8 (Valid decode?)

/-- Native decodes the command and its checks pass. -/
def Accepted (cbor : Native.Ciborium) (c : Wire.Command) : Prop :=
  ∃ d, c.received = some d ∧ Native.validateCommand cbor d = .ok ()

/-- Native decodes the whole batch and its checks pass. -/
def BatchAccepted (cbor : Native.Ciborium) (commands : List Wire.Command) : Prop :=
  ∃ ds, commands.mapM Wire.Command.received = some ds ∧ Native.validate cbor ds = .ok ()

theorem batchAccepted_cons {cbor : Native.Ciborium} {c : Wire.Command}
    {commands : List Wire.Command} :
    BatchAccepted cbor (c :: commands) ↔ Accepted cbor c ∧ BatchAccepted cbor commands := by
  unfold BatchAccepted Accepted Native.validate
  constructor
  · rintro ⟨ds, hds, hok⟩
    simp only [List.mapM_cons, Option.bind_eq_bind, Option.bind_eq_some_iff,
      Option.pure_def, Option.some.injEq] at hds
    obtain ⟨d, hd, rest, hrest, rfl⟩ := hds
    have hall := Check.forM_eq_ok.mp hok
    refine ⟨⟨d, hd, hall d List.mem_cons_self⟩, rest, hrest, ?_⟩
    exact Check.forM_eq_ok.mpr fun x hx => hall x (List.mem_cons_of_mem d hx)
  · rintro ⟨⟨d, hd, hok⟩, ds, hds, hoks⟩
    refine ⟨d :: ds, by simp [List.mapM_cons, hd, hds], ?_⟩
    refine Check.forM_eq_ok.mpr fun x hx => ?_
    obtain rfl | hx := List.mem_cons.mp hx
    · exact hok
    · exact Check.forM_eq_ok.mp hoks x hx

/-- A batch is accepted exactly when each of its commands is. -/
theorem batchAccepted_iff {cbor : Native.Ciborium} {commands : List Wire.Command} :
    BatchAccepted cbor commands ↔ ∀ c ∈ commands, Accepted cbor c := by
  induction commands with
  | nil => simp [BatchAccepted, Native.validate, pure]
  | cons c commands ih => rw [batchAccepted_cons, ih, List.forall_mem_cons]

/-! ### Errors that native takes -/

/-- An error that native decodes and whose code and message are not empty. -/
def Wire.WireError.WellFormed (e : Wire.WireError) : Prop :=
  (Valid e.code ∧ e.code ≠ []) ∧ Valid e.message ∧ e.message ≠ []

/-- A present error is received well formed. -/
theorem Wire.WireError.wellFormed_iff {e : Wire.WireError} :
    e.WellFormed ↔ ∃ d, e.received = some d ∧ d.code ≠ "" ∧ d.message ≠ "" := by
  unfold WellFormed received
  simp only [Utf8.valid_iff, Option.bind_eq_bind, Option.pure_def, Option.bind_eq_some_iff,
    Utf8.decode?_eq_some, Option.some.injEq]
  constructor
  · rintro ⟨⟨⟨code, hcode⟩, hcode_ne⟩, ⟨message, hmessage⟩, hmessage_ne⟩
    refine ⟨_, ⟨code, hcode, message, hmessage, rfl⟩, ?_, ?_⟩
    · rintro rfl
      exact hcode_ne hcode.symm
    · rintro rfl
      exact hmessage_ne hmessage.symm
  · rintro ⟨d, ⟨code, hcode, message, hmessage, rfl⟩, hcode_ne, hmessage_ne⟩
    refine ⟨⟨⟨code, hcode⟩, ?_⟩, ⟨message, hmessage⟩, ?_⟩
    · rw [← hcode]
      simpa using hcode_ne
    · rw [← hmessage]
      simpa using hmessage_ne

/-- What receiving and checking an error field comes to. -/
theorem received_requireWireError {error : Option Wire.WireError} :
    (∃ d, receivedOptional Wire.WireError.received error = some d ∧
        Native.requireWireError d = .ok () ∧ d.isSome = error.isSome) ↔
      ∀ e ∈ error, e.WellFormed := by
  cases error with
  | none => simp [receivedOptional, Native.requireWireError]
  | some e =>
    simp [receivedOptional, Native.requireWireError, Wire.WireError.wellFormed_iff]

end RivetGo

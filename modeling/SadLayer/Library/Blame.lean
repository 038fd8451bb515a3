import SadLayer.Library.Exact

/-! Computations that tell why they fail. When the reason is forgotten an option is
left; which reasons a computation can have follows from those of its steps. -/
namespace SadLayer.Library

/-- Gives the failure of a step its reason. -/
def blame (reason : ε) : Option α → Except ε α
  | some value => .ok value
  | none => .error reason

/-- A computation that fails for no other reason than these. -/
def FailsFor (reasons : List ε) (computation : Except ε α) : Prop :=
  ∀ reason, computation = .error reason → reason ∈ reasons

/-- What a caller is answered: for each reason a status, or nothing at all. -/
def answered (status : ε → Option δ) : Except ε α → Option (Except δ α)
  | .ok value => some (.ok value)
  | .error reason => (status reason).map .error

/-- Goes on with a value that was answered. -/
def onward (next : α → Option (Except δ β)) : Option (Except δ α) → Option (Except δ β)
  | none => none
  | some (.error status) => some (.error status)
  | some (.ok value) => next value

variable {reason : ε} {reasons more : List ε} {computation : Except ε α} {next : α → Except ε β}

@[simp] theorem blame_some (reason : ε) (value : α) : blame reason (some value) = .ok value := rfl

@[simp] theorem to_option_ok (value : α) : (Except.ok value : Except ε α).toOption = some value :=
  rfl

@[simp] theorem to_option_error (reason : ε) :
    (Except.error reason : Except ε α).toOption = none := rfl

@[simp] theorem to_option_blame (step : Option α) : (blame reason step).toOption = step := by
  cases step <;> rfl

@[simp] theorem to_option_bind (computation : Except ε α) (next : α → Except ε β) :
    (computation >>= next).toOption =
      computation.toOption.bind fun value => (next value).toOption := by
  cases computation <;> rfl

theorem eq_ok_of_to_option {value : α} (left : computation.toOption = some value) :
    computation = .ok value := by
  cases computation with
  | error reason => cases left
  | ok other =>
    cases left
    rfl

/-- Which reason there was does not show in the status that all of them are given. -/
theorem map_error_of_to_option {option : Option α} {status : δ}
    (left : computation.toOption = option) :
    computation.mapError (fun _ => status) = blame status option := by
  subst left
  cases computation <;> rfl

theorem answered_bind (status : ε → Option δ) (computation : Except ε α)
    (next : α → Except ε β) : answered status (computation >>= next) =
      onward (fun value => answered status (next value)) (answered status computation) := by
  cases computation with
  | ok value => rfl
  | error reason =>
    change (status reason).map .error = onward _ ((status reason).map .error)
    cases status reason <;> rfl

namespace FailsFor

theorem ok (value : α) : FailsFor reasons (.ok value : Except ε α) := by
  intro reason fails
  cases fails

theorem error (member : reason ∈ reasons) : FailsFor reasons (.error reason : Except ε α) := by
  intro other fails
  cases fails
  exact member

theorem blame (member : reason ∈ reasons) (step : Option α) :
    FailsFor reasons (Library.blame reason step) := by
  cases step with
  | none => exact .error member
  | some value => exact .ok value

/-- A failure that is passed on. -/
theorem passed (fails : FailsFor reasons (.error reason : Except ε α)) :
    FailsFor reasons (.error reason : Except ε β) :=
  .error (fails reason rfl)

theorem bind (first : FailsFor reasons computation)
    (then_ : ∀ value, computation = .ok value → FailsFor reasons (next value)) :
    FailsFor reasons (computation >>= next) := by
  cases computation with
  | error reason => exact first.passed
  | ok value => exact then_ value rfl

theorem mono (fails : FailsFor reasons computation) (subset : reasons ⊆ more) :
    FailsFor more computation :=
  fun reason error => subset (fails reason error)

/-- Reasons that share a status are answered with it. -/
theorem answer {statuses : ε → Option δ} {status : δ} (fails : FailsFor reasons computation)
    (shared : ∀ reason ∈ reasons, statuses reason = some status) :
    answered statuses computation = some (computation.mapError fun _ => status) := by
  cases computation with
  | ok value => rfl
  | error reason =>
    rw [answered, shared reason (fails reason rfl)]
    rfl

end FailsFor

end SadLayer.Library

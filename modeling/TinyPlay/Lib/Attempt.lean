import Mathlib.Data.List.Basic

/-! Statements that may throw, run in order on a state that outlives the exception. A statement
either changes the state or throws and leaves it alone. -/

namespace Attempt

variable {ε σ α : Type*}

/-- What was thrown, if anything, and the state that is left. -/
def attempt (step : α → σ → Except ε σ) : List α → σ → Except ε Unit × σ
  | [], s => (.ok (), s)
  | a :: as, s =>
    match step a s with
    | .ok s => attempt step as s
    | .error e => (.error e, s)

variable {step : α → σ → Except ε σ} {a : α} {as : List α} {s s' : σ} {e : ε}

theorem attempt_cons_ok (h : step a s = .ok s') :
    attempt step (a :: as) s = attempt step as s' := by
  rw [attempt, h]

theorem attempt_cons_error (h : step a s = .error e) :
    attempt step (a :: as) s = (.error e, s) := by
  rw [attempt, h]

/-- Nothing is thrown exactly when the statements run through without the surviving state. -/
theorem attempt_ok_iff : attempt step as s = (.ok (), s') ↔
    as.foldlM (fun s a => step a s) s = .ok s' := by
  induction as generalizing s with
  | nil =>
    constructor
    · intro h
      cases h
      rfl
    · intro h
      cases h
      rfl
  | cons a as ih =>
    rw [List.foldlM_cons]
    cases hstep : step a s with
    | ok s₁ =>
      rw [attempt_cons_ok hstep]
      exact ih
    | error e =>
      rw [attempt_cons_error hstep]
      constructor
      · intro h
        cases h
      · intro h
        cases h

end Attempt

import Mathlib.Data.List.Basic

/-! A probe whose first definite result is remembered. Asking answers from the memory where there
is one, and otherwise runs the probe, which may give something to remember, an answer that is not
remembered, or a failure. What is remembered is always the first definite result. -/

namespace Probe

variable {R V A E : Type*}

/-- What one run of a probe says. -/
inductive Verdict (V A E : Type*) where
  | known (value : V)
  | unknown (answer : A)
  | failed (error : E)

def Verdict.known? : Verdict V A E → Option V
  | known value => some value
  | _ => none

/-- The answer of a run that nothing was known before. -/
def Verdict.answer (answer : V → A) : Verdict V A E → Except E A
  | known value => .ok (answer value)
  | unknown a => .ok a
  | failed error => .error error

variable (answer : V → A) (verdict : R → Verdict V A E)

/-- The answer, and what is remembered after it. -/
def ask (memory : Option V) (r : R) : Except E A × Option V :=
  match memory with
  | some value => (.ok (answer value), some value)
  | none => ((verdict r).answer answer, (verdict r).known?)

/-- The first definite result. -/
def first (rs : List R) : Option V := rs.findSome? fun r => (verdict r).known?

variable {answer verdict}

theorem ask_snd (m : Option V) (r : R) :
    (ask answer verdict m r).2 = m.or (verdict r).known? := by
  cases m <;> rfl

theorem ask_of_error {m : Option V} {r : R} {e : E} (h : (ask answer verdict m r).1 = .error e) :
    (ask answer verdict m r).2 = m := by
  cases m with
  | some value => rfl
  | none =>
    unfold ask at h ⊢
    cases hverdict : verdict r with
    | failed _ => rfl
    | known _ => simp [hverdict, Verdict.answer] at h
    | unknown _ => rfl

theorem first_snoc (rs : List R) (r : R) :
    first verdict (rs ++ [r]) = (first verdict rs).or (verdict r).known? := by
  rw [first, first, List.findSome?_append, List.findSome?_singleton]

theorem exists_of_first {rs : List R} {value : V} (h : first verdict rs = some value) :
    ∃ r ∈ rs, (verdict r).known? = some value := List.exists_of_findSome?_eq_some h

theorem first_append_of_some {rs : List R} {value : V} (h : first verdict rs = some value)
    (rs' : List R) : first verdict (rs ++ rs') = some value := by
  unfold first at h ⊢
  rw [List.findSome?_append, h]
  rfl

end Probe

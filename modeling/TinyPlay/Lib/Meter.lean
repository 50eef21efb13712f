import Mathlib.Algebra.BigOperators.Group.Finset.Basic
import Mathlib.Algebra.BigOperators.Group.Finset.Piecewise

/-! A meter holds a pending amount that grows, is cleared, or is taken into a running total.
Over any history the total is the sum of the gains that a take reaches before a clear does. -/

namespace Meter

variable {M : Type*} [AddCommMonoid M]

inductive Event (M : Type*) where
  | clear
  | gain (amount : M)
  | take

/-- The first take or clear of the history is a take. -/
def takenNext : List (Event M) → Bool
  | [] => false
  | .clear :: _ => false
  | .gain _ :: es => takenNext es
  | .take :: _ => true

/-- The gains that are taken, each once. -/
def collected : List (Event M) → M
  | [] => 0
  | .gain a :: es => (if takenNext es then a else 0) + collected es
  | .clear :: es => collected es
  | .take :: es => collected es

/-- One event, from a pending amount and a total to the next ones. -/
inductive Step : M × M → Event M → M × M → Prop where
  | clear (p t : M) : Step (p, t) .clear (0, t)
  | gain (p t a : M) : Step (p, t) (.gain a) (p + a, t)
  | take (p t : M) : Step (p, t) .take (0, t + p)

inductive Run : M × M → List (Event M) → M × M → Prop where
  | nil (m : M × M) : Run m [] m
  | cons {m m' m'' : M × M} {e : Event M} {es : List (Event M)} :
      Step m e m' → Run m' es m'' → Run m (e :: es) m''

/-- Conservation: nothing taken is lost or taken twice. -/
theorem Run.total {m m' : M × M} {es : List (Event M)} (h : Run m es m') :
    m'.2 = m.2 + (if takenNext es then m.1 else 0) + collected es := by
  induction h with
  | nil m => simp [takenNext, collected]
  | @cons _ _ _ _ es hs _ ih =>
    cases hs with
    | clear p t =>
      rw [ih]
      simp [takenNext, collected]
    | gain p t a =>
      rw [ih]
      by_cases hes : takenNext es = true
      · simp [takenNext, collected, hes, add_assoc]
      · simp [takenNext, collected, hes]
    | take p t =>
      rw [ih]
      simp [takenNext, collected]

/-! ### Several cells with one pending amount -/

variable {κ : Type*} [DecidableEq κ]

/-- Emptying one cell and then the others takes the amounts of all distinct cells once. -/
theorem sum_insert_update (p : κ → M) (c : κ) (s : Finset κ) :
    ∑ x ∈ insert c s, p x = p c + ∑ x ∈ s, Function.update p c 0 x := by
  by_cases hc : c ∈ s
  · rw [Finset.insert_eq_of_mem hc, Finset.sum_update_of_mem hc, zero_add,
      ← Finset.add_sum_erase s p hc, Finset.sdiff_singleton_eq_erase]
  · rw [Finset.sum_insert hc]
    congr 1
    apply Finset.sum_congr rfl
    intro x hx
    rw [Function.update_of_ne]
    intro hxc
    exact hc (hxc ▸ hx)

/-- A gain of one cell is a gain of the sum when the cell is among the summed ones. -/
theorem sum_update_add (p : κ → M) (c : κ) (a : M) (s : Finset κ) :
    ∑ x ∈ s, Function.update p c (p c + a) x = ∑ x ∈ s, p x + if c ∈ s then a else 0 := by
  split_ifs with hc
  · rw [Finset.sum_update_of_mem hc, ← Finset.add_sum_erase s p hc,
      Finset.sdiff_singleton_eq_erase, add_right_comm]
  · rw [add_zero]
    apply Finset.sum_congr rfl
    intro x hx
    rw [Function.update_of_ne]
    intro hxc
    exact hc (hxc ▸ hx)

end Meter

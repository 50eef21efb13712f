import Mathlib.Data.List.DropRight
import Mathlib.Data.List.Induction
import Mathlib.Data.List.TakeWhile
import Mathlib.Tactic.Ring

/-! The last occurrence of a symbol in a text, as a position that is -1 when there is none, and
texts cut at a position that may be negative. -/

namespace LastIndex

variable {α : Type*}

/-- The first `n` symbols: none when `n` is negative, all when there are fewer. -/
def truncate (s : List α) (n : ℤ) : List α := s.take n.toNat

theorem truncate_of_neg (s : List α) {n : ℤ} (h : n < 0) : truncate s n = [] := by
  rw [truncate, Int.toNat_of_nonpos h.le, List.take_zero]

theorem truncate_length (u v : List α) : truncate (u ++ v) u.length = u := by
  rw [truncate, Int.toNat_natCast, List.take_left]

/-- A text that contains `a` is cut by its last `a`. -/
theorem exists_split {a : α} {s : List α} (h : a ∈ s) : ∃ u v, s = u ++ a :: v ∧ a ∉ v := by
  obtain ⟨v, u, hs, hv⟩ := List.eq_append_cons_of_mem (List.mem_reverse.mpr h)
  refine ⟨u.reverse, v.reverse, ?_, by simpa using hv⟩
  rw [← List.reverse_reverse s, hs]
  simp

variable [DecidableEq α]

/-- The position of the last `a`, or -1. -/
def lastIndexOf (a : α) (s : List α) : ℤ := (s.length : ℤ) - 1 - s.reverse.idxOf a

/-- What stands before the last `a`, with this `a`; nothing when there is none. -/
def directory (a : α) (s : List α) : List α := s.rdropWhile (· ≠ a)

/-- What stands behind the last `a`; everything when there is none. -/
def lastPart (a : α) (s : List α) : List α := s.rtakeWhile (· ≠ a)

variable {a : α} {s v : List α}

theorem lastIndexOf_of_notMem (h : a ∉ s) : lastIndexOf a s = -1 := by
  rw [lastIndexOf, List.idxOf_of_notMem (by simpa using h), List.length_reverse]
  ring

theorem lastIndexOf_split (u : List α) (h : a ∉ v) : lastIndexOf a (u ++ a :: v) = u.length := by
  have hreverse : (u ++ a :: v).reverse = v.reverse ++ a :: u.reverse := by simp
  rw [lastIndexOf, hreverse, List.idxOf_append_of_notMem (by simpa using h), List.idxOf_cons_self]
  simp only [List.length_append, List.length_cons, List.length_reverse, Nat.cast_add, Nat.cast_one]
  ring

theorem directory_of_notMem (h : a ∉ s) : directory a s = [] := by
  rw [directory, List.rdropWhile_eq_nil_iff]
  intro x hx
  exact decide_eq_true fun hxa : x = a => h (hxa ▸ hx)

theorem directory_split (u : List α) (h : a ∉ v) : directory a (u ++ a :: v) = u ++ [a] := by
  unfold directory
  induction v using List.reverseRecOn with
  | nil => exact List.rdropWhile_concat_neg _ _ _ (by simp)
  | append_singleton v x ih =>
    simp only [List.mem_append, List.mem_singleton, not_or] at h
    rw [← List.cons_append, ← List.append_assoc, List.rdropWhile_concat_pos _ _ _ (by
      simpa using Ne.symm h.2)]
    exact ih h.1

theorem lastPart_split (u : List α) (h : a ∉ v) : lastPart a (u ++ a :: v) = v := by
  unfold lastPart
  induction v using List.reverseRecOn with
  | nil => exact List.rtakeWhile_concat_neg _ _ _ (by simp)
  | append_singleton v x ih =>
    simp only [List.mem_append, List.mem_singleton, not_or] at h
    rw [← List.cons_append, ← List.append_assoc, List.rtakeWhile_concat_pos _ _ _ (by
      simpa using Ne.symm h.2), ih h.1]

end LastIndex

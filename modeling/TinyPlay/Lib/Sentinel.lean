import Mathlib.Algebra.BigOperators.Group.List.Basic
import Mathlib.Algebra.Group.WithOne.Basic
import Mathlib.Algebra.Group.Nat.Hom
import Mathlib.Algebra.Group.Int.Defs
import Mathlib.Data.Int.Cast.Basic
import Mathlib.Tactic.Linarith

/-! Counters that may be off. Such a counter is an integer that is -1 while it is off; what it
means is an element of `WithZero ℕ`, whose zero is the counter that is off. Off is neutral for the
addition there, so sums skip what is off, in any order and any grouping. -/

namespace Sentinel

/-- A counter that counts. It is not `Nat.cast`: a counter that stands at 0 is not off. -/
def counting (n : ℕ) : WithZero ℕ := WithZero.coe n

/-- What an integer says about a counter. -/
def meaning (v : ℤ) : WithZero ℕ := if v > -1 then counting v.toNat else 0

/-- The integer of a counter. -/
def code : WithZero ℕ → ℤ := WithZero.recZeroCoe (-1) fun n => (n : ℤ)

/-- The counter as a number, where off is 0. -/
def value : WithZero ℕ →+ ℤ := WithZero.lift (Nat.castAddMonoidHom ℤ : AddHom ℕ ℤ)

/-- The addition of `WithZero ℕ` on codes. -/
def absorb (a b : ℤ) : ℤ := if a = -1 then b else if b = -1 then a else a + b

@[simp] theorem code_zero : code 0 = -1 := rfl
@[simp] theorem code_counting (n : ℕ) : code (counting n) = n := rfl
@[simp] theorem value_counting (n : ℕ) : value (counting n) = n := rfl

theorem counting_add (m n : ℕ) : counting m + counting n = counting (m + n) := rfl

theorem counting_ne_zero (n : ℕ) : counting n ≠ 0 := WithZero.coe_ne_zero

theorem cases_counter (c : WithZero ℕ) : c = 0 ∨ ∃ n, c = counting n := by
  induction c using WithZero.recZeroCoe with
  | zero => exact Or.inl rfl
  | coe n => exact Or.inr ⟨n, rfl⟩

theorem code_add (a b : WithZero ℕ) : code (a + b) = absorb (code a) (code b) := by
  rcases cases_counter a with rfl | ⟨m, rfl⟩
  · rw [zero_add]
    rfl
  · rcases cases_counter b with rfl | ⟨n, rfl⟩
    · rw [add_zero, absorb, if_neg, if_pos code_zero]
      rw [code_counting]
      omega
    · have hm : (m : ℤ) ≠ -1 := by omega
      have hn : (n : ℤ) ≠ -1 := by omega
      simp only [absorb, counting_add, code_counting, hm, hn, if_false]
      exact Int.natCast_add m n

theorem code_eq_neg_one {c : WithZero ℕ} : code c = -1 ↔ c = 0 := by
  rcases cases_counter c with rfl | ⟨n, rfl⟩
  · simp
  · have := counting_ne_zero n
    simp only [code_counting, this, iff_false]
    omega

theorem neg_one_le_code (c : WithZero ℕ) : -1 ≤ code c := by
  rcases cases_counter c with rfl | ⟨n, rfl⟩
  · exact le_rfl
  · rw [code_counting]
    omega

theorem code_of_ne_zero {c : WithZero ℕ} (h : c ≠ 0) : code c = value c := by
  rcases cases_counter c with rfl | ⟨n, rfl⟩
  · exact absurd rfl h
  · rfl

theorem value_nonneg (c : WithZero ℕ) : 0 ≤ value c := by
  rcases cases_counter c with rfl | ⟨n, rfl⟩
  · exact (map_zero value).ge
  · exact Int.natCast_nonneg n

theorem meaning_of_neg {v : ℤ} (h : ¬v > -1) : meaning v = 0 := if_neg h

theorem value_meaning {v : ℤ} (h : v > -1) : value (meaning v) = v := by
  rw [meaning, if_pos h, value_counting]
  omega

theorem meaning_eq_zero {v : ℤ} : meaning v = 0 ↔ ¬v > -1 := by
  unfold meaning
  split_ifs with hv <;> simp [hv, counting_ne_zero]

theorem meaning_code (c : WithZero ℕ) : meaning (code c) = c := by
  rcases cases_counter c with rfl | ⟨n, rfl⟩
  · rfl
  · rw [code_counting, meaning, if_pos (by omega)]
    rfl

/-! ### Sums -/

theorem sum_eq_zero_iff {cs : List (WithZero ℕ)} : cs.sum = 0 ↔ ∀ c ∈ cs, c = 0 := by
  induction cs with
  | nil => simp
  | cons c cs ih =>
    rw [List.sum_cons, List.forall_mem_cons, ← ih]
    rcases cases_counter c with rfl | ⟨m, rfl⟩
    · simp
    · rcases cases_counter cs.sum with h | ⟨n, h⟩
      · simp [h]
      · simp [h, counting_add, counting_ne_zero]

/-- The sum of what counts. -/
def counted (vs : List ℤ) : ℤ := (vs.filter (0 ≤ ·)).sum

/-- The sum of what counts, or -1 when everything is off. -/
def total (vs : List ℤ) : ℤ := if ∀ v ∈ vs, v = -1 then -1 else counted vs

theorem counted_cons (v : ℤ) (vs : List ℤ) :
    counted (v :: vs) = (if v > -1 then v else 0) + counted vs := by
  unfold counted
  by_cases hv : 0 ≤ v
  · rw [List.filter_cons_of_pos (by simpa using hv), List.sum_cons, if_pos (by omega)]
  · rw [List.filter_cons_of_neg (by simpa using hv), if_neg (by omega), zero_add]

theorem value_sum (vs : List ℤ) : value (vs.map meaning).sum = counted vs := by
  induction vs with
  | nil => rfl
  | cons v vs ih =>
    rw [List.map_cons, List.sum_cons, map_add, ih, counted_cons]
    split_ifs with hv
    · rw [value_meaning hv]
    · rw [meaning_of_neg hv, map_zero]

theorem counted_nonneg (vs : List ℤ) : 0 ≤ counted vs := by
  rw [← value_sum]
  exact value_nonneg _

theorem sum_meaning_eq_zero {vs : List ℤ} :
    (vs.map meaning).sum = 0 ↔ ∀ v ∈ vs, ¬v > -1 := by
  rw [sum_eq_zero_iff, List.forall_mem_map]
  exact forall₂_congr fun v _ => meaning_eq_zero

theorem total_eq_code {vs : List ℤ} (h : ∀ v ∈ vs, -1 ≤ v) :
    total vs = code (vs.map meaning).sum := by
  have hoff : (∀ v ∈ vs, v = -1) ↔ (vs.map meaning).sum = 0 := by
    rw [sum_meaning_eq_zero]
    refine forall₂_congr fun v hv => ?_
    have := h v hv
    omega
  unfold total
  split_ifs with hall
  · rw [hoff.mp hall, code_zero]
  · rw [code_of_ne_zero (mt hoff.mpr hall), value_sum]

/-! ### The sum as a loop -/

/-- The start value depends on whether anything counts, the loop adds what does, and `store` is
what becomes of a sum in the variable that holds it. -/
def sumUp (store : ℤ → ℤ) (vs : List ℤ) : ℤ :=
  vs.foldl (fun sum v => if v > -1 then store (sum + v) else sum)
    (if vs.any fun v => v > -1 then 0 else -1)

theorem foldl_of_off (store : ℤ → ℤ) {vs : List ℤ} (h : ∀ v ∈ vs, ¬v > -1) (sum : ℤ) :
    vs.foldl (fun sum v => if v > -1 then store (sum + v) else sum) sum = sum := by
  induction vs with
  | nil => rfl
  | cons v vs ih =>
    obtain ⟨hv, hvs⟩ := List.forall_mem_cons.mp h
    rw [List.foldl_cons, if_neg hv]
    exact ih hvs

/-- The sums on the way are between the start and the end, so the loop is exact when these are
stored as they are. -/
theorem foldl_of_exact {store : ℤ → ℤ} {vs : List ℤ} {sum : ℤ} (hsum : 0 ≤ sum)
    (h : ∀ n, 0 ≤ n → n ≤ sum + counted vs → store n = n) :
    vs.foldl (fun sum v => if v > -1 then store (sum + v) else sum) sum = sum + counted vs := by
  induction vs generalizing sum with
  | nil => exact (add_zero sum).symm
  | cons v vs ih =>
    have hrest := counted_nonneg vs
    rw [counted_cons] at h ⊢
    rw [List.foldl_cons]
    split_ifs at h ⊢ with hv
    · rw [h (sum + v) (by omega) (by omega), ih (by omega), add_assoc]
      intro n hn hle
      exact h n hn (by omega)
    · rw [zero_add] at h ⊢
      exact ih hsum h

theorem foldl_lt {store : ℤ → ℤ} {bound : ℤ} (h : ∀ n, store n < bound) {vs : List ℤ} {sum : ℤ}
    (hsum : sum < bound) :
    vs.foldl (fun sum v => if v > -1 then store (sum + v) else sum) sum < bound := by
  induction vs generalizing sum with
  | nil => exact hsum
  | cons v vs ih =>
    rw [List.foldl_cons]
    split_ifs
    · exact ih (h _)
    · exact ih hsum

theorem sumUp_of_exact {store : ℤ → ℤ} {vs : List ℤ}
    (h : ∀ n, 0 ≤ n → n ≤ counted vs → store n = n) :
    sumUp store vs = code (vs.map meaning).sum := by
  by_cases hoff : ∀ v ∈ vs, ¬v > -1
  · rw [sum_meaning_eq_zero.mpr hoff, code_zero, sumUp, foldl_of_off store hoff, if_neg]
    simpa using hoff
  · rw [code_of_ne_zero (mt sum_meaning_eq_zero.mp hoff), value_sum, sumUp, if_pos,
      foldl_of_exact le_rfl, zero_add]
    · simpa using h
    · push Not at hoff
      simpa using hoff

/-- A variable of a signed type with the values below `bound`: what fits is stored as it is, and
what does not fit becomes some value of the type. -/
structure Holds (store : ℤ → ℤ) (bound : ℤ) : Prop where
  exact : ∀ n, -bound ≤ n → n < bound → store n = n
  range : ∀ n, -bound ≤ store n ∧ store n < bound

/-- Two's complement. -/
def wrap (bound n : ℤ) : ℤ := (n + bound) % (2 * bound) - bound

theorem holds_wrap {bound : ℤ} (hb : 0 < bound) : Holds (wrap bound) bound where
  exact n hle hlt := by
    rw [wrap, Int.emod_eq_of_lt (by omega) (by omega)]
    omega
  range n := by
    have hnonneg := Int.emod_nonneg (n + bound) (by omega : 2 * bound ≠ 0)
    have hlt := Int.emod_lt_of_pos (n + bound) (by omega : 0 < 2 * bound)
    unfold wrap
    omega

/-- The loop is exact if and only if the sum fits. -/
theorem Holds.sumUp_eq_iff {store : ℤ → ℤ} {bound : ℤ} (h : Holds store bound) (hb : 0 < bound)
    (vs : List ℤ) : sumUp store vs = code (vs.map meaning).sum ↔ counted vs < bound := by
  constructor
  · intro heq
    by_cases hoff : (vs.map meaning).sum = 0
    · rw [← value_sum, hoff, map_zero]
      exact hb
    · rw [code_of_ne_zero hoff, value_sum] at heq
      rw [← heq]
      apply foldl_lt fun n => (h.range n).2
      split_ifs <;> omega
  · intro hlt
    apply sumUp_of_exact
    intro n hn hle
    exact h.exact n (by omega) (by omega)

end Sentinel

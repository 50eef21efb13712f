import Mathlib.Data.Nat.Init
import Mathlib.Order.PiLex

/-! Version texts: the numbers that a text spells, the numbers that are read off any text, and the
component-wise order, in which omitted components are zero. -/

namespace Version

/-- Decimal digits, at least one. -/
def Numeral (w : List Char) : Prop := w ≠ [] ∧ ∀ c ∈ w, c.isDigit = true

def value (w : List Char) : ℕ := Nat.ofDigitChars 10 w 0

/-- Numbers with one separating symbol between two of them. -/
inductive Spells (separator : Char → Prop) : List ℕ → List Char → Prop where
  | last {w : List Char} (hw : Numeral w) : Spells separator [value w] w
  | next {w s : List Char} {c : Char} {numbers : List ℕ} (hw : Numeral w) (hc : separator c)
      (h : Spells separator numbers s) : Spells separator (value w :: numbers) (w ++ c :: s)

theorem Spells.mono {separator separator' : Char → Prop} (hle : ∀ c, separator c → separator' c)
    {numbers : List ℕ} {s : List Char} (h : Spells separator numbers s) :
    Spells separator' numbers s := by
  induction h with
  | last hw => exact .last hw
  | next hw hc _ ih => exact .next hw (hle _ hc) ih

theorem Spells.ne_nil {separator : Char → Prop} {numbers : List ℕ} {s : List Char}
    (h : Spells separator numbers s) : s ≠ [] := by
  cases h with
  | last hw => exact hw.1
  | next => simp

/-- The text of `n` numbers. -/
def HasNumbers (separator : Char → Prop) (n : ℕ) (t : List Char) : Prop :=
  ∃ numbers, Spells separator numbers t ∧ numbers.length = n

theorem hasNumbers_one {separator : Char → Prop} {t : List Char} :
    HasNumbers separator 1 t ↔ Numeral t := by
  constructor
  · rintro ⟨numbers, h, hlength⟩
    cases h with
    | last hw => exact hw
    | next hw hc h =>
      cases h with
      | last => simp at hlength
      | next => simp at hlength
  · intro h
    exact ⟨_, .last h, rfl⟩

theorem hasNumbers_succ {separator : Char → Prop} {n : ℕ} {t : List Char} :
    HasNumbers separator (n + 2) t ↔
      ∃ w c s, Numeral w ∧ separator c ∧ HasNumbers separator (n + 1) s ∧ t = w ++ c :: s := by
  constructor
  · rintro ⟨numbers, h, hlength⟩
    cases h with
    | last hw => simp at hlength
    | @next w s c numbers hw hc h =>
      exact ⟨w, c, s, hw, hc, ⟨numbers, h, by simpa using hlength⟩, rfl⟩
  · rintro ⟨w, c, s, hw, hc, ⟨numbers, h, hlength⟩, rfl⟩
    exact ⟨_, .next hw hc h, by simp [hlength]⟩

/-! ### Reading a text -/

/-- `current` is the number that is being read. The first symbol which is not a part of a number
and not a dot behind one ends the version. -/
def componentsFrom : Option ℕ → List Char → List ℕ
  | current, [] => current.toList
  | none, c :: s => if c.isDigit then componentsFrom (some (c.toNat - '0'.toNat)) s else []
  | some n, c :: s =>
    if c.isDigit then componentsFrom (some (10 * n + (c.toNat - '0'.toNat))) s
    else if c = '.' then n :: componentsFrom none s
    else [n]

def components (s : List Char) : List ℕ := componentsFrom none s

theorem componentsFrom_digits (n : ℕ) {w : List Char} (hw : ∀ c ∈ w, c.isDigit = true)
    (s : List Char) :
    componentsFrom (some n) (w ++ s) = componentsFrom (some (Nat.ofDigitChars 10 w n)) s := by
  induction w generalizing n with
  | nil => rw [List.nil_append, Nat.ofDigitChars_nil]
  | cons c w ih =>
    rw [List.forall_mem_cons] at hw
    rw [List.cons_append, componentsFrom, if_pos hw.1, ih _ hw.2, Nat.ofDigitChars_cons]

theorem components_numeral {w : List Char} (hw : Numeral w) (s : List Char) :
    components (w ++ s) = componentsFrom (some (value w)) s := by
  obtain ⟨c, w, rfl⟩ := List.exists_cons_of_ne_nil hw.1
  have hdigits := List.forall_mem_cons.mp hw.2
  rw [components, List.cons_append, componentsFrom, if_pos hdigits.1,
    componentsFrom_digits _ hdigits.2, value, Nat.ofDigitChars_cons, Nat.mul_zero, Nat.zero_add]

/-- A dotted text is read as the numbers it spells. -/
theorem Spells.components_eq {numbers : List ℕ} {s : List Char} (h : Spells (· = '.') numbers s) :
    components s = numbers := by
  induction h with
  | @last w hw =>
    have h := components_numeral hw []
    rwa [List.append_nil] at h
  | next hw hc _ ih =>
    subst hc
    rw [components_numeral hw, componentsFrom, if_neg (by decide), if_pos rfl, ← components, ih]

theorem Spells.unique {numbers numbers' : List ℕ} {s : List Char}
    (h : Spells (· = '.') numbers s) (h' : Spells (· = '.') numbers' s) : numbers = numbers' := by
  rw [← h.components_eq, h'.components_eq]

/-! ### The order -/

/-- A version as a point of the lexicographic order. -/
def padded (v : List ℕ) : Lex (ℕ → ℕ) := toLex fun i => v.getD i 0

def less : List ℕ → List ℕ → Bool
  | _, [] => false
  | [], b :: w => 0 < b || less [] w
  | a :: v, b :: w => a < b || (a == b && less v w)

theorem lex_iff {f g : ℕ → ℕ} :
    toLex f < toLex g ↔
      f 0 < g 0 ∨ f 0 = g 0 ∧ (toLex fun i => f (i + 1)) < toLex fun i => g (i + 1) := by
  constructor
  · rintro ⟨i, heq, hlt⟩
    cases i with
    | zero => exact .inl hlt
    | succ i => exact .inr ⟨heq 0 i.succ_pos, i, fun j hj => heq (j + 1) (Nat.succ_lt_succ hj), hlt⟩
  · rintro (h | ⟨h, i, heq, hlt⟩)
    · exact ⟨0, fun j hj => absurd hj j.not_lt_zero, h⟩
    · refine ⟨i + 1, fun j hj => ?_, hlt⟩
      cases j with
      | zero => exact h
      | succ j => exact heq j (Nat.lt_of_succ_lt_succ hj)

theorem less_iff (v w : List ℕ) : less v w = true ↔ padded v < padded w := by
  induction w generalizing v with
  | nil =>
    have hnot : ¬padded v < padded [] := by
      rintro ⟨i, -, hlt⟩
      exact Nat.not_lt_zero _ hlt
    simp [less, hnot]
  | cons b w ih =>
    rw [padded, padded, lex_iff]
    cases v with
    | nil =>
      have htail := ih []
      simp only [padded, List.getD_nil] at htail
      rcases b.eq_zero_or_pos with rfl | hb
      · simp [less, htail]
      · simp [less, hb]
    | cons a v =>
      have htail := ih v
      simp [less, htail, padded]

theorem padded_nil_le (v : List ℕ) : padded [] ≤ padded v := by
  have hnot : ¬padded v < padded [] := by
    rw [← less_iff, less]
    exact Bool.false_ne_true
  exact not_lt.mp hnot

end Version

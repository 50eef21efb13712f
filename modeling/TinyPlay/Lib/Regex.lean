import Mathlib.Computability.Language

/-! Regular expressions whose letters are classes of symbols (in `RegularExpression` a letter is a
single symbol), with the language of an expression, a matcher that takes one derivative for each
symbol, and a reader of the usual notation. -/

inductive Regex (α : Type*) where
  | nothing
  | empty
  | one (accepts : α → Bool)
  | either (r s : Regex α)
  | next (r s : Regex α)
  | star (r : Regex α)

namespace Regex

variable {α : Type*}

/-- `r+` -/
def plus (r : Regex α) : Regex α := next r (star r)

/-- `r?` -/
def maybe (r : Regex α) : Regex α := either r empty

/-! ### Texts of an expression -/

def language : Regex α → Language α
  | nothing => 0
  | empty => 1
  | one accepts => {w | ∃ a, accepts a = true ∧ w = [a]}
  | either r s => r.language + s.language
  | next r s => r.language * s.language
  | star r => KStar.kstar r.language

theorem mem_one {f : α → Bool} {w : List α} :
    w ∈ (one f).language ↔ ∃ a, f a = true ∧ w = [a] := Iff.rfl

theorem mem_next {r s : Regex α} {w : List α} :
    w ∈ (next r s).language ↔ ∃ u ∈ r.language, ∃ v ∈ s.language, u ++ v = w :=
  Language.mem_mul

theorem language_next_empty (r : Regex α) : (next r empty).language = r.language :=
  mul_one r.language

theorem mem_next_maybe {r s : Regex α} {w : List α} :
    w ∈ (next r (maybe s)).language ↔ w ∈ r.language ∨ w ∈ (next r s).language := by
  have hlanguage : (next r (maybe s)).language = r.language + (next r s).language := by
    simp only [maybe, language, mul_add, mul_one, add_comm]
  rw [hlanguage, Language.mem_add]

theorem mem_next_one {f : α → Bool} {r : Regex α} {w : List α} :
    w ∈ (next (one f) r).language ↔ ∃ a u, f a = true ∧ u ∈ r.language ∧ w = a :: u := by
  rw [mem_next]
  constructor
  · rintro ⟨_, ⟨a, ha, rfl⟩, u, hu, rfl⟩
    exact ⟨a, u, ha, hu, rfl⟩
  · rintro ⟨a, u, ha, hu, rfl⟩
    exact ⟨[a], ⟨a, ha, rfl⟩, u, hu, rfl⟩

/-- A run of symbols of a class. -/
theorem mem_star_one {f : α → Bool} {w : List α} :
    w ∈ (star (one f)).language ↔ ∀ a ∈ w, f a = true := by
  constructor
  · rintro ⟨L, rfl, hL⟩ a ha
    obtain ⟨_, hu, ha⟩ := List.mem_flatten.mp ha
    obtain ⟨b, hb, rfl⟩ := hL _ hu
    rwa [List.mem_singleton.mp ha]
  · intro h
    refine ⟨w.map ([·]), by rw [← List.flatMap_def, List.flatMap_singleton'], fun u hu => ?_⟩
    obtain ⟨a, ha, rfl⟩ := List.mem_map.mp hu
    exact ⟨a, h a ha, rfl⟩

theorem mem_plus_one {f : α → Bool} {w : List α} :
    w ∈ (plus (one f)).language ↔ w ≠ [] ∧ ∀ a ∈ w, f a = true := by
  rw [plus, mem_next_one]
  constructor
  · rintro ⟨a, u, ha, hu, rfl⟩
    exact ⟨List.cons_ne_nil _ _, List.forall_mem_cons.mpr ⟨ha, mem_star_one.mp hu⟩⟩
  · rintro ⟨hne, h⟩
    obtain ⟨a, u, rfl⟩ := List.exists_cons_of_ne_nil hne
    rw [List.forall_mem_cons] at h
    exact ⟨a, u, h.1, mem_star_one.mpr h.2, rfl⟩

/-- Exactly `n` symbols of a class, then `r`. -/
theorem mem_iterate_one {f : α → Bool} {n : ℕ} {r : Regex α} {w : List α} :
    w ∈ ((next (one f))^[n] r).language ↔
      ∃ u v, u.length = n ∧ (∀ a ∈ u, f a = true) ∧ v ∈ r.language ∧ w = u ++ v := by
  induction n generalizing w with
  | zero => simp [List.length_eq_zero_iff]
  | succ n ih =>
    rw [Function.iterate_succ_apply', mem_next_one]
    constructor
    · rintro ⟨a, w, ha, hw, rfl⟩
      obtain ⟨u, v, hlength, hu, hv, rfl⟩ := ih.mp hw
      refine ⟨a :: u, v, ?_, List.forall_mem_cons.mpr ⟨ha, hu⟩, hv, rfl⟩
      rw [List.length_cons, hlength]
    · rintro ⟨_ | ⟨a, u⟩, v, hlength, hu, hv, rfl⟩
      · cases hlength
      · rw [List.forall_mem_cons] at hu
        exact ⟨a, u ++ v, hu.1, ih.mpr ⟨u, v, Nat.succ.inj hlength, hu.2, hv, rfl⟩, rfl⟩

/-! ### The matcher -/

def nullable : Regex α → Bool
  | nothing => false
  | empty => true
  | one _ => false
  | either r s => r.nullable || s.nullable
  | next r s => r.nullable && s.nullable
  | star _ => true

/-- What has to follow `a`. -/
def derivative (a : α) : Regex α → Regex α
  | nothing => nothing
  | empty => nothing
  | one accepts => if accepts a then empty else nothing
  | either r s => either (r.derivative a) (s.derivative a)
  | next r s =>
    either (next (r.derivative a) s) (if r.nullable then s.derivative a else nothing)
  | star r => next (r.derivative a) (star r)

/-- The whole text is matched. -/
def accepts : Regex α → List α → Bool
  | r, [] => r.nullable
  | r, a :: w => (r.derivative a).accepts w

theorem nullable_iff (r : Regex α) : r.nullable = true ↔ [] ∈ r.language := by
  induction r with
  | nothing => simp [nullable, language]
  | empty => simp [nullable, language]
  | one f => simp [nullable, mem_one]
  | either r s ihr ihs => simp [nullable, language, Language.mem_add, ihr, ihs]
  | next r s ihr ihs => simp [nullable, mem_next, ihr, ihs]
  | star r => simp [nullable, language, Language.nil_mem_kstar]

theorem mem_derivative (a : α) (r : Regex α) {w : List α} :
    w ∈ (r.derivative a).language ↔ a :: w ∈ r.language := by
  induction r generalizing w with
  | nothing => exact Iff.rfl
  | empty => simp [derivative, language]
  | one f =>
    rw [derivative, mem_one]
    split_ifs with hf
    · simp [language, hf]
    · simp [language, hf]
  | either r s ihr ihs => exact or_congr ihr ihs
  | next r s ihr ihs =>
    -- the first part of the split is empty or begins with the symbol
    have hsplit : w ∈ (if r.nullable then s.derivative a else nothing).language ↔
        [] ∈ r.language ∧ a :: w ∈ s.language := by
      split_ifs with hr
      · simp [ihs, (nullable_iff r).mp hr]
      · have hnil : [] ∉ r.language := fun h => hr ((nullable_iff r).mpr h)
        simp [language, hnil]
    rw [derivative, language, Language.mem_add, hsplit, mem_next, mem_next]
    constructor
    · rintro (⟨u, hu, v, hv, rfl⟩ | ⟨hr, hs⟩)
      · exact ⟨a :: u, ihr.mp hu, v, hv, rfl⟩
      · exact ⟨[], hr, a :: w, hs, rfl⟩
    · rintro ⟨u, hu, v, hv, huv⟩
      rcases List.append_eq_cons_iff.mp huv with ⟨rfl, rfl⟩ | ⟨u, rfl, rfl⟩
      · exact .inr ⟨hu, hv⟩
      · exact .inl ⟨u, ihr.mpr hu, v, hv, rfl⟩
  | star r ih =>
    rw [derivative, mem_next, language, Language.mem_kstar_iff_exists_nonempty]
    constructor
    · rintro ⟨u, hu, v, hv, rfl⟩
      obtain ⟨L, rfl, hL⟩ := Language.mem_kstar_iff_exists_nonempty.mp hv
      exact ⟨(a :: u) :: L, rfl, List.forall_mem_cons.mpr ⟨⟨ih.mp hu, List.cons_ne_nil _ _⟩, hL⟩⟩
    · rintro ⟨_ | ⟨t, L⟩, hw, hL⟩
      · exact absurd hw (List.cons_ne_nil _ _)
      -- the first part is not empty, so it is the one that begins with the symbol
      · obtain ⟨⟨ht, hne⟩, hrest⟩ := List.forall_mem_cons.mp hL
        obtain ⟨b, u, rfl⟩ := List.exists_cons_of_ne_nil hne
        obtain ⟨rfl, rfl⟩ := List.cons.inj hw
        exact ⟨u, ih.mpr ht, L.flatten, ⟨L, rfl, fun v hv => (hrest v hv).1⟩, rfl⟩

theorem accepts_iff (r : Regex α) (w : List α) : r.accepts w = true ↔ w ∈ r.language := by
  induction w generalizing r with
  | nil => exact nullable_iff r
  | cons a w ih => rw [accepts, ih, mem_derivative]

/-! ### The notation

Literals, `.`, classes, groups, `+`, `*` and `?`, between the anchors `^` and `$`. -/

/-- The members of a class that is spelled with single characters and ranges. -/
def inClass : List Char → Char → Bool
  | lo :: '-' :: hi :: spelled, c => (lo ≤ c && c ≤ hi) || inClass spelled c
  | d :: spelled, c => d == c || inClass spelled c
  | [], _ => false

/-- One after the other; the last one is at the head. -/
def sequence (atoms : List (Regex α)) : Regex α := atoms.foldl (fun r atom => next atom r) empty

/-- A suffix operator is applied to the last expression. -/
def suffix (operator : Regex α → Regex α) : List (Regex α) → Option (List (Regex α))
  | [] => none
  | atom :: atoms => some (operator atom :: atoms)

/-- Reads a pattern with the open groups, what has been read of the current one and, inside of
brackets, of the class. Other special characters are not supported. -/
def read : List (List (Regex Char)) → List (Regex Char) → Option (List Char) → List Char →
    Option (Regex Char)
  | outer, atoms, some spelled, c :: s =>
    if c = ']' then read outer (one (inClass spelled.reverse) :: atoms) none s
    else read outer atoms (some (c :: spelled)) s
  | _, _, some _, [] => none
  | outer, atoms, none, c :: s =>
    match c with
    | '[' => read outer atoms (some []) s
    | '(' => read (atoms :: outer) [] none s
    | ')' => match outer with
      | [] => none
      | group :: outer => read outer (sequence atoms :: group) none s
    | '.' => read outer (one (fun _ => true) :: atoms) none s
    | '+' => (suffix plus atoms).bind fun atoms => read outer atoms none s
    | '*' => (suffix star atoms).bind fun atoms => read outer atoms none s
    | '?' => (suffix maybe atoms).bind fun atoms => read outer atoms none s
    | c => if c ∈ ['^', '$', '|', '\\'] then none
      else read outer (one (· == c) :: atoms) none s
  | [], atoms, none, [] => some (sequence atoms)
  | _ :: _, _, none, [] => none

/-- An expression for the whole text. -/
def compile : List Char → Option (Regex Char)
  | '^' :: s => if s.getLast? = some '$' then read [] [] none s.dropLast else none
  | _ => none

end Regex

import Mathlib.Data.List.Forall2
import Mathlib.Data.List.TakeWhile

/-! Patterns over a text, in the style of a backtracking matcher: a pattern is a sequence of
pieces, each of them one symbol or a greedy run of symbols of a class. `Spells` says which texts
a pattern stands for and what it captures of them; `find` is the leftmost match, and
`find_isSome_iff` and `of_find` compare the two. -/

inductive Piece (α : Type*) where
  | one (accepts : α → Bool)
  | many (accepts : α → Bool) (least : ℕ) (captured : Bool)

abbrev Pattern (α : Type*) := List (Piece α)

namespace Piece

variable {α : Type*}

def accepts : Piece α → α → Bool
  | .one accepts => accepts
  | .many accepts _ _ => accepts

def captured : Piece α → Bool
  | .one _ => false
  | .many _ _ captured => captured

/-- The second piece accepts what the first one does. -/
inductive Le : Piece α → Piece α → Prop where
  | one {f g : α → Bool} (h : ∀ c, f c = true → g c = true) : Le (.one f) (.one g)
  | many {f g : α → Bool} {least : ℕ} {captured : Bool} (h : ∀ c, f c = true → g c = true) :
      Le (.many f least captured) (.many g least captured)

theorem Le.refl (x : Piece α) : x.Le x := by
  cases x with
  | one f => exact .one fun _ h => h
  | many f least captured => exact .many fun _ h => h

end Piece

namespace Pattern

variable {α β : Type*}

/-! ### The matcher -/

/-- Tries the longest run first. -/
def longestFirst (least : ℕ) (f : ℕ → Option β) : ℕ → Option β
  | 0 => if least = 0 then f 0 else none
  | n + 1 => if least ≤ n + 1 then (f (n + 1)).or (longestFirst least f n) else none

/-- A match at the start of the text, with the captured text. -/
def matchHere : Pattern α → List α → Option (List α)
  | [], _ => some []
  | .one _ :: _, [] => none
  | .one accepts :: p, c :: s => if accepts c then matchHere p s else none
  | .many accepts least captured :: p, s =>
    longestFirst least (fun k => (matchHere p (s.drop k)).map fun v =>
      (if captured then s.take k else []) ++ v) (s.takeWhile accepts).length

/-- The leftmost match. -/
def find (p : Pattern α) : List α → Option (List α)
  | [] => matchHere p []
  | c :: s => (matchHere p (c :: s)).or (find p s)

/-- The symbols of a text, one after the other. -/
def literal (same : β → α → Bool) (w : List β) : Pattern α := w.map fun b => .one (same b)

/-! ### The texts of a pattern -/

/-- The pattern stands for the text and captures the second one. -/
inductive Spells : Pattern α → List α → List α → Prop where
  | nil : Spells [] [] []
  | one {accepts : α → Bool} {p : Pattern α} {c : α} {s v : List α} (hc : accepts c = true)
      (h : Spells p s v) : Spells (.one accepts :: p) (c :: s) v
  | many {accepts : α → Bool} {least : ℕ} {captured : Bool} {p : Pattern α} {r s v : List α}
      (hr : ∀ c ∈ r, accepts c = true) (hl : least ≤ r.length) (h : Spells p s v) :
      Spells (.many accepts least captured :: p) (r ++ s) ((if captured then r else []) ++ v)

/-- Somewhere in the text. -/
def Found (p : Pattern α) (s : List α) : Prop := ∃ a m b v, s = a ++ (m ++ b) ∧ Spells p m v

theorem longestFirst_eq_some {least : ℕ} {f : ℕ → Option β} {n : ℕ} {b : β}
    (h : longestFirst least f n = some b) : ∃ k, least ≤ k ∧ k ≤ n ∧ f k = some b := by
  induction n with
  | zero =>
    unfold longestFirst at h
    split_ifs at h with hl
    exact ⟨0, by omega, by omega, h⟩
  | succ n ih =>
    unfold longestFirst at h
    split_ifs at h with hl
    rcases Option.or_eq_some_iff.mp h with h | ⟨-, h⟩
    · exact ⟨n + 1, hl, by omega, h⟩
    · obtain ⟨k, hk, hkn, hf⟩ := ih h
      exact ⟨k, hk, by omega, hf⟩

theorem longestFirst_isSome {least : ℕ} {f : ℕ → Option β} {n k : ℕ} (hk : least ≤ k)
    (hkn : k ≤ n) (hf : (f k).isSome = true) : (longestFirst least f n).isSome = true := by
  induction n with
  | zero =>
    obtain rfl : k = 0 := by omega
    rw [longestFirst, if_pos (by omega)]
    exact hf
  | succ n ih =>
    rw [longestFirst, if_pos (by omega), Option.isSome_or, Bool.or_eq_true]
    rcases Nat.lt_or_eq_of_le hkn with hlt | rfl
    · exact Or.inr (ih (by omega))
    · exact Or.inl hf

/-- A run that is no longer than the accepted start of the text is accepted. -/
theorem take_accepted {accepts : α → Bool} {s : List α} {k : ℕ}
    (hk : k ≤ (s.takeWhile accepts).length) :
    (s.take k).length = k ∧ ∀ c ∈ s.take k, accepts c = true := by
  have htake : s.take k = (s.takeWhile accepts).take k := by
    conv_lhs => rw [← s.takeWhile_append_dropWhile (p := accepts)]
    rw [List.take_append_of_le_length hk]
  rw [htake, List.length_take]
  refine ⟨by omega, ?_⟩
  intro c hc
  exact List.mem_takeWhile_imp (List.mem_of_mem_take hc)

theorem of_matchHere {p : Pattern α} {s v : List α} (h : matchHere p s = some v) :
    ∃ m b, s = m ++ b ∧ Spells p m v := by
  induction p generalizing s v with
  | nil =>
    obtain rfl := Option.some.inj h
    exact ⟨[], s, rfl, .nil⟩
  | cons x p ih =>
    cases x with
    | one accepts =>
      cases s with
      | nil => simp [matchHere] at h
      | cons c s =>
        rw [matchHere] at h
        split_ifs at h with hc
        obtain ⟨m, b, rfl, hm⟩ := ih h
        exact ⟨c :: m, b, rfl, .one hc hm⟩
    | many accepts least captured =>
      rw [matchHere] at h
      obtain ⟨k, hk, hkn, hf⟩ := longestFirst_eq_some h
      obtain ⟨w, hw, rfl⟩ := Option.map_eq_some_iff.mp hf
      obtain ⟨m, b, hb, hm⟩ := ih hw
      obtain ⟨hlength, haccepted⟩ := take_accepted hkn
      refine ⟨s.take k ++ m, b, ?_, .many haccepted (by omega) hm⟩
      rw [List.append_assoc, ← hb, List.take_append_drop]

theorem matchHere_isSome {p : Pattern α} {m v : List α} (h : Spells p m v) (b : List α) :
    (matchHere p (m ++ b)).isSome = true := by
  induction h with
  | nil => rfl
  | one hc h ih => simpa [matchHere, hc] using ih
  | @many accepts least captured p r s v hr hl h ih =>
    rw [List.append_assoc, matchHere]
    refine longestFirst_isSome hl ?_ ?_
    · rw [List.takeWhile_append_of_pos hr, List.length_append]
      omega
    · rw [List.drop_left, Option.isSome_map]
      exact ih

theorem of_find {p : Pattern α} {s v : List α} (h : find p s = some v) :
    ∃ a m b, s = a ++ (m ++ b) ∧ Spells p m v := by
  induction s with
  | nil =>
    obtain ⟨m, b, hs, hm⟩ := of_matchHere (s := []) h
    exact ⟨[], m, b, hs, hm⟩
  | cons c s ih =>
    rcases Option.or_eq_some_iff.mp h with h | ⟨-, h⟩
    · obtain ⟨m, b, hs, hm⟩ := of_matchHere h
      exact ⟨[], m, b, hs, hm⟩
    · obtain ⟨a, m, b, rfl, hm⟩ := ih h
      exact ⟨c :: a, m, b, rfl, hm⟩

theorem find_isSome_iff {p : Pattern α} {s : List α} : (find p s).isSome = true ↔ p.Found s := by
  constructor
  · intro h
    obtain ⟨v, hv⟩ := Option.isSome_iff_exists.mp h
    obtain ⟨a, m, b, hs, hm⟩ := of_find hv
    exact ⟨a, m, b, v, hs, hm⟩
  · rintro ⟨a, m, b, v, rfl, hm⟩
    induction a with
    | nil =>
      have hhere := matchHere_isSome hm b
      rw [List.nil_append]
      cases hs : m ++ b with
      | nil => rwa [hs] at hhere
      | cons c s =>
        rw [hs] at hhere
        rw [find, Option.isSome_or, hhere, Bool.true_or]
    | cons c a ih => rw [List.cons_append, find, Option.isSome_or, ih, Bool.or_true]

theorem find_eq_none_iff {p : Pattern α} {s : List α} : find p s = none ↔ ¬p.Found s := by
  rw [← find_isSome_iff, Option.not_isSome_iff_eq_none]

/-! ### The greedy match -/

theorem matchHere_one_rejected {accepts : α → Bool} {p : Pattern α} {c : α} {s : List α}
    (hc : accepts c = false) : matchHere (.one accepts :: p) (c :: s) = none := by
  rw [matchHere, hc]
  rfl

theorem matchHere_one_accepted {accepts : α → Bool} {p : Pattern α} {c : α} {s : List α}
    (hc : accepts c = true) : matchHere (.one accepts :: p) (c :: s) = matchHere p s := by
  rw [matchHere, if_pos hc]

theorem find_of_matchHere {p : Pattern α} {s v : List α} (h : matchHere p s = some v) :
    find p s = some v := by
  cases s with
  | nil => exact h
  | cons c s => rw [find, h, Option.some_or]

theorem find_cons_of_none {p : Pattern α} {c : α} {s : List α}
    (h : matchHere p (c :: s) = none) : find p (c :: s) = find p s := by
  rw [find, h, Option.none_or]

theorem longestFirst_of_some {least : ℕ} {f : ℕ → Option β} {n : ℕ} {b : β} (hn : least ≤ n)
    (h : f n = some b) : longestFirst least f n = some b := by
  cases n with
  | zero => rw [longestFirst, if_pos (by omega), h]
  | succ n => rw [longestFirst, if_pos hn, h, Option.some_or]

theorem matchHere_literal {same : β → α → Bool} {w : List β} {t : List α} (p : Pattern α)
    (s : List α) (h : List.Forall₂ (fun b c => same b c = true) w t) :
    matchHere (literal same w ++ p) (t ++ s) = matchHere p s := by
  induction h with
  | nil => rfl
  | cons hbc _ ih => exact (if_pos hbc).trans ih

/-- A run that ends where its class ends is taken whole when the rest matches. -/
theorem matchHere_many {accepts : α → Bool} {least : ℕ} {captured : Bool} {p : Pattern α}
    {r s v : List α} (hr : ∀ c ∈ r, accepts c = true) (hs : s.takeWhile accepts = [])
    (hl : least ≤ r.length) (h : matchHere p s = some v) :
    matchHere (.many accepts least captured :: p) (r ++ s) =
      some ((if captured then r else []) ++ v) := by
  have hrun : ((r ++ s).takeWhile accepts).length = r.length := by
    rw [List.takeWhile_append_of_pos hr, hs, List.append_nil]
  rw [matchHere, hrun]
  refine longestFirst_of_some hl ?_
  rw [List.drop_left, List.take_left, h, Option.map_some]

/-! ### Where a pattern can be found -/

theorem spells_append {p q : Pattern α} {s v : List α} (h : Spells (p ++ q) s v) :
    ∃ m m' w w', s = m ++ m' ∧ v = w ++ w' ∧ Spells p m w ∧ Spells q m' w' := by
  induction p generalizing s v with
  | nil => exact ⟨[], s, [], v, rfl, rfl, .nil, h⟩
  | cons x p ih =>
    cases h with
    | one hc h =>
      obtain ⟨m, m', w, w', rfl, rfl, hm, hm'⟩ := ih h
      exact ⟨_ :: m, m', w, w', rfl, rfl, .one hc hm, hm'⟩
    | many hr hl h =>
      obtain ⟨m, m', w, w', rfl, rfl, hm, hm'⟩ := ih h
      refine ⟨_ ++ m, m', _ ++ w, w', ?_, ?_, .many hr hl hm, hm'⟩ <;> rw [List.append_assoc]

theorem Spells.append {p q : Pattern α} {m m' w w' : List α} (h : Spells p m w)
    (h' : Spells q m' w') : Spells (p ++ q) (m ++ m') (w ++ w') := by
  induction h with
  | nil => exact h'
  | one hc _ ih => exact .one hc ih
  | many hr hl _ ih =>
    rw [List.append_assoc, List.append_assoc]
    exact .many hr hl ih

/-- A part of the pattern is found where the whole is. -/
theorem Found.part {p q r : Pattern α} {s : List α} (h : Found (p ++ (q ++ r)) s) : q.Found s := by
  obtain ⟨a, m, b, v, rfl, hm⟩ := h
  obtain ⟨m₁, m', w₁, w', rfl, -, -, hm'⟩ := spells_append hm
  obtain ⟨m₂, m₃, w₂, w₃, rfl, -, hq, -⟩ := spells_append hm'
  refine ⟨a ++ m₁, m₂, m₃ ++ b, w₂, ?_, hq⟩
  simp only [List.append_assoc]

theorem Found.left {p q : Pattern α} {s : List α} (h : Found (p ++ q) s) : p.Found s :=
  Found.part (p := []) h

theorem Found.right {p q : Pattern α} {s : List α} (h : Found (p ++ q) s) : q.Found s := by
  rw [← q.append_nil] at h
  exact h.part

/-- What is found in a part of a text is found in the text. -/
theorem Found.within {p : Pattern α} {l : List α} (h : p.Found l) (a b : List α) :
    p.Found (a ++ (l ++ b)) := by
  obtain ⟨x, m, y, v, rfl, hm⟩ := h
  exact ⟨a ++ x, m, y ++ b, v, by simp only [List.append_assoc], hm⟩

theorem Spells.mem_accepted {p : Pattern α} {s v : List α} (h : Spells p s v) {c : α}
    (hc : c ∈ s) : ∃ x ∈ p, x.accepts c = true := by
  induction h with
  | nil => cases hc
  | one hd _ ih =>
    rcases List.mem_cons.mp hc with rfl | hc
    · exact ⟨_, List.mem_cons_self, hd⟩
    · obtain ⟨x, hx, hxc⟩ := ih hc
      exact ⟨x, List.mem_cons_of_mem _ hx, hxc⟩
  | many hr _ _ ih =>
    rcases List.mem_append.mp hc with hc | hc
    · exact ⟨_, List.mem_cons_self, hr c hc⟩
    · obtain ⟨x, hx, hxc⟩ := ih hc
      exact ⟨x, List.mem_cons_of_mem _ hx, hxc⟩

/-- A symbol that no piece accepts keeps the pattern on one of its sides. -/
theorem Found.split {p : Pattern α} {a b : List α} {c : α}
    (hc : ∀ x ∈ p, x.accepts c = false) (h : Found p (a ++ c :: b)) : p.Found a ∨ p.Found b := by
  obtain ⟨x, m, y, v, hs, hm⟩ := h
  have hcm : c ∉ m := by
    intro hmem
    obtain ⟨piece, hpiece, haccepts⟩ := hm.mem_accepted hmem
    rw [hc piece hpiece] at haccepts
    cases haccepts
  rcases List.append_eq_append_iff.mp hs with ⟨u, rfl, hu⟩ | ⟨u, rfl, hu⟩
  · right
    cases u with
    | nil =>
      cases m with
      | nil => exact ⟨[], [], b, v, rfl, hm⟩
      | cons d m =>
        obtain ⟨rfl, -⟩ := List.cons.inj hu
        exact absurd List.mem_cons_self hcm
    | cons d u =>
      obtain ⟨rfl, rfl⟩ := List.cons.inj hu
      exact ⟨u, m, y, v, rfl, hm⟩
  · rcases List.append_eq_append_iff.mp hu with ⟨w, rfl, hw⟩ | ⟨w, rfl, hw⟩
    · left
      exact ⟨x, m, w, v, rfl, hm⟩
    · cases w with
      | nil =>
        left
        exact ⟨x, u, [], v, by simp, by simpa using hm⟩
      | cons d w =>
        obtain ⟨rfl, -⟩ := List.cons.inj hw
        exact absurd (List.mem_append_right u List.mem_cons_self) hcm

/-- A match does not start at a symbol that the first piece rejects. -/
theorem Found.tail {accepts : α → Bool} {p : Pattern α} {c : α} {s : List α}
    (hc : accepts c = false) (h : Found (.one accepts :: p) (c :: s)) :
    Found (.one accepts :: p) s := by
  obtain ⟨a, m, b, v, hs, hm⟩ := h
  cases a with
  | nil =>
    cases hm with
    | one hd _ =>
      obtain ⟨rfl, -⟩ := List.cons.inj hs
      rw [hc] at hd
      cases hd
  | cons d a =>
    obtain ⟨-, rfl⟩ := List.cons.inj hs
    exact ⟨a, m, b, v, rfl, hm⟩

theorem Spells.one_mem {p : Pattern α} {s v : List α} (h : Spells p s v) {accepts : α → Bool}
    (hp : Piece.one accepts ∈ p) : ∃ c ∈ s, accepts c = true := by
  induction h with
  | nil => cases hp
  | one hd _ ih =>
    rcases List.mem_cons.mp hp with heq | hp
    · obtain rfl := Piece.one.inj heq
      exact ⟨_, List.mem_cons_self, hd⟩
    · obtain ⟨c, hc, hac⟩ := ih hp
      exact ⟨c, List.mem_cons_of_mem _ hc, hac⟩
  | many _ _ _ ih =>
    rcases List.mem_cons.mp hp with heq | hp
    · cases heq
    · obtain ⟨c, hc, hac⟩ := ih hp
      exact ⟨c, List.mem_append_right _ hc, hac⟩

/-- A text without a symbol that the pattern needs. -/
theorem not_found_of_missing {p : Pattern α} {s : List α} {accepts : α → Bool}
    (hp : Piece.one accepts ∈ p) (hs : ∀ c ∈ s, accepts c = false) : ¬p.Found s := by
  rintro ⟨a, m, b, v, rfl, hm⟩
  obtain ⟨c, hc, hac⟩ := hm.one_mem hp
  rw [hs c (List.mem_append_right a (List.mem_append_left b hc))] at hac
  cases hac

theorem Spells.captured_nil {p : Pattern α} {s v : List α} (h : Spells p s v)
    (hp : ∀ x ∈ p, x.captured = false) : v = [] := by
  induction h with
  | nil => rfl
  | one _ _ ih => exact ih fun x hx => hp x (List.mem_cons_of_mem _ hx)
  | @many accepts least captured p r s v _ _ _ ih =>
    obtain rfl : captured = false := hp _ List.mem_cons_self
    rw [ih fun x hx => hp x (List.mem_cons_of_mem _ hx)]
    rfl

/-- A piece that accepts one symbol only, where the text has this symbol once: the match goes on
right after it. -/
theorem of_find_after {p q : Pattern α} {sep : α → Bool} {c : α} {a b v : List α}
    (hsep : ∀ d, sep d = true → d = c) (hp : ∀ x ∈ p, x.captured = false) (ha : c ∉ a)
    (hb : c ∉ b) (h : find (p ++ .one sep :: q) (a ++ c :: b) = some v) :
    ∃ m t, b = m ++ t ∧ Spells q m v := by
  obtain ⟨x, m, y, hs, hm⟩ := of_find h
  obtain ⟨m₁, m₂, w₁, w₂, rfl, rfl, hm₁, hm₂⟩ := spells_append hm
  cases hm₂ with
  | @one _ _ d s _ hd hq =>
    obtain rfl := hsep d hd
    have hs : a ++ d :: b = (x ++ m₁) ++ d :: (s ++ y) := by
      rw [hs]
      simp only [List.append_assoc, List.cons_append]
    obtain ⟨-, -, hbq⟩ := (List.append_cons_inj_of_notMem ha hb).mp hs
    rw [hm₁.captured_nil hp, List.nil_append]
    exact ⟨s, y, hbq, hq⟩

theorem Spells.mono {p q : Pattern α} {s v : List α} (h : Spells p s v)
    (hpq : List.Forall₂ Piece.Le p q) : Spells q s v := by
  induction h generalizing q with
  | nil =>
    cases hpq
    exact .nil
  | one hc _ ih =>
    cases hpq with
    | cons hle hrest =>
      cases hle with
      | one hfg => exact .one (hfg _ hc) (ih hrest)
  | many hr hl _ ih =>
    cases hpq with
    | cons hle hrest =>
      cases hle with
      | many hfg => exact .many (fun c hc => hfg c (hr c hc)) hl (ih hrest)

theorem Found.mono {p q : Pattern α} {s : List α} (h : p.Found s)
    (hpq : List.Forall₂ Piece.Le p q) : q.Found s := by
  obtain ⟨a, m, b, v, hs, hm⟩ := h
  exact ⟨a, m, b, v, hs, hm.mono hpq⟩

theorem spells_literal {same : β → α → Bool} {w : List β} {s : List α}
    (h : List.Forall₂ (fun b c => same b c = true) w s) : Spells (literal same w) s [] := by
  induction h with
  | nil => exact .nil
  | cons hbc _ ih => exact .one hbc ih

/-- A text of equal symbols stands for itself. -/
theorem spells_beq [DecidableEq α] {w s v : List α} :
    Spells (literal (fun b c : α => b == c) w) s v ↔ s = w ∧ v = [] := by
  constructor
  · intro h
    induction w generalizing s v with
    | nil =>
      cases h
      exact ⟨rfl, rfl⟩
    | cons b w ih =>
      cases h with
      | one hc h =>
        obtain ⟨rfl, rfl⟩ := ih h
        rw [beq_iff_eq.mp hc]
        exact ⟨rfl, rfl⟩
  · rintro ⟨rfl, rfl⟩
    apply spells_literal
    exact List.forall₂_same.mpr fun b _ => beq_self_eq_true b

theorem found_beq_iff [DecidableEq α] {w s : List α} :
    Found (literal (fun b c : α => b == c) w) s ↔ w <:+: s := by
  constructor
  · rintro ⟨a, m, b, v, rfl, hm⟩
    obtain ⟨rfl, -⟩ := spells_beq.mp hm
    exact ⟨a, b, List.append_assoc a m b⟩
  · rintro ⟨a, b, rfl⟩
    exact ⟨a, w, b, [], List.append_assoc a w b, spells_beq.mpr ⟨rfl, rfl⟩⟩

/-- A part of a text that does not contain a separator is on one of its sides. -/
theorem infix_split [DecidableEq α] {w a b : List α} {c : α} (hc : c ∉ w)
    (h : w <:+: a ++ c :: b) : w <:+: a ∨ w <:+: b := by
  rw [← found_beq_iff] at h
  rw [← found_beq_iff, ← found_beq_iff]
  refine h.split fun x hx => ?_
  obtain ⟨d, hd, rfl⟩ := List.mem_map.mp hx
  exact beq_eq_false_iff_ne.mpr fun heq => hc (heq ▸ hd)

/-! ### What stands behind a match -/

/-- A match at the start of the text, with the captured text and what stands behind the match. -/
def matchRest : Pattern α → List α → Option (List α × List α)
  | [], s => some ([], s)
  | .one _ :: _, [] => none
  | .one accepts :: p, c :: s => if accepts c then matchRest p s else none
  | .many accepts least captured :: p, s =>
    longestFirst least (fun k => (matchRest p (s.drop k)).map fun v =>
      ((if captured then s.take k else []) ++ v.1, v.2)) (s.takeWhile accepts).length

def findRest (p : Pattern α) : List α → Option (List α × List α)
  | [] => matchRest p []
  | c :: s => (matchRest p (c :: s)).or (findRest p s)

/-- What the last one of the matches captures, each of them behind the one before; `n` bounds their
number. -/
def lastMatch (p : Pattern α) : ℕ → List α → Option (List α)
  | 0, _ => none
  | n + 1, s => (findRest p s).bind fun v => (lastMatch p n v.2).or (some v.1)

theorem longestFirst_map {γ : Type*} (least : ℕ) (f : ℕ → Option β) (g : β → γ) (n : ℕ) :
    (longestFirst least f n).map g = longestFirst least (fun k => (f k).map g) n := by
  induction n with
  | zero =>
    rw [longestFirst, longestFirst]
    split_ifs
    · rfl
    · rfl
  | succ n ih =>
    rw [longestFirst, longestFirst]
    split_ifs
    · rw [← ih, Option.map_or]
    · rfl

theorem matchHere_eq (p : Pattern α) (s : List α) :
    matchHere p s = (matchRest p s).map Prod.fst := by
  induction p generalizing s with
  | nil => rfl
  | cons x p ih =>
    cases x with
    | one accepts =>
      cases s with
      | nil => rfl
      | cons c s =>
        rw [matchHere, matchRest]
        split_ifs
        · exact ih s
        · rfl
    | many accepts least captured =>
      rw [matchHere, matchRest, longestFirst_map]
      congr 1
      funext k
      rw [ih, Option.map_map, Option.map_map]
      rfl

theorem find_eq (p : Pattern α) (s : List α) : find p s = (findRest p s).map Prod.fst := by
  induction s with
  | nil => exact matchHere_eq p []
  | cons c s ih => rw [find, findRest, matchHere_eq, ih, Option.map_or]

/-- The rest of the pattern is matched right behind its first part. -/
theorem of_matchRest_append {p q : Pattern α} {s v rest : List α}
    (h : matchRest (p ++ q) s = some (v, rest)) :
    ∃ m b w v', s = m ++ b ∧ Spells p m w ∧ matchRest q b = some (v', rest) ∧ v = w ++ v' := by
  induction p generalizing s v with
  | nil => exact ⟨[], s, [], v, rfl, .nil, h, rfl⟩
  | cons x p ih =>
    cases x with
    | one accepts =>
      cases s with
      | nil => simp [matchRest] at h
      | cons c s =>
        rw [List.cons_append, matchRest] at h
        split_ifs at h with hc
        obtain ⟨m, b, w, v', rfl, hm, hq, rfl⟩ := ih h
        exact ⟨c :: m, b, w, v', rfl, .one hc hm, hq, rfl⟩
    | many accepts least captured =>
      rw [List.cons_append, matchRest] at h
      obtain ⟨k, hk, hkn, hf⟩ := longestFirst_eq_some h
      obtain ⟨⟨w, rest'⟩, hw, heq⟩ := Option.map_eq_some_iff.mp hf
      obtain ⟨rfl, rfl⟩ := Prod.mk.inj heq
      obtain ⟨m, b, w', v', hb, hm, hq, rfl⟩ := ih hw
      obtain ⟨hlength, haccepted⟩ := take_accepted hkn
      refine ⟨s.take k ++ m, b, _ ++ w', v', ?_, .many haccepted (by omega) hm, hq, ?_⟩
      · rw [List.append_assoc, ← hb, List.take_append_drop]
      · rw [List.append_assoc]

/-- A run at the end of a pattern is as long as it can be. -/
theorem matchRest_many {accepts : α → Bool} {least : ℕ} {captured : Bool} {s v rest : List α}
    (h : matchRest [.many accepts least captured] s = some (v, rest)) :
    least ≤ (s.takeWhile accepts).length ∧ v = (if captured then s.takeWhile accepts else []) ∧
      rest = s.dropWhile accepts := by
  have hsplit := s.takeWhile_append_dropWhile (p := accepts)
  have htake : s.take (s.takeWhile accepts).length = s.takeWhile accepts :=
    (List.prefix_iff_eq_take.mp (List.takeWhile_prefix accepts)).symm
  have hdrop : s.drop (s.takeWhile accepts).length = s.dropWhile accepts := by
    have hcut := congrArg (List.drop (s.takeWhile accepts).length) hsplit
    rw [List.drop_left] at hcut
    exact hcut.symm
  rw [matchRest] at h
  obtain ⟨k, hk, hkn, -⟩ := longestFirst_eq_some h
  have hle : least ≤ (s.takeWhile accepts).length := hk.trans hkn
  obtain ⟨rfl, rfl⟩ :=
    Prod.mk.inj (Option.some.inj (h.symm.trans (longestFirst_of_some hle rfl)))
  rw [htake, hdrop, List.append_nil]
  exact ⟨hle, rfl, rfl⟩

theorem of_findRest {p : Pattern α} {s v rest : List α} (h : findRest p s = some (v, rest)) :
    ∃ a b, s = a ++ b ∧ matchRest p b = some (v, rest) := by
  induction s with
  | nil => exact ⟨[], [], rfl, h⟩
  | cons c s ih =>
    rcases Option.or_eq_some_iff.mp h with h | ⟨-, h⟩
    · exact ⟨[], c :: s, rfl, h⟩
    · obtain ⟨a, b, rfl, hb⟩ := ih h
      exact ⟨c :: a, b, rfl, hb⟩

end Pattern

import Mathlib.Data.List.Basic
import Mathlib.Data.List.TakeWhile

/-! Texts as words: where a text that ends before a separator can stand in a text that is cut at
its first separator, and texts that begin with a run of a class. -/

namespace Words

variable {α : Type*} {c : α} {w t s : List α}

/-- A text has one cut at its first separator. -/
theorem cut_unique {r : List α} (hw : c ∉ w) (ht : c ∉ t) (h : w ++ c :: r = t ++ c :: s) :
    w = t ∧ r = s := by
  induction w generalizing t with
  | nil =>
    cases t with
    | nil => exact ⟨rfl, (List.cons.inj h).2⟩
    | cons d t =>
      obtain ⟨rfl, -⟩ := List.cons.inj h
      exact absurd List.mem_cons_self ht
  | cons d w ih =>
    rw [List.mem_cons, not_or] at hw
    cases t with
    | nil => exact absurd (List.cons.inj h).1.symm hw.1
    | cons e t =>
      obtain ⟨rfl, hrest⟩ := List.cons.inj h
      obtain ⟨rfl, rfl⟩ := ih hw.2 (fun hmem => ht (List.mem_cons_of_mem _ hmem)) hrest
      exact ⟨rfl, rfl⟩

/-- It ends at the cut, or it stands behind it. -/
theorem cut {x r : List α} (hw : c ∉ w) (ht : c ∉ t) (h : x ++ (w ++ c :: r) = t ++ c :: s) :
    (x ++ w = t ∧ r = s) ∨ ∃ y, x = t ++ c :: y ∧ y ++ (w ++ c :: r) = s := by
  rcases List.append_eq_append_iff.mp h with ⟨u, rfl, hu⟩ | ⟨u, rfl, hu⟩
  · have hcu : c ∉ u := fun hmem => ht (List.mem_append_right x hmem)
    obtain ⟨rfl, rfl⟩ := cut_unique hw hcu hu
    exact .inl ⟨rfl, rfl⟩
  · cases u with
    | nil =>
      obtain ⟨rfl, rfl⟩ := cut_unique List.not_mem_nil hw hu
      exact .inl ⟨by rw [List.append_nil, List.append_nil], rfl⟩
    | cons d u =>
      obtain ⟨rfl, hs⟩ := List.cons.inj hu
      exact .inr ⟨u, rfl, hs.symm⟩

theorem infix_iff (hw : c ∉ w) (ht : c ∉ t) :
    (w ++ [c]) <:+: (t ++ c :: s) ↔ w <:+ t ∨ (w ++ [c]) <:+: s := by
  constructor
  · rintro ⟨x, r, h⟩
    rw [List.append_assoc, List.append_assoc, List.singleton_append] at h
    rcases cut hw ht h with ⟨ht, -⟩ | ⟨y, -, hs⟩
    · exact .inl ⟨x, ht⟩
    · refine .inr ⟨y, r, ?_⟩
      rw [List.append_assoc, List.append_assoc, List.singleton_append, hs]
  · rintro (⟨x, rfl⟩ | ⟨y, r, rfl⟩)
    · exact ⟨x, s, by simp⟩
    · exact ⟨t ++ c :: y, r, by simp⟩

theorem not_infix_of_notMem (hs : c ∉ s) : ¬(w ++ [c]) <:+: s := by
  rintro ⟨x, r, rfl⟩
  exact hs (by simp)

/-- Behind separators only. -/
theorem infix_replicate_iff (hw : c ∉ w) (hne : w ≠ []) (n : ℕ) :
    (w ++ [c]) <:+: (List.replicate n c ++ s) ↔ (w ++ [c]) <:+: s := by
  induction n with
  | zero => rfl
  | succ n ih =>
    have h := infix_iff (s := List.replicate n c ++ s) hw (List.not_mem_nil (a := c))
    rw [List.nil_append, List.suffix_nil, ih] at h
    rw [List.replicate_succ, List.cons_append, h]
    exact or_iff_right hne

/-- Two ways to begin with a run of a class that something else follows. -/
theorem run_unique {p : α → Bool} {r r' s' : List α} (hr : ∀ d ∈ r, p d = true)
    (hr' : ∀ d ∈ r', p d = true) (hs : s.takeWhile p = []) (hs' : s'.takeWhile p = [])
    (h : r ++ s = r' ++ s') : r = r' ∧ s = s' := by
  have htake := congrArg (List.takeWhile p) h
  rw [List.takeWhile_append_of_pos hr, List.takeWhile_append_of_pos hr', hs, hs', List.append_nil,
    List.append_nil] at htake
  subst htake
  exact ⟨rfl, List.append_cancel_left h⟩

end Words

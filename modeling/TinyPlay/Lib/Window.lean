import Mathlib.Data.List.Basic

/-! The window of a history: what comes from its first start up to the next stop. A history that
grows at its end passes through three phases, and in each of them the next element says what
becomes of the window and of the rest. -/

namespace Window

variable {α : Type*} (start stop : α → Bool)

/-- From the first start, inclusive, to the next stop, exclusive. -/
def window (l : List α) : List α := (l.dropWhile fun a => !start a).takeWhile fun a => !stop a

/-- Everything but the window. -/
def outside (l : List α) : List α :=
  (l.takeWhile fun a => !start a) ++ (l.dropWhile fun a => !start a).dropWhile fun a => !stop a

inductive Phase where
  | before
  | inside
  | after
  deriving DecidableEq, Repr

/-- A history in its phase, with its window and with the rest. -/
inductive Split : Phase → List α → List α → List α → Prop where
  | before {l : List α} (hl : ∀ a ∈ l, start a = false) : Split .before l [] l
  | inside {l w : List α} {a : α} (hl : ∀ a ∈ l, start a = false) (ha : start a = true)
      (hw : ∀ b ∈ a :: w, stop b = false) : Split .inside (l ++ a :: w) (a :: w) l
  | after {l w l' : List α} {a b : α} (hl : ∀ a ∈ l, start a = false) (ha : start a = true)
      (hw : ∀ b ∈ a :: w, stop b = false) (hb : stop b = true) :
      Split .after (l ++ a :: w ++ b :: l') (a :: w) (l ++ b :: l')

variable {start stop} {l w o : List α} {a : α}

theorem split_nil : Split start stop .before [] [] [] :=
  .before fun _ h => by cases h

theorem Split.window_eq {p : Phase} (h : Split start stop p l w o) : window start stop l = w := by
  unfold window
  cases h with
  | before hl =>
    rw [← List.append_nil l, List.dropWhile_append_of_pos (by simpa using hl)]
    rfl
  | inside hl ha hw =>
    rw [List.dropWhile_append_of_pos (by simpa using hl), List.dropWhile_cons_of_neg (by simp [ha])]
    rw [← List.append_nil (List.cons _ _), List.takeWhile_append_of_pos (by simpa using hw)]
    simp
  | after hl ha hw hb =>
    rw [List.append_assoc, List.dropWhile_append_of_pos (by simpa using hl), List.cons_append,
      List.dropWhile_cons_of_neg (by simp [ha]), ← List.cons_append,
      List.takeWhile_append_of_pos (by simpa using hw), List.takeWhile_cons_of_neg (by simp [hb]),
      List.append_nil]

theorem Split.outside_eq {p : Phase} (h : Split start stop p l w o) : outside start stop l = o := by
  unfold outside
  cases h with
  | before hl =>
    rw [← List.append_nil l, List.dropWhile_append_of_pos (by simpa using hl),
      List.takeWhile_append_of_pos (by simpa using hl)]
    simp
  | @inside o w a hl ha hw =>
    rw [List.takeWhile_append_of_pos (by simpa using hl), List.takeWhile_cons_of_neg (by simp [ha]),
      List.append_nil, List.dropWhile_append_of_pos (by simpa using hl),
      List.dropWhile_cons_of_neg (by simp [ha]), ← List.append_nil (List.cons _ _),
      List.dropWhile_append_of_pos (by simpa using hw), List.dropWhile_nil, List.append_nil]
  | @after l w l' a b hl ha hw hb =>
    rw [List.append_assoc, List.takeWhile_append_of_pos (by simpa using hl), List.cons_append,
      List.takeWhile_cons_of_neg (by simp [ha]), List.append_nil,
      List.dropWhile_append_of_pos (by simpa using hl), List.dropWhile_cons_of_neg (by simp [ha]),
      ← List.cons_append, List.dropWhile_append_of_pos (by simpa using hw),
      List.dropWhile_cons_of_neg (by simp [hb])]

/-! ### One more element -/

theorem Split.snoc_before (h : Split start stop .before l w o) (ha : start a = false) :
    Split start stop .before (l ++ [a]) w (o ++ [a]) := by
  cases h with
  | before hl =>
    refine .before ?_
    intro b hb
    rcases List.mem_append.mp hb with hb | hb
    · exact hl b hb
    · rw [List.mem_singleton.mp hb, ha]

theorem Split.snoc_start (h : Split start stop .before l w o) (ha : start a = true)
    (hstop : stop a = false) : Split start stop .inside (l ++ [a]) [a] o := by
  cases h with
  | before hl =>
    refine .inside hl ha ?_
    intro b hb
    rw [List.mem_singleton.mp hb, hstop]

theorem Split.snoc_inside (h : Split start stop .inside l w o) (ha : stop a = false) :
    Split start stop .inside (l ++ [a]) (w ++ [a]) o := by
  cases h with
  | @inside l w s hl hs hw =>
    rw [List.append_assoc, List.cons_append]
    refine .inside hl hs ?_
    intro b hb
    rw [← List.cons_append] at hb
    rcases List.mem_append.mp hb with hb | hb
    · exact hw b hb
    · rw [List.mem_singleton.mp hb, ha]

theorem Split.snoc_stop (h : Split start stop .inside l w o) (ha : stop a = true) :
    Split start stop .after (l ++ [a]) w (o ++ [a]) := by
  cases h with
  | inside hl hs hw => exact .after hl hs hw ha

theorem Split.snoc_after (h : Split start stop .after l w o) :
    Split start stop .after (l ++ [a]) w (o ++ [a]) := by
  cases h with
  | @after l w l' s b hl hs hw hb =>
    have hsnoc : Split start stop .after (l ++ s :: w ++ b :: (l' ++ [a])) (s :: w)
        (l ++ b :: (l' ++ [a])) := .after hl hs hw hb
    simpa using hsnoc

end Window

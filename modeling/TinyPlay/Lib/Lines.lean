import Mathlib.Data.List.Basic

/-! The lines of a text. A line feed, a carriage return or the two in this order end a line. -/

namespace Lines

/-- `rev` has been read of the line so far, its last symbol first; `afterReturn` says that the
symbol before was a carriage return, which has ended its line already. -/
def linesFrom (rev : List Char) (afterReturn : Bool) : List Char → List (List Char)
  | [] => if rev.isEmpty then [] else [rev.reverse]
  | c :: s =>
    if afterReturn && c == '\n' then linesFrom rev false s
    else if c == '\n' || c == '\r' then rev.reverse :: linesFrom [] (c == '\r') s
    else linesFrom (c :: rev) false s

def lines (s : List Char) : List (List Char) := linesFrom [] false s

theorem linesFrom_append (rev : List Char) (afterReturn : Bool) (a s : List Char)
    (h : afterReturn = true → rev = []) :
    linesFrom rev afterReturn (a ++ '\n' :: s) =
      linesFrom rev afterReturn (a ++ ['\n']) ++ lines s := by
  induction a generalizing rev afterReturn with
  | nil =>
    cases afterReturn with
    | false => simp [linesFrom, lines]
    | true =>
      obtain rfl := h rfl
      simp [linesFrom, lines]
  | cons c a ih =>
    rw [List.cons_append, List.cons_append, linesFrom, linesFrom]
    split_ifs with hskip hend
    · rw [Bool.and_eq_true] at hskip
      exact ih rev false fun hf => by cases hf
    · rw [ih [] (c == '\r') fun _ => rfl, List.cons_append]
    · exact ih (c :: rev) false fun hf => by cases hf

/-- A line feed ends a line in any context. -/
theorem lines_append (a s : List Char) :
    lines (a ++ '\n' :: s) = lines (a ++ ['\n']) ++ lines s :=
  linesFrom_append [] false a s fun _ => rfl

theorem lines_flatMap (messages : List (List Char)) (s : List Char) :
    lines ((messages.flatMap fun m => m ++ ['\n']) ++ s) =
      (messages.flatMap fun m => lines (m ++ ['\n'])) ++ lines s := by
  induction messages with
  | nil => rfl
  | cons m messages ih =>
    rw [List.flatMap_cons, List.flatMap_cons, List.append_assoc, List.append_assoc,
      List.singleton_append, lines_append, ih, List.append_assoc]

theorem infix_of_mem_linesFrom {rev : List Char} {afterReturn : Bool} {s l : List Char}
    (hrev : afterReturn = true → rev = [])
    (h : l ∈ linesFrom rev afterReturn (s ++ ['\n'])) :
    ∃ a b, rev.reverse ++ s = a ++ (l ++ b) := by
  induction s generalizing rev afterReturn with
  | nil =>
    rw [List.nil_append, linesFrom] at h
    split_ifs at h with hskip
    · rw [Bool.and_eq_true] at hskip
      obtain rfl := hrev hskip.1
      simp [linesFrom] at h
    · obtain rfl : l = rev.reverse := by simpa [linesFrom] using h
      exact ⟨[], [], by simp⟩
    · contradiction
  | cons c s ih =>
    rw [List.cons_append, linesFrom] at h
    split_ifs at h with hskip hend
    · rw [Bool.and_eq_true] at hskip
      obtain rfl := hrev hskip.1
      obtain ⟨a, b, hs⟩ := ih (fun hf => by cases hf) h
      rw [List.reverse_nil, List.nil_append] at hs
      exact ⟨c :: a, b, by rw [List.reverse_nil, List.nil_append, hs, List.cons_append]⟩
    · rcases List.mem_cons.mp h with rfl | h
      · exact ⟨[], c :: s, rfl⟩
      · obtain ⟨a, b, hs⟩ := ih (fun _ => rfl) h
        rw [List.reverse_nil, List.nil_append] at hs
        exact ⟨rev.reverse ++ c :: a, b, by rw [hs, List.append_assoc, List.cons_append]⟩
    · obtain ⟨a, b, hs⟩ := ih (fun hf => by cases hf) h
      exact ⟨a, b, by rw [← hs, List.reverse_cons, List.append_assoc, List.singleton_append]⟩

/-- A line of a message is a part of the message. -/
theorem infix_of_mem_lines {s l : List Char} (h : l ∈ lines (s ++ ['\n'])) :
    ∃ a b, s = a ++ (l ++ b) :=
  infix_of_mem_linesFrom (fun hf => by cases hf) h

/-- Decided along the text; the instance for all characters would try each character there is. -/
instance decidableForallMem (p : Char → Prop) [DecidablePred p] (s : List Char) :
    Decidable (∀ c ∈ s, p c) :=
  List.decidableBAll p s

/-- A text without a line end. -/
def Unbroken (s : List Char) : Prop := ∀ c ∈ s, c ≠ '\n' ∧ c ≠ '\r'

instance (s : List Char) : Decidable (Unbroken s) :=
  inferInstanceAs (Decidable (∀ c ∈ s, c ≠ '\n' ∧ c ≠ '\r'))

theorem unbroken_append {s t : List Char} : Unbroken (s ++ t) ↔ Unbroken s ∧ Unbroken t :=
  List.forall_mem_append

theorem linesFrom_of_unbroken {rev s : List Char} (h : Unbroken s) :
    linesFrom rev false (s ++ ['\n']) = [rev.reverse ++ s] := by
  induction s generalizing rev with
  | nil => simp [linesFrom]
  | cons c s ih =>
    obtain ⟨hn, hr⟩ := h c List.mem_cons_self
    rw [List.cons_append, linesFrom, if_neg (by simp), if_neg (by simp [hn, hr]),
      ih fun d hd => h d (List.mem_cons_of_mem c hd), List.reverse_cons, List.append_assoc,
      List.singleton_append]

theorem lines_of_unbroken {s : List Char} (h : Unbroken s) : lines (s ++ ['\n']) = [s] :=
  linesFrom_of_unbroken h

theorem linesFrom_ne_nil (rev s : List Char) : linesFrom rev false (s ++ ['\n']) ≠ [] := by
  induction s generalizing rev with
  | nil => simp [linesFrom]
  | cons c s ih =>
    rw [List.cons_append, linesFrom, if_neg (by simp)]
    split_ifs
    · exact List.cons_ne_nil _ _
    · exact ih (c :: rev)

theorem lines_ne_nil (s : List Char) : lines (s ++ ['\n']) ≠ [] :=
  linesFrom_ne_nil [] s

end Lines

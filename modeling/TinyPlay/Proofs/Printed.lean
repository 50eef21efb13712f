import TinyPlay.Proofs.Matching

/-! What the script reads of each printed message. A message that does not name 'execution time'
yields nothing, whatever the names in it are; the others carry one number after their label. -/

namespace TinyPlay

open Lines Pattern Culture

variable {u : Culture}

/-! ### Messages and lines -/

def messageLines (message : String) : List (List Char) := lines (message.toList ++ ['\n'])

def messageReads (p : Pattern Char) (message : String) : List (List Char) :=
  selectString p (messageLines message)

theorem lines_consoleText (messages : List String) (s : List Char) :
    lines (consoleText messages ++ s) = messages.flatMap messageLines ++ lines s := by
  have h := lines_flatMap (messages.map String.toList) s
  simp only [List.flatMap_map] at h
  exact h

theorem selectString_flatMap (p : Pattern Char) (messages : List String) :
    selectString p (messages.flatMap messageLines) = messages.flatMap (messageReads p) :=
  List.filterMap_flatMap

theorem messageLines_append (s t : String) :
    messageLines (s ++ "\n" ++ t) = messageLines s ++ messageLines t := by
  unfold messageLines
  rw [String.toList_append, String.toList_append, List.append_assoc, List.append_assoc]
  exact lines_append s.toList (t.toList ++ ['\n'])

theorem messageReads_append (p : Pattern Char) (s t : String) :
    messageReads p (s ++ "\n" ++ t) = messageReads p s ++ messageReads p t := by
  unfold messageReads selectString
  rw [messageLines_append, List.filterMap_append]

theorem messageLines_of_unbroken {m : String} (h : Unbroken m.toList) :
    messageLines m = [m.toList] :=
  lines_of_unbroken h

theorem messageReads_of_unbroken (p : Pattern Char) {m : String} (h : Unbroken m.toList) :
    messageReads p m = (p.find m.toList).toList := by
  unfold messageReads selectString
  rw [messageLines_of_unbroken h]
  cases hfind : p.find m.toList <;> simp [hfind]

theorem messageReads_eq_nil {p q : Pattern Char} {m : String} (h : ¬q.Found m.toList)
    (hpq : ∀ l, p.Found l → q.Found l) : messageReads p m = [] := by
  apply List.filterMap_eq_nil_iff.mpr
  intro l hl
  obtain ⟨a, b, hm⟩ := infix_of_mem_lines hl
  rw [find_eq_none_iff]
  intro hfound
  apply h
  rw [hm]
  exact (hpq l hfound).within a b

/-! ### The patterns for elapsed times -/

inductive Elapsed where
  | functions
  | queriesLast
  | queriesAverage
  | total
  deriving DecidableEq, Repr

namespace Elapsed

def label : Elapsed → String
  | functions => "Functions execution time"
  | queriesLast => "Queries execution time"
  | queriesAverage => "Queries execution time"
  | total => "Total TestOrm instance execution time"

def gap (u : Culture) : Elapsed → Pattern Char
  | functions => blanks 1
  | queriesLast => blanks 1
  | queriesAverage => blanks 2
  | total => u.text " "

def pattern (u : Culture) : Elapsed → Pattern Char
  | functions => u.functionsPattern
  | queriesLast => u.queriesLastPattern
  | queriesAverage => u.queriesAveragePattern
  | total => u.totalPattern

theorem pattern_eq (k : Elapsed) : k.pattern u = u.elapsedPattern k.label (k.gap u) := by
  cases k <;> rfl

/-- What precedes the colon. -/
def key (u : Culture) (k : Elapsed) : Pattern Char := u.text k.label ++ k.gap u

theorem gap_captured (k : Elapsed) : ∀ x ∈ k.gap u, x.captured = false := by
  cases k <;> simp [gap, blanks, Culture.text, literal, Piece.captured]

theorem blanks_reject_colon (least : ℕ) : ∀ x ∈ blanks least, x.accepts ':' = false := by
  intro x hx
  obtain rfl := List.mem_singleton.mp hx
  rfl

theorem key_rejects_colon (k : Elapsed) : ∀ x ∈ k.key u, x.accepts ':' = false := by
  have hgap : ∀ x ∈ k.gap u, x.accepts ':' = false := by
    cases k with
    | functions | queriesLast => exact blanks_reject_colon 1
    | queriesAverage => exact blanks_reject_colon 2
    | total => exact text_rejects rfl (by decide)
  exact List.forall_mem_append.mpr ⟨text_rejects rfl (by cases k <;> decide), hgap⟩

theorem key_le_wide (k : Elapsed) : List.Forall₂ Piece.Le (k.key u) (k.key wide) := by
  apply List.rel_append
  · exact text_le_wide k.label
  · cases k with
    | functions => exact .cons (Piece.Le.refl _) .nil
    | queriesLast => exact .cons (Piece.Le.refl _) .nil
    | queriesAverage => exact .cons (Piece.Le.refl _) .nil
    | total => exact text_le_wide " "

theorem x_mem_label (k : Elapsed) : 'x' ∈ k.label.toList := by
  cases k <;> decide

/-- The line of another label, with a value that has no `x` in it. -/
theorem find_other {k : Elapsed} {before after : List Char}
    (hbefore : (k.key wide).find before = none) (hafter : ∀ c ∈ after, isNot 'x' c = true) :
    (k.pattern u).find (before ++ ':' :: after) = none := by
  rw [k.pattern_eq]
  refine find_elapsed_none ?_ k.x_mem_label k.key_rejects_colon hafter
  intro hfound
  exact find_eq_none_iff.mp hbefore (hfound.mono k.key_le_wide)

end Elapsed

/-- A text without 'execution time' in any letter case. -/
def Silent (u : Culture) (s : List Char) : Prop := ¬(u.text "execution time").Found s

theorem silent_of_wide {s : List Char} (h : (wide.text "execution time").find s = none) :
    Silent u s :=
  not_found_text h

theorem silent_of_isNot {s : List Char} (h : ∀ c ∈ s, isNot 'x' c = true) : Silent u s :=
  not_found_of_isNot rfl (by decide) h

theorem silent_split {a b : List Char} {c : Char} (hc : isAscii c = true)
    (hrejects : ("execution time".toList.all fun a => a.toLower != c.toLower) = true)
    (ha : Silent u a) (hb : Silent u b) : Silent u (a ++ c :: b) := by
  intro h
  exact (h.split (text_rejects hc hrejects)).elim ha hb

theorem Elapsed.label_eq (k : Elapsed) : ∃ start, k.label = start ++ "execution time" := by
  cases k with
  | functions => exact ⟨"Functions ", rfl⟩
  | queriesLast | queriesAverage => exact ⟨"Queries ", rfl⟩
  | total => exact ⟨"Total TestOrm instance ", rfl⟩

theorem Elapsed.silent {k : Elapsed} {l : List Char} (h : (k.pattern u).Found l) :
    (u.text "execution time").Found l := by
  rw [k.pattern_eq, elapsedPattern] at h
  have hlabel : (u.text k.label).Found l := h.left
  obtain ⟨start, hstart⟩ := k.label_eq
  rw [hstart, text_append] at hlabel
  exact hlabel.right

theorem messageReads_silent (k : Elapsed) {m : String} (h : Silent u m.toList) :
    messageReads (k.pattern u) m = [] :=
  messageReads_eq_nil h fun _ => Elapsed.silent

/-- The check is one evaluation, for every culture and every pattern. -/
theorem reads_of_wide (k : Elapsed) {m : String}
    (h : (wide.text "execution time").find m.toList = none) : messageReads (k.pattern u) m = [] :=
  messageReads_silent k (silent_of_wide h)

theorem reads_empty (k : Elapsed) : messageReads (k.pattern u) "" = [] :=
  reads_of_wide k (by decide)

theorem reads_end (k : Elapsed) : messageReads (k.pattern u) "---" = [] :=
  reads_of_wide k (by decide)

/-! ### Values -/

/-- A value that fits after a label: it ends no line and has no `x` in it. -/
def PlainValue (value : String) : Prop :=
  Unbroken value.toList ∧ ∀ c ∈ value.toList, isNot 'x' c = true

instance (value : String) : Decidable (PlainValue value) :=
  inferInstanceAs (Decidable (_ ∧ _))

theorem plain_append {v w : String} (hv : PlainValue v) (hw : PlainValue w) :
    PlainValue (v ++ w) := by
  unfold PlainValue
  rw [String.toList_append]
  exact ⟨unbroken_append.mpr ⟨hv.1, hw.1⟩, List.forall_mem_append.mpr ⟨hv.2, hw.2⟩⟩

theorem isDigit_of_mem_repr {n : ℕ} {c : Char} (hc : c ∈ n.repr.toList) : c.isDigit = true := by
  rw [Nat.toList_repr] at hc
  exact Nat.isDigit_of_mem_toDigits (by omega) (by omega) hc

theorem repr_ne_nil (n : ℕ) : n.repr.toList ≠ [] := by
  rw [Nat.toList_repr]
  exact Nat.toDigits_ne_nil

theorem unbroken_of_digits {s : List Char} (h : ∀ c ∈ s, c.isDigit = true) : Unbroken s := by
  intro c hc
  constructor
  · rintro rfl
    exact absurd (h _ hc) (by decide)
  · rintro rfl
    exact absurd (h _ hc) (by decide)

theorem plain_nat (n : ℕ) : PlainValue n.repr :=
  ⟨unbroken_of_digits fun _ hc => isDigit_of_mem_repr hc,
    fun _ hc => isNot_of_isDigit rfl rfl (isDigit_of_mem_repr hc)⟩

theorem plain_milliseconds (n : ℕ) : PlainValue (n.repr ++ "ms") :=
  plain_append (plain_nat n) (by decide)

theorem plain_int (n : ℤ) : PlainValue (toString n) := by
  rw [Int.toString_eq_repr, Int.repr_eq_if]
  split_ifs
  · exact plain_nat _
  · exact plain_append (by decide) (plain_nat _)

theorem plain_yesNo (b : Bool) : PlainValue (yesNo b) := by
  cases b <;> decide

/-! ### Labelled lines -/

theorem unbroken_labelled {label value : String} (hlabel : Unbroken label.toList)
    (hvalue : Unbroken value.toList) : Unbroken (label ++ ": " ++ value).toList := by
  rw [String.toList_append, String.toList_append, unbroken_append, unbroken_append]
  exact ⟨⟨hlabel, by decide⟩, hvalue⟩

theorem toList_labelled (label value : String) :
    (label ++ ": " ++ value).toList = label.toList ++ ':' :: ' ' :: value.toList := by
  rw [String.toList_append, String.toList_append, List.append_assoc]
  rfl

/-- The value after a label without 'execution time' is not read. -/
theorem Elapsed.reads_unlabelled (k : Elapsed) (label : String) {start value : String}
    (hstart : start = label ++ ": ")
    (hlabel : (wide.text "execution time").find label.toList = none) (hvalue : PlainValue value) :
    messageReads (k.pattern u) (start ++ value) = [] := by
  have hafter : ∀ c ∈ ' ' :: value.toList, isNot 'x' c = true :=
    List.forall_mem_cons.mpr ⟨rfl, hvalue.2⟩
  apply messageReads_silent k
  rw [hstart, toList_labelled]
  exact silent_split rfl (by decide) (silent_of_wide hlabel) (silent_of_isNot hafter)

/-- The value after the label of another time is not read. -/
theorem Elapsed.reads_other (k : Elapsed) (label : String) {start value : String}
    (hstart : start = label ++ ": ") (hkey : (k.key wide).find label.toList = none)
    (hlabel : Unbroken label.toList) (hvalue : PlainValue value) :
    messageReads (k.pattern u) (start ++ value) = [] := by
  have hafter : ∀ c ∈ ' ' :: value.toList, isNot 'x' c = true :=
    List.forall_mem_cons.mpr ⟨rfl, hvalue.2⟩
  rw [hstart, messageReads_of_unbroken _ (unbroken_labelled hlabel hvalue.1), toList_labelled,
    find_other hkey hafter]
  rfl

/-- The number after its label is read. -/
theorem Elapsed.reads_number (k : Elapsed) (before labelled : String) {start : String} (n : ℕ)
    (hstart : start = before ++ labelled ++ ": ")
    (hkey : Spells (k.key u) labelled.toList []) (hcolon : ':' ∉ (before ++ labelled).toList)
    (hlabel : Unbroken (before ++ labelled).toList) :
    messageReads (k.pattern u) (start ++ (n.repr ++ "ms")) = [n.repr.toList] := by
  rw [String.toList_append] at hcolon
  rw [hstart, messageReads_of_unbroken _ (unbroken_labelled hlabel (plain_milliseconds n).1),
    toList_labelled,
    String.toList_append, String.toList_append, k.pattern_eq]
  have hdigits : ∀ c ∈ n.repr.toList, c.isDigit = true := fun _ hc => isDigit_of_mem_repr hc
  rw [show "ms".toList = ['m', 's'] from rfl,
    find_elapsed k.gap_captured hkey hcolon (repr_ne_nil n) hdigits]
  rfl

end TinyPlay

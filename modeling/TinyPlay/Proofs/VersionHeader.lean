import TinyPlay.Lib.Words
import TinyPlay.Spec.VersionHeader

/-! Reading the version header back: the four numbers of a header are what `tiny_read_version`
returns, whatever else the header has and however its lines end. -/

namespace TinyPlay.VersionHeader

open CMake Pattern

/-! ### A line of the header -/

/-- `#define TINYPLAY_VERSION_MAJOR 0`, with `spaces` more spaces in front of the number. -/
structure Line where
  name : Text
  spaces : ℕ
  number : Text
  named : ∀ c ∈ name, c = '_' ∨ c.isAlphanum = true
  numeral : Version.Numeral number

def directive : Text := ['#', 'd', 'e', 'f', 'i', 'n', 'e']

def Line.text (l : Line) : Text :=
  directive ++ ' ' :: (l.name ++ ' ' :: (List.replicate l.spaces ' ' ++ l.number))

theorem Line.space_notMem_name (l : Line) : ' ' ∉ l.name := by
  intro h
  rcases l.named _ h with h | h
  · exact absurd h (by decide)
  · exact absurd h (by decide)

theorem Line.notMem_number (l : Line) {c : Char} (hc : c.isDigit = false) : c ∉ l.number := by
  intro h
  rw [l.numeral.2 c h] at hc
  cases hc

theorem Line.takeWhile_number (l : Line) (s : Text) :
    (l.number ++ s).takeWhile (· == ' ') = [] := by
  obtain ⟨d, w, hw⟩ := List.exists_cons_of_ne_nil l.numeral.1
  have hd : d ≠ ' ' := by
    rintro rfl
    exact l.notMem_number (by decide) (hw ▸ List.mem_cons_self)
  rw [hw, List.cons_append, List.takeWhile_cons, if_neg (by simpa using hd)]

/-- The lines as the elements of a list. -/
def elements : List Line → Text
  | [] => []
  | l :: lines => ';' :: (l.text ++ elements lines)

/-- A keyword: a word that ends neither the directive nor a number. -/
structure Keyword (w : Text) : Prop where
  unspaced : ' ' ∉ w
  last : ∃ v d, w = v ++ [d] ∧ d ≠ 'e' ∧ d ≠ ' '

theorem Keyword.ne_nil {w : Text} (h : Keyword w) : w ≠ [] := by
  obtain ⟨v, d, rfl, -, -⟩ := h.last
  simp

/-- The directive does not end in a keyword. -/
theorem Keyword.not_suffix {w : Text} (h : Keyword w) (s : Text) :
    ¬w <:+ s ++ directive := by
  rintro ⟨u, hu⟩
  obtain ⟨v, d, rfl, hd, -⟩ := h.last
  have hlast := congrArg List.getLast? hu
  rw [directive, ← List.append_assoc, List.getLast?_concat] at hlast
  simp only [List.getLast?_append, List.getLast?_cons_cons, List.getLast?_singleton,
    Option.some_or, Option.some.injEq] at hlast
  exact hd hlast

/-- Where a keyword is not the end of a later name, no space follows it behind the first number. -/
theorem not_infix_rest {w : Text} (hw : Keyword w) (l : Line) {lines : List Line}
    (hlines : ∀ l' ∈ lines, ¬w <:+ l'.name) :
    ¬(w ++ [' ']) <:+: (List.replicate l.spaces ' ' ++ (l.number ++ elements lines)) := by
  induction lines generalizing l with
  | nil =>
    rw [Words.infix_replicate_iff hw.unspaced hw.ne_nil]
    refine Words.not_infix_of_notMem ?_
    rw [elements, List.append_nil]
    exact l.notMem_number (by decide)
  | cons l' lines ih =>
    rw [List.forall_mem_cons] at hlines
    have hword : ' ' ∉ (l.number ++ [';']) ++ directive := by
      rw [List.mem_append, List.mem_append, not_or, not_or]
      exact ⟨⟨l.notMem_number (by decide), by decide⟩, by decide⟩
    have heq : l.number ++ elements (l' :: lines) =
        ((l.number ++ [';']) ++ directive) ++ ' ' :: (l'.name ++ ' ' ::
          (List.replicate l'.spaces ' ' ++ (l'.number ++ elements lines))) := by
      simp only [elements, Line.text, List.append_assoc, List.cons_append, List.nil_append]
    rw [Words.infix_replicate_iff hw.unspaced hw.ne_nil, heq, Words.infix_iff hw.unspaced hword,
      Words.infix_iff hw.unspaced l'.space_notMem_name]
    rintro (h | h | h)
    · exact hw.not_suffix _ h
    · exact hlines.1 h
    · exact ih l' hlines.2 h

/-- The only place of the keyword in front of a space. -/
theorem behind_keyword {w : Text} (hw : Keyword w) {l : Line} {lines : List Line}
    (hlines : ∀ l' ∈ lines, ¬w <:+ l'.name) {x r : Text}
    (h : x ++ (w ++ ' ' :: r) = l.text ++ elements lines) :
    r = List.replicate l.spaces ' ' ++ (l.number ++ elements lines) := by
  have hdirective : ' ' ∉ directive := by decide
  rw [Line.text, List.append_assoc, List.cons_append, List.append_assoc, List.cons_append,
    List.append_assoc] at h
  rcases Words.cut hw.unspaced hdirective h with ⟨hword, -⟩ | ⟨y, -, h⟩
  · exact absurd ⟨x, hword⟩ (hw.not_suffix [])
  · rcases Words.cut hw.unspaced l.space_notMem_name h with ⟨-, hr⟩ | ⟨z, -, h⟩
    · exact hr
    · refine absurd ⟨z, r, ?_⟩ (not_infix_rest hw l hlines)
      rw [← h, List.append_assoc, List.append_assoc, List.singleton_append]

/-! ### The pattern on the lines -/

/-- The pattern of the function, for any keywords. -/
def regexOf : List (String × Bool) → Pattern Char
  | [] => []
  | [f] => numberRegex f.1 f.2
  | f :: f' :: fields => numberRegex f.1 f.2 ++ .one (· == ';') :: regexOf (f' :: fields)

theorem regex_eq (group : ℕ) : regex group = regexOf [("_MAJOR", group == 1),
    ("_MINOR", group == 2), ("_BUGFIX", group == 3), ("_BUILD", group == 4)] := rfl

/-- The names of the lines end in the keywords, and no later one in an earlier keyword. -/
inductive Fits : List Line → List (String × Bool) → Prop where
  | last {l : Line} {w : String} {captured : Bool} (hw : Keyword w.toList)
      (hname : w.toList <:+ l.name) : Fits [l] [(w, captured)]
  | next {l l' : Line} {lines : List Line} {w : String} {captured : Bool} {f : String × Bool}
      {fields : List (String × Bool)} (hw : Keyword w.toList) (hname : w.toList <:+ l.name)
      (hlater : ∀ k ∈ l' :: lines, ¬w.toList <:+ k.name) (h : Fits (l' :: lines) (f :: fields)) :
      Fits (l :: l' :: lines) ((w, captured) :: f :: fields)

/-- The numbers that are captured. -/
def captures (lines : List Line) (fields : List (String × Bool)) : Text :=
  (List.zipWith (fun l f => if f.2 then l.number else []) lines fields).flatten

/-- A run of spaces in front of a number. -/
theorem spaces_unique {l : Line} {s b y : Text} (hs : ∀ c ∈ s, (c == ' ') = true)
    (hb : b.takeWhile (· == ' ') = [])
    (h : s ++ b = List.replicate l.spaces ' ' ++ (l.number ++ y)) : b = l.number ++ y := by
  refine (Words.run_unique hs ?_ hb (l.takeWhile_number y) h).2
  intro c hc
  rw [List.eq_of_mem_replicate hc]
  rfl

theorem spells_front {w : String} {m v : Text}
    (h : Spells (.many (fun _ => true) 1 false :: symbols w ++ [.many (· == ' ') 1 false]) m v) :
    v = [] ∧ ∃ u s, m = u ++ (w.toList ++ ' ' :: s) ∧ ∀ c ∈ s, (c == ' ') = true := by
  rw [List.cons_append] at h
  cases h with
  | @many _ _ _ _ u t v _ _ h =>
    obtain ⟨m₁, m₂, w₁, w₂, rfl, rfl, h₁, h₂⟩ := spells_append h
    obtain ⟨rfl, rfl⟩ := spells_beq.mp h₁
    cases h₂ with
    | @many _ _ _ _ s t v hs hl hnil =>
      cases hnil
      obtain ⟨c, s, rfl⟩ := List.exists_cons_of_length_pos hl
      rw [List.forall_mem_cons] at hs
      obtain rfl := beq_iff_eq.mp hs.1
      refine ⟨rfl, u, s, ?_, hs.2⟩
      rw [List.append_nil]

/-- A text that begins with a digit. -/
theorem takeWhile_space {b : Text} (h : 1 ≤ (b.takeWhile Char.isDigit).length) :
    b.takeWhile (· == ' ') = [] := by
  cases b with
  | nil => rfl
  | cons c b =>
    have hc : c.isDigit = true := by
      by_contra hc
      rw [List.takeWhile_cons_of_neg hc] at h
      simp at h
    have hne : ¬(c == ' ') = true := by
      rw [beq_iff_eq]
      rintro rfl
      exact absurd hc (by decide)
    rw [List.takeWhile_cons, if_neg hne]

theorem Line.takeWhile_digits (l : Line) : l.number.takeWhile Char.isDigit = l.number :=
  List.takeWhile_eq_self_iff.mpr l.numeral.2

theorem elements_takeWhile (lines : List Line) :
    (elements lines).takeWhile Char.isDigit = [] := by
  cases lines with
  | nil => rfl
  | cons l lines => rfl

theorem matched_last {l : Line} {w : String} {captured : Bool} (hw : Keyword w.toList)
    {x s v rest : Text} (hs : x ++ s = l.text ++ elements [])
    (h : matchRest (regexOf [(w, captured)]) s = some (v, rest)) :
    v = captures [l] [(w, captured)] ∧ rest = [] := by
  have hsplit : regexOf [(w, captured)] =
      (.many (fun _ => true) 1 false :: symbols w ++ [.many (· == ' ') 1 false]) ++
        [.many Char.isDigit 1 captured] := by
    simp [regexOf, numberRegex]
  rw [hsplit] at h
  obtain ⟨m, b, front, v', rfl, hm, hb, rfl⟩ := of_matchRest_append h
  obtain ⟨rfl, u, spaces, rfl, hspaces⟩ := spells_front hm
  obtain ⟨hleast, rfl, rfl⟩ := matchRest_many hb
  have hr : spaces ++ b = List.replicate l.spaces ' ' ++ (l.number ++ elements []) := by
    refine behind_keyword hw (fun _ hmem => absurd hmem List.not_mem_nil) (x := x ++ u) ?_
    rw [← hs]
    simp only [List.append_assoc, List.cons_append]
  have hnumber := spaces_unique hspaces (takeWhile_space hleast) hr
  rw [elements, List.append_nil] at hnumber
  rw [hnumber, l.takeWhile_digits]
  refine ⟨(List.append_nil _).symm, ?_⟩
  rw [List.dropWhile_eq_nil_iff]
  exact l.numeral.2

/-- A match of one number and the semicolon ends in front of the next line. -/
theorem matched_first {l : Line} {lines : List Line} {w : String} {captured : Bool}
    (hw : Keyword w.toList) (hlater : ∀ k ∈ lines, ¬w.toList <:+ k.name) {x m b v : Text}
    (hs : x ++ (m ++ b) = l.text ++ elements lines)
    (h : Spells (numberRegex w captured ++ [.one (· == ';')]) m v) :
    v = (if captured then l.number else []) ∧ ';' :: b = elements lines := by
  have hsplit : numberRegex w captured ++ [.one (· == ';')] =
      (.many (fun _ => true) 1 false :: symbols w ++ [.many (· == ' ') 1 false]) ++
        [.many Char.isDigit 1 captured, .one (· == ';')] := by
    simp [numberRegex]
  rw [hsplit] at h
  obtain ⟨m₁, m₂, w₁, w₂, rfl, rfl, h₁, h₂⟩ := spells_append h
  obtain ⟨rfl, u, spaces, rfl, hspaces⟩ := spells_front h₁
  cases h₂ with
  | @many _ _ _ _ n t v hn hleast hone =>
    cases hone with
    | @one _ _ c t v hc hnil =>
      cases hnil
      obtain rfl := beq_iff_eq.mp hc
      have hr : spaces ++ (n ++ ';' :: b) =
          List.replicate l.spaces ' ' ++ (l.number ++ elements lines) := by
        refine behind_keyword hw hlater (x := x ++ u) ?_
        rw [← hs]
        simp only [List.append_assoc, List.cons_append, List.nil_append]
      have hdigits : 1 ≤ ((n ++ ';' :: b).takeWhile Char.isDigit).length := by
        rw [List.takeWhile_append_of_pos hn, List.length_append]
        exact hleast.trans (Nat.le_add_right _ _)
      have hnumber := spaces_unique hspaces (takeWhile_space hdigits) hr
      obtain ⟨rfl, hb⟩ :=
        Words.run_unique hn l.numeral.2 rfl (elements_takeWhile lines) hnumber
      exact ⟨by rw [List.nil_append, List.append_nil], hb⟩

/-- A match anywhere in the lines ends behind the last number and captures what it should. -/
theorem matched {l : Line} {lines : List Line} {fields : List (String × Bool)}
    (hfits : Fits (l :: lines) fields) {x s v rest : Text}
    (hs : x ++ s = l.text ++ elements lines) (h : matchRest (regexOf fields) s = some (v, rest)) :
    v = captures (l :: lines) fields ∧ rest = [] := by
  induction lines generalizing l fields x s v with
  | nil =>
    cases hfits with
    | last hw _ => exact matched_last hw hs h
  | cons l' lines ih =>
    cases hfits with
    | @next _ _ _ w captured f fields hw _ hlater hrest =>
      have hsplit : regexOf ((w, captured) :: f :: fields) =
          (numberRegex w captured ++ [.one (· == ';')]) ++ regexOf (f :: fields) := by
        simp [regexOf]
      rw [hsplit] at h
      obtain ⟨m, b, v₁, v₂, rfl, hm, hb, rfl⟩ := of_matchRest_append h
      obtain ⟨rfl, hbehind⟩ := matched_first hw hlater hs hm
      have hnext : [] ++ b = l'.text ++ elements lines := (List.cons.inj hbehind).2
      obtain ⟨rfl, hend⟩ := ih hrest hnext hb
      exact ⟨rfl, hend⟩

theorem spells_number {l : Line} {w : String} (hname : w.toList <:+ l.name) (captured : Bool) :
    Spells (numberRegex w captured) l.text (if captured then l.number else []) := by
  obtain ⟨z, hz⟩ := hname
  have htext : l.text = (directive ++ ' ' :: z) ++
      (w.toList ++ (' ' :: List.replicate l.spaces ' ' ++ l.number)) := by
    rw [Line.text, ← hz]
    simp only [List.append_assoc, List.cons_append]
  have hspaces : ∀ c ∈ ' ' :: List.replicate l.spaces ' ', (c == ' ') = true := by
    rw [← List.replicate_succ]
    intro c hc
    rw [List.eq_of_mem_replicate hc]
    rfl
  have hlength : 1 ≤ l.number.length := List.length_pos_of_ne_nil l.numeral.1
  have hnumber : Spells [.many Char.isDigit 1 captured] l.number
      (if captured then l.number else []) := by
    have h : Spells [.many Char.isDigit 1 captured] (l.number ++ [])
        ((if captured then l.number else []) ++ []) := .many l.numeral.2 hlength .nil
    rwa [List.append_nil, List.append_nil] at h
  have hback : Spells [.many (· == ' ') 1 false, .many Char.isDigit 1 captured]
      (' ' :: List.replicate l.spaces ' ' ++ l.number) (if captured then l.number else []) :=
    .many hspaces (by simp) hnumber
  have hword : Spells (symbols w) w.toList [] := spells_beq.mpr ⟨rfl, rfl⟩
  rw [htext, numberRegex, List.cons_append]
  exact .many (fun _ _ => rfl) (by simp [directive]) (hword.append hback)

/-- The lines as a whole are a match. -/
theorem spells_lines {l : Line} {lines : List Line} {fields : List (String × Bool)}
    (hfits : Fits (l :: lines) fields) :
    ∃ v, Spells (regexOf fields) (l.text ++ elements lines) v := by
  induction lines generalizing l fields with
  | nil =>
    cases hfits with
    | @last _ w captured hw hname =>
      rw [elements, List.append_nil]
      exact ⟨_, spells_number hname captured⟩
  | cons l' lines ih =>
    cases hfits with
    | @next _ _ _ w captured f fields hw hname hlater hrest =>
      obtain ⟨v, hv⟩ := ih hrest
      exact ⟨_, (spells_number hname captured).append (.one (beq_self_eq_true ';') hv)⟩

theorem matchRest_regexOf_nil {lines : List Line} {fields : List (String × Bool)}
    (hfits : Fits lines fields) : matchRest (regexOf fields) [] = none := by
  cases hfits with
  | last => rfl
  | next => rfl

/-- All of the lines are one match, so there is no other one behind it. -/
theorem lastMatch_lines {l : Line} {lines : List Line} {fields : List (String × Bool)}
    (hfits : Fits (l :: lines) fields) :
    (regexOf fields).lastMatch (l.text ++ elements lines).length (l.text ++ elements lines) =
      some (captures (l :: lines) fields) := by
  obtain ⟨v, hv⟩ := spells_lines hfits
  have hfound : Found (regexOf fields) (l.text ++ elements lines) :=
    ⟨[], _, [], v, by rw [List.append_nil, List.nil_append], hv⟩
  have hsome := find_isSome_iff.mpr hfound
  rw [find_eq, Option.isSome_map] at hsome
  obtain ⟨⟨v, rest⟩, hrest⟩ := Option.isSome_iff_exists.mp hsome
  obtain ⟨x, s, hs, hmatch⟩ := of_findRest hrest
  obtain ⟨rfl, rfl⟩ := matched hfits hs.symm hmatch
  have hnone : ∀ n, (regexOf fields).lastMatch n [] = none := by
    intro n
    cases n with
    | zero => rfl
    | succ n => rw [lastMatch, findRest, matchRest_regexOf_nil hfits, Option.bind_none]
  cases hlength : (l.text ++ elements lines).length with
  | zero => simp [Line.text] at hlength
  | succ n => rw [lastMatch, hrest, Option.bind_some, hnone, Option.none_or]

/-! ### The file -/

def Printable (line : Text) : Prop := ∀ c ∈ line, ' ' ≤ c ∧ c ≤ '~' ∨ c = '\t'

theorem strings_line {line : Text} (h : Printable line) (rev s : Text) :
    strings rev (line ++ s) = strings (line.reverse ++ rev) s := by
  induction line generalizing rev with
  | nil => rfl
  | cons c line ih =>
    have hc := h c List.mem_cons_self
    have hreturn : c ≠ '\r' := by
      rintro rfl
      exact absurd hc (by decide)
    rw [List.cons_append, strings, if_neg hreturn, if_pos hc,
      ih fun d hd => h d (List.mem_cons_of_mem c hd), List.reverse_cons, List.append_assoc,
      List.singleton_append]

/-- The lines of a file. -/
def fileOf (crlf : Bool) (lines : List Text) : List Char :=
  lines.flatMap fun line => line ++ (if crlf then ['\r', '\n'] else ['\n'])

theorem strings_fileOf (crlf : Bool) {lines : List Text} (h : ∀ line ∈ lines, Printable line) :
    strings [] (fileOf crlf lines) = lines := by
  induction lines with
  | nil => rfl
  | cons line lines ih =>
    rw [List.forall_mem_cons] at h
    have hnext := ih h.2
    unfold fileOf at hnext ⊢
    rw [List.flatMap_cons, List.append_assoc, strings_line h.1, List.append_nil]
    cases crlf with
    | true =>
      have hend : ∀ s : Text, strings line.reverse ('\r' :: '\n' :: s) = line :: strings [] s := by
        intro s
        rw [strings, if_pos rfl, strings, if_neg (by decide), if_neg (by decide),
          if_pos (.inl rfl), List.reverse_reverse]
      exact (hend _).trans (congrArg _ hnext)
    | false =>
      have hend : ∀ s : Text, strings line.reverse ('\n' :: s) = line :: strings [] s := by
        intro s
        rw [strings, if_neg (by decide), if_neg (by decide), if_pos (.inl rfl),
          List.reverse_reverse]
      exact (hend _).trans (congrArg _ hnext)

theorem printable_between {a b c : Char} (ha : ' ' ≤ a) (hb : b ≤ '~')
    (h : a.val ≤ c.val ∧ c.val ≤ b.val) : ' ' ≤ c ∧ c ≤ '~' :=
  ⟨Char.le_trans ha h.1, Char.le_trans h.2 hb⟩

/-- Letters, digits and underscores are between the space and the tilde. -/
theorem printable_of_word {c : Char} (h : c = '_' ∨ c.isAlphanum = true) : ' ' ≤ c ∧ c ≤ '~' := by
  rcases h with rfl | h
  · exact ⟨by decide, by decide⟩
  · rcases Bool.or_eq_true_iff.mp h with halpha | hdigit
    · rcases Bool.or_eq_true_iff.mp halpha with hupper | hlower
      · exact printable_between (a := 'A') (b := 'Z') (by decide) (by decide)
          (of_decide_eq_true hupper)
      · obtain ⟨ha, hz⟩ := Bool.and_eq_true_iff.mp hlower
        exact printable_between (a := 'a') (b := 'z') (by decide) (by decide)
          ⟨of_decide_eq_true ha, of_decide_eq_true hz⟩
    · obtain ⟨hzero, hnine⟩ := Bool.and_eq_true_iff.mp hdigit
      exact printable_between (a := '0') (b := '9') (by decide) (by decide)
        ⟨of_decide_eq_true hzero, of_decide_eq_true hnine⟩

theorem word_of_digit {c : Char} (h : c.isDigit = true) : c = '_' ∨ c.isAlphanum = true :=
  .inr (Bool.or_eq_true_iff.mpr (.inr h))

/-- The symbols of a line. -/
theorem Line.mem_text {l : Line} {c : Char} (h : c ∈ l.text) :
    c ∈ directive ∨ c = ' ' ∨ c = '_' ∨ c.isAlphanum = true := by
  simp only [Line.text, List.mem_append, List.mem_cons, List.mem_replicate] at h
  rcases h with h | h | h | h | ⟨-, h⟩ | h
  · exact .inl h
  · exact .inr (.inl h)
  · exact .inr (.inr (l.named c h))
  · exact .inr (.inl h)
  · exact .inr (.inl h)
  · exact .inr (.inr (word_of_digit (l.numeral.2 c h)))

theorem Line.printable (l : Line) : Printable l.text := by
  have hdirective : ∀ c ∈ directive, ' ' ≤ c ∧ c ≤ '~' := by decide
  intro c hc
  rcases Line.mem_text hc with h | rfl | h
  · exact .inl (hdirective c h)
  · exact .inl ⟨by decide, by decide⟩
  · exact .inl (printable_of_word h)

theorem Line.semicolon_notMem (l : Line) : ';' ∉ l.text := by
  intro h
  rcases Line.mem_text h with h | h | h | h
  · exact absurd h (by decide)
  · exact absurd h (by decide)
  · exact absurd h (by decide)
  · exact absurd h (by decide)

/-- No semicolon has to be escaped. -/
theorem flatMap_text (l : Line) :
    (l.text.flatMap fun c => if c = ';' then ['\\', ';'] else [c]) = l.text := by
  have hsame : ∀ c ∈ l.text, (if c = ';' then ['\\', ';'] else [c]) = [c] := by
    intro c hc
    exact if_neg fun h : c = ';' => l.semicolon_notMem (h ▸ hc)
  rw [List.flatMap_congr hsame, List.flatMap_singleton']

theorem intercalate_lines (l : Line) (lines : List Line) :
    [';'].intercalate ((l :: lines).map Line.text) = l.text ++ elements lines := by
  induction lines generalizing l with
  | nil => simp [List.intercalate, elements]
  | cons l' lines ih =>
    have h := ih l'
    simp only [List.intercalate, List.map_cons, List.intersperse_cons_cons,
      List.flatten_cons] at h ⊢
    rw [h, elements, List.singleton_append]

theorem listOf_lines (l : Line) (lines : List Line) :
    listOf ((l :: lines).map Line.text) = l.text ++ elements lines := by
  rw [listOf, List.map_map, ← intercalate_lines]
  congr 1
  exact List.map_congr_left fun k _ => flatMap_text k

/-! ### The header -/

inductive Part where
  | major
  | minor
  | bugfix
  | build
  deriving DecidableEq

def parts : List Part := [.major, .minor, .bugfix, .build]

def Part.keyword : Part → Text
  | major => ['M', 'A', 'J', 'O', 'R']
  | minor => ['M', 'I', 'N', 'O', 'R']
  | bugfix => ['B', 'U', 'G', 'F', 'I', 'X']
  | build => ['B', 'U', 'I', 'L', 'D']

theorem Part.keyword_upper (part : Part) :
    part.keyword ≠ [] ∧ ∀ c ∈ part.keyword, c.isUpper = true := by
  cases part with
  | major => decide
  | minor => decide
  | bugfix => decide
  | build => decide

def versionWord : Text := ['_', 'V', 'E', 'R', 'S', 'I', 'O', 'N', '_']

/-- A number with the spaces in front of it but one. -/
structure Number where
  spaces : ℕ
  digits : Text
  numeral : Version.Numeral digits

/-- The first pattern keeps the line. -/
def kept (versionPrefix line : Text) : Bool := ((defineRegex versionPrefix).matchHere line).isSome

structure Other (versionPrefix line : Text) : Prop where
  printable : Printable line
  dropped : kept versionPrefix line = false

/-- A header with the four numbers in this order, and any other lines around them. -/
structure Header where
  versionPrefix : Text
  named : ∀ c ∈ versionPrefix, c = '_' ∨ c.isAlphanum = true
  number : Part → Number
  before : List Text
  after : Part → List Text
  before_other : ∀ line ∈ before, Other versionPrefix line
  after_other : ∀ part, ∀ line ∈ after part, Other versionPrefix line

namespace Header

variable (h : Header)

def line (part : Part) : Line where
  name := h.versionPrefix ++ (versionWord ++ part.keyword)
  spaces := (h.number part).spaces
  number := (h.number part).digits
  named := by
    intro c hc
    rw [List.mem_append, List.mem_append] at hc
    rcases hc with hc | hc | hc
    · exact h.named c hc
    · revert c
      decide
    · refine .inr (Bool.or_eq_true_iff.mpr (.inl (Bool.or_eq_true_iff.mpr (.inl ?_))))
      exact part.keyword_upper.2 c hc
  numeral := (h.number part).numeral

def lines : List Text := h.before ++ parts.flatMap fun part => (h.line part).text :: h.after part

variable {h}

theorem line_kept (part : Part) : kept h.versionPrefix (h.line part).text = true := by
  have htext : (h.line part).text = "#define ".toList ++ (h.versionPrefix ++ ([] ++
      ("_VERSION_".toList ++ (part.keyword ++ (' ' :: List.replicate (h.number part).spaces ' ' ++
        ((h.number part).digits ++ [])))))) := by
    simp only [Line.text, line, directive, versionWord, List.append_assoc, List.cons_append,
      List.nil_append, List.append_nil]
    rfl
  have hspaces : ∀ c ∈ ' ' :: List.replicate (h.number part).spaces ' ', (c == ' ') = true := by
    rw [← List.replicate_succ]
    intro c hc
    rw [List.eq_of_mem_replicate hc]
    rfl
  have hkeyword := List.length_pos_of_ne_nil part.keyword_upper.1
  have hdigits := List.length_pos_of_ne_nil (h.number part).numeral.1
  have hspells : Spells (defineRegex h.versionPrefix) (h.line part).text [] := by
    rw [htext, defineRegex, List.append_assoc, List.append_assoc]
    refine Spells.append (spells_beq.mpr ⟨rfl, rfl⟩) ?_
    refine Spells.append (spells_beq.mpr ⟨rfl, rfl⟩) ?_
    refine .many (v := []) (by simp) (Nat.zero_le _) ?_
    refine Spells.append (spells_beq.mpr ⟨rfl, rfl⟩) ?_
    exact .many (v := []) part.keyword_upper.2 hkeyword
      (.many (v := []) hspaces (by simp) (.many (v := []) (h.number part).numeral.2 hdigits .nil))
  have hsome := matchHere_isSome hspells []
  rwa [List.append_nil] at hsome

theorem filter_lines :
    h.lines.filter (kept h.versionPrefix) = (parts.map h.line).map Line.text := by
  have hother : ∀ lines : List Text, (∀ line ∈ lines, Other h.versionPrefix line) →
      lines.filter (kept h.versionPrefix) = [] := by
    intro lines hlines
    rw [List.filter_eq_nil_iff]
    intro line hline
    rw [(hlines line hline).dropped]
    exact Bool.false_ne_true
  have hpart : ∀ part, ((h.line part).text :: h.after part).filter (kept h.versionPrefix) =
      [(h.line part).text] := by
    intro part
    rw [List.filter_cons_of_pos (line_kept part), hother _ (h.after_other part)]
  rw [lines, List.filter_append, hother _ h.before_other, List.nil_append, List.filter_flatMap]
  simp only [hpart, List.map_map, ← List.map_eq_flatMap]
  rfl

theorem lines_printable : ∀ line ∈ h.lines, Printable line := by
  intro line hline
  simp only [lines, List.mem_append, List.mem_flatMap, List.mem_cons] at hline
  rcases hline with hline | ⟨part, -, rfl | hline⟩
  · exact (h.before_other line hline).printable
  · exact (h.line part).printable
  · exact (h.after_other part line hline).printable

/-- What is at the end of a name does not depend on the prefix. -/
theorem suffix_name_iff {w : Text} {part : Part}
    (hlength : w.length ≤ (versionWord ++ part.keyword).length) :
    w <:+ (h.line part).name ↔ w <:+ versionWord ++ part.keyword := by
  constructor
  · intro hw
    exact List.suffix_of_suffix_length_le hw (List.suffix_append _ _) hlength
  · intro hw
    exact hw.trans (List.suffix_append _ _)

theorem not_suffix_later {w : Text} {l : List Part}
    (hl : ∀ part ∈ l, w.length ≤ (versionWord ++ part.keyword).length ∧
      ¬w <:+ versionWord ++ part.keyword) : ∀ k ∈ l.map h.line, ¬w <:+ k.name := by
  intro k hk
  obtain ⟨part, hpart, rfl⟩ := List.mem_map.mp hk
  rw [suffix_name_iff (hl part hpart).1]
  exact (hl part hpart).2

/-- The pattern of the function has the four keywords in the order of the lines. -/
theorem fits (group : ℕ) : Fits (parts.map h.line) [("_MAJOR", group == 1), ("_MINOR", group == 2),
    ("_BUGFIX", group == 3), ("_BUILD", group == 4)] := by
  have hmajor : Keyword "_MAJOR".toList :=
    ⟨by decide, "_MAJO".toList, 'R', rfl, by decide, by decide⟩
  have hminor : Keyword "_MINOR".toList :=
    ⟨by decide, "_MINO".toList, 'R', rfl, by decide, by decide⟩
  have hbugfix : Keyword "_BUGFIX".toList :=
    ⟨by decide, "_BUGFI".toList, 'X', rfl, by decide, by decide⟩
  have hbuild : Keyword "_BUILD".toList :=
    ⟨by decide, "_BUIL".toList, 'D', rfl, by decide, by decide⟩
  refine .next hmajor ((suffix_name_iff (by decide)).mpr (by decide)) ?_
    (.next hminor ((suffix_name_iff (by decide)).mpr (by decide)) ?_
      (.next hbugfix ((suffix_name_iff (by decide)).mpr (by decide)) ?_
        (.last hbuild ((suffix_name_iff (by decide)).mpr (by decide)))))
  · exact not_suffix_later (l := [.minor, .bugfix, .build]) (by decide)
  · exact not_suffix_later (l := [.bugfix, .build]) (by decide)
  · exact not_suffix_later (l := [.build]) (by decide)

/-- The value of the variable of the function. -/
def content (h : Header) : Text :=
  (h.line .major).text ++ elements [h.line .minor, h.line .bugfix, h.line .build]

theorem cmakeMatch_content (group : ℕ) :
    cmakeMatch group h.content = some (captures (parts.map h.line) [("_MAJOR", group == 1),
      ("_MINOR", group == 2), ("_BUGFIX", group == 3), ("_BUILD", group == 4)]) := by
  rw [cmakeMatch, regex_eq]
  exact lastMatch_lines (fits group)

/-- What the header says. -/
def read (h : Header) : Read where
  version := ['.'].intercalate (parts.map fun part => (h.number part).digits)
  major := (h.number .major).digits
  minor := (h.number .minor).digits
  patch := (h.number .bugfix).digits
  tweak := (h.number .build).digits

/-- Whatever lines are around the numbers and however lines end, the numbers are read back. -/
theorem read_back (h : Header) (crlf : Bool) :
    tinyReadVersion h.versionPrefix (fileOf crlf h.lines) = .ok h.read := by
  have hcontent : listOf ((strings [] (fileOf crlf h.lines)).filter fun line =>
      ((defineRegex h.versionPrefix).matchHere line).isSome) = h.content := by
    rw [strings_fileOf crlf lines_printable]
    exact (congrArg listOf filter_lines).trans (listOf_lines _ _)
  rw [tinyReadVersion, hcontent]
  simp only [cmakeMatch_content]
  simp [captures, parts, line, read]

end Header

end TinyPlay.VersionHeader

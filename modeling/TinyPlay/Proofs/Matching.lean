import TinyPlay.Spec.Benchmark

/-! What the patterns of the script match in one line: a line that names the label yields its
number, and a line without the label yields nothing. Nothing here depends on the culture. -/

namespace TinyPlay

open Lines Pattern

namespace Culture

variable {u : Culture}

/-! ### Characters -/

theorem toNat_toLower (c : Char) :
    c.toLower.toNat = if 65 ≤ c.toNat ∧ c.toNat ≤ 90 then c.toNat + 32 else c.toNat := by
  unfold Char.toLower
  split_ifs with h h' h'
  · rw [Char.toNat_mk, UInt32.toNat_add]
    change (c.toNat + 32) % 2 ^ 32 = c.toNat + 32
    omega
  · exact absurd h h'
  · exact absurd h' h
  · rfl

theorem sameLetter_self (a : Char) : u.sameLetter a a = true := by
  simp [sameLetter]

theorem sameLetter_of_isAscii {a c : Char} (hc : isAscii c = true) :
    u.sameLetter a c = (a.toLower == c.toLower) := by
  simp [sameLetter, hc]

theorem eq_colon {d : Char} (h : u.sameLetter ':' d = true) : d = ':' := by
  have hlower : ':'.toLower = d.toLower := by
    rw [sameLetter, show ':'.isAlpha = false from rfl, Bool.false_and,
      Bool.false_and, Bool.or_false] at h
    exact beq_iff_eq.mp h
  have hnat : (58 : ℕ) = d.toLower.toNat := congrArg Char.toNat hlower
  rw [toNat_toLower] at hnat
  apply Char.toNat_inj.mp
  change d.toNat = 58
  split_ifs at hnat <;> omega

theorem isAscii_of_isDigit {c : Char} (hc : c.isDigit = true) : isAscii c = true := by
  have h9 : c.toNat ≤ 57 := (Char.isDigit_iff_toNat.mp hc).2
  simpa [isAscii] using Nat.lt_of_le_of_lt h9 (by decide)

theorem sameLetter_digit {a c : Char} (ha : a.toLower.isDigit = false) (hc : c.isDigit = true) :
    u.sameLetter a c = false := by
  have h9 := Char.isDigit_iff_toNat.mp hc
  have hlower : c.toLower = c := by
    apply Char.toNat_inj.mp
    have h57 : c.toNat ≤ 57 := h9.2
    rw [toNat_toLower, if_neg (by omega)]
  rw [sameLetter_of_isAscii (isAscii_of_isDigit hc), hlower, beq_eq_false_iff_ne]
  rintro rfl
  rw [hc] at ha
  cases ha

/-! ### Texts -/

/-- The culture in which a letter accepts every character beyond ASCII. -/
def wide : Culture := ⟨fun _ _ => true, fun _ => true, fun _ => true⟩

theorem text_append (s t : String) : u.text (s ++ t) = u.text s ++ u.text t := by
  simp [text, literal]

theorem captured_text {s : String} {x : Piece Char} (hx : x ∈ u.text s) : x.captured = false := by
  obtain ⟨a, -, rfl⟩ := List.mem_map.mp hx
  rfl

theorem text_le_wide (s : String) : List.Forall₂ Piece.Le (u.text s) (wide.text s) := by
  unfold text literal
  induction s.toList with
  | nil => exact .nil
  | cons a s ih =>
    refine .cons (.one fun c hc => ?_) ih
    rw [sameLetter, Bool.or_eq_true] at hc ⊢
    refine hc.imp_right fun hc => ?_
    rw [Bool.and_eq_true] at hc ⊢
    exact ⟨hc.1, rfl⟩

theorem spells_text {s t : String} (h : s.toList.map Char.toLower = t.toList.map Char.toLower) :
    Spells (u.text s) t.toList [] := by
  apply spells_literal
  generalize s.toList = s at h ⊢
  generalize t.toList = t at h ⊢
  induction s generalizing t with
  | nil =>
    obtain rfl := List.map_eq_nil_iff.mp h.symm
    exact .nil
  | cons a s ih =>
    obtain ⟨c, t, rfl, hac, hst⟩ := List.map_eq_cons_iff.mp h.symm
    refine .cons ?_ (ih t hst.symm)
    rw [sameLetter, hac, beq_self_eq_true, Bool.true_or]

/-- An ASCII character that is no letter of the text is not accepted anywhere in it. -/
theorem text_rejects {s : String} {c : Char} (hc : isAscii c = true)
    (hs : (s.toList.all fun a => a.toLower != c.toLower) = true) :
    ∀ x ∈ u.text s, x.accepts c = false := by
  intro x hx
  obtain ⟨a, ha, rfl⟩ := List.mem_map.mp hx
  have hne : (a.toLower != c.toLower) = true := List.all_eq_true.mp hs a ha
  change u.sameLetter a c = false
  rw [sameLetter_of_isAscii hc]
  simpa using hne

theorem not_found_text {s : String} {t : List Char} (h : (wide.text s).find t = none) :
    ¬(u.text s).Found t := by
  intro hfound
  exact find_eq_none_iff.mp h (hfound.mono (text_le_wide s))

/-- An ASCII character that no letter `x` of a pattern accepts. -/
def isNot (x c : Char) : Bool := isAscii c && c.toLower != x

theorem isNot_of_isDigit {x c : Char} (hx : x.toLower.isDigit = false) (hlower : x.toLower = x)
    (hc : c.isDigit = true) : isNot x c = true := by
  have hxc : ascii.sameLetter x c = false := sameLetter_digit hx hc
  have hascii := isAscii_of_isDigit hc
  rw [sameLetter_of_isAscii hascii, hlower, beq_eq_false_iff_ne] at hxc
  rw [isNot, hascii, Bool.true_and, bne_iff_ne]
  exact fun heq => hxc heq.symm

/-- A text is not found where one of its letters is missing. -/
theorem not_found_of_isNot {x : Char} {s : String} {t : List Char} (hlower : x.toLower = x)
    (hs : x ∈ s.toList) (ht : ∀ c ∈ t, isNot x c = true) : ¬(u.text s).Found t := by
  refine not_found_of_missing (List.mem_map_of_mem hs) ?_
  intro c hc
  obtain ⟨hascii, hx⟩ := Bool.and_eq_true_iff.mp (ht c hc)
  rw [sameLetter_of_isAscii hascii, hlower, beq_eq_false_iff_ne]
  exact fun heq => bne_iff_ne.mp hx heq.symm

/-! ### The number of a line -/

theorem elapsedPattern_eq (label : String) (gap : Pattern Char) :
    u.elapsedPattern label gap = (u.text label ++ gap) ++ .one (u.sameLetter ':') ::
      (u.text " " ++ (.many u.isDigit 1 true :: u.text "ms")) := by
  rw [elapsedPattern, List.append_assoc]
  rfl

/-- The captured digits are the ones before the unit. -/
theorem digits_of_spells {digits m t v : List Char} (hd : ∀ c ∈ digits, c.isDigit = true)
    (h : Spells (u.text " " ++ (.many u.isDigit 1 true :: u.text "ms")) m v)
    (heq : ' ' :: (digits ++ ['m', 's']) = m ++ t) : v = digits := by
  change Spells (.one (u.sameLetter ' ') :: .many u.isDigit 1 true ::
    .one (u.sameLetter 'm') :: [.one (u.sameLetter 's')]) m v at h
  cases h with
  | one _ h =>
    cases h with
    | @many _ _ _ _ r s w hr _ h =>
      cases h with
      | @one _ _ c s _ hc h =>
        have hw : w = [] := h.captured_nil (by simp [Piece.captured])
        have htail : digits ++ ['m', 's'] = r ++ c :: (s ++ t) := by
          simpa using (List.cons.inj heq).2
        have hmem : c ∈ digits ++ ['m', 's'] := by
          rw [htail]
          exact List.mem_append_right r List.mem_cons_self
        -- the unit is no digit, so both runs of digits end at the same place
        have hunit : u.isDigit c = false := by
          rcases List.mem_append.mp hmem with hdigit | hms
          · rw [sameLetter_digit rfl (hd c hdigit)] at hc
            cases hc
          · rcases List.mem_cons.mp hms with rfl | hms
            · rfl
            · obtain rfl := List.mem_singleton.mp hms
              rfl
        have hleft : (digits ++ ['m', 's']).takeWhile u.isDigit = digits := by
          rw [List.takeWhile_append_of_pos fun d hdm => by rw [isDigit, hd d hdm, Bool.true_or],
            List.takeWhile_cons_of_neg (by rw [show u.isDigit 'm' = false from rfl]; simp),
            List.append_nil]
        rw [htail, List.takeWhile_append_of_pos hr,
          List.takeWhile_cons_of_neg (by rw [hunit]; simp), List.append_nil] at hleft
        rw [hleft, hw, if_pos rfl, List.append_nil]

/-- `label` followed by `gap`, up to letter case, at the end of `before`. -/
theorem find_elapsed {label : String} {gap : Pattern Char} {before labelled digits : List Char}
    (hgap : ∀ x ∈ gap, x.captured = false) (hlabel : Spells (u.text label ++ gap) labelled [])
    (hcolon : ':' ∉ before ++ labelled) (hne : digits ≠ [])
    (hd : ∀ c ∈ digits, c.isDigit = true) :
    (u.elapsedPattern label gap).find
      (before ++ labelled ++ ':' :: ' ' :: (digits ++ ['m', 's'])) = some digits := by
  rw [elapsedPattern_eq]
  set line := before ++ labelled ++ ':' :: ' ' :: (digits ++ ['m', 's']) with hline
  have hcaptured : ∀ x ∈ u.text label ++ gap, x.captured = false := by
    intro x hx
    rcases List.mem_append.mp hx with hx | hx
    · exact captured_text hx
    · exact hgap x hx
  have hnumber : Spells (u.text " " ++ (.many u.isDigit 1 true :: u.text "ms"))
      ([' '] ++ (digits ++ ['m', 's'])) ([] ++ (digits ++ [])) := by
    refine (spells_text (t := " ") rfl).append ?_
    have hdigits : ∀ d ∈ digits, u.isDigit d = true := fun d hdm => by
      rw [isDigit, hd d hdm, Bool.true_or]
    exact .many hdigits (List.length_pos_iff.mpr hne) (spells_text (t := "ms") rfl)
  have hfound : Found ((u.text label ++ gap) ++ .one (u.sameLetter ':') ::
      (u.text " " ++ (.many u.isDigit 1 true :: u.text "ms"))) line := by
    refine ⟨before, labelled ++ ':' :: ([' '] ++ (digits ++ ['m', 's'])), [], _, ?_,
      hlabel.append (.one (sameLetter_self ':') hnumber)⟩
    rw [hline, List.append_nil, List.append_assoc]
    rfl
  obtain ⟨v, hv⟩ := Option.isSome_iff_exists.mp (find_isSome_iff.mpr hfound)
  have hafter : ':' ∉ ' ' :: (digits ++ ['m', 's']) := by
    intro hmem
    rcases List.mem_cons.mp hmem with heq | hmem
    · cases heq
    rcases List.mem_append.mp hmem with hmem | hmem
    · have hdigit := hd ':' hmem
      cases hdigit
    · simp at hmem
  obtain ⟨m, t, hmt, hm⟩ := of_find_after (fun d hd => eq_colon hd) hcaptured hcolon hafter hv
  rw [hv, digits_of_spells hd hm hmt]

/-- A line whose label is not the one of the pattern. -/
theorem find_elapsed_none {label : String} {gap : Pattern Char} {before after : List Char}
    (hlabel : ¬Found (u.text label ++ gap) before) (hx : 'x' ∈ label.toList)
    (hcolon : ∀ x ∈ u.text label ++ gap, x.accepts ':' = false)
    (hafter : ∀ c ∈ after, isNot 'x' c = true) :
    (u.elapsedPattern label gap).find (before ++ ':' :: after) = none := by
  rw [find_eq_none_iff, elapsedPattern_eq]
  intro h
  rcases h.left.split hcolon with hbefore | hplain
  · exact hlabel hbefore
  · exact not_found_of_isNot rfl hx hafter hplain.left

end Culture
end TinyPlay

import TinyPlay.Lib.Probe
import TinyPlay.Proofs.Toolchain
import TinyPlay.Spec.Ccache

/-! When `tiny_should_disable_precompile_headers` disables precompiled headers: the two patterns of
the function as sets of texts, and the function as a probe with a memory. -/

namespace TinyPlay.Ccache

open CMake Version

/-! ### The patterns -/

def isHex (c : Char) : Bool := Regex.inClass ['0', '-', '9', 'a', '-', 'f'] c

/-- Any text that ends in eight hexadecimal digits which are not all of it. -/
def IsGitRef (t : Text) : Prop :=
  ∃ u c v, t = u ++ c :: v ∧ 8 ≤ v.length ∧ ∀ d ∈ v, isHex d = true

def gitRefRegex : Regex Char :=
  .next (.star any) (.next any ((Regex.next (.one isHex))^[8] (.next (.star (.one isHex)) .empty)))

theorem mem_gitRefRegex (t : Text) : t ∈ gitRefRegex.language ↔ IsGitRef t := by
  rw [gitRefRegex, Regex.mem_next]
  constructor
  · rintro ⟨u, -, w, hw, rfl⟩
    obtain ⟨c, v, -, hv, rfl⟩ := Regex.mem_next_one.mp hw
    obtain ⟨first, rest, hlength, hfirst, hrest, rfl⟩ := Regex.mem_iterate_one.mp hv
    rw [Regex.language_next_empty, Regex.mem_star_one] at hrest
    refine ⟨u, c, first ++ rest, rfl, by rw [List.length_append]; omega, ?_⟩
    exact List.forall_mem_append.mpr ⟨hfirst, hrest⟩
  · rintro ⟨u, c, v, rfl, hlength, hv⟩
    refine ⟨u, Regex.mem_star_one.mpr fun _ _ => rfl, c :: v, ?_, rfl⟩
    refine Regex.mem_next_one.mpr ⟨c, v, rfl, ?_, rfl⟩
    refine Regex.mem_iterate_one.mpr ⟨v.take 8, v.drop 8, by rw [List.length_take]; omega, ?_, ?_,
      (List.take_append_drop 8 v).symm⟩
    · exact fun d hd => hv d (List.mem_of_mem_take hd)
    · rw [Regex.language_next_empty, Regex.mem_star_one]
      exact fun d hd => hv d (List.mem_of_mem_drop hd)

theorem isMatch_regexpGitRef (t : Text) :
    (regexpGitRef.any fun pattern => isMatch pattern t) = true ↔ IsGitRef t := by
  have hany : (regexpGitRef.any fun pattern => isMatch pattern t) = gitRefRegex.accepts t := rfl
  rw [hany, Regex.accepts_iff, mem_gitRefRegex]

/-- Decimal numbers with any symbols between them, `least` to `most` of them. -/
def HasBetween (least most : ℕ) (t : Text) : Prop :=
  ∃ numbers, Spells (fun _ => True) numbers t ∧ least ≤ numbers.length ∧ numbers.length ≤ most

theorem hasBetween_cons {least most : ℕ} {t : Text} :
    HasBetween (least + 2) (most + 1) t ↔
      ∃ w c s, Numeral w ∧ HasBetween (least + 1) most s ∧ t = w ++ c :: s := by
  constructor
  · rintro ⟨numbers, h, hleast, hmost⟩
    cases h with
    | last hw => simp at hleast
    | @next w s c numbers hw _ h =>
      rw [List.length_cons] at hleast hmost
      exact ⟨w, c, s, hw, ⟨numbers, h, by omega, by omega⟩, rfl⟩
  · rintro ⟨w, c, s, hw, ⟨numbers, h, hleast, hmost⟩, rfl⟩
    refine ⟨_, .next hw trivial h, ?_, ?_⟩
    · rw [List.length_cons]
      omega
    · rw [List.length_cons]
      omega

theorem hasBetween_one {t : Text} : HasBetween 1 1 t ↔ Numeral t := by
  have hone : HasNumbers (fun _ => True) 1 t ↔ Numeral t := hasNumbers_one
  rw [← hone, HasBetween, HasNumbers]
  exact exists_congr fun numbers => and_congr_right fun _ => by omega

theorem hasBetween_or {least most : ℕ} (hle : least ≤ most) {t : Text} :
    HasBetween least most t ∨ HasBetween (least + 1) (most + 1) t ↔
      HasBetween least (most + 1) t := by
  simp only [HasBetween, ← exists_or, ← and_or_left]
  exact exists_congr fun numbers => and_congr_right fun _ => by omega

/-- A number and a separator in front of the others. -/
theorem mem_separated {r : Regex Char} {least most : ℕ}
    (hr : ∀ t, t ∈ r.language ↔ HasBetween (least + 1) most t) (t : Text) :
    t ∈ (Regex.next digits (.next any r)).language ↔ HasBetween (least + 2) (most + 1) t := by
  simp only [mem_next_digits, hasBetween_cons, hr]

/-- `(.[0-9]+)?` -/
def maybeMore (r : Regex Char) : Regex Char :=
  .next (.maybe (.next any (.next digits .empty))) r

/-- An optional number in front of nothing or of another one. -/
theorem mem_maybeMore {r : Regex Char} {most : ℕ} (hmost : 1 ≤ most)
    (hr : ∀ t, t ∈ (Regex.next digits r).language ↔ HasBetween 1 most t) (t : Text) :
    t ∈ (Regex.next digits (maybeMore r)).language ↔ HasBetween 1 (most + 1) t := by
  have hlanguage : (Regex.next digits (maybeMore r)).language = (Regex.next digits r).language +
      (Regex.next digits (.next any (.next digits r))).language := by
    simp only [maybeMore, Regex.maybe, Regex.language, mul_add, add_mul, mul_one, one_mul,
      mul_assoc, add_comm]
  rw [hlanguage, Language.mem_add, hr, mem_separated hr, hasBetween_or hmost]

/-- Two to four numbers. -/
def IsCcacheVersion : Text → Prop := HasBetween 2 4

def versionRegex : Regex Char :=
  .next digits (.next any (.next digits (maybeMore (maybeMore .empty))))

theorem mem_versionRegex (t : Text) : t ∈ versionRegex.language ↔ IsCcacheVersion t := by
  have hone : ∀ t, t ∈ (Regex.next digits .empty).language ↔ HasBetween 1 1 t := by
    intro t
    rw [Regex.language_next_empty, mem_digits, hasBetween_one]
  have htwo := mem_maybeMore le_rfl hone
  have hthree := mem_maybeMore (by omega) htwo
  exact mem_separated hthree t

theorem isMatch_regexpVersion (t : Text) :
    (regexpVersion.any fun pattern => isMatch pattern t) = true ↔ IsCcacheVersion t := by
  have hany : (regexpVersion.any fun pattern => isMatch pattern t) = versionRegex.accepts t := rfl
  rw [hany, Regex.accepts_iff, mem_versionRegex]

theorem IsCcacheVersion.ne_nil {t : Text} (h : IsCcacheVersion t) : t ≠ [] := by
  obtain ⟨numbers, hspells, -⟩ := h
  exact hspells.ne_nil

/-- Whatever the separators are, such a text begins with a digit. -/
theorem IsCcacheVersion.ne_gitRef {t : Text} (h : IsCcacheVersion t) : t ≠ "git-ref".toList := by
  rintro rfl
  obtain ⟨w, c, s, hw, -, heq⟩ := hasBetween_cons.mp h
  obtain ⟨d, w, rfl⟩ := List.exists_cons_of_ne_nil hw.1
  obtain rfl : 'g' = d := (List.cons.inj heq).1
  exact absurd (hw.2 _ List.mem_cons_self) (by decide)

/-! ### The version as a probe -/

/-- Precompiled headers do not work with it. -/
def isOld (version : Text) : Bool :=
  Version.less (components version) [4, 10] && version ≠ "git-ref".toList

/-- What a run of `ccache --print-version` says. -/
def verdict (ccache : Process) : Probe.Verdict Text Bool Text :=
  if ccache.result.strequal "no such file or directory" then .unknown false
  else if !ccache.result.equal 0 then .known "0".toList
  else if regexpGitRef.any fun pattern => isMatch pattern ccache.stripped then
    .known "git-ref".toList
  else if regexpVersion.any fun pattern => isMatch pattern ccache.stripped then
    .known ccache.stripped
  else .failed parsingFailed

theorem verdict_ne_nil {ccache : Process} {version : Text}
    (h : (verdict ccache).known? = some version) : version ≠ [] := by
  unfold verdict at h
  split_ifs at h with _ _ _ hversion
  · cases h
  · obtain rfl := Option.some.inj h
    decide
  · obtain rfl := Option.some.inj h
    decide
  · obtain rfl := Option.some.inj h
    exact ((isMatch_regexpVersion _).mp hversion).ne_nil
  · cases h

/-- The version that a build tree remembers. -/
def Remembers (version : Option Text) (cache : Cache) : Prop :=
  cache "TINY_CCACHE_VERSION" = version ∧ version ≠ some []

theorem versionAtLeast_stored {s : State} {version : Text}
    (h : s.value? "TINY_CCACHE_VERSION" = some version) :
    s.versionAtLeast "TINY_CCACHE_VERSION" "4.10" = !Version.less (components version) [4, 10] := by
  have hminimum : components "4.10".toList = [4, 10] := by decide
  rw [State.versionAtLeast, State.operand, h, Option.getD_some, hminimum]

theorem shouldDisable_remembered {s : State} {version : Text}
    (hvalue : s.value? "TINY_CCACHE_VERSION" = some version) (hne : version ≠ [])
    (ccache : Process) :
    tinyShouldDisablePrecompileHeaders s ccache = ⟨.ok (isOld version), s.cache, []⟩ := by
  have hempty : s.strequal "TINY_CCACHE_VERSION" "" = false := by
    simpa [State.strequal, State.operand, hvalue] using hne
  have hanswer : (s.versionAtLeast "TINY_CCACHE_VERSION" "4.10" ||
      s.strequal "TINY_CCACHE_VERSION" "git-ref") = !isOld version := by
    rw [versionAtLeast_stored hvalue, State.strequal, State.operand, hvalue, isOld, decide_not,
      Bool.not_and, Bool.not_not, Option.getD_some]
  have hpopulated : (s.isDefined "TINY_CCACHE_VERSION" &&
      !s.strequal "TINY_CCACHE_VERSION" "") = true := by
    rw [State.isDefined, hvalue, hempty]
    rfl
  rw [tinyShouldDisablePrecompileHeaders, if_pos hpopulated, hanswer]
  cases isOld version with
  | true => rfl
  | false => rfl

/-- A text that has just been parsed is compared only. -/
theorem answer_parsed {s : State} {version : Text}
    (hvalue : s.value? "TINY_CCACHE_VERSION" = some version) (hparsed : IsCcacheVersion version) :
    (if s.versionAtLeast "TINY_CCACHE_VERSION" "4.10" then ⟨.ok false, s.cache, []⟩
      else ⟨.ok true, s.cache, []⟩ : Outcome Bool) = ⟨.ok (isOld version), s.cache, []⟩ := by
  have hold : isOld version = Version.less (components version) [4, 10] := by
    rw [isOld, decide_eq_true hparsed.ne_gitRef, Bool.and_true]
  rw [versionAtLeast_stored hvalue, hold]
  cases Version.less (components version) [4, 10] with
  | true => rfl
  | false => rfl

theorem shouldDisable_unknown {s : State} (hvalue : s.value? "TINY_CCACHE_VERSION" = none)
    (ccache : Process) :
    tinyShouldDisablePrecompileHeaders s ccache =
      ⟨(verdict ccache).answer isOld,
        Function.update s.cache "TINY_CCACHE_VERSION" (verdict ccache).known?, []⟩ := by
  have hnothing := Option.or_eq_none_iff.mp hvalue
  have hsame : Function.update s.cache "TINY_CCACHE_VERSION" none = s.cache := by
    rw [← hnothing.2, Function.update_eq_self]
  have hstored : (s.setCache "TINY_CCACHE_VERSION" ccache.stripped).value?
      "TINY_CCACHE_VERSION" = some ccache.stripped := by
    rw [State.value?, State.setCache, hnothing.1, Option.none_or]
    exact Function.update_self "TINY_CCACHE_VERSION" (some ccache.stripped) s.cache
  simp only [tinyShouldDisablePrecompileHeaders, State.isDefined, hvalue, Option.isSome_none,
    Bool.false_and, Bool.false_eq_true, if_false, verdict]
  by_cases hparsed : IsCcacheVersion ccache.stripped
  · have hmatch := (isMatch_regexpVersion _).mpr hparsed
    rw [answer_parsed hstored hparsed]
    simp only [hmatch, Bool.not_true, Bool.false_eq_true, if_false, if_true]
    split_ifs
    · exact congrArg (Outcome.mk _ · _) hsame.symm
    · rfl
    · rfl
    · rfl
  · have hmatch := Bool.eq_false_iff.mpr (mt (isMatch_regexpVersion _).mp hparsed)
    simp only [hmatch, Bool.not_false, Bool.false_eq_true, if_false, if_true]
    split_ifs
    · exact congrArg (Outcome.mk _ · _) hsame.symm
    · rfl
    · rfl
    · exact congrArg (Outcome.mk _ · _) hsame.symm

/-- The function is a probe with a memory. -/
theorem shouldDisable_asks {s : State} {version : Option Text}
    (hscope : s.scope "TINY_CCACHE_VERSION" = none) (hmemory : Remembers version s.cache)
    (ccache : Process) :
    tinyShouldDisablePrecompileHeaders s ccache =
      ⟨(Probe.ask isOld verdict version ccache).1,
        Function.update s.cache "TINY_CCACHE_VERSION"
          (Probe.ask isOld verdict version ccache).2, []⟩ := by
  obtain ⟨hcache, hne⟩ := hmemory
  have hvalue : s.value? "TINY_CCACHE_VERSION" = version := by
    rw [State.value?, hscope, hcache, Option.none_or]
  cases version with
  | some version =>
    rw [shouldDisable_remembered hvalue (fun h => hne (congrArg some h)), Probe.ask, ← hcache,
      Function.update_eq_self]
  | none => exact shouldDisable_unknown hvalue ccache

/-! ### The answers of a first run -/

/-- A run of ccache that ends the configure step. -/
def Fails (ccache : Process) : Prop := ∃ e, verdict ccache = .failed e

/-- The run of a program that has been found and did not complain. -/
structure Succeeds (ccache : Process) : Prop where
  found : ccache.result.strequal "no such file or directory" = false
  exited : ccache.result.equal 0 = true

theorem verdict_succeeds {ccache : Process} (h : Succeeds ccache) :
    verdict ccache =
      if regexpGitRef.any fun pattern => isMatch pattern ccache.stripped then
        .known "git-ref".toList
      else if regexpVersion.any fun pattern => isMatch pattern ccache.stripped then
        .known ccache.stripped
      else .failed parsingFailed := by
  simp only [verdict, h.found, h.exited, Bool.not_true, Bool.false_eq_true, if_false]

theorem fails_iff (ccache : Process) :
    Fails ccache ↔
      Succeeds ccache ∧ ¬IsGitRef ccache.stripped ∧ ¬IsCcacheVersion ccache.stripped := by
  rw [← isMatch_regexpGitRef, ← isMatch_regexpVersion]
  constructor
  · rintro ⟨e, h⟩
    unfold verdict at h
    split_ifs at h with hfound hexited hgitRef hversion
    rw [Bool.not_eq_true] at hfound
    rw [Bool.not_eq_true', Bool.not_eq_false] at hexited
    exact ⟨⟨hfound, hexited⟩, hgitRef, hversion⟩
  · rintro ⟨hsucceeds, hgitRef, hversion⟩
    rw [Fails, verdict_succeeds hsucceeds, if_neg hgitRef, if_neg hversion]
    exact ⟨_, rfl⟩

theorem fails_iff_answer (ccache : Process) :
    Fails ccache ↔ ∃ e, (verdict ccache).answer isOld = .error e := by
  rw [Fails]
  cases verdict ccache with
  | known value => simp [Probe.Verdict.answer]
  | unknown disable => simp [Probe.Verdict.answer]
  | failed e => simp [Probe.Verdict.answer]

theorem isOld_iff {version : Text} (h : IsCcacheVersion version) :
    isOld version = true ↔ padded (components version) < padded [4, 10] := by
  rw [isOld, decide_eq_true h.ne_gitRef, Bool.and_true, less_iff]

/-- A ccache that is there, and either complains or prints a version before 4.10 that is no git
reference. -/
def Disables (ccache : Process) : Prop :=
  ccache.result.strequal "no such file or directory" = false ∧
    (ccache.result.equal 0 = true →
      ¬IsGitRef ccache.stripped ∧ IsCcacheVersion ccache.stripped ∧
        padded (components ccache.stripped) < padded [4, 10])

theorem disables_iff (ccache : Process) :
    Disables ccache ↔ (verdict ccache).answer isOld = .ok true := by
  rw [Disables, iff_comm]
  cases hfound : ccache.result.strequal "no such file or directory" with
  | true =>
    rw [verdict, if_pos hfound]
    simp [Probe.Verdict.answer]
  | false =>
    cases hexited : ccache.result.equal 0 with
    | false =>
      have hcomplains : (!ccache.result.equal 0) = true := congrArg Bool.not hexited
      rw [verdict, hfound, if_neg Bool.false_ne_true, if_pos hcomplains]
      simp only [Bool.false_eq_true, false_implies, and_self, iff_true]
      decide
    | true =>
      rw [verdict_succeeds ⟨hfound, hexited⟩]
      by_cases hgitRef : IsGitRef ccache.stripped
      · have hnew : isOld "git-ref".toList = false := by decide
        rw [if_pos ((isMatch_regexpGitRef _).mpr hgitRef), Probe.Verdict.answer, hnew]
        simp [hgitRef]
      · rw [if_neg (mt (isMatch_regexpGitRef _).mp hgitRef)]
        by_cases hversion : IsCcacheVersion ccache.stripped
        · rw [if_pos ((isMatch_regexpVersion _).mpr hversion), Probe.Verdict.answer]
          simp [hgitRef, hversion, ← isOld_iff hversion]
        · rw [if_neg (mt (isMatch_regexpVersion _).mp hversion)]
          simp [Probe.Verdict.answer, hversion]

end TinyPlay.Ccache

import TinyPlay.Proofs.VersionHeader

/-! The version of the build against the version of the program: `tiny_read_version` and the macros
of the header say the same, and a newer version is newer for both. -/

namespace TinyPlay.VersionHeader

open CMake Version

/-- A decimal literal without zeros in front. -/
def Decimal (w : Text) : Prop := Numeral w ∧ (w.head? = some '0' → w = ['0'])

theorem Decimal.literal_eq {w : Text} (h : Decimal w) : Macros.literal w = value w := by
  rw [Macros.literal]
  split_ifs with hzero
  · rw [h.2 hzero]
    rfl
  · rfl

/-- Something that does not go on with the version. -/
def Closing (status : Text) : Prop := ∀ c ∈ status.head?, c.isDigit = false ∧ c ≠ '.'

theorem componentsFrom_closing (n : ℕ) {status : Text} (h : Closing status) :
    componentsFrom (some n) status = [n] := by
  cases status with
  | nil => rfl
  | cons c status =>
    obtain ⟨hdigit, hdot⟩ := h c rfl
    rw [componentsFrom, hdigit, if_neg Bool.false_ne_true, if_neg hdot]

/-- A dotted text is read up to the status. -/
theorem components_dotted {w : Text} {ws : List Text} (h : ∀ u ∈ w :: ws, Numeral u)
    {status : Text} (hstatus : Closing status) :
    components (['.'].intercalate (w :: ws) ++ status) = (w :: ws).map value := by
  induction ws generalizing w with
  | nil =>
    have hw := h w List.mem_cons_self
    have hone : ['.'].intercalate [w] = w := by simp [List.intercalate]
    rw [hone, components_numeral hw, componentsFrom_closing _ hstatus, List.map_singleton]
  | cons u us ih =>
    rw [List.forall_mem_cons] at h
    have hmore : ['.'].intercalate (w :: u :: us) = w ++ '.' :: ['.'].intercalate (u :: us) := by
      simp [List.intercalate]
    rw [hmore, List.append_assoc, List.cons_append, components_numeral h.1, componentsFrom,
      if_neg (by decide), if_pos rfl, ← components, ih h.2]
    rfl

theorem padded_snoc_zero (v : List ℕ) : padded (v ++ [0]) = padded v := by
  unfold padded
  congr 1
  funext i
  rw [List.getD_eq_getElem?_getD, List.getD_eq_getElem?_getD]
  rcases lt_trichotomy i v.length with hi | rfl | hi
  · rw [List.getElem?_append_left hi]
  · simp
  · rw [List.getElem?_eq_none hi.le,
      List.getElem?_eq_none (by rw [List.length_append, List.length_singleton]; omega)]

namespace Header

/-- The macros of a header, with a status. -/
def macros (h : Header) (status : Text) : Macros where
  versionMajor := (h.number .major).digits
  versionMinor := (h.number .minor).digits
  versionBugfix := (h.number .bugfix).digits
  versionBuild := (h.number .build).digits
  versionStatus := status

/-- The numbers without leading zeros; the middle ones have two digits in the version number. -/
structure WellNumbered (h : Header) : Prop where
  decimal : ∀ part, Decimal (h.number part).digits
  minor : Version.value (h.number .minor).digits < 100
  bugfix : Version.value (h.number .bugfix).digits < 100

variable {h h' : Header} {status status' : Text}

/-- The number of a part. -/
def value (h : Header) (part : Part) : ℕ := Version.value (h.number part).digits

theorem components_four (h : Header) (hstatus : Closing status) :
    components (['.'].intercalate [(h.number .major).digits, (h.number .minor).digits,
      (h.number .bugfix).digits, (h.number .build).digits] ++ status) =
        [h.value .major, h.value .minor, h.value .bugfix, h.value .build] := by
  refine components_dotted ?_ hstatus
  simp only [List.forall_mem_cons, List.not_mem_nil, false_implies, implies_true, and_true]
  exact ⟨(h.number _).numeral, (h.number _).numeral, (h.number _).numeral, (h.number _).numeral⟩

theorem components_three (h : Header) (hstatus : Closing status) :
    components (['.'].intercalate [(h.number .major).digits, (h.number .minor).digits,
      (h.number .bugfix).digits] ++ status) =
        [h.value .major, h.value .minor, h.value .bugfix] := by
  refine components_dotted ?_ hstatus
  simp only [List.forall_mem_cons, List.not_mem_nil, false_implies, implies_true, and_true]
  exact ⟨(h.number _).numeral, (h.number _).numeral, (h.number _).numeral⟩

theorem closing_nil : Closing [] := by
  rintro c ⟨⟩

theorem components_read (h : Header) : components h.read.version =
    [h.value .major, h.value .minor, h.value .bugfix, h.value .build] := by
  rw [← components_four h closing_nil, List.append_nil]
  rfl

/-- The program leaves a tweak of zero out. -/
theorem versionStr_eq (hnumbers : h.WellNumbered) (hstatus : Closing status) :
    padded (components (h.macros status).versionStr) = padded (components h.read.version) := by
  have hbuild : Macros.literal (h.macros status).versionBuild = h.value .build :=
    (hnumbers.decimal .build).literal_eq
  rw [components_read, Macros.versionStr, Macros.projectVersion, hbuild]
  split_ifs with hzero
  · exact congrArg padded (components_four h hstatus)
  · rw [not_not] at hzero
    rw [hzero]
    exact (congrArg padded (components_three h hstatus)).trans (padded_snoc_zero _).symm

theorem version_eq (hnumbers : h.WellNumbered) : (h.macros status).version =
    h.value .major * 10000 + h.value .minor * 100 + h.value .bugfix := by
  rw [Macros.version, macros, (hnumbers.decimal .major).literal_eq,
    (hnumbers.decimal .minor).literal_eq, (hnumbers.decimal .bugfix).literal_eq]
  rfl

theorem components_release (h : Header) :
    components (['.'].intercalate [h.read.major, h.read.minor, h.read.patch]) =
      [h.value .major, h.value .minor, h.value .bugfix] := by
  rw [← components_three h closing_nil, List.append_nil]
  rfl

/-- The version of the program is the one of the build, and its number orders releases as CMake
does. -/
theorem versions_agree (hnumbers : h.WellNumbered) (hnumbers' : h'.WellNumbered)
    (hstatus : Closing status) :
    padded (components (h.macros status).versionStr) = padded (components h.read.version) ∧
      ((h.macros status).version < (h'.macros status').version ↔
        padded (components (['.'].intercalate [h.read.major, h.read.minor, h.read.patch])) <
          padded (components (['.'].intercalate [h'.read.major, h'.read.minor, h'.read.patch]))) :=
    by
  refine ⟨versionStr_eq hnumbers hstatus, ?_⟩
  have hminor : h.value .minor < 100 := hnumbers.minor
  have hbugfix : h.value .bugfix < 100 := hnumbers.bugfix
  have hminor' : h'.value .minor < 100 := hnumbers'.minor
  have hbugfix' : h'.value .bugfix < 100 := hnumbers'.bugfix
  rw [version_eq hnumbers, version_eq hnumbers', components_release, components_release, ← less_iff]
  simp only [less, Bool.or_eq_true, Bool.and_eq_true, decide_eq_true_eq, beq_iff_eq,
    Bool.false_eq_true, and_false, or_false]
  omega

theorem numeral_digit {c : Char} (h : c.isDigit = true) : Numeral [c] := by
  refine ⟨List.cons_ne_nil _ _, ?_⟩
  simpa using h

theorem sixth_named : ∀ c ∈ "TINYPLAY".toList, c = '_' ∨ c.isAlphanum = true := by decide

def sixthBefore : List Text :=
  ["#pragma once".toList, "#define TINYPLAY_VERSION_HPP".toList, []]

def sixthAfter : Part → List Text
  | .build => ["#define TINYPLAY_VERSION_STATUS \"\"".toList]
  | _ => []

theorem sixth_before : ∀ line ∈ sixthBefore, Other "TINYPLAY".toList line := by
  simp only [sixthBefore, List.forall_mem_cons, List.not_mem_nil, false_implies, implies_true,
    and_true]
  refine ⟨⟨?_, by decide⟩, ⟨?_, by decide⟩, ⟨?_, by decide⟩⟩
  · unfold Printable
    decide
  · unfold Printable
    decide
  · unfold Printable
    decide

theorem sixth_after (part : Part) : ∀ line ∈ sixthAfter part, Other "TINYPLAY".toList line := by
  cases part with
  | build =>
    simp only [sixthAfter, List.forall_mem_cons, List.not_mem_nil, false_implies, implies_true,
      and_true]
    refine ⟨?_, by decide⟩
    unfold Printable
    decide
  | _ => exact fun line hline => absurd hline List.not_mem_nil

/-- The header of the releases 0.6, with some of the other lines. -/
def sixth (bugfix : Char) (h : bugfix.isDigit = true) : Header where
  versionPrefix := "TINYPLAY".toList
  named := sixth_named
  number
    | .minor => ⟨0, ['6'], numeral_digit rfl⟩
    | .bugfix => ⟨0, [bugfix], numeral_digit h⟩
    | _ => ⟨0, ['0'], numeral_digit rfl⟩
  before := sixthBefore
  after := sixthAfter
  before_other := sixth_before
  after_other := sixth_after

theorem sixth_wellNumbered {c : Char} (h : c.isDigit = true) (hc : Version.value [c] < 100) :
    (sixth c h).WellNumbered := by
  have hsix : Version.value ['6'] < 100 := by decide
  refine ⟨fun part => ⟨((sixth c h).number part).numeral, ?_⟩, hsix, hc⟩
  cases part with
  | major => exact fun _ => rfl
  | minor => exact fun hzero => absurd hzero (by decide : ['6'].head? ≠ some '0')
  | bugfix => exact fun hzero => congrArg ([·]) (Option.some.inj hzero)
  | build => exact fun _ => rfl

theorem versions_agree_sixth :
    padded (components ((sixth '1' rfl).macros "-rc".toList).versionStr) =
        padded (components (sixth '1' rfl).read.version) ∧
      ((sixth '1' rfl).macros "-rc".toList).version < ((sixth '2' rfl).macros []).version := by
  have hstatus : Closing "-rc".toList := by
    rintro c ⟨⟩
    exact ⟨by decide, by decide⟩
  obtain ⟨hstr, horder⟩ := versions_agree (sixth_wellNumbered (c := '1') rfl (by decide))
    (sixth_wellNumbered (c := '2') rfl (by decide)) hstatus
  exact ⟨hstr, horder.mpr ((less_iff _ _).mp (by decide))⟩

end Header

end TinyPlay.VersionHeader

import TinyPlay.Spec.Toolchain

/-! Which Qt versions a configure step lets through. The pattern of the check takes any symbol
for a dot, and the comparison is with a variable that no command sets, so it holds for every
version, in the first configure step as in the later ones. -/

namespace TinyPlay

open CMake Version

/-! ### The pattern -/

/-- Three or four decimal numbers. -/
def IsVersion (separator : Char → Prop) (numbers : List ℕ) (t : Text) : Prop :=
  Spells separator numbers t ∧ (numbers.length = 3 ∨ numbers.length = 4)

theorem IsVersion.mono {separator separator' : Char → Prop}
    (hle : ∀ c, separator c → separator' c) {numbers : List ℕ} {t : Text}
    (h : IsVersion separator numbers t) : IsVersion separator' numbers t :=
  ⟨h.1.mono hle, h.2⟩

theorem exists_isVersion {separator : Char → Prop} {t : Text} :
    (∃ numbers, IsVersion separator numbers t) ↔
      HasNumbers separator 3 t ∨ HasNumbers separator 4 t := by
  simp only [IsVersion, HasNumbers, and_or_left, exists_or]

/-- `[0-9]+` -/
def digits : Regex Char := .plus (.one (Regex.inClass ['0', '-', '9']))

/-- The bare dot. -/
def any : Regex Char := .one fun _ => true

def versionRegex : Regex Char :=
  .next digits (.next any (.next digits (.next any (.next digits
    (.next (.maybe (.next any (.next digits .empty))) .empty)))))

theorem mem_digits {t : Text} : t ∈ digits.language ↔ Numeral t := by
  have hclass : ∀ c, Regex.inClass ['0', '-', '9'] c = c.isDigit := by
    intro c
    exact Bool.or_false _
  rw [digits, Regex.mem_plus_one, Numeral]
  simp only [hclass]

theorem mem_next_digits {r : Regex Char} {t : Text} :
    t ∈ (Regex.next digits (.next any r)).language ↔
      ∃ w c s, Numeral w ∧ s ∈ r.language ∧ t = w ++ c :: s := by
  rw [Regex.mem_next]
  constructor
  · rintro ⟨w, hw, v, hv, rfl⟩
    obtain ⟨c, s, -, hs, rfl⟩ := Regex.mem_next_one.mp hv
    exact ⟨w, c, s, mem_digits.mp hw, hs, rfl⟩
  · rintro ⟨w, c, s, hw, hs, rfl⟩
    exact ⟨w, mem_digits.mpr hw, c :: s, Regex.mem_next_one.mpr ⟨c, s, rfl, hs, rfl⟩, rfl⟩

/-- A number and a separator in front of one or two more fields. -/
theorem mem_field {r : Regex Char} {n : ℕ}
    (hr : ∀ t, t ∈ r.language ↔
      HasNumbers (fun _ => True) (n + 1) t ∨ HasNumbers (fun _ => True) (n + 2) t) (t : Text) :
    t ∈ (Regex.next digits (.next any r)).language ↔
      HasNumbers (fun _ => True) (n + 2) t ∨ HasNumbers (fun _ => True) (n + 3) t := by
  rw [hasNumbers_succ, hasNumbers_succ, mem_next_digits]
  constructor
  · rintro ⟨w, c, s, hw, hs, rfl⟩
    rcases (hr s).mp hs with h | h
    · exact .inl ⟨w, c, s, hw, trivial, h, rfl⟩
    · exact .inr ⟨w, c, s, hw, trivial, h, rfl⟩
  · rintro (⟨w, c, s, hw, -, h, rfl⟩ | ⟨w, c, s, hw, -, h, rfl⟩)
    · exact ⟨w, c, s, hw, (hr s).mpr (.inl h), rfl⟩
    · exact ⟨w, c, s, hw, (hr s).mpr (.inr h), rfl⟩

theorem mem_versionRegex (t : Text) :
    t ∈ versionRegex.language ↔ ∃ numbers, IsVersion (fun _ => True) numbers t := by
  rw [exists_isVersion]
  refine mem_field (mem_field fun s => ?_) t
  -- the third number, with a fourth one or not
  have hlast : (Regex.next digits
      (.next (.maybe (.next any (.next digits .empty))) .empty)).language =
        (Regex.next digits (.maybe (.next any (.next digits .empty)))).language :=
    congrArg (digits.language * ·) (Regex.language_next_empty _)
  rw [hlast, Regex.mem_next_maybe, mem_digits, mem_next_digits, hasNumbers_one, hasNumbers_succ]
  simp only [Nat.zero_add, hasNumbers_one, Regex.language_next_empty, mem_digits, true_and]

/-- The pattern takes any symbol for a separator. -/
theorem isMatch_regexpVersion (t : Text) :
    (regexpVersion.any fun pattern => isMatch pattern t) = true ↔
      ∃ numbers, IsVersion (fun _ => True) numbers t := by
  have hany : (regexpVersion.any fun pattern => isMatch pattern t) = versionRegex.accepts t := rfl
  rw [hany, Regex.accepts_iff, mem_versionRegex]

/-! ### The function -/

/-- What the stored version is answered with. -/
def decided (s : State) : Text :=
  if s.versionGreaterEqual "TINY_QT_VERSION" "minReqQtVersion" then TRUE else FALSE

theorem set_decided (s : State) (outVariable : String) (cache : String → Option Text) :
    (if s.versionGreaterEqual "TINY_QT_VERSION" "minReqQtVersion" then
      .ok ⟨[(outVariable, TRUE)], cache, []⟩ else .ok ⟨[(outVariable, FALSE)], cache, []⟩ :
      Except Text Returned) = .ok ⟨[(outVariable, decided s)], cache, []⟩ := by
  unfold decided
  split_ifs
  · rfl
  · rfl

theorem tinySatisfies_cached {s : State} {version : Text}
    (hversion : s.value? "TINY_QT_VERSION" = some version) (hne : version ≠ [])
    (outVariable : String) (qmake : Process) :
    tinySatisfiesMinimumRequiredQtVersion s outVariable qmake =
      .ok ⟨[(outVariable, decided s)], s.cache, []⟩ := by
  have hempty : s.strequal "TINY_QT_VERSION" "" = false := by
    simpa [State.strequal, State.operand, hversion] using hne
  simp only [tinySatisfiesMinimumRequiredQtVersion, hversion, hempty, Option.isSome_some,
    Bool.not_false, Bool.and_true, if_true]
  exact set_decided s outVariable s.cache

/-- What qmake prints in a successful run, as the function sees it. -/
def qtVersion (output : List Char) : Text := Process.stripped ⟨.exited 0, output⟩

theorem exited_zero : ((ProcessResult.exited 0).strequal "no such file or directory" ||
    !(ProcessResult.exited 0).equal 0) = false := by
  decide

theorem tinySatisfies_parsed {s : State} {output : List Char}
    (hversion : s.value? "TINY_QT_VERSION" = none)
    (hparsed : ∃ numbers, IsVersion (fun _ => True) numbers (qtVersion output))
    (outVariable : String) :
    tinySatisfiesMinimumRequiredQtVersion s outVariable ⟨.exited 0, output⟩ =
      .ok ⟨[(outVariable, decided (s.setCache "TINY_QT_VERSION" (qtVersion output)))],
        (s.setCache "TINY_QT_VERSION" (qtVersion output)).cache, []⟩ := by
  have hmatch := (isMatch_regexpVersion _).mpr hparsed
  rw [qtVersion] at hmatch
  simp only [tinySatisfiesMinimumRequiredQtVersion, hversion, exited_zero, hmatch,
    Option.isSome_none, Bool.false_and, Bool.false_eq_true, if_false, Bool.not_true]
  exact set_decided _ outVariable _

theorem tinySatisfies_rejected {s : State} {output : List Char}
    (hversion : s.value? "TINY_QT_VERSION" = none)
    (hparsed : ¬∃ numbers, IsVersion (fun _ => True) numbers (qtVersion output))
    (outVariable : String) :
    tinySatisfiesMinimumRequiredQtVersion s outVariable ⟨.exited 0, output⟩ =
      .error parsingFailed := by
  have hmatch := mt (isMatch_regexpVersion _).mp hparsed
  rw [qtVersion, Bool.not_eq_true] at hmatch
  simp only [tinySatisfiesMinimumRequiredQtVersion, hversion, exited_zero, hmatch,
    Option.isSome_none, Bool.false_and, Bool.false_eq_true, if_false, Bool.not_false, if_true]

theorem decided_iff (s : State) :
    decided s = TRUE ↔
      padded (components (s.operand "minReqQtVersion")) ≤
        padded (components (s.operand "TINY_QT_VERSION")) := by
  have hne : ¬FALSE = TRUE := by decide
  rw [← s.versionGreaterEqual_iff, decided]
  split_ifs with h
  · simp [h]
  · simp [h, hne]

/-- The text `minReqQtVersion` has no components: without a variable of this name, every version
is greater or equal. -/
theorem decided_undefined {s : State} (h : s.value? "minReqQtVersion" = none) :
    decided s = TRUE := by
  have hcomponents : components "minReqQtVersion".toList = [] := by decide
  rw [decided_iff, State.operand, h, Option.getD_none, hcomponents]
  exact padded_nil_le _

/-! ### The scopes of a configure step -/

/-- The scope of `tiny_toolchain_requirement`. -/
def parsedScope (toolchain : Toolchain) (cache : String → Option Text) : State :=
  let s := versionRequirements (toolchain.state cache)
  s.parseArguments "TINY" oneValueArgs (requirementArguments s)

/-- The same scope where the Qt version is asked for. -/
def askingScope (toolchain : Toolchain) (cache : String → Option Text) : State :=
  (parsedScope toolchain cache).unset "satisfiedMinReqQtVersion"

theorem askingScope_cache (toolchain : Toolchain) (cache : String → Option Text) :
    (askingScope toolchain cache).cache = cache := by
  simp only [askingScope, parsedScope, State.unset, parseArguments_cache, versionRequirements,
    Toolchain.state, setAll_cache]

/-- No command of the configuration gives these names a value. -/
theorem askingScope_value {name : String}
    (hname : name = "TINY_QT_VERSION" ∨ name = "minReqQtVersion") (toolchain : Toolchain)
    (cache : String → Option Text) : (askingScope toolchain cache).value? name = cache name := by
  have hanswer : name ≠ "satisfiedMinReqQtVersion" := by
    rcases hname with rfl | rfl <;> decide
  have harguments : name ∉ oneValueArgs.map fun keyword => "TINY" ++ "_" ++ keyword := by
    rcases hname with rfl | rfl <;> decide
  have hunparsed : name ≠ "TINY" ++ "_UNPARSED_ARGUMENTS" := by
    rcases hname with rfl | rfl <;> decide
  have hscope : (askingScope toolchain cache).scope name = none := by
    rw [askingScope, State.unset]
    refine (Function.update_of_ne hanswer _ _).trans ?_
    rw [parsedScope, parseArguments_scope _ harguments hunparsed, versionRequirements, setAll_scope,
      Toolchain.state, setAll_scope]
    · rcases hname with rfl | rfl <;> simp
    · rcases hname with rfl | rfl <;> simp
  rw [State.value?, hscope, askingScope_cache, Option.none_or]

/-- A build tree that has not been configured. -/
def fresh : String → Option Text := fun _ => none

/-- The call of `tiny_satisfies_minimum_required_qt_version`. -/
def ask (toolchain : Toolchain) (cache : String → Option Text) (qmake : Process) :
    Except Text Returned :=
  tinySatisfiesMinimumRequiredQtVersion (askingScope toolchain cache) "satisfiedMinReqQtVersion"
    qmake

def answer (r : Returned) : Option Text := r.parentScope.lookup "satisfiedMinReqQtVersion"

/-- The cache after the version has been stored. -/
def withVersion (version : Text) : String → Option Text :=
  Function.update fresh "TINY_QT_VERSION" (some version)

theorem ask_parsed (toolchain : Toolchain) {output : List Char}
    (hparsed : ∃ numbers, IsVersion (fun _ => True) numbers (qtVersion output)) :
    ask toolchain fresh ⟨.exited 0, output⟩ =
      .ok ⟨[("satisfiedMinReqQtVersion", TRUE)], withVersion (qtVersion output), []⟩ := by
  have hne : "minReqQtVersion" ≠ "TINY_QT_VERSION" := by decide
  have hundefined := (setCache_value_of_ne hne (qtVersion output)).trans
    (askingScope_value (.inr rfl) toolchain fresh)
  rw [ask, tinySatisfies_parsed (askingScope_value (.inl rfl) toolchain fresh) hparsed,
    decided_undefined hundefined, State.setCache, askingScope_cache, withVersion]

theorem ask_again (toolchain : Toolchain) {version : Text} (hne : version ≠ []) (qmake : Process) :
    ask toolchain (withVersion version) qmake =
      .ok ⟨[("satisfiedMinReqQtVersion", TRUE)], withVersion version, []⟩ := by
  have hversion := askingScope_value (.inl rfl) toolchain (withVersion version)
  have hundefined := askingScope_value (.inr rfl) toolchain (withVersion version)
  rw [ask, tinySatisfies_cached (hversion.trans (Function.update_self _ _ _)) hne,
    askingScope_cache, decided_undefined hundefined]

theorem isTrue_afterCall (s : State) (cache : String → Option Text) (name : String)
    (messages : List (Level × Text)) :
    (s.afterCall ⟨[(name, TRUE)], cache, messages⟩).isTrue name = true := by
  have hscope : (s.afterCall ⟨[(name, TRUE)], cache, messages⟩).scope name = some TRUE := by
    simp only [State.afterCall, State.setAll, State.set, List.foldl_cons, List.foldl_nil,
      Function.update_self]
  rw [State.isTrue, State.value?, hscope, Option.some_or, Option.any_some]
  decide

/-! ### The declared minimum -/

/-- `minQtVersion` -/
def declaredMinimum (toolchain : Toolchain) : List ℕ :=
  components ((versionRequirements (toolchain.state fresh)).reference "minQtVersion")

/-- What the check is for: a version is three or four numbers with dots, the answer compares it
with the declared minimum, a second configure step gives the same one, and an older Qt ends the
configure step. -/
structure MinimumEnforced (toolchain : Toolchain) (output : List Char) : Prop where
  accepts : (∃ r, ask toolchain fresh ⟨.exited 0, output⟩ = .ok r) ↔
    ∃ numbers, IsVersion (· = '.') numbers (qtVersion output)
  answers : ∀ r numbers, ask toolchain fresh ⟨.exited 0, output⟩ = .ok r →
    IsVersion (· = '.') numbers (qtVersion output) →
      (answer r = some TRUE ↔ padded (declaredMinimum toolchain) ≤ padded numbers)
  again : ∀ r qmake, ask toolchain fresh ⟨.exited 0, output⟩ = .ok r →
    ∃ r', ask toolchain r.cache qmake = .ok r' ∧ answer r' = answer r
  required : ∀ numbers, IsVersion (· = '.') numbers (qtVersion output) →
    padded numbers < padded (declaredMinimum toolchain) →
      ∃ message, configure toolchain fresh ⟨.exited 0, output⟩ = .error message

theorem enforced_of_newer {toolchain : Toolchain} {output : List Char} {numbers : List ℕ}
    (hnumbers : IsVersion (· = '.') numbers (qtVersion output))
    (hle : padded (declaredMinimum toolchain) ≤ padded numbers) :
    MinimumEnforced toolchain output := by
  have hparsed : ∃ numbers, IsVersion (fun _ => True) numbers (qtVersion output) :=
    ⟨numbers, hnumbers.mono fun _ _ => trivial⟩
  have hask := ask_parsed toolchain hparsed
  constructor
  · exact ⟨fun _ => ⟨numbers, hnumbers⟩, fun _ => ⟨_, hask⟩⟩
  · intro r numbers' hr hnumbers'
    obtain rfl := Except.ok.inj (hask.symm.trans hr)
    obtain rfl := hnumbers.1.unique hnumbers'.1
    exact ⟨fun _ => hle, fun _ => rfl⟩
  · intro r qmake hr
    obtain rfl := Except.ok.inj (hask.symm.trans hr)
    exact ⟨_, ask_again toolchain hnumbers.1.ne_nil qmake, rfl⟩
  · intro numbers' hnumbers' hlt
    obtain rfl := hnumbers.1.unique hnumbers'.1
    exact absurd hlt (not_lt.mpr hle)

theorem enforced_of_rejected {toolchain : Toolchain} {output : List Char}
    (hparsed : ¬∃ numbers, IsVersion (fun _ => True) numbers (qtVersion output)) :
    MinimumEnforced toolchain output := by
  have hdotted : ¬∃ numbers, IsVersion (· = '.') numbers (qtVersion output) :=
    fun ⟨numbers, h⟩ => hparsed ⟨numbers, h.mono fun _ _ => trivial⟩
  have hask : ask toolchain fresh ⟨.exited 0, output⟩ = .error parsingFailed :=
    tinySatisfies_rejected (askingScope_value (.inl rfl) toolchain fresh) hparsed _
  constructor
  · exact ⟨fun ⟨r, hr⟩ => (nomatch hask.symm.trans hr), fun h => absurd h hdotted⟩
  · exact fun r numbers _ h => absurd ⟨numbers, h⟩ hdotted
  · exact fun r qmake hr => (nomatch hask.symm.trans hr)
  · exact fun numbers h => absurd ⟨numbers, h⟩ hdotted

/-- The check does that for the minimum and newer versions, and for the texts that its pattern
rejects. -/
theorem minimumEnforced_iff (toolchain : Toolchain) (output : List Char) :
    MinimumEnforced toolchain output ↔
      (∃ numbers, IsVersion (· = '.') numbers (qtVersion output) ∧
        padded (declaredMinimum toolchain) ≤ padded numbers) ∨
      ¬∃ numbers, IsVersion (fun _ => True) numbers (qtVersion output) := by
  constructor
  · intro h
    by_cases hparsed : ∃ numbers, IsVersion (fun _ => True) numbers (qtVersion output)
    · have hask := ask_parsed toolchain hparsed
      obtain ⟨numbers, hnumbers⟩ := h.accepts.mp ⟨_, hask⟩
      exact .inl ⟨numbers, hnumbers, (h.answers _ numbers hask hnumbers).mp rfl⟩
    · exact .inr hparsed
  · rintro (⟨numbers, hnumbers, hle⟩ | hparsed)
    · exact enforced_of_newer hnumbers hle
    · exact enforced_of_rejected hparsed

/-- A machine on which no compiler check has anything to say. -/
def gnu : Toolchain where
  msvc := false
  compilerId := "GNU".toList
  compilerVersion := "13.2.0".toList
  simulateId := []
  simulateVersion := []
  qmakeExecutable := "qmake".toList

/-- Qt 5.15.2 passes, and so does a text that is no version. -/
theorem olderQt_not_refused :
    ¬MinimumEnforced gnu "5.15.2\n".toList ∧ ¬MinimumEnforced gnu "6a7b2\n".toList := by
  constructor
  · intro h
    have hversion : IsVersion (· = '.') [5, 15, 2] (qtVersion "5.15.2\n".toList) := by
      have hmajor : Numeral ['5'] := by simp [Numeral]
      have hminor : Numeral ['1', '5'] := by simp [Numeral]
      have hpatch : Numeral ['2'] := by simp [Numeral]
      exact ⟨.next hmajor rfl (.next hminor rfl (.last hpatch)), .inl rfl⟩
    have hlt : padded [5, 15, 2] < padded (declaredMinimum gnu) := (less_iff _ _).mp (by decide)
    obtain ⟨message, hmessage⟩ := h.required _ hversion hlt
    have hok : (configure gnu fresh ⟨.exited 0, "5.15.2\n".toList⟩).isOk = true := by decide
    rw [hmessage] at hok
    cases hok
  · intro h
    have hok : (ask gnu fresh ⟨.exited 0, "6a7b2\n".toList⟩).isOk = true := by decide
    cases hask : ask gnu fresh ⟨.exited 0, "6a7b2\n".toList⟩ with
    | error message =>
      rw [hask] at hok
      cases hok
    | ok r =>
      obtain ⟨numbers, hspells, hlength⟩ := h.accepts.mp ⟨r, hask⟩
      have hnumbers : [6] = numbers := hspells.components_eq
      rw [← hnumbers] at hlength
      simp at hlength

end TinyPlay

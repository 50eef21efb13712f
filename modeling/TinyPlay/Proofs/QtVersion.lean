import TinyPlay.Lib.Probe
import TinyPlay.Lib.Run
import TinyPlay.Proofs.Toolchain

/-! The Qt version over the life of a build tree: it is what the first qmake with a readable version
has said, and no configure step is ended by a version that is too old. -/

namespace TinyPlay.QtVersion

open CMake

/-- Between two configure steps other entries are set or removed by hand. -/
inductive Event where
  | edit (name : String) (value : Option Text)
  | configure (toolchain : Toolchain) (qmake : Process)

/-- The entry of the version, and the names that the check expects to be undefined: nobody edits
them by hand. -/
def kept : List String := ["TINY_QT_VERSION", "minReqQtVersion", "TINY_UNPARSED_ARGUMENTS"]

/-- A check that ends a configure step has not written anything before: the version is written by
the last one. -/
def step (cache : Cache) : Event → Option Cache
  | .edit name value => if name ∈ kept then none else some (Function.update cache name value)
  | .configure toolchain qmake => match configure toolchain cache qmake with
    | .ok r => some r.cache
    | .error _ => some cache

/-! ### One configure step -/

/-- What a run of qmake says. -/
def verdict (qmake : Process) : Probe.Verdict Text Unit Text :=
  if qmake.result.strequal "no such file or directory" || !qmake.result.equal 0 then .unknown ()
  else if !regexpVersion.any fun pattern => isMatch pattern qmake.stripped then
    .failed parsingFailed
  else .known qmake.stripped

/-- A build tree in which `version` has been stored. -/
structure Remembers (version : Option Text) (cache : Cache) : Prop where
  stored : cache "TINY_QT_VERSION" = version
  ne_nil : version ≠ some []
  undefined : cache "minReqQtVersion" = none
  parsed : cache "TINY_UNPARSED_ARGUMENTS" = none

theorem verdict_ne_nil {qmake : Process} {version : Text}
    (h : (verdict qmake).known? = some version) : version ≠ [] := by
  unfold verdict at h
  split_ifs at h with hdetermined hparsed
  · cases h
  · cases h
  · obtain rfl := Option.some.inj h
    rw [Bool.not_eq_true', Bool.not_eq_false] at hparsed
    obtain ⟨numbers, hnumbers⟩ := (isMatch_regexpVersion _).mp hparsed
    exact hnumbers.1.ne_nil

section Step

variable {toolchain : Toolchain} {cache : Cache} {qmake : Process}

theorem exited_of_determined
    (h : (qmake.result.strequal "no such file or directory" || !qmake.result.equal 0) = false) :
    qmake = ⟨.exited 0, qmake.output⟩ := by
  obtain ⟨result, output⟩ := qmake
  rw [Bool.or_eq_false_iff, Bool.not_eq_false'] at h
  cases result with
  | exited code =>
    obtain rfl := of_decide_eq_true h.2
    rfl
  | failed description => exact absurd h.2 Bool.false_ne_true

theorem verdict_exited (output : List Char) :
    verdict ⟨.exited 0, output⟩ =
      if !regexpVersion.any fun pattern => isMatch pattern (qtVersion output) then
        .failed parsingFailed
      else .known (qtVersion output) := by
  rw [verdict, exited_zero, if_neg Bool.false_ne_true, qtVersion]

theorem tinySatisfies_undetermined {s : State} (hversion : s.value? "TINY_QT_VERSION" = none)
    (h : (qmake.result.strequal "no such file or directory" || !qmake.result.equal 0) = true)
    (outVariable : String) :
    tinySatisfiesMinimumRequiredQtVersion s outVariable qmake =
      .ok ⟨[(outVariable, TRUE)], s.cache,
        [(.verbose, notDetermined (s.reference "QT_QMAKE_EXECUTABLE"))]⟩ := by
  rw [tinySatisfiesMinimumRequiredQtVersion, hversion, h]
  rfl

/-- The first run of qmake: an answer other than yes is not possible. -/
theorem ask_first (h : cache "TINY_QT_VERSION" = none) (hundefined : cache "minReqQtVersion" = none)
    (toolchain : Toolchain) (qmake : Process) :
    (∃ e, (verdict qmake).answer (fun _ => ()) = .error e ∧
      ask toolchain cache qmake = .error e) ∨
    (verdict qmake).answer (fun _ => ()) = .ok () ∧ ∃ messages, ask toolchain cache qmake =
      .ok ⟨[("satisfiedMinReqQtVersion", TRUE)],
        Function.update cache "TINY_QT_VERSION" (verdict qmake).known?, messages⟩ := by
  have hversion := (askingScope_value (.inl rfl) toolchain cache).trans h
  have hsame : Function.update cache "TINY_QT_VERSION" none = cache := by
    rw [← h, Function.update_eq_self]
  cases hdetermined : (qmake.result.strequal "no such file or directory" ||
      !qmake.result.equal 0) with
  | true =>
    have hunknown : (verdict qmake).known? = none := by
      rw [verdict, if_pos hdetermined]
      rfl
    rw [ask, tinySatisfies_undetermined hversion hdetermined, hunknown, hsame, askingScope_cache,
      verdict, if_pos hdetermined]
    exact .inr ⟨rfl, _, rfl⟩
  | false =>
    rw [exited_of_determined hdetermined, verdict_exited, ask]
    by_cases hparsed : ∃ numbers, IsVersion (fun _ => True) numbers (qtVersion qmake.output)
    · have hne : "minReqQtVersion" ≠ "TINY_QT_VERSION" := by decide
      have hdecided := (setCache_value_of_ne hne (qtVersion qmake.output)).trans
        ((askingScope_value (.inr rfl) toolchain cache).trans hundefined)
      rw [tinySatisfies_parsed hversion hparsed, decided_undefined hdecided,
        (isMatch_regexpVersion _).mpr hparsed, State.setCache, askingScope_cache]
      exact .inr ⟨rfl, [], rfl⟩
    · rw [tinySatisfies_rejected hversion hparsed,
        Bool.eq_false_iff.mpr (mt (isMatch_regexpVersion _).mp hparsed)]
      exact .inl ⟨_, rfl, rfl⟩

/-- The check is a probe with a memory, and its answer is always yes. -/
theorem ask_probes {version : Option Text} (h : Remembers version cache) (toolchain : Toolchain)
    (qmake : Process) :
    (∃ e, (Probe.ask (fun _ => ()) verdict version qmake).1 = .error e ∧
      ask toolchain cache qmake = .error e) ∨
    (Probe.ask (fun _ => ()) verdict version qmake).1 = .ok () ∧ ∃ messages,
      ask toolchain cache qmake = .ok ⟨[("satisfiedMinReqQtVersion", TRUE)],
        Function.update cache "TINY_QT_VERSION"
          (Probe.ask (fun _ => ()) verdict version qmake).2, messages⟩ := by
  cases version with
  | none => exact ask_first h.stored h.undefined toolchain qmake
  | some version =>
    have hversion := (askingScope_value (.inl rfl) toolchain cache).trans h.stored
    have hundefined := (askingScope_value (.inr rfl) toolchain cache).trans h.undefined
    have hne : version ≠ [] := fun hnil => h.ne_nil (congrArg some hnil)
    have hsame : Function.update cache "TINY_QT_VERSION" (some version) = cache := by
      rw [← h.stored, Function.update_eq_self]
    refine .inr ⟨rfl, [], ?_⟩
    rw [ask, tinySatisfies_cached hversion hne, decided_undefined hundefined, askingScope_cache,
      Probe.ask, hsame]

/-- The call has a keyword `QT` without a value behind it, as a variable of another name is
expanded. -/
theorem requirementArguments_eq (toolchain : Toolchain) (h : cache "minReqQtVersion" = none) :
    requirementArguments (versionRequirements (toolchain.state cache)) =
      requirementArguments (versionRequirements (toolchain.state fresh)) := by
  have hreference : (versionRequirements (toolchain.state cache)).reference "minReqQtVersion" =
      [] := by
    have hscope : (versionRequirements (toolchain.state cache)).reference "minReqQtVersion" =
        (cache "minReqQtVersion").getD [] := rfl
    rw [hscope, h, Option.getD_none]
  have hexpand : (versionRequirements (toolchain.state cache)).expand "minReqQtVersion" = [] := by
    rw [State.expand, if_pos hreference]
  rw [requirementArguments, hexpand]
  rfl

theorem parsedScope_unparsed {version : Option Text} (h : Remembers version cache)
    (toolchain : Toolchain) :
    (parsedScope toolchain cache).value? "TINY_UNPARSED_ARGUMENTS" = none := by
  have hcache : (parsedScope toolchain cache).cache = cache := askingScope_cache toolchain cache
  rw [State.value?, hcache, h.parsed, Option.or_none, parsedScope,
    requirementArguments_eq toolchain h.undefined]
  rfl

theorem configure_compiler {version : Option Text} (h : Remembers version cache)
    {toolchain : Toolchain} {e : Text}
    (hcompiler : compilerRequirement (parsedScope toolchain cache) = .error e) (qmake : Process) :
    configure toolchain cache qmake = .error e := by
  have hunparsed := parsedScope_unparsed h toolchain
  rw [parsedScope] at hcompiler hunparsed
  simp only [configure, tinyToolchainRequirement, hunparsed, hcompiler, bind, Except.bind,
    Option.isSome_none, Bool.false_eq_true, if_false]

/-- Behind the compiler checks, the configure step is the probe. -/
theorem configure_probes {version : Option Text} (h : Remembers version cache)
    {messages : List (Level × Text)}
    (hcompiler : compilerRequirement (parsedScope toolchain cache) = .ok messages)
    (qmake : Process) :
    (∃ e, (Probe.ask (fun _ => ()) verdict version qmake).1 = .error e ∧
      configure toolchain cache qmake = .error e) ∨
    (Probe.ask (fun _ => ()) verdict version qmake).1 = .ok () ∧ ∃ messages',
      configure toolchain cache qmake = .ok ⟨[], Function.update cache "TINY_QT_VERSION"
        (Probe.ask (fun _ => ()) verdict version qmake).2, messages'⟩ := by
  have hunparsed := parsedScope_unparsed h toolchain
  have hask := ask_probes h toolchain qmake
  rw [ask, askingScope] at hask
  rw [parsedScope] at hunparsed hcompiler hask
  rcases hask with ⟨e, herror, hask⟩ | ⟨hok, asked, hask⟩
  · refine .inl ⟨e, herror, ?_⟩
    simp only [configure, tinyToolchainRequirement, hunparsed, hcompiler, hask, bind, Except.bind,
      Option.isSome_none, Bool.false_eq_true, if_false]
  · refine .inr ⟨hok, messages ++ asked, ?_⟩
    simp only [configure, tinyToolchainRequirement, hunparsed, hcompiler, hask, isTrue_afterCall,
      bind, Except.bind, pure, Except.pure, Option.isSome_none, Bool.false_eq_true, if_false,
      Bool.not_true, afterCall_cache]

end Step

/-! ### The life of a build tree -/

/-- The qmake that a configure step asks, behind the compiler checks. -/
def askedBy (cache : Cache) : Event → Option Process
  | .edit _ _ => none
  | .configure toolchain qmake =>
    if (compilerRequirement (parsedScope toolchain cache)).isOk then some qmake else none

def asked (es : List Event) : List Process := Runs.seen step askedBy fresh es

/-- The first readable version. -/
def remembered (es : List Event) : Option Text := Probe.first verdict (asked es)

variable {es : List Event} {cache : Cache}

theorem remembered_ne_nil (es : List Event) : remembered es ≠ some [] := by
  intro h
  obtain ⟨qmake, -, hknown⟩ := Probe.exists_of_first h
  exact verdict_ne_nil hknown rfl

theorem remembered_snoc (hrun : Runs.run step fresh es = some cache) (e : Event) :
    remembered (es ++ [e]) = match askedBy cache e with
      | some qmake => (Probe.ask (fun _ => ()) verdict (remembered es) qmake).2
      | none => remembered es := by
  have hasked : asked (es ++ [e]) = asked es ++ (askedBy cache e).toList := Runs.seen_snoc hrun e
  rw [remembered, hasked]
  cases askedBy cache e with
  | none => rw [Option.toList_none, List.append_nil, remembered]
  | some qmake => exact (Probe.first_snoc _ _).trans (Probe.ask_snd _ _).symm

theorem Remembers.edit {version : Option Text} (h : Remembers version cache) {name : String}
    (hname : name ∉ kept) (value : Option Text) :
    Remembers version (Function.update cache name value) := by
  have hne : ∀ kept' ∈ kept, kept' ≠ name := fun _ hkept => ne_of_mem_of_not_mem hkept hname
  refine ⟨?_, h.ne_nil, ?_, ?_⟩
  · rw [Function.update_of_ne (hne _ (by decide)), h.stored]
  · rw [Function.update_of_ne (hne _ (by decide)), h.undefined]
  · rw [Function.update_of_ne (hne _ (by decide)), h.parsed]

theorem Remembers.store {version version' : Option Text} (h : Remembers version cache)
    (hne : version' ≠ some []) :
    Remembers version' (Function.update cache "TINY_QT_VERSION" version') := by
  refine ⟨Function.update_self _ _ _, hne, ?_, ?_⟩
  · rw [Function.update_of_ne (by decide), h.undefined]
  · rw [Function.update_of_ne (by decide), h.parsed]

theorem run_remembers (hrun : Runs.run step fresh es = some cache) :
    Remembers (remembered es) cache := by
  refine Runs.invariant_of_forall (P := fun es cache => Remembers (remembered es) cache)
    (K := fun _ => True) ⟨rfl, remembered_ne_nil [], rfl, rfl⟩ ?_ (fun _ _ => trivial) hrun
  intro es cache e cache' hrun hcache _ hstep
  have hne := remembered_ne_nil (es ++ [e])
  have hremembered := remembered_snoc hrun e
  cases e with
  | edit name value =>
    simp only [step] at hstep
    split_ifs at hstep with hname
    obtain rfl := Option.some.inj hstep
    rw [hremembered]
    exact hcache.edit hname value
  | configure toolchain qmake =>
    simp only [step] at hstep
    cases hcompiler : compilerRequirement (parsedScope toolchain cache) with
    | error e =>
      rw [configure_compiler hcache hcompiler] at hstep
      obtain rfl := Option.some.inj hstep
      have hnot : askedBy cache (.configure toolchain qmake) = none := by
        rw [askedBy, hcompiler]
        rfl
      rw [hremembered, hnot]
      exact hcache
    | ok messages =>
      have hyes : askedBy cache (.configure toolchain qmake) = some qmake := by
        rw [askedBy, hcompiler]
        rfl
      rw [hyes] at hremembered
      rcases configure_probes hcache hcompiler qmake with ⟨e, herror, hconf⟩ | ⟨-, messages', hconf⟩
      · rw [hconf] at hstep
        obtain rfl := Option.some.inj hstep
        have hsame := Probe.ask_of_error herror
        rw [hremembered]
        dsimp only
        rw [hsame]
        exact hcache
      · rw [hconf] at hstep
        obtain rfl := Option.some.inj hstep
        rw [hremembered] at hne ⊢
        exact hcache.store hne

theorem ask_error_iff (version : Option Text) (qmake : Process) :
    (∃ e, (Probe.ask (fun _ => ()) verdict version qmake).1 = .error e) ↔
      version = none ∧ ∃ output, qmake = ⟨.exited 0, output⟩ ∧
        ¬∃ numbers, IsVersion (fun _ => True) numbers (qtVersion output) := by
  cases version with
  | some version => simp [Probe.ask]
  | none =>
    simp only [Probe.ask, true_and]
    constructor
    · rintro ⟨e, h⟩
      cases hdetermined : (qmake.result.strequal "no such file or directory" ||
          !qmake.result.equal 0) with
      | true =>
        rw [verdict, if_pos hdetermined] at h
        cases h
      | false =>
        refine ⟨qmake.output, exited_of_determined hdetermined, fun hparsed => ?_⟩
        rw [exited_of_determined hdetermined, verdict_exited,
          (isMatch_regexpVersion _).mpr hparsed] at h
        cases h
    · rintro ⟨output, rfl, hparsed⟩
      rw [verdict_exited, Bool.eq_false_iff.mpr (mt (isMatch_regexpVersion _).mp hparsed)]
      exact ⟨_, rfl⟩

/-- Behind the compiler checks, a configure step is ended only by a qmake that prints something
unreadable while no version is known. The version that is known then stays, whichever Qt is used
later, and none is ever too old. -/
theorem qtVersion_settled (hrun : Runs.run step fresh es = some cache) :
    cache "TINY_QT_VERSION" = remembered es ∧
    ∀ toolchain qmake messages,
      compilerRequirement (parsedScope toolchain cache) = .ok messages →
      ((∃ e, configure toolchain cache qmake = .error e) ↔
        remembered es = none ∧ ∃ output, qmake = ⟨.exited 0, output⟩ ∧
          ¬∃ numbers, IsVersion (fun _ => True) numbers (qtVersion output)) ∧
      ∀ r, configure toolchain cache qmake = .ok r →
        r.cache "TINY_QT_VERSION" = (remembered es).or (verdict qmake).known? := by
  have hmemory := run_remembers hrun
  refine ⟨hmemory.stored, fun toolchain qmake messages hcompiler => ?_⟩
  have hknown : (Probe.ask (fun _ => ()) verdict (remembered es) qmake).2 =
      (remembered es).or (verdict qmake).known? := Probe.ask_snd _ _
  rw [← ask_error_iff, ← hknown]
  rcases configure_probes hmemory hcompiler qmake with ⟨e, herror, hconf⟩ | ⟨hok, messages', hconf⟩
  · refine ⟨⟨fun _ => ⟨e, herror⟩, fun _ => ⟨e, hconf⟩⟩, fun r hr => ?_⟩
    rw [hconf] at hr
    cases hr
  · refine ⟨⟨fun ⟨e, he⟩ => ?_, fun ⟨e, he⟩ => ?_⟩, fun r hr => ?_⟩
    · rw [hconf] at he
      cases he
    · rw [hok] at he
      cases he
    · obtain rfl := Except.ok.inj (hconf.symm.trans hr)
      exact Function.update_self "TINY_QT_VERSION" _ cache

/-- Qt 6.7 is replaced by Qt 5.15, and qmake by something else. -/
theorem qtVersion_settled_downgraded :
    ∃ cache, Runs.run step fresh [.configure gnu ⟨.exited 0, "6.7.2\n".toList⟩] = some cache ∧
      cache "TINY_QT_VERSION" = some "6.7.2".toList ∧
      ∀ qmake e, configure gnu cache qmake ≠ .error e := by
  obtain ⟨cache, hrun⟩ : ∃ cache, Runs.run step fresh
      [.configure gnu ⟨.exited 0, "6.7.2\n".toList⟩] = some cache := ⟨_, rfl⟩
  have hsettled := qtVersion_settled hrun
  have hremembered : remembered [.configure gnu ⟨.exited 0, "6.7.2\n".toList⟩] =
      some "6.7.2".toList := by
    decide
  refine ⟨cache, hrun, hsettled.1.trans hremembered, fun qmake e he => ?_⟩
  have hcompiler : compilerRequirement (parsedScope gnu cache) = .ok [] := by
    obtain rfl := Option.some.inj hrun
    rfl
  have hnone := ((hsettled.2 gnu qmake [] hcompiler).1.mp ⟨e, he⟩).1
  rw [hremembered] at hnone
  cases hnone

end TinyPlay.QtVersion

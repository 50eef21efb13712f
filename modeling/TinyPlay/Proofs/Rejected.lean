import TinyPlay.Proofs.Components

/-! The reasons for which a configure step ends with a fatal error, in any build tree. -/

namespace TinyPlay.Project

open CMake Entries

/-! ### Unsupported builds -/

/-- What `tiny_check_unsupported_build` rejects. -/
inductive Unsupported (s : State) (shared multiConfig : Bool) : Prop where
  | inlineConstants (hmingw : s.isTrue "MINGW" = true)
      (hclang : s.strequal "CMAKE_CXX_COMPILER_ID" "Clang" = true)
      (hold : s.versionAtLeast "CMAKE_CXX_COMPILER_VERSION" "18" = false)
      (hinline : shared = true → s.isTrue "INLINE_CONSTANTS" = true)
  | vcpkg (hvcpkg : s.isTrue "TINY_VCPKG" = true)
      (hcombined : multiConfig = true ∨ s.isTrue "TINY_BUILD_LOADABLE_DRIVERS" = true)
  | drivers (hdrivers : s.isTrue "BUILD_DRIVERS" = true)
      (hmysql : s.isTrue "BUILD_MYSQL_DRIVER" = false)

/-- The names that are looked up for it, apart from two that the step itself writes. -/
def unsupportedNames : List String := ["MINGW", "CMAKE_CXX_COMPILER_ID",
  "CMAKE_CXX_COMPILER_VERSION", "INLINE_CONSTANTS", "TINY_VCPKG", "TINY_BUILD_LOADABLE_DRIVERS",
  "BUILD_DRIVERS", "BUILD_MYSQL_DRIVER"]

theorem Unsupported.congr {s s' : State} {shared multiConfig : Bool}
    (h : Unsupported s shared multiConfig)
    (hvalue : ∀ name ∈ unsupportedNames, s'.value? name = s.value? name) :
    Unsupported s' shared multiConfig := by
  have htrue : ∀ name ∈ unsupportedNames, s'.isTrue name = s.isTrue name := by
    intro name hname
    rw [State.isTrue, State.isTrue, hvalue name hname]
  have hoperand : ∀ name ∈ unsupportedNames, s'.operand name = s.operand name := by
    intro name hname
    rw [State.operand, State.operand, hvalue name hname]
  cases h with
  | inlineConstants hmingw hclang hold hinline =>
    refine .inlineConstants ?_ ?_ ?_ fun hshared => ?_
    · rw [htrue _ (by decide), hmingw]
    · rw [State.strequal, hoperand _ (by decide), ← State.strequal, hclang]
    · rw [State.versionAtLeast, hoperand _ (by decide), ← State.versionAtLeast, hold]
    · rw [htrue _ (by decide), hinline hshared]
  | vcpkg hvcpkg hcombined =>
    refine .vcpkg ?_ ?_
    · rw [htrue _ (by decide), hvcpkg]
    · rwa [htrue _ (by decide)]
  | drivers hdrivers hmysql =>
    refine .drivers ?_ ?_
    · rw [htrue _ (by decide), hdrivers]
    · rw [htrue _ (by decide), hmysql]

theorem unsupported_iff (s : State) :
    (∃ e, tinyCheckUnsupportedBuild s = .error e) ↔
      Unsupported s (s.isTrue "BUILD_SHARED_LIBS") (s.isTrue "TINY_IS_MULTI_CONFIG") := by
  unfold tinyCheckUnsupportedBuild
  simp only [bind, Except.bind, throw, throwThe, MonadExceptOf.throw, pure, Except.pure]
  split_ifs with hstatic hshared hmulti hloadable hdrivers
  · simp only [Bool.and_eq_true, Bool.not_eq_true'] at hstatic
    obtain ⟨⟨⟨hmingw, hlibs⟩, hclang⟩, hold⟩ := hstatic
    refine iff_of_true ⟨_, rfl⟩ (.inlineConstants hmingw hclang hold fun hshared => ?_)
    rw [hlibs] at hshared
    cases hshared
  · simp only [Bool.and_eq_true, Bool.not_eq_true'] at hshared
    obtain ⟨⟨⟨⟨hmingw, -⟩, hclang⟩, hinline⟩, hold⟩ := hshared
    exact iff_of_true ⟨_, rfl⟩ (.inlineConstants hmingw hclang hold fun _ => hinline)
  · rw [Bool.and_eq_true] at hmulti
    exact iff_of_true ⟨_, rfl⟩ (.vcpkg hmulti.1 (.inl hmulti.2))
  · rw [Bool.and_eq_true] at hloadable
    exact iff_of_true ⟨_, rfl⟩ (.vcpkg hloadable.1 (.inr hloadable.2))
  · rw [Bool.and_eq_true, Bool.not_eq_true'] at hdrivers
    exact iff_of_true ⟨_, rfl⟩ (.drivers hdrivers.1 hdrivers.2)
  · refine iff_of_false (fun ⟨_, he⟩ => by cases he) ?_
    rintro (⟨hmingw, hclang, hold, hinline⟩ | ⟨hvcpkg, hcombined | hcombined⟩ | ⟨hdriver, hmysql⟩)
    · cases hlibs : s.isTrue "BUILD_SHARED_LIBS" with
      | true => simp [hmingw, hclang, hold, hlibs, hinline hlibs] at hshared
      | false => simp [hmingw, hclang, hold, hlibs] at hstatic
    · simp [hvcpkg, hcombined] at hmulti
    · simp [hvcpkg, hcombined] at hloadable
    · simp [hdriver, hmysql] at hdrivers

/-! ### The checks -/

/-- Whether shared libraries are built, which is the default. -/
def Machine.sharedLibs (m : Machine) (cache : Cache) : Bool :=
  !(m.projected cache).isDefined "BUILD_SHARED_LIBS" ||
    (m.projected cache).isTrue "BUILD_SHARED_LIBS"

section Checks

variable {es : List Event} {cache : Cache} {m : Machine} {read : VersionHeader.Read} {r : Returned}

/-- What the version check remembers when it is reached. -/
theorem atCheck_remembers (m : Machine) (read : VersionHeader.Read)
    (hrun : Runs.run step fresh es = some cache) :
    QtVersion.Remembers (cache "TINY_QT_VERSION") (m.atCheck cache read).cache := by
  obtain ⟨qs, hqs, hasked⟩ := (run_qt hrun).trans qt_atCheck
  have hremembers := QtVersion.run_remembers hqs
  rwa [QtVersion.remembered, QtVersion.asked, hasked, List.append_nil,
    ← (run_qtVersion hrun).stored] at hremembers

/-- What the ccache fixes remember when they are reached. -/
theorem atFix_remembers (hrun : Runs.run step fresh es = some cache)
    (hcheck : configure m.toolchain (m.atCheck cache read).cache m.qmake = .ok r) :
    Ccache.Remembers (cache "TINY_CCACHE_VERSION") (m.atFix cache read r.cache).cache := by
  obtain ⟨cs, hcs, hasked⟩ := (run_ccache hrun).trans (ccache_atFix hcheck)
  have hremembers := Ccache.run_remembers hcs
  rwa [Ccache.remembered, Ccache.asked, hasked, List.append_nil,
    ← (run_ccacheVersion hrun).1] at hremembers

theorem check_error_iff (hrun : Runs.run step fresh es = some cache) :
    (∃ e, configure m.toolchain (m.atCheck cache read).cache m.qmake = .error e) ↔
      (compilerRequirement (parsedScope m.toolchain (m.projected cache).cache)).isOk = false ∨
      cache "TINY_QT_VERSION" = none ∧ ∃ output, m.qmake = ⟨.exited 0, output⟩ ∧
        ¬∃ numbers, IsVersion (fun _ => True) numbers (qtVersion output) := by
  have hremembers := atCheck_remembers m read hrun
  rw [← QtVersion.ask_error_iff, ← atCheck_cache_eq m cache read]
  cases hcompiler : compilerRequirement (parsedScope m.toolchain (m.atCheck cache read).cache) with
  | error e => exact iff_of_true ⟨e, QtVersion.configure_compiler hremembers hcompiler _⟩ (.inl rfl)
  | ok messages =>
    rcases QtVersion.configure_probes hremembers hcompiler m.qmake with
      ⟨e, herror, hconf⟩ | ⟨hok, messages', hconf⟩
    · exact iff_of_true ⟨e, hconf⟩ (.inr ⟨e, herror⟩)
    · rw [hconf, hok]
      refine iff_of_false (fun ⟨e, he⟩ => ?_) ?_
      · cases he
      · rintro (h | ⟨e, he⟩)
        · cases h
        · cases he

theorem fixCcache_error_iff (s : State) (policyCmp0141 : Text) (ccache : Process) :
    (∃ e, (Ccache.tinyFixCcache s policyCmp0141 ccache).result = .error e) ↔
      ∃ e, (Ccache.fixMsvc s policyCmp0141 ccache).result = .error e := by
  cases hresult : (Ccache.fixMsvc s policyCmp0141 ccache).result with
  | error e => exact iff_of_true ⟨e, (Ccache.fixCcache_of_error hresult).1⟩ ⟨e, rfl⟩
  | ok a =>
    obtain ⟨⟨options, hoptions⟩, -⟩ := Ccache.fixCcache_of_ok hresult
    rw [hoptions]
    exact iff_of_false (fun ⟨e, he⟩ => by cases he) (fun ⟨e, he⟩ => by cases he)

theorem fix_error_iff (hrun : Runs.run step fresh es = some cache)
    (hcheck : configure m.toolchain (m.atCheck cache read).cache m.qmake = .ok r) :
    (∃ e, (m.fix (m.atFix cache read r.cache)).result = .error e) ↔
      asks (m.projected cache) m.policyCmp0141 = true ∧
        cache "TINY_CCACHE_VERSION" = none ∧ Ccache.Fails m.ccache := by
  have hresult :
      (Ccache.fixMsvc (m.atFix cache read r.cache) m.policyCmp0141 m.ccache).result = _ :=
    (Ccache.fixMsvc_probed (m.ccacheStep cache read r.cache) (atFix_remembers hrun hcheck)).result
  rw [Machine.fix, fixCcache_error_iff, hresult, Ccache.ConfigureStep.probe,
    ccacheStep_asks hcheck, Ccache.fails_iff_answer]
  cases hasks : asks (m.projected cache) m.policyCmp0141 with
  | false => simp [Except.map]
  | true =>
    cases cache "TINY_CCACHE_VERSION" with
    | some version => simp [Probe.ask, Except.map]
    | none =>
      have hccache : (m.ccacheStep cache read r.cache).ccache = m.ccache := rfl
      rw [if_pos rfl, Probe.ask, hccache]
      cases (Ccache.verdict m.ccache).answer Ccache.isOld with
      | error e => simp [Except.map]
      | ok disable => simp [Except.map]

section End

variable {options : List (String × Text)}

theorem atEnd_value {name : String}
    (hscope : name ∉ readNames ++ versionNames ++ setUpNames)
    (hoptions : name ∉ ["CMAKE_CXX_COMPILE_OPTIONS_CREATE_PCH"])
    (hcache : ∀ msvc, name ∉ "TINY_QT_VERSION" :: restNames msvc)
    (hcheck : configure m.toolchain (m.atCheck cache read).cache m.qmake = .ok r)
    (hfix : (m.fix (m.atFix cache read r.cache)).result = .ok options) :
    (m.atEnd (m.atFix cache read r.cache) options).value? name =
      (m.projected cache).value? name := by
  have hrest : ∀ msvc, name ∉ restNames msvc := fun msvc hmem =>
    hcache msvc (List.mem_cons_of_mem _ hmem)
  have hend : name ∉ "TINY_BUILD_GENDIR" :: ccacheEntries := fun hmem =>
    hrest m.toolchain.msvc (end_rest _ hmem)
  rw [State.value?, atEnd_scope hfix _ hoptions, atEnd_agree _ _ _ hend, ← State.value?]
  refine atFix_value hscope (fun msvc hmem => ?_) ?_ hcheck
  · exact hrest msvc (List.mem_append_left _ hmem)
  · rw [List.mem_singleton]
    exact fun heq => hcache m.toolchain.msvc (List.mem_cons.mpr (.inl heq))

theorem atEnd_multiConfig (hfix : (m.fix (m.atFix cache read r.cache)).result = .ok options) :
    (m.atEnd (m.atFix cache read r.cache) options).isTrue "TINY_IS_MULTI_CONFIG" =
      m.isMultiConfig := by
  have hscope : (m.atEnd (m.atFix cache read r.cache) options).scope "TINY_IS_MULTI_CONFIG" =
      none := by
    rw [atEnd_scope hfix _ (by decide), atFix_scope _ _ (by decide), atCheck_scope (by decide)]
  have hcache : (m.atEnd (m.atFix cache read r.cache) options).cache "TINY_IS_MULTI_CONFIG" =
      some (if m.isMultiConfig then "1".toList else "0".toList) := setCache_self _ _ _
  rw [State.isTrue, value?_of_unset hscope, hcache]
  cases m.isMultiConfig with
  | true => rfl
  | false => rfl

/-- The first option is the value that `project()` finds, or on. -/
theorem atEnd_shared (hcheck : configure m.toolchain (m.atCheck cache read).cache m.qmake = .ok r)
    (hfix : (m.fix (m.atFix cache read r.cache)).result = .ok options) :
    (m.atEnd (m.atFix cache read r.cache) options).isTrue "BUILD_SHARED_LIBS" =
      m.sharedLibs cache := by
  have hoptions := initOptions_shared (s := m.checked cache read r) (checked_scope (by decide))
  have hmsvc : (initOptions (m.checked cache read r)).scope "MSVC" =
      some (if m.toolchain.msvc then "1".toList else []) := by
    rw [initOptions_scope _ (by decide)]
    exact atCheck_msvc
  have hscope : (m.atFix cache read r.cache).scope "BUILD_SHARED_LIBS" =
      (initOptions (m.checked cache read r)).scope "BUILD_SHARED_LIBS" := by
    rw [atFix_eq, nologo_scope]
    exact beforeNologo_scope _ (by decide)
  have hgives : Gives (initDefaults ++ importedConfigs m.toolchain.msvc) setUpEntries
      (initOptions (m.checked cache read r)).cache (m.atFix cache read r.cache).cache := by
    have hnologo : Agree setUpEntries (m.atNologo cache read r.cache).cache
        (m.atFix cache read r.cache).cache := nologo_agree.mono (by decide)
    exact ((beforeNologo_gives hmsvc).mono (List.Subset.refl _) (by decide)).trans hnologo.gives
  have hfixed := value?_keeps hscope hgives (by decide) hoptions
  rw [checked_value (by decide) (by decide) hcheck] at hfixed
  rw [State.isTrue, State.value?, atEnd_scope hfix _ (by decide), atEnd_agree _ _ _ (by decide),
    ← State.value?, hfixed, Machine.sharedLibs, State.isDefined, State.isTrue]
  cases (m.projected cache).value? "BUILD_SHARED_LIBS" with
  | none => rfl
  | some v => rfl

theorem unsupportedNames_scope : ∀ name ∈ unsupportedNames,
    name ∉ readNames ++ versionNames ++ setUpNames := by
  decide

theorem unsupportedNames_cache : ∀ name ∈ unsupportedNames, ∀ msvc,
    name ∉ "TINY_QT_VERSION" :: restNames msvc := by
  decide

/-- What the last check finds. -/
theorem end_error_iff
    (hcheck : configure m.toolchain (m.atCheck cache read).cache m.qmake = .ok r)
    (hfix : (m.fix (m.atFix cache read r.cache)).result = .ok options) :
    (∃ e, tinyCheckUnsupportedBuild (m.atEnd (m.atFix cache read r.cache) options) = .error e) ↔
      Unsupported (m.projected cache) (m.sharedLibs cache) m.isMultiConfig := by
  have hvalue : ∀ name ∈ unsupportedNames,
      (m.atEnd (m.atFix cache read r.cache) options).value? name =
        (m.projected cache).value? name := fun name hname =>
    atEnd_value (unsupportedNames_scope name hname) (by revert name; decide)
      (unsupportedNames_cache name hname) hcheck hfix
  rw [unsupported_iff, atEnd_shared hcheck hfix, atEnd_multiConfig hfix]
  exact ⟨fun h => h.congr fun name hname => (hvalue name hname).symm, fun h => h.congr hvalue⟩

end End

end Checks

/-! ### The step -/

/-- Why a configure step ends with a fatal error: the machine alone decides, but for the two
versions that are remembered. -/
inductive Rejected (m : Machine) (cache : Cache) (qtVersion? ccacheVersion? : Option Text) :
    Prop where
  | header
      (h : (VersionHeader.tinyReadVersion "TINYPLAY".toList m.versionHeader).isOk = false)
  | compiler
      (h : (compilerRequirement (parsedScope m.toolchain (m.projected cache).cache)).isOk = false)
  | qt (output : Text) (hnothing : qtVersion? = none) (hqmake : m.qmake = ⟨.exited 0, output⟩)
      (hversion : ¬∃ numbers, IsVersion (fun _ => True) numbers (qtVersion output))
  | ccache (hasks : asks (m.projected cache) m.policyCmp0141 = true)
      (hnothing : ccacheVersion? = none) (hsucceeds : Ccache.Succeeds m.ccache)
      (hgitRef : ¬Ccache.IsGitRef m.ccache.stripped)
      (hversion : ¬Ccache.IsCcacheVersion m.ccache.stripped)
  | unsupported (h : Unsupported (m.projected cache) (m.sharedLibs cache) m.isMultiConfig)

variable {es : List Event} {cache : Cache}

/-- In every build tree, exactly these errors end a configure step. -/
theorem configure_fails_iff (hrun : Runs.run step fresh es = some cache) (m : Machine) :
    (∃ e, (m.run cache).result = .error e) ↔
      Rejected m cache (cache "TINY_QT_VERSION") (cache "TINY_CCACHE_VERSION") := by
  cases run_stage m cache with
  | @header e hread hresult _ =>
    refine iff_of_true ⟨e, hresult⟩ (.header ?_)
    rw [hread]
    rfl
  | @toolchain read e _ hcheck hresult _ =>
    refine iff_of_true ⟨e, hresult⟩ ?_
    rcases (check_error_iff hrun).mp ⟨e, hcheck⟩ with h | ⟨hnothing, output, hqmake, hversion⟩
    · exact .compiler h
    · exact .qt output hnothing hqmake hversion
  | @ccache read r e _ hcheck hfix hresult _ =>
    refine iff_of_true ⟨e, hresult⟩ ?_
    obtain ⟨hasks, hnothing, hfails⟩ := (fix_error_iff hrun hcheck).mp ⟨e, hfix⟩
    obtain ⟨hsucceeds, hgitRef, hversion⟩ := (Ccache.fails_iff m.ccache).mp hfails
    exact .ccache hasks hnothing hsucceeds hgitRef hversion
  | @ended read r options hread hcheck hfix hresult _ =>
    have hend := end_error_iff hcheck hfix
    rw [hresult]
    constructor
    · rintro ⟨e, he⟩
      refine .unsupported (hend.mp ?_)
      cases hunsupported : tinyCheckUnsupportedBuild
          (m.atEnd (m.atFix cache read r.cache) options) with
      | error e' => exact ⟨e', rfl⟩
      | ok a =>
        rw [hunsupported] at he
        cases he
    · intro h
      have hchecked : ¬∃ e, configure m.toolchain (m.atCheck cache read).cache m.qmake =
          .error e := by
        rw [hcheck]
        exact fun ⟨e, he⟩ => by cases he
      have hfixed : ¬∃ e, (m.fix (m.atFix cache read r.cache)).result = .error e := by
        rw [hfix]
        exact fun ⟨e, he⟩ => by cases he
      cases h with
      | header h =>
        rw [hread] at h
        cases h
      | compiler h => exact absurd ((check_error_iff hrun).mpr (.inl h)) hchecked
      | qt output hnothing hqmake hversion =>
        exact absurd ((check_error_iff hrun).mpr (.inr ⟨hnothing, output, hqmake, hversion⟩))
          hchecked
      | ccache hasks hnothing hsucceeds hgitRef hversion =>
        have hfails := (Ccache.fails_iff m.ccache).mpr ⟨hsucceeds, hgitRef, hversion⟩
        exact absurd ((fix_error_iff hrun hcheck).mpr ⟨hasks, hnothing, hfails⟩) hfixed
      | unsupported h =>
        obtain ⟨e, he⟩ := hend.mpr h
        rw [he]
        exact ⟨e, rfl⟩

/-- A vcpkg port that is configured with another generator than before. -/
def port : Machine := { studio with
  found := [("TINY_VCPKG", "ON".toList)]
  found_other := by decide
  isMultiConfig := true }

theorem configure_fails_iff_port : ∃ cache e,
    Runs.run step fresh [.configure studio] = some cache ∧ (port.run cache).result = .error e := by
  obtain ⟨cache, hrun⟩ : ∃ cache, Runs.run step fresh [.configure studio] = some cache := ⟨_, rfl⟩
  have hport : (port.projected cache).isTrue "TINY_VCPKG" = true := by
    rw [State.isTrue, State.value?, Machine.projected, project_scope]
    rfl
  obtain ⟨e, he⟩ := (configure_fails_iff hrun port).mpr (.unsupported (.vcpkg hport (.inl rfl)))
  exact ⟨cache, e, hrun, he⟩

end TinyPlay.Project

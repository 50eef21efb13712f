import TinyPlay.Proofs.CcacheFlags
import TinyPlay.Proofs.QtVersion
import TinyPlay.Spec.Project

/-! What a configure step writes, and how far it gets: each macro gives some defaults, and owns some
entries and variables. -/

namespace TinyPlay.Project

open CMake Entries

/-! ### The macros -/

section Environment

variable {environment : String → Option Text} {s : State}

def environmentEntry (environment : String → Option Text) (key name : String) (suffix : Text) :
    List (String × Text) := (environment key).toList.map fun value => (name, value ++ suffix)

theorem environmentDefault_scope (key name : String) (suffix : Text) :
    (environmentDefault environment key name suffix s).scope = s.scope := by
  unfold environmentDefault
  cases environment key with
  | none => rfl
  | some value =>
    dsimp only
    split_ifs
    · rfl
    · exact setDefault_scope

theorem environmentDefault_gives (key name : String) (suffix : Text) :
    Gives (environmentEntry environment key name suffix) []
      s.cache (environmentDefault environment key name suffix s).cache := by
  unfold environmentDefault environmentEntry
  cases environment key with
  | none => exact .refl _
  | some value =>
    dsimp only
    split_ifs
    · exact .refl _
    · exact setDefault_gives

def vcpkg : Text := "/scripts/buildsystems/vcpkg.cmake".toList

def environmentDefaults (environment : String → Option Text) : List (String × Text) :=
  environmentEntry environment "VCPKG_ROOT" "CMAKE_TOOLCHAIN_FILE" vcpkg ++
    environmentEntry environment "VCPKG_INSTALLATION_ROOT" "CMAKE_TOOLCHAIN_FILE" vcpkg ++
    environmentEntry environment "VCPKG_DEFAULT_TRIPLET" "VCPKG_TARGET_TRIPLET" []

theorem pre_scope : Agree ["TinyOrmPlayground_ns", "TinyOrmPlayground_target"] s.scope
    (tinyInitTinyVariablesPre environment s).scope := by
  simp only [tinyInitTinyVariablesPre, environmentDefault_scope]
  exact fun _ hname => setAll_scope hname

theorem pre_gives : Gives (environmentDefaults environment) [] s.cache
    (tinyInitTinyVariablesPre environment s).cache := by
  have hset : (s.setAll [("TinyOrmPlayground_ns", "TinyOrmPlayground".toList),
      ("TinyOrmPlayground_target", "TinyOrmPlayground".toList)]).cache = s.cache := setAll_cache _
  rw [← hset]
  have hsub := List.nil_subset (l := ([] : List String))
  refine .trans (.mono (environmentDefault_gives "VCPKG_ROOT" "CMAKE_TOOLCHAIN_FILE" vcpkg) ?_ hsub)
    (.trans (.mono (environmentDefault_gives "VCPKG_INSTALLATION_ROOT" "CMAKE_TOOLCHAIN_FILE" vcpkg)
      ?_ hsub)
    (.mono (environmentDefault_gives "VCPKG_DEFAULT_TRIPLET" "VCPKG_TARGET_TRIPLET" []) ?_ hsub))
  · exact List.subset_append_of_subset_left _ (List.subset_append_left _ _)
  · exact List.subset_append_of_subset_left _ (List.subset_append_right _ _)
  · exact List.subset_append_right _ _

end Environment

def Machine.forcedNames (m : Machine) : List String := m.forced.map Prod.fst

theorem forcedNames_other {m : Machine} {name : String} (hname : name ∈ "CMAKE_RC_FLAGS" :: own) :
    name ∉ m.forcedNames := by
  intro hmem
  obtain ⟨e, he, rfl⟩ := List.mem_map.mp hmem
  exact m.forced_other e he hname

/-- `project()` gives its entries. -/
theorem project_gives (m : Machine) (s : State) :
    Gives m.entries m.forcedNames s.cache (m.project s).cache :=
  setDefaults_forceAll_gives m.entries m.forced

theorem project_scope (m : Machine) (s : State) (name : String) : (m.project s).scope name =
    ((m.toolchain.state s.cache).scope name).or ((s.setAll m.found).scope name) := by
  rw [Machine.project, forceAll_scope, setDefaults_scope]

/-- The variables that all versions of the compilers have. -/
def toolchainVariables : List String := ["MSVC", "CMAKE_CXX_COMPILER_ID",
  "CMAKE_CXX_COMPILER_VERSION", "CMAKE_CXX_SIMULATE_ID", "CMAKE_CXX_SIMULATE_VERSION",
  "QT_QMAKE_EXECUTABLE"]

theorem toolchain_scope (toolchain : Toolchain) (cache : Cache) {name : String}
    (hname : name ∉ toolchainVariables) : (toolchain.state cache).scope name = none :=
  setAll_scope hname

theorem msvc_scope (toolchain : Toolchain) (cache : Cache) :
    (toolchain.state cache).scope "MSVC" = some (if toolchain.msvc then "1".toList else []) := rfl

def versionNames : List String := ["minReqMsvcVersion", "minRecGCCVersion", "minRecClangVersion",
  "minReqClangClVersion", "minQtVersion", "minNlohmannJsonVersion", "minTinyOrmVersion"]

theorem versionRequirements_scope (s : State) :
    Agree versionNames s.scope (versionRequirements s).scope := fun _ hname => setAll_scope hname

theorem versionRequirements_cache (s : State) : (versionRequirements s).cache = s.cache :=
  setAll_cache _

/-! ### The options -/

section Options

variable {s : State}

theorem msvcParallel_scope : (tinyMsvcParallel s).scope = s.scope := by
  unfold tinyMsvcParallel
  split_ifs
  · exact setDefault_scope
  · rfl

theorem msvcParallel_gives :
    Gives [("MSVC_PARALLEL", "ON".toList)] [] s.cache (tinyMsvcParallel s).cache := by
  unfold tinyMsvcParallel
  split_ifs
  · exact setDefault_gives
  · exact .refl _

def optionDefaults : List (String × Text) := [("BUILD_SHARED_LIBS", "ON".toList),
  ("MSVC_RUNTIME_DYNAMIC", "ON".toList), ("VERBOSE_CONFIGURE", "OFF".toList),
  ("MSVC_PARALLEL", "ON".toList)]

theorem initOptions_scope :
    Agree ["MSVC_RUNTIME_DYNAMIC"] s.scope (initOptions s).scope := by
  simp only [initOptions, featureOption, featureOptionDependent, msvcParallel_scope, option_scope]
  intro name hname
  rw [dependentOption_scope _ _ name hname, option_scope]

/-- The options behind the first one. -/
theorem laterOptions_scope : Agree ["MSVC_RUNTIME_DYNAMIC"]
    (s.option "BUILD_SHARED_LIBS" "ON".toList).scope (initOptions s).scope := by
  rw [option_scope]
  exact initOptions_scope

theorem laterOptions_gives (h : s.scope "MSVC_RUNTIME_DYNAMIC" = none) :
    Gives optionDefaults [] (s.option "BUILD_SHARED_LIBS" "ON".toList).cache
      (initOptions s).cache := by
  have hsub := List.nil_subset (l := ([] : List String))
  have hscope : (s.option "BUILD_SHARED_LIBS" "ON".toList).scope "MSVC_RUNTIME_DYNAMIC" = none := by
    rw [option_scope, h]
  refine .trans (.mono (dependentOption_gives hscope _ (by decide)) ?_ hsub)
    (.trans (.mono option_gives ?_ hsub) (.mono msvcParallel_gives ?_ hsub))
  · decide
  · decide
  · decide

theorem initOptions_gives (h : s.scope "MSVC_RUNTIME_DYNAMIC" = none) :
    Gives optionDefaults [] s.cache (initOptions s).cache :=
  .trans (.mono option_gives (by decide) (List.nil_subset _)) (laterOptions_gives h)

theorem initOptions_shared (h : s.scope "MSVC_RUNTIME_DYNAMIC" = none) :
    (initOptions s).value? "BUILD_SHARED_LIBS" =
      some ((s.value? "BUILD_SHARED_LIBS").getD "ON".toList) :=
  value?_keeps (laterOptions_scope _ (by decide)) (laterOptions_gives h) List.not_mem_nil
    (option_value s "BUILD_SHARED_LIBS" "ON".toList)

end Options

/-! ### The defaults of CMake itself -/

section Init

variable {s : State}

theorem msvcRuntime_scope :
    Agree ["CMAKE_MSVC_RUNTIME_LIBRARY"] s.scope (initMsvcRuntime s).scope := by
  unfold initMsvcRuntime
  split_ifs
  · exact set_agree _ _ _
  · exact set_agree _ _ _
  · exact .refl _

theorem msvcRuntime_cache : (initMsvcRuntime s).cache = s.cache := by
  unfold initMsvcRuntime
  split_ifs
  · rfl
  · rfl
  · rfl

theorem installPrefix_scope : (initInstallPrefix s).scope = s.scope := by
  unfold initInstallPrefix
  split_ifs
  · rfl
  · rfl
  · rfl
  · rfl

theorem installPrefix_agree :
    Agree ["CMAKE_INSTALL_PREFIX"] s.cache (initInstallPrefix s).cache := by
  unfold initInstallPrefix
  split_ifs
  · exact setCache_agree _ _ _
  · exact setCache_agree _ _ _
  · exact .refl _
  · exact .refl _

theorem nologo_scope : (addNologo s).scope = s.scope := by
  unfold addNologo
  split_ifs
  · rfl
  · rfl

theorem nologo_agree : Agree ["CMAKE_RC_FLAGS"] s.cache (addNologo s).cache := by
  unfold addNologo
  split_ifs
  · exact setCache_agree _ _ _
  · exact .refl _

/-- The flags with the option, once. -/
def withNologo (flags : Text) : Text :=
  if hasNologo flags then flags else flags ++ " -nologo".toList

theorem hasNologo_withNologo (flags : Text) : hasNologo (withNologo flags) = true := by
  unfold withNologo
  split_ifs with h
  · exact h
  · rw [hasNologo, Bool.or_eq_true, decide_eq_true_eq]
    exact .inl ⟨flags ++ [' '], [], by simp⟩

theorem nologo_cache (h : s.scope "CMAKE_RC_FLAGS" = none) :
    (addNologo s).cache "CMAKE_RC_FLAGS" =
      if s.isTrue "MSVC" then some (withNologo ((s.cache "CMAKE_RC_FLAGS").getD []))
      else s.cache "CMAKE_RC_FLAGS" := by
  have hname : hasNologo "CMAKE_RC_FLAGS".toList = false := by decide
  have hnil : hasNologo [] = false := by decide
  rw [addNologo, State.operand, State.reference, value?_of_unset h]
  cases hmsvc : s.isTrue "MSVC" with
  | false => rfl
  | true =>
    simp only [Bool.true_and, if_true, withNologo]
    cases hflags : s.cache "CMAKE_RC_FLAGS" with
    | none =>
      rw [Option.getD_none, Option.getD_none, hname, hnil, Bool.not_false, if_pos rfl,
        if_neg Bool.false_ne_true]
      exact setCache_self _ _ _
    | some flags =>
      rw [Option.getD_some, Option.getD_some]
      cases hhas : hasNologo flags with
      | true => rw [Bool.not_true, if_neg Bool.false_ne_true, if_pos rfl, hflags]
      | false =>
        rw [Bool.not_false, if_pos rfl, if_neg Bool.false_ne_true]
        exact setCache_self _ _ _

theorem isTrue_msvc {msvc : Bool}
    (h : s.scope "MSVC" = some (if msvc then "1".toList else [])) : s.isTrue "MSVC" = msvc := by
  rw [State.isTrue, State.value?, h]
  cases msvc with
  | true => rfl
  | false => rfl

/-- The macro up to the last step, which is about the flags of the resource compiler. -/
def beforeNologo (s : State) : State :=
  let s := s.setDefaults initDefaults
  let s := initInstallPrefix (initMsvcRuntime s)
  (s.setDefaults (importedConfigs (s.isTrue "MSVC"))).set "TINY_RC_FLAGS_BACKUP" []

theorem beforeNologo_runtime : Agree ["TINY_RC_FLAGS_BACKUP"]
    (initMsvcRuntime (s.setDefaults initDefaults)).scope (beforeNologo s).scope := by
  intro name hname
  rw [beforeNologo, set_agree _ _ _ name hname, setDefaults_scope, installPrefix_scope]

theorem beforeNologo_scope : Agree ["CMAKE_MSVC_RUNTIME_LIBRARY", "TINY_RC_FLAGS_BACKUP"]
    s.scope (beforeNologo s).scope := by
  have hruntime : Agree ["CMAKE_MSVC_RUNTIME_LIBRARY"] s.scope
      (initMsvcRuntime (s.setDefaults initDefaults)).scope := by
    rw [← setDefaults_scope (s := s) initDefaults]
    exact msvcRuntime_scope
  exact (hruntime.mono (by decide)).trans (beforeNologo_runtime.mono (by decide))

theorem prefix_agree : Agree ["CMAKE_INSTALL_PREFIX"] (s.setDefaults initDefaults).cache
    (initInstallPrefix (initMsvcRuntime (s.setDefaults initDefaults))).cache := by
  rw [← msvcRuntime_cache (s := s.setDefaults initDefaults)]
  exact installPrefix_agree

/-- `MSVC` is the machine's, wherever it is looked up. -/
theorem beforeNologo_eq {msvc : Bool}
    (h : s.scope "MSVC" = some (if msvc then "1".toList else [])) :
    beforeNologo s = ((initInstallPrefix (initMsvcRuntime (s.setDefaults initDefaults))).setDefaults
      (importedConfigs msvc)).set "TINY_RC_FLAGS_BACKUP" [] := by
  have hscope : (initInstallPrefix (initMsvcRuntime (s.setDefaults initDefaults))).scope "MSVC" =
      some (if msvc then "1".toList else []) := by
    rw [installPrefix_scope, msvcRuntime_scope _ (by decide), setDefaults_scope, h]
  rw [beforeNologo, isTrue_msvc hscope]

theorem beforeNologo_gives {msvc : Bool}
    (h : s.scope "MSVC" = some (if msvc then "1".toList else [])) :
    Gives (initDefaults ++ importedConfigs msvc) ["CMAKE_INSTALL_PREFIX"]
      s.cache (beforeNologo s).cache := by
  rw [beforeNologo_eq h]
  refine (Gives.mono (setDefaults_gives initDefaults) ?_ ?_).trans (prefix_agree.gives.trans
    (Gives.mono (setDefaults_gives (importedConfigs msvc)) ?_ ?_))
  · exact List.subset_append_left _ _
  · exact List.nil_subset _
  · exact List.subset_append_right _ _
  · exact List.nil_subset _

theorem initDefaults_other : ∀ d ∈ initDefaults, d.1 ∉ ["CMAKE_INSTALL_PREFIX"] := by decide

theorem beforeNologo_isSome {msvc : Bool}
    (h : s.scope "MSVC" = some (if msvc then "1".toList else [])) {d : String × Text}
    (hd : d ∈ initDefaults ++ importedConfigs msvc) :
    ((beforeNologo s).cache d.1).isSome = true := by
  rw [beforeNologo_eq h]
  rcases List.mem_append.mp hd with hd | hd
  · obtain ⟨value, hvalue⟩ := Option.isSome_iff_exists.mp (setDefaults_isSome (s := s) hd)
    have hprefix := (prefix_agree d.1 (initDefaults_other d hd)).trans hvalue
    have hkept := (setDefaults_gives (importedConfigs msvc)).keeps List.not_mem_nil hprefix
    exact Option.isSome_iff_exists.mpr ⟨value, hkept⟩
  · exact setDefaults_isSome hd

end Init

/-! ### The version checks and the ccache fixes -/

theorem satisfies_agree {s : State} {outVariable : String} {qmake : Process} {r : Returned}
    (h : tinySatisfiesMinimumRequiredQtVersion s outVariable qmake = .ok r) :
    Agree ["TINY_QT_VERSION"] s.cache r.cache := by
  unfold tinySatisfiesMinimumRequiredQtVersion at h
  dsimp only at h
  split_ifs at h
  · obtain rfl := Except.ok.inj h
    exact .refl _
  · obtain rfl := Except.ok.inj h
    exact .refl _
  · obtain rfl := Except.ok.inj h
    exact .refl _
  · obtain rfl := Except.ok.inj h
    exact setCache_agree _ _ _
  · obtain rfl := Except.ok.inj h
    exact setCache_agree _ _ _

theorem requirement_agree {s : State} {arguments : List Text} {qmake : Process} {r : Returned}
    (h : tinyToolchainRequirement s arguments qmake = .ok r) :
    Agree ["TINY_QT_VERSION"] s.cache r.cache := by
  simp only [tinyToolchainRequirement, bind, Except.bind] at h
  split at h
  · cases h
  split at h
  · cases h
  split at h
  · cases h
  next returned hreturned =>
    split at h
    · cases h
    · obtain rfl := Except.ok.inj h
      have hagree := satisfies_agree hreturned
      rw [State.unset, parseArguments_cache] at hagree
      rwa [afterCall_cache]

/-- The check of the toolchain writes the Qt version only. -/
theorem configure_agree {toolchain : Toolchain} {cache : Cache} {qmake : Process} {r : Returned}
    (h : configure toolchain cache qmake = .ok r) : Agree ["TINY_QT_VERSION"] cache r.cache := by
  have hagree := requirement_agree h
  rwa [versionRequirements_cache, Toolchain.state, setAll_cache] at hagree

theorem shouldDisable_agree (s : State) (ccache : Process) : Agree Ccache.marks s.cache
    (Ccache.tinyShouldDisablePrecompileHeaders s ccache).cache := by
  have hset : ∀ value, Agree Ccache.marks s.cache (s.setCache "TINY_CCACHE_VERSION" value).cache :=
    fun value => (setCache_agree _ value s).mono (by decide)
  unfold Ccache.tinyShouldDisablePrecompileHeaders
  dsimp only
  split_ifs
  · exact .refl _
  · exact .refl _
  · exact .refl _
  · exact hset _
  · exact hset _
  · exact .refl _
  · exact hset _
  · exact hset _

theorem disablePch_agree (s : State) (ccache : Process) :
    Agree Ccache.marks s.cache (Ccache.tinyDisablePrecompileHeaders s ccache).cache := by
  refine next_agree (shouldDisable_agree s ccache) fun shouldDisablePch => ?_
  dsimp only
  split_ifs
  · exact .refl _
  · exact (setCache_agree _ _ _).mono (by decide)

/-- The entries of the ccache fixes. -/
def ccacheEntries : List String := Ccache.marks ++ Ccache.flagEntries

theorem fixMsvc_agree (s : State) (policyCmp0141 : Text) (ccache : Process) :
    Agree ccacheEntries s.cache (Ccache.fixMsvc s policyCmp0141 ccache).cache := by
  have hflags : Agree ccacheEntries s.cache (Ccache.withFlags s policyCmp0141).cache :=
    fun name hname => (Ccache.changesFlags_withFlags s policyCmp0141).cache name
      fun hmem => hname (List.mem_append_right _ hmem)
  unfold Ccache.fixMsvc
  split_ifs
  · obtain ⟨messages, heq⟩ := Ccache.fixCcacheMsvc_eq s policyCmp0141 ccache
    rw [heq]
    dsimp only
    split_ifs
    · exact hflags.trans ((disablePch_agree _ _).mono (List.subset_append_left _ _))
    · exact hflags
  · exact .refl _

theorem fixCcache_agree (s : State) (policyCmp0141 : Text) (ccache : Process) :
    Agree ccacheEntries s.cache (Ccache.tinyFixCcache s policyCmp0141 ccache).cache := by
  have hfixed := fixMsvc_agree s policyCmp0141 ccache
  cases hresult : (Ccache.fixMsvc s policyCmp0141 ccache).result with
  | error e => rwa [(Ccache.fixCcache_of_error hresult).2]
  | ok a => rwa [(Ccache.fixCcache_of_ok hresult).2]

/-- The variable that `tiny_fix_ccache` sets for its caller. -/
theorem fixCcache_options {s : State} {policyCmp0141 : Text} {ccache : Process}
    {options : List (String × Text)}
    (h : (Ccache.tinyFixCcache s policyCmp0141 ccache).result = .ok options) :
    options.map Prod.fst ⊆ ["CMAKE_CXX_COMPILE_OPTIONS_CREATE_PCH"] := by
  cases hresult : (Ccache.fixMsvc s policyCmp0141 ccache).result with
  | error e =>
    rw [(Ccache.fixCcache_of_error hresult).1] at h
    cases h
  | ok a =>
    have hnext : Ccache.tinyFixCcache s policyCmp0141 ccache =
        (Ccache.fixMsvc s policyCmp0141 ccache).next s fun _ s => Ccache.fixClang s := rfl
    rw [hnext, (Outcome.next_of_ok hresult).1, Ccache.fixClang] at h
    split_ifs at h
    · obtain rfl := Except.ok.inj h
      exact List.Subset.refl _
    · obtain rfl := Except.ok.inj h
      exact List.nil_subset _

/-! ### The stages of a configure step -/

def Machine.before (m : Machine) (cache : Cache) : State :=
  tinyInitTinyVariablesPre m.environment ⟨fun _ => none, cache⟩

/-- Where the toolchain is checked. -/
def Machine.atCheck (m : Machine) (cache : Cache) (read : VersionHeader.Read) : State :=
  versionRequirements (m.project ((m.before cache).setAll (versionVariables read)))

/-- Where ccache is asked. -/
def Machine.atFix (m : Machine) (cache : Cache) (read : VersionHeader.Read) (checked : Cache) :
    State :=
  initCmakeVariables (initOptions { m.atCheck cache read with cache := checked })

def Machine.fix (m : Machine) (s : State) : Outcome (List (String × Text)) :=
  Ccache.tinyFixCcache s m.policyCmp0141 m.ccache

/-- Where unsupported environments are rejected. -/
def Machine.atEnd (m : Machine) (s : State) (options : List (String × Text)) : State :=
  let s := { s with cache := (m.fix s).cache }
  tinyInitTinyVariables m.isMultiConfig { s with scope := (s.setAll options).scope }

/-- How far a configure step gets. -/
inductive Stage (m : Machine) (cache : Cache) (o : Outcome (String → Option Text)) : Prop where
  | header {e : Text}
      (hread : VersionHeader.tinyReadVersion "TINYPLAY".toList m.versionHeader = .error e)
      (hresult : o.result = .error e) (hcache : o.cache = (m.before cache).cache)
  | toolchain {read : VersionHeader.Read} {e : Text}
      (hread : VersionHeader.tinyReadVersion "TINYPLAY".toList m.versionHeader = .ok read)
      (hcheck : configure m.toolchain (m.atCheck cache read).cache m.qmake = .error e)
      (hresult : o.result = .error e) (hcache : o.cache = (m.atCheck cache read).cache)
  | ccache {read : VersionHeader.Read} {r : Returned} {e : Text}
      (hread : VersionHeader.tinyReadVersion "TINYPLAY".toList m.versionHeader = .ok read)
      (hcheck : configure m.toolchain (m.atCheck cache read).cache m.qmake = .ok r)
      (hfix : (m.fix (m.atFix cache read r.cache)).result = .error e)
      (hresult : o.result = .error e)
      (hcache : o.cache = (m.fix (m.atFix cache read r.cache)).cache)
  | ended {read : VersionHeader.Read} {r : Returned} {options : List (String × Text)}
      (hread : VersionHeader.tinyReadVersion "TINYPLAY".toList m.versionHeader = .ok read)
      (hcheck : configure m.toolchain (m.atCheck cache read).cache m.qmake = .ok r)
      (hfix : (m.fix (m.atFix cache read r.cache)).result = .ok options)
      (hresult : o.result = (tinyCheckUnsupportedBuild
        (m.atEnd (m.atFix cache read r.cache) options)).map
          fun _ => (m.atEnd (m.atFix cache read r.cache) options).scope)
      (hcache : o.cache = (m.atEnd (m.atFix cache read r.cache) options).cache)

theorem checkToolchain_of_error {m : Machine} {s : State} {e : Text}
    (h : configure m.toolchain s.cache m.qmake = .error e) :
    m.checkToolchain s = ⟨.error e, s.cache, []⟩ := by
  rw [Machine.checkToolchain, h]

theorem checkToolchain_of_ok {m : Machine} {s : State} {r : Returned}
    (h : configure m.toolchain s.cache m.qmake = .ok r) :
    m.checkToolchain s = ⟨.ok (), r.cache, r.messages⟩ := by
  rw [Machine.checkToolchain, h]

/-- The part of a configure step behind the version checks. -/
def Machine.rest (m : Machine) (s : State) : Outcome (String → Option Text) :=
  let s := initOptions s
  (tinyInitCmakeVariables s m.policyCmp0141 m.ccache).next s fun scope s =>
    let s := tinyInitTinyVariables m.isMultiConfig { s with scope := scope }
    ⟨(tinyCheckUnsupportedBuild s).map fun _ => s.scope, s.cache, []⟩

theorem initCmakeVariables_eq (s : State) (policyCmp0141 : Text) (ccache : Process) :
    let s' := initCmakeVariables s
    let fixed := (Ccache.tinyFixCcache s' policyCmp0141 ccache).next s' fun options s =>
      ⟨.ok (s.setAll options).scope, s.cache, []⟩
    (tinyInitCmakeVariables s policyCmp0141 ccache).result = fixed.result ∧
      (tinyInitCmakeVariables s policyCmp0141 ccache).cache = fixed.cache := ⟨rfl, rfl⟩

theorem rest_of_error {m : Machine} {s : State} {e : Text}
    (h : (m.fix (initCmakeVariables (initOptions s))).result = .error e) :
    (m.rest s).result = .error e ∧
      (m.rest s).cache = (m.fix (initCmakeVariables (initOptions s))).cache := by
  have hfixed := Outcome.next_of_error (s := initCmakeVariables (initOptions s))
    (f := fun options s => (⟨.ok (s.setAll options).scope, s.cache, []⟩ :
      Outcome (String → Option Text))) h
  obtain ⟨hresult, hcache⟩ := initCmakeVariables_eq (initOptions s) m.policyCmp0141 m.ccache
  obtain ⟨hrest, hrestCache⟩ : (m.rest s).result = .error e ∧ (m.rest s).cache = _ :=
    Outcome.next_of_error (hresult.trans hfixed.1)
  exact ⟨hrest, hrestCache.trans (hcache.trans hfixed.2)⟩

theorem rest_of_ok {m : Machine} {s : State} {options : List (String × Text)}
    (h : (m.fix (initCmakeVariables (initOptions s))).result = .ok options) :
    let s' := m.atEnd (initCmakeVariables (initOptions s)) options
    (m.rest s).result = (tinyCheckUnsupportedBuild s').map (fun _ => s'.scope) ∧
      (m.rest s).cache = s'.cache := by
  have hfixed := Outcome.next_of_ok (s := initCmakeVariables (initOptions s))
    (f := fun options s => (⟨.ok (s.setAll options).scope, s.cache, []⟩ :
      Outcome (String → Option Text))) h
  obtain ⟨hresult, hcache⟩ := initCmakeVariables_eq (initOptions s) m.policyCmp0141 m.ccache
  obtain ⟨hrest, hrestCache⟩ : (m.rest s).result = _ ∧ (m.rest s).cache = _ :=
    Outcome.next_of_ok (hresult.trans hfixed.1)
  dsimp only
  rw [hrest, hrestCache, hcache.trans hfixed.2]
  exact ⟨rfl, rfl⟩

/-- One spec for all configure steps. -/
theorem run_stage (m : Machine) (cache : Cache) : Stage m cache (m.run cache) := by
  cases hread : VersionHeader.tinyReadVersion "TINYPLAY".toList m.versionHeader with
  | error e =>
    obtain ⟨hresult, hcache⟩ : (m.run cache).result = .error e ∧ (m.run cache).cache = _ :=
      Outcome.next_of_error hread
    exact .header hread hresult hcache
  | ok read =>
    have hrun : (m.run cache).result = ((m.checkToolchain (m.atCheck cache read)).next
        (m.atCheck cache read) fun _ s => m.rest s).result ∧ (m.run cache).cache =
          ((m.checkToolchain (m.atCheck cache read)).next (m.atCheck cache read)
            fun _ s => m.rest s).cache := Outcome.next_of_ok hread
    cases hcheck : configure m.toolchain (m.atCheck cache read).cache m.qmake with
    | error e =>
      rw [checkToolchain_of_error hcheck] at hrun
      exact .toolchain hread hcheck hrun.1 hrun.2
    | ok r =>
      rw [checkToolchain_of_ok hcheck] at hrun
      have hrest : (m.run cache).result =
          (m.rest { m.atCheck cache read with cache := r.cache }).result ∧ (m.run cache).cache =
            (m.rest { m.atCheck cache read with cache := r.cache }).cache := hrun
      cases hfix : (m.fix (m.atFix cache read r.cache)).result with
      | error e =>
        obtain ⟨hresult, hcache⟩ := rest_of_error hfix
        exact .ccache hread hcheck hfix (hrest.1.trans hresult) (hrest.2.trans hcache)
      | ok options =>
        obtain ⟨hresult, hcache⟩ := rest_of_ok hfix
        exact .ended hread hcheck hfix (hrest.1.trans hresult) (hrest.2.trans hcache)

/-! ### What a configure step gives -/

/-- The entries that are written between the version checks and the ccache fixes. -/
def setUpEntries : List String := ["CMAKE_INSTALL_PREFIX", "CMAKE_RC_FLAGS"]

/-- The entries that the macros write as they like. -/
def owned : List String :=
  "TINY_QT_VERSION" :: "TINY_BUILD_GENDIR" :: (setUpEntries ++ ccacheEntries)

/-- The defaults behind the version checks. -/
def setUpDefaults (msvc : Bool) : List (String × Text) :=
  optionDefaults ++ (initDefaults ++ importedConfigs msvc)

/-- With the ones of `project()` -/
def Machine.owned (m : Machine) : List String := m.forcedNames ++ Project.owned

def Machine.defaults (m : Machine) : List (String × Text) :=
  environmentDefaults m.environment ++ m.entries ++ setUpDefaults m.toolchain.msvc

section Gives

variable {m : Machine} {cache : Cache} {read : VersionHeader.Read}

theorem before_gives : Gives (environmentDefaults m.environment) [] cache (m.before cache).cache :=
  pre_gives

theorem atCheck_cache : (m.atCheck cache read).cache =
    (m.project ((m.before cache).setAll (versionVariables read))).cache :=
  versionRequirements_cache _

/-- What `project()` finds. -/
def Machine.projected (m : Machine) (cache : Cache) : State := m.project (m.before cache)

def readNames : List String := ["TINY_VERSION", "TINY_VERSION_MAJOR", "TINY_VERSION_MINOR",
  "TINY_VERSION_PATCH", "TINY_VERSION_TWEAK"]

theorem atCheck_cache_eq (m : Machine) (cache : Cache) (read : VersionHeader.Read) :
    (m.atCheck cache read).cache = (m.projected cache).cache := by
  rw [atCheck_cache]
  refine forceAll_cache (setDefaults_cache ?_ m.entries) m.forced
  exact setAll_cache _

theorem atCheck_scope_eq :
    Agree (readNames ++ versionNames) (m.projected cache).scope (m.atCheck cache read).scope := by
  intro name hname
  rw [List.mem_append, not_or] at hname
  have hread : ((m.before cache).setAll (versionVariables read)).scope name =
      (m.before cache).scope name := setAll_scope hname.1
  rw [Machine.atCheck, versionRequirements_scope _ _ hname.2, Machine.projected, project_scope,
    project_scope, setAll_cache, setAll_scope_congr hread]

/-- Up to the version checks. -/
theorem atCheck_gives : Gives (environmentDefaults m.environment ++ m.entries) m.forcedNames cache
    (m.atCheck cache read).cache := by
  have hproject := project_gives m ((m.before cache).setAll (versionVariables read))
  rw [setAll_cache] at hproject
  rw [atCheck_cache]
  exact (before_gives.mono (List.subset_append_left _ _) (List.nil_subset _)).trans
    (hproject.mono (List.subset_append_right _ _) (List.Subset.refl _))

/-- Variables that none of the macros in front of the version checks sets. -/
def unset : List String := "CMAKE_RC_FLAGS" :: own

theorem before_scope {name : String} (hname : name ∈ unset) :
    (m.before cache).scope name = none := by
  have hname' : name ∉ ["TinyOrmPlayground_ns", "TinyOrmPlayground_target"] := by
    revert name
    decide
  exact pre_scope name hname'

theorem atCheck_scope {name : String} (hname : name ∈ unset) :
    (m.atCheck cache read).scope name = none := by
  have hversion : name ∉ versionNames := by
    revert name
    decide
  have htoolchain : name ∉ toolchainVariables := by
    revert name
    decide
  have hread : name ∉ (versionVariables read).map Prod.fst := by
    revert name
    simp only [versionVariables, List.map_cons, List.map_nil]
    decide
  have hfound : name ∉ m.found.map Prod.fst := by
    intro hmem
    obtain ⟨v, hv, rfl⟩ := List.mem_map.mp hmem
    exact m.found_other v hv hname
  rw [Machine.atCheck, versionRequirements_scope _ _ hversion, project_scope,
    toolchain_scope _ _ htoolchain, setAll_scope hfound, setAll_scope hread, before_scope hname]
  rfl

theorem atCheck_msvc : (m.atCheck cache read).scope "MSVC" =
    some (if m.toolchain.msvc then "1".toList else []) := by
  rw [Machine.atCheck, versionRequirements_scope _ _ (by decide), project_scope, msvc_scope]
  rfl

/-- The state in which the options are given. -/
def Machine.checked (m : Machine) (cache : Cache) (read : VersionHeader.Read) (r : Returned) :
    State := { m.atCheck cache read with cache := r.cache }

theorem checked_value {r : Returned} {name : String}
    (hscope : name ∉ readNames ++ versionNames) (hcache : name ≠ "TINY_QT_VERSION")
    (hcheck : configure m.toolchain (m.atCheck cache read).cache m.qmake = .ok r) :
    (m.checked cache read r).value? name = (m.projected cache).value? name := by
  have hname : name ∉ ["TINY_QT_VERSION"] := by simpa using hcache
  rw [State.value?, State.value?, Machine.checked, ← atCheck_cache_eq m cache read,
    atCheck_scope_eq name hscope]
  exact congrArg _ (configure_agree hcheck name hname)

theorem checked_scope {r : Returned} {name : String} (hname : name ∈ unset) :
    (m.checked cache read r).scope name = none := atCheck_scope hname

def setUpNames : List String :=
  ["MSVC_RUNTIME_DYNAMIC", "CMAKE_MSVC_RUNTIME_LIBRARY", "TINY_RC_FLAGS_BACKUP"]

/-- Where only the flags of the resource compiler are missing. -/
def Machine.atNologo (m : Machine) (cache : Cache) (read : VersionHeader.Read) (checked : Cache) :
    State := beforeNologo (initOptions { m.atCheck cache read with cache := checked })

theorem atFix_eq (checked : Cache) :
    m.atFix cache read checked = addNologo (m.atNologo cache read checked) := rfl

theorem atNologo_scope (checked : Cache) :
    Agree setUpNames (m.atCheck cache read).scope (m.atNologo cache read checked).scope := by
  have hoptions : Agree setUpNames (m.atCheck cache read).scope
      (initOptions { m.atCheck cache read with cache := checked }).scope :=
    initOptions_scope.mono (by decide)
  exact hoptions.trans (beforeNologo_scope.mono (by decide))

theorem atNologo_gives (checked : Cache) :
    Gives (setUpDefaults m.toolchain.msvc) ["CMAKE_INSTALL_PREFIX"] checked
      (m.atNologo cache read checked).cache := by
  have hdynamic : (m.atCheck cache read).scope "MSVC_RUNTIME_DYNAMIC" = none :=
    atCheck_scope (by decide)
  have hmsvc : (initOptions { m.atCheck cache read with cache := checked }).scope "MSVC" =
      some (if m.toolchain.msvc then "1".toList else []) := by
    rw [initOptions_scope _ (by decide)]
    exact atCheck_msvc
  have hoptions : Gives optionDefaults [] checked
      (initOptions { m.atCheck cache read with cache := checked }).cache :=
    initOptions_gives hdynamic
  exact (hoptions.mono (List.subset_append_left _ _) (List.nil_subset _)).trans
    ((beforeNologo_gives hmsvc).mono (List.subset_append_right _ _) (List.Subset.refl _))

/-- From the version checks to the ccache fixes. -/
theorem atFix_gives (checked : Cache) :
    Gives (setUpDefaults m.toolchain.msvc) setUpEntries checked
      (m.atFix cache read checked).cache := by
  have hnologo : Agree setUpEntries (m.atNologo cache read checked).cache
      (m.atFix cache read checked).cache := nologo_agree.mono (by decide)
  exact ((atNologo_gives checked).mono (List.Subset.refl _) (by decide)).trans hnologo.gives

theorem atFix_scope (checked : Cache) :
    Agree setUpNames (m.atCheck cache read).scope (m.atFix cache read checked).scope := by
  rw [atFix_eq, nologo_scope]
  exact atNologo_scope checked

theorem atEnd_scope {s : State} {options : List (String × Text)}
    (hfix : (m.fix s).result = .ok options) :
    Agree ["CMAKE_CXX_COMPILE_OPTIONS_CREATE_PCH"] s.scope (m.atEnd s options).scope :=
  fun _ hname => setAll_scope fun hmem => hname (fixCcache_options hfix hmem)

theorem atEnd_agree (s : State) (options : List (String × Text)) :
    Agree ("TINY_BUILD_GENDIR" :: ccacheEntries) s.cache (m.atEnd s options).cache := by
  have hfix : Agree ("TINY_BUILD_GENDIR" :: ccacheEntries) s.cache (m.fix s).cache :=
    (fixCcache_agree s m.policyCmp0141 m.ccache).mono (List.subset_cons_self _ _)
  refine hfix.trans (.trans ((setCache_agree "TINY_BUILD_GENDIR" _ _).mono ?_)
    ((setCache_agree "TINY_IS_MULTI_CONFIG" _ _).mono ?_))
  · decide
  · decide

theorem atCheck_defaults : Gives m.defaults m.owned cache (m.atCheck cache read).cache :=
  atCheck_gives.mono (List.subset_append_left _ _) (List.subset_append_left _ _)

theorem Machine.owned_subset (m : Machine) : Project.owned ⊆ m.owned := List.subset_append_right _ _

theorem owned_gives {c c' : Cache} (h : Agree owned c c') : Gives m.defaults m.owned c c' :=
  (h.mono m.owned_subset).gives

/-- Behind the version checks. -/
theorem checked_gives {r : Returned}
    (hcheck : configure m.toolchain (m.atCheck cache read).cache m.qmake = .ok r) :
    Gives m.defaults m.owned cache r.cache := by
  have hversion : Agree owned (m.atCheck cache read).cache r.cache :=
    (configure_agree hcheck).mono (by decide)
  exact atCheck_defaults.trans (owned_gives hversion)

theorem fixed_gives {r : Returned}
    (hcheck : configure m.toolchain (m.atCheck cache read).cache m.qmake = .ok r) :
    Gives m.defaults m.owned cache (m.atFix cache read r.cache).cache := by
  have hsetUp : setUpEntries ⊆ owned := by decide
  exact (checked_gives hcheck).trans
    ((atFix_gives r.cache).mono (List.subset_append_right _ _)
      (List.Subset.trans hsetUp m.owned_subset))

/-- A configure step, however far it gets, gives its defaults and writes what it owns. -/
theorem run_gives (m : Machine) (cache : Cache) :
    Gives m.defaults m.owned cache (m.run cache).cache := by
  cases run_stage m cache with
  | header _ _ hcache =>
    rw [hcache]
    refine before_gives.mono ?_ (List.nil_subset _)
    rw [Machine.defaults, List.append_assoc]
    exact List.subset_append_left _ _
  | toolchain _ _ _ hcache =>
    rw [hcache]
    exact atCheck_defaults
  | @ccache read r _ _ hcheck _ _ hcache =>
    rw [hcache]
    have hfix : Agree owned (m.atFix cache read r.cache).cache
        (m.fix (m.atFix cache read r.cache)).cache :=
      (fixCcache_agree (m.atFix cache read r.cache) m.policyCmp0141 m.ccache).mono (by decide)
    exact (fixed_gives hcheck).trans (owned_gives hfix)
  | @ended read r options _ hcheck _ _ hcache =>
    rw [hcache]
    have hend : Agree owned (m.atFix cache read r.cache).cache
        (m.atEnd (m.atFix cache read r.cache) options).cache :=
      (atEnd_agree (m.atFix cache read r.cache) options).mono (by decide)
    exact (fixed_gives hcheck).trans (owned_gives hend)

end Gives

end TinyPlay.Project

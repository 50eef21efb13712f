import TinyPlay.Proofs.Ledger

/-! The Qt version check and the ccache fixes as parts of whole configure steps: to each of them,
the rest of the project is somebody who edits entries by hand. -/

namespace TinyPlay.Project

open CMake Entries

variable {cache : Cache} {m : Machine} {read : VersionHeader.Read} {r : Returned}

/-! ### Names -/

/-- The defaults are given to names that are not the project's own. -/
theorem environment_names (environment : String → Option Text) :
    ∀ d ∈ environmentDefaults environment, d.1 ∉ own := by
  have hcases : ∀ d ∈ environmentDefaults environment,
      d.1 ∈ ["CMAKE_TOOLCHAIN_FILE", "VCPKG_TARGET_TRIPLET"] := by
    intro d hd
    simp only [environmentDefaults, environmentEntry, List.mem_append, List.mem_map] at hd
    rcases hd with (⟨value, -, rfl⟩ | ⟨value, -, rfl⟩) | ⟨value, -, rfl⟩
    · exact List.mem_cons_self
    · exact List.mem_cons_self
    · exact List.mem_cons_of_mem _ List.mem_cons_self
  have hother : ∀ name ∈ ["CMAKE_TOOLCHAIN_FILE", "VCPKG_TARGET_TRIPLET"], name ∉ own := by decide
  exact fun d hd => hother _ (hcases d hd)

theorem kept_own : kept ⊆ own := List.subset_cons_self _ _

/-- What has been written up to the version checks. -/
theorem atCheck_names :
    ∀ name ∈ m.forcedNames ++ (environmentDefaults m.environment ++ m.entries).map Prod.fst,
      name ∉ kept := by
  intro name hname
  rw [List.map_append, List.mem_append, List.mem_append] at hname
  rcases hname with hname | hname | hname
  · exact fun hmem => forcedNames_other (List.mem_cons_of_mem _ (kept_own hmem)) hname
  · obtain ⟨d, hd, rfl⟩ := List.mem_map.mp hname
    exact fun hmem => environment_names _ d hd (kept_own hmem)
  · obtain ⟨d, hd, rfl⟩ := List.mem_map.mp hname
    exact fun hmem => m.entries_other d hd (kept_own hmem)

/-! ### The Qt version check -/

/-- The qmake that a configure step asks. -/
def askedQmake (cache : Cache) : Event → Option Process
  | .edit _ _ => none
  | .configure m =>
    if (VersionHeader.tinyReadVersion "TINYPLAY".toList m.versionHeader).isOk &&
      (compilerRequirement (parsedScope m.toolchain (m.projected cache).cache)).isOk then
      some m.qmake
    else none

/-- To the version check, other entries are edited by hand. -/
theorem qt_edits {names : List String} {c c' : Cache} (h : Agree names c c')
    (hnames : ∀ name ∈ names, name ∉ QtVersion.kept) :
    Runs.Leads QtVersion.step QtVersion.askedBy c c' [] := by
  have hedit : ∀ name ∈ names, ∀ c value, QtVersion.step c (.edit name value) =
      some (Function.update c name value) := by
    intro name hname c value
    rw [QtVersion.step, if_neg (hnames name hname)]
  exact h.leads hedit fun _ _ _ => rfl

theorem qt_kept : QtVersion.kept ⊆ kept := by decide

/-- What is written behind the version checks. -/
def restNames (msvc : Bool) : List String :=
  setUpEntries ++ (setUpDefaults msvc).map Prod.fst ++ "TINY_BUILD_GENDIR" :: ccacheEntries

theorem atFix_rest (checked : Cache) :
    Agree (restNames m.toolchain.msvc) checked (m.atFix cache read checked).cache :=
  (atFix_gives checked).agree.mono (List.subset_append_left _ _)

theorem ccache_rest (msvc : Bool) : ccacheEntries ⊆ restNames msvc :=
  List.subset_append_of_subset_right _ (List.subset_cons_self _ _)

theorem end_rest (msvc : Bool) : "TINY_BUILD_GENDIR" :: ccacheEntries ⊆ restNames msvc :=
  List.subset_append_right _ _

theorem restNames_qt : ∀ msvc, ∀ name ∈ restNames msvc, name ∉ QtVersion.kept := by decide

theorem askedQmake_eq
    (hread : VersionHeader.tinyReadVersion "TINYPLAY".toList m.versionHeader = .ok read) :
    askedQmake cache (.configure m) = QtVersion.askedBy (m.atCheck cache read).cache
      (.configure m.toolchain m.qmake) := by
  rw [askedQmake, hread, atCheck_cache_eq]
  rfl

theorem qt_atCheck :
    Runs.Leads QtVersion.step QtVersion.askedBy cache (m.atCheck cache read).cache [] :=
  qt_edits atCheck_gives.agree fun name hname hmem => atCheck_names name hname (qt_kept hmem)

/-- Up to the version check, and with it. -/
theorem qt_checked {c : Cache}
    (hread : VersionHeader.tinyReadVersion "TINYPLAY".toList m.versionHeader = .ok read)
    (hstep : QtVersion.step (m.atCheck cache read).cache (.configure m.toolchain m.qmake) =
      some c) :
    Runs.Leads QtVersion.step QtVersion.askedBy cache c
      (askedQmake cache (.configure m)).toList := by
  rw [askedQmake_eq hread]
  exact qt_atCheck.trans (.single hstep)

/-- A configure step, as the version check sees it. -/
theorem qt_configure (m : Machine) (cache : Cache) :
    Runs.Leads QtVersion.step QtVersion.askedBy cache (m.run cache).cache
      (askedQmake cache (.configure m)).toList := by
  cases run_stage m cache with
  | header hread _ hcache =>
    have hnothing : askedQmake cache (.configure m) = none := by
      rw [askedQmake, hread]
      rfl
    rw [hcache, hnothing]
    refine qt_edits before_gives.agree fun name hname hmem => ?_
    obtain ⟨d, hd, rfl⟩ := List.mem_map.mp hname
    exact environment_names _ d hd (kept_own (qt_kept hmem))
  | toolchain hread hcheck _ hcache =>
    rw [hcache]
    refine qt_checked hread ?_
    rw [QtVersion.step, hcheck]
  | @ccache read r _ hread hcheck _ _ hcache =>
    have hchecked : QtVersion.step (m.atCheck cache read).cache
        (.configure m.toolchain m.qmake) = some r.cache := by
      rw [QtVersion.step, hcheck]
    rw [hcache, ← List.append_nil (Option.toList _)]
    refine (qt_checked hread hchecked).trans (qt_edits ?_ (restNames_qt m.toolchain.msvc))
    exact (atFix_rest r.cache).trans ((fixCcache_agree _ _ _).mono (ccache_rest _))
  | @ended read r options hread hcheck _ _ hcache =>
    have hchecked : QtVersion.step (m.atCheck cache read).cache
        (.configure m.toolchain m.qmake) = some r.cache := by
      rw [QtVersion.step, hcheck]
    rw [hcache, ← List.append_nil (Option.toList _)]
    refine (qt_checked hread hchecked).trans (qt_edits ?_ (restNames_qt m.toolchain.msvc))
    exact (atFix_rest r.cache).trans ((atEnd_agree _ _).mono (end_rest _))

/-! ### The ccache fixes -/

/-- Whether ccache is asked in a state. -/
def asks (s : State) (policyCmp0141 : Text) : Bool :=
  Ccache.tinyShouldFixCcacheMsvc s &&
    (Ccache.tinyIsNewMsvcDebugInformationFormat325 s policyCmp0141 ||
      !s.isTrue "TINY_IS_MULTI_CONFIG")

/-- The names that are looked up for it. -/
def askNames : List String := ["WIN32", "MSVC", "MINGW", "CMAKE_CXX_COMPILER_LAUNCHER",
  "CMAKE_HOST_WIN32", "CMAKE_VERSION", "TINY_IS_MULTI_CONFIG"]

theorem asks_congr {s s' : State} (h : ∀ name ∈ askNames, s.value? name = s'.value? name)
    (policyCmp0141 : Text) : asks s policyCmp0141 = asks s' policyCmp0141 := by
  have htrue : ∀ name ∈ askNames, s.isTrue name = s'.isTrue name := by
    intro name hname
    rw [State.isTrue, State.isTrue, h name hname]
  have hlauncher := h "CMAKE_CXX_COMPILER_LAUNCHER" (by decide)
  have hversion : s.versionAtLeast "CMAKE_VERSION" "3.25" =
      s'.versionAtLeast "CMAKE_VERSION" "3.25" := by
    rw [State.versionAtLeast, State.versionAtLeast, State.operand, State.operand,
      h "CMAKE_VERSION" (by decide)]
  have hisLauncher : Ccache.tinyIsCcacheCompilerLauncher s =
      Ccache.tinyIsCcacheCompilerLauncher s' := by
    rw [Ccache.tinyIsCcacheCompilerLauncher, Ccache.tinyIsCcacheCompilerLauncher, State.isDefined,
      State.isDefined, State.reference, State.reference, hlauncher,
      htrue "CMAKE_HOST_WIN32" (by decide)]
  rw [asks, asks, Ccache.tinyShouldFixCcacheMsvc, Ccache.tinyShouldFixCcacheMsvc,
    Ccache.tinyIsNewMsvcDebugInformationFormat325, Ccache.tinyIsNewMsvcDebugInformationFormat325,
    State.isDefined, State.isDefined, hisLauncher, hlauncher, hversion, htrue "WIN32" (by decide),
    htrue "MSVC" (by decide), htrue "MINGW" (by decide), htrue "TINY_IS_MULTI_CONFIG" (by decide)]

/-- What has been found by `project()` is found at the ccache fixes. -/
theorem atFix_value {name : String} (hscope : name ∉ readNames ++ versionNames ++ setUpNames)
    (hcache : ∀ msvc, name ∉ setUpEntries ++ (setUpDefaults msvc).map Prod.fst)
    (hversion : name ∉ ["TINY_QT_VERSION"])
    (hcheck : configure m.toolchain (m.atCheck cache read).cache m.qmake = .ok r) :
    (m.atFix cache read r.cache).value? name = (m.projected cache).value? name := by
  rw [List.mem_append, not_or] at hscope
  rw [State.value?, State.value?, atFix_scope _ _ hscope.2, atCheck_scope_eq _ hscope.1,
    (atFix_gives r.cache).agree _ (hcache _), configure_agree hcheck _ hversion,
    atCheck_cache_eq]

theorem askNames_scope : ∀ name ∈ askNames, name ∉ readNames ++ versionNames ++ setUpNames := by
  decide

theorem askNames_cache : ∀ name ∈ askNames, ∀ msvc,
    name ∉ setUpEntries ++ (setUpDefaults msvc).map Prod.fst := by
  decide

/-- The ccache that a configure step asks. -/
def askedCcache (cache : Cache) : Event → Option Process
  | .edit _ _ => none
  | .configure m =>
    if (VersionHeader.tinyReadVersion "TINYPLAY".toList m.versionHeader).isOk &&
      (configure m.toolchain (m.projected cache).cache m.qmake).isOk &&
      asks (m.projected cache) m.policyCmp0141 then some m.ccache
    else none

/-- The part of the step that asks. -/
def Machine.ccacheStep (m : Machine) (cache : Cache) (read : VersionHeader.Read)
    (checked : Cache) : Ccache.ConfigureStep where
  scope := (m.atFix cache read checked).scope
  hides := by
    have hkept : ∀ name ∈ Ccache.kept, name ∉ setUpNames ∧ name ∈ unset := by decide
    intro name hname
    rw [atFix_scope _ _ (hkept name hname).1, atCheck_scope (hkept name hname).2]
  policyCmp0141 := m.policyCmp0141
  ccache := m.ccache
  isMultiConfig := m.isMultiConfig

theorem ccacheStep_asks
    (hcheck : configure m.toolchain (m.atCheck cache read).cache m.qmake = .ok r) :
    (m.ccacheStep cache read r.cache).asks (m.atFix cache read r.cache).cache =
      asks (m.projected cache) m.policyCmp0141 :=
  asks_congr (fun name hname => atFix_value (askNames_scope name hname)
    (askNames_cache name hname) (by revert name; decide) hcheck) m.policyCmp0141

theorem askedCcache_eq
    (hread : VersionHeader.tinyReadVersion "TINYPLAY".toList m.versionHeader = .ok read)
    (hcheck : configure m.toolchain (m.atCheck cache read).cache m.qmake = .ok r) :
    askedCcache cache (.configure m) = Ccache.askedBy (m.atFix cache read r.cache).cache
      (.configure (m.ccacheStep cache read r.cache)) := by
  rw [askedCcache, Ccache.askedBy, ccacheStep_asks hcheck, hread,
    ← atCheck_cache_eq m cache read, hcheck]
  rfl

/-- To the ccache fixes, too, other entries are edited by hand. -/
theorem ccache_edits {names : List String} {c c' : Cache} (h : Agree names c c')
    (hnames : ∀ name ∈ names, name ∉ Ccache.kept) :
    Runs.Leads Ccache.step Ccache.askedBy c c' [] := by
  have hedit : ∀ name ∈ names, ∀ c value, Ccache.step c (.edit name value) =
      some (Function.update c name value) := by
    intro name hname c value
    rw [Ccache.step, if_neg (hnames name hname)]
  exact h.leads hedit fun _ _ _ => rfl

theorem ccache_kept : Ccache.kept ⊆ kept := by decide

theorem setUp_ccache : ∀ msvc, ∀ name ∈ setUpEntries ++ (setUpDefaults msvc).map Prod.fst,
    name ∉ Ccache.kept := by
  decide

theorem ccache_atCheck :
    Runs.Leads Ccache.step Ccache.askedBy cache (m.atCheck cache read).cache [] :=
  ccache_edits atCheck_gives.agree fun name hname hmem =>
    atCheck_names name hname (ccache_kept hmem)

/-- Up to the ccache fixes. -/
theorem ccache_atFix
    (hcheck : configure m.toolchain (m.atCheck cache read).cache m.qmake = .ok r) :
    Runs.Leads Ccache.step Ccache.askedBy cache (m.atFix cache read r.cache).cache [] :=
  (ccache_atCheck.trans (ccache_edits (configure_agree hcheck) (by decide))).trans
    (ccache_edits (atFix_gives r.cache).agree (setUp_ccache _))

/-- With them. -/
theorem ccache_fixed
    (hread : VersionHeader.tinyReadVersion "TINYPLAY".toList m.versionHeader = .ok read)
    (hcheck : configure m.toolchain (m.atCheck cache read).cache m.qmake = .ok r) :
    Runs.Leads Ccache.step Ccache.askedBy cache
      ((m.ccacheStep cache read r.cache).run (m.atFix cache read r.cache).cache).cache
      (askedCcache cache (.configure m)).toList := by
  rw [askedCcache_eq hread hcheck]
  exact (ccache_atFix hcheck).trans (.single rfl)

theorem ccacheStep_of_error {e : Text}
    (hfix : (m.fix (m.atFix cache read r.cache)).result = .error e) :
    ((m.ccacheStep cache read r.cache).run (m.atFix cache read r.cache).cache).cache =
      (m.fix (m.atFix cache read r.cache)).cache := (Outcome.next_of_error hfix).2

theorem ccacheStep_of_ok {options : List (String × Text)}
    (hfix : (m.fix (m.atFix cache read r.cache)).result = .ok options) :
    Agree ["TINY_BUILD_GENDIR"]
      ((m.ccacheStep cache read r.cache).run (m.atFix cache read r.cache).cache).cache
      (m.atEnd (m.atFix cache read r.cache) options).cache := by
  intro name hname
  have hrun : ((m.ccacheStep cache read r.cache).run (m.atFix cache read r.cache).cache).cache =
      Function.update ((State.mk (m.atFix cache read r.cache).scope
        (m.fix (m.atFix cache read r.cache)).cache).setAll options).cache "TINY_IS_MULTI_CONFIG"
          (some (if m.isMultiConfig then "1".toList else "0".toList)) :=
    (Outcome.next_of_ok hfix).2
  have hend : (m.atEnd (m.atFix cache read r.cache) options).cache =
      Function.update (Function.update (m.fix (m.atFix cache read r.cache)).cache
        "TINY_BUILD_GENDIR" _) "TINY_IS_MULTI_CONFIG"
          (some (if m.isMultiConfig then "1".toList else "0".toList)) := rfl
  rw [hrun, hend, setAll_cache, Function.update_apply,
    Function.update_of_ne (List.ne_of_not_mem_cons hname), Function.update_apply]

/-- A configure step, as the ccache fixes see it. -/
theorem ccache_configure (m : Machine) (cache : Cache) :
    Runs.Leads Ccache.step Ccache.askedBy cache (m.run cache).cache
      (askedCcache cache (.configure m)).toList := by
  cases run_stage m cache with
  | header hread _ hcache =>
    have hnothing : askedCcache cache (.configure m) = none := by
      rw [askedCcache, hread]
      rfl
    rw [hcache, hnothing]
    refine ccache_edits before_gives.agree fun name hname hmem => ?_
    obtain ⟨d, hd, rfl⟩ := List.mem_map.mp hname
    exact environment_names _ d hd (kept_own (ccache_kept hmem))
  | @toolchain read e hread hcheck _ hcache =>
    have hnothing : askedCcache cache (.configure m) = none := by
      rw [askedCcache, hread, ← atCheck_cache_eq m cache read, hcheck]
      rfl
    rw [hcache, hnothing]
    exact ccache_atCheck
  | ccache hread hcheck hfix _ hcache =>
    rw [hcache, ← ccacheStep_of_error hfix]
    exact ccache_fixed hread hcheck
  | ended hread hcheck hfix _ hcache =>
    rw [hcache, ← List.append_nil (Option.toList _)]
    exact (ccache_fixed hread hcheck).trans
      (ccache_edits (ccacheStep_of_ok hfix) (by decide))

/-! ### The life of a build tree -/

variable {es : List Event}

/-- The runs of qmake. -/
def qmakes (es : List Event) : List Process := Runs.seen step askedQmake fresh es

/-- The runs of ccache. -/
def ccaches (es : List Event) : List Process := Runs.seen step askedCcache fresh es

/-- A step of the project, as the version check sees it. -/
theorem step_qt {e : Event} {cache' : Cache} (hstep : step cache e = some cache') :
    Runs.Leads QtVersion.step QtVersion.askedBy cache cache' (askedQmake cache e).toList := by
  cases e with
  | edit name value =>
    obtain ⟨hname, rfl⟩ := edit_eq hstep
    have hedit : QtVersion.step cache (.edit name value) =
        some (Function.update cache name value) := by
      rw [QtVersion.step, if_neg fun hmem => hname (qt_kept hmem)]
    exact .single hedit
  | configure m =>
    obtain rfl := Option.some.inj hstep
    exact qt_configure m cache

/-- And as the ccache fixes see it. -/
theorem step_ccache {e : Event} {cache' : Cache} (hstep : step cache e = some cache') :
    Runs.Leads Ccache.step Ccache.askedBy cache cache' (askedCcache cache e).toList := by
  cases e with
  | edit name value =>
    obtain ⟨hname, rfl⟩ := edit_eq hstep
    have hedit : Ccache.step cache (.edit name value) =
        some (Function.update cache name value) := by
      rw [Ccache.step, if_neg fun hmem => hname (ccache_kept hmem)]
    exact .single hedit
  | configure m =>
    obtain rfl := Option.some.inj hstep
    exact ccache_configure m cache

theorem run_qt (hrun : Runs.run step fresh es = some cache) :
    Runs.Leads QtVersion.step QtVersion.askedBy fresh cache (qmakes es) :=
  .of_steps id (fun _ _ _ hstep => step_qt hstep) hrun

theorem run_ccache (hrun : Runs.run step fresh es = some cache) :
    Runs.Leads Ccache.step Ccache.askedBy fresh cache (ccaches es) :=
  .of_steps id (fun _ _ _ hstep => step_ccache hstep) hrun

theorem run_qtVersion (hrun : Runs.run step fresh es = some cache) :
    QtVersion.Remembers (Probe.first QtVersion.verdict (qmakes es)) cache := by
  obtain ⟨qs, hqs, hqmakes⟩ := run_qt hrun
  rw [← hqmakes]
  exact QtVersion.run_remembers hqs

theorem run_ccacheVersion (hrun : Runs.run step fresh es = some cache) :
    Ccache.Remembers (Probe.first Ccache.verdict (ccaches es)) cache := by
  obtain ⟨cs, hcs, hccaches⟩ := run_ccache hrun
  rw [← hccaches]
  exact Ccache.run_remembers hcs

/-- The build tree, as the two checks see it. -/
structure Settled (es : List Event) (cache : Cache) : Prop where
  qtRun : ∃ qs, Runs.run QtVersion.step fresh qs = some cache ∧ QtVersion.asked qs = qmakes es
  ccacheRun : ∃ cs, Runs.run Ccache.step fresh cs = some cache ∧ Ccache.asked cs = ccaches es
  qtVersion : cache "TINY_QT_VERSION" = Probe.first QtVersion.verdict (qmakes es)
  ccacheVersion : cache "TINY_CCACHE_VERSION" = Probe.first Ccache.verdict (ccaches es)

/-- Every run of whole configure steps is a run of the Qt version check, and one of the ccache
fixes, in which the rest of the project edits by hand what those leave alone. So the stored versions
are the first definite results in whole build trees as well. -/
theorem project_settled (hrun : Runs.run step fresh es = some cache) : Settled es cache :=
  ⟨run_qt hrun, run_ccache hrun, (run_qtVersion hrun).stored, (run_ccacheVersion hrun).1⟩

/-- Two steps with Qt 6.7, and one with Qt 5.15. -/
def downgrade : List Event := [.configure studio, .configure studio,
  .configure { studio with qmake := ⟨.exited 0, "5.15.2\n".toList⟩ }]

theorem downgrade_qmakes : Probe.first QtVersion.verdict (qmakes downgrade) =
    some "6.7.2".toList := by
  decide +kernel

theorem project_settled_downgrade : ∃ cache, Runs.run step fresh downgrade = some cache ∧
    cache "TINY_QT_VERSION" = some "6.7.2".toList := by
  obtain ⟨cache, hrun⟩ : ∃ cache, Runs.run step fresh downgrade = some cache := ⟨_, rfl⟩
  exact ⟨cache, hrun, (project_settled hrun).qtVersion.trans downgrade_qmakes⟩

end TinyPlay.Project

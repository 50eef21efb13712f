import TinyPlay.Proofs.Ledger

/-! The runtime library of MSVC: the option that selects it is hidden as long as somebody else has
selected one, and is back with its value when nobody has. -/

namespace TinyPlay.Project

open CMake Entries

/-- What the option selects. -/
def runtimeLibrary (dynamic : Text) : Option Text :=
  if dynamic = "MSVC_RUNTIME_DYNAMIC-NOTFOUND".toList then none
  else if isFalseConstant dynamic then some "MultiThreaded$<$<CONFIG:Debug>:Debug>".toList
  else some "MultiThreaded$<$<CONFIG:Debug>:Debug>DLL".toList

/-- Nobody has selected a library. -/
def Machine.available (m : Machine) (cache : Cache) : Bool :=
  m.toolchain.msvc && !(m.projected cache).isDefined "CMAKE_MSVC_RUNTIME_LIBRARY"

variable {es : List Event} {cache : Cache} {m : Machine} {read : VersionHeader.Read} {r : Returned}

/-- The condition of the option. -/
theorem available_eq (hcheck : configure m.toolchain (m.atCheck cache read).cache m.qmake = .ok r) :
    let s := featureOption (m.checked cache read r) "BUILD_SHARED_LIBS" "ON".toList
    (s.isTrue "MSVC" && !s.isDefined "CMAKE_MSVC_RUNTIME_LIBRARY") = m.available cache := by
  have hmsvc : (featureOption (m.checked cache read r) "BUILD_SHARED_LIBS" "ON".toList).isTrue
      "MSVC" = m.toolchain.msvc := by
    refine isTrue_msvc ?_
    rw [featureOption, option_scope]
    exact atCheck_msvc
  have hvalue : (featureOption (m.checked cache read r) "BUILD_SHARED_LIBS" "ON".toList).value?
      "CMAKE_MSVC_RUNTIME_LIBRARY" = (m.projected cache).value? "CMAKE_MSVC_RUNTIME_LIBRARY" := by
    have hchecked : (m.checked cache read r).value? "CMAKE_MSVC_RUNTIME_LIBRARY" =
        (m.projected cache).value? "CMAKE_MSVC_RUNTIME_LIBRARY" :=
      checked_value (by decide) (by decide) hcheck
    rw [← hchecked, State.value?, State.value?, featureOption, option_scope,
      option_gives.agree _ (by decide)]
  dsimp only
  rw [hmsvc, State.isDefined, hvalue]
  rfl

/-- The option is given as long as it is available. -/
theorem options_available
    (hcheck : configure m.toolchain (m.atCheck cache read).cache m.qmake = .ok r)
    (h : m.available cache = true) :
    (initOptions (m.checked cache read r)).scope "MSVC_RUNTIME_DYNAMIC" = none ∧
      ∃ v, (initOptions (m.checked cache read r)).cache "MSVC_RUNTIME_DYNAMIC" = some v := by
  have havailable := (available_eq hcheck).trans h
  have hscope : (featureOption (m.checked cache read r) "BUILD_SHARED_LIBS" "ON".toList).scope
      "MSVC_RUNTIME_DYNAMIC" = none := by
    rw [featureOption, option_scope]
    exact checked_scope (by decide)
  rw [initOptions, havailable, featureOptionDependent, dependentOption_available hscope]
  refine ⟨?_, ?_⟩
  · rw [msvcParallel_scope, featureOption, option_scope, setDefault_scope, hscope]
  · obtain ⟨v, hv⟩ := Option.isSome_iff_exists.mp (setDefault_isSome _ _ _)
    exact ⟨v, msvcParallel_gives.keeps List.not_mem_nil (option_gives.keeps List.not_mem_nil hv)⟩

/-- Otherwise it is hidden. -/
theorem options_hidden
    (hcheck : configure m.toolchain (m.atCheck cache read).cache m.qmake = .ok r)
    (h : m.available cache = false) :
    (initOptions (m.checked cache read r)).scope "MSVC_RUNTIME_DYNAMIC" =
      some "MSVC_RUNTIME_DYNAMIC-NOTFOUND".toList := by
  have havailable := (available_eq hcheck).trans h
  have hscope : (featureOption (m.checked cache read r) "BUILD_SHARED_LIBS" "ON".toList).scope
      "MSVC_RUNTIME_DYNAMIC" = none := by
    rw [featureOption, option_scope]
    exact checked_scope (by decide)
  rw [initOptions, havailable, featureOptionDependent, dependentOption_hidden hscope _ (by decide),
    msvcParallel_scope, featureOption, option_scope]
  exact set_self _ _ _

/-- `tiny_init_cmake_variables` selects a library by the value of the option. -/
theorem msvcRuntime_selects {s : State} {v : Text} (hmsvc : s.isTrue "MSVC" = true)
    (hvalue : s.value? "MSVC_RUNTIME_DYNAMIC" = some v)
    (hnone : s.scope "CMAKE_MSVC_RUNTIME_LIBRARY" = none) :
    (initMsvcRuntime s).scope "CMAKE_MSVC_RUNTIME_LIBRARY" = runtimeLibrary v := by
  have htrue : s.isTrue "MSVC_RUNTIME_DYNAMIC" = !isFalseConstant v := by
    rw [State.isTrue, hvalue, Option.any_some]
  have hnot : s.strequal "MSVC_RUNTIME_DYNAMIC" "MSVC_RUNTIME_DYNAMIC-NOTFOUND" =
      decide (v = "MSVC_RUNTIME_DYNAMIC-NOTFOUND".toList) := by
    rw [State.strequal, State.operand, hvalue, Option.getD_some]
  rw [initMsvcRuntime, hmsvc, htrue, hnot, runtimeLibrary, Bool.true_and]
  by_cases hv : v = "MSVC_RUNTIME_DYNAMIC-NOTFOUND".toList
  · rw [if_pos hv, decide_eq_true hv]
    exact hnone
  · rw [if_neg hv, decide_eq_false hv]
    cases isFalseConstant v with
    | true => exact set_self _ _ _
    | false => exact set_self _ _ _

/-- It does not where the option is hidden, or for other compilers. -/
theorem msvcRuntime_keeps {s : State} (h : s.isTrue "MSVC" = true →
    s.value? "MSVC_RUNTIME_DYNAMIC" = some "MSVC_RUNTIME_DYNAMIC-NOTFOUND".toList) :
    (initMsvcRuntime s).scope = s.scope := by
  unfold initMsvcRuntime
  cases hmsvc : s.isTrue "MSVC" with
  | false => rfl
  | true =>
    have hnot : s.strequal "MSVC_RUNTIME_DYNAMIC" "MSVC_RUNTIME_DYNAMIC-NOTFOUND" = true := by
      rw [State.strequal, State.operand, h hmsvc, Option.getD_some, decide_eq_true rfl]
    rw [hnot]
    rfl

/-- The defaults of a configure step have one value for the option. -/
theorem dynamic_default {v : Text} (h : ("MSVC_RUNTIME_DYNAMIC", v) ∈ m.defaults) :
    v = "ON".toList := by
  have hentries : ∀ d ∈ m.entries, d.1 ≠ "MSVC_RUNTIME_DYNAMIC" := by
    rintro d hd heq
    exact m.entries_other d hd (heq ▸ List.mem_cons_self)
  have henvironment : ∀ d ∈ environmentDefaults m.environment, d.1 ≠ "MSVC_RUNTIME_DYNAMIC" := by
    intro d hd
    simp only [environmentDefaults, environmentEntry, List.mem_append, List.mem_map] at hd
    rcases hd with (⟨value, -, rfl⟩ | ⟨value, -, rfl⟩) | ⟨value, -, rfl⟩
    · exact (by decide : "CMAKE_TOOLCHAIN_FILE" ≠ "MSVC_RUNTIME_DYNAMIC")
    · exact (by decide : "CMAKE_TOOLCHAIN_FILE" ≠ "MSVC_RUNTIME_DYNAMIC")
    · exact (by decide : "VCPKG_TARGET_TRIPLET" ≠ "MSVC_RUNTIME_DYNAMIC")
  have hlater : ∀ msvc, ∀ d ∈ initDefaults ++ importedConfigs msvc,
      d.1 ≠ "MSVC_RUNTIME_DYNAMIC" := by
    decide
  have hoptions : ∀ d ∈ optionDefaults, d.1 = "MSVC_RUNTIME_DYNAMIC" → d.2 = "ON".toList := by
    decide
  rw [Machine.defaults, setUpDefaults, List.mem_append, List.mem_append, List.mem_append] at h
  rcases h with (h | h) | h | h
  · exact absurd rfl (henvironment _ h)
  · exact absurd rfl (hentries _ h)
  · exact hoptions _ h rfl
  · exact absurd rfl (hlater _ _ h)

theorem dynamic_offered {v : Text} (h : ("MSVC_RUNTIME_DYNAMIC", v) ∈ offered es) :
    v = "ON".toList := by
  obtain ⟨e, -, he⟩ := List.mem_flatMap.mp h
  cases e with
  | edit name value => cases he
  | configure m => exact dynamic_default he

/-- In every build tree the option has the value that has been set by hand, or is on. -/
theorem options_dynamic (hrun : Runs.run step fresh es = some cache)
    (hcheck : configure m.toolchain (m.atCheck cache read).cache m.qmake = .ok r) {v : Text}
    (hv : (initOptions (m.checked cache read r)).cache "MSVC_RUNTIME_DYNAMIC" = some v) :
    v = (setByHand es "MSVC_RUNTIME_DYNAMIC").getD "ON".toList := by
  have hgives : Gives (offered es ++ m.defaults) (written es ++ m.owned) (setByHand es)
      (initOptions (m.checked cache read r)).cache := by
    have hoptions : Gives m.defaults m.owned r.cache
        (initOptions (m.checked cache read r)).cache := by
      refine (initOptions_gives (checked_scope (by decide))).mono ?_ (List.nil_subset _)
      exact List.subset_append_of_subset_right _ (List.subset_append_left _ _)
    exact ((run_entries hrun).mono (List.subset_append_left _ _)
      (List.subset_append_left _ _)).trans (((checked_gives hcheck).trans hoptions).mono
        (List.subset_append_right _ _) (List.subset_append_right _ _))
  have hother : "MSVC_RUNTIME_DYNAMIC" ∉ written es ++ m.owned := by
    rw [List.mem_append, not_or]
    exact ⟨written_own List.mem_cons_self (by decide), owned_own List.mem_cons_self (by decide)⟩
  rcases hgives "MSVC_RUNTIME_DYNAMIC" hother with heq | ⟨hnone, value, hvalue, heq⟩
  · rw [← heq, hv, Option.getD_some]
  · rw [hv] at heq
    obtain rfl := Option.some.inj heq
    rw [hnone, Option.getD_none]
    rcases List.mem_append.mp hvalue with h | h
    · exact dynamic_offered h
    · exact dynamic_default h

/-- The state in which the library is selected. -/
def Machine.atRuntime (m : Machine) (cache : Cache) (read : VersionHeader.Read) (r : Returned) :
    State := (initOptions (m.checked cache read r)).setDefaults initDefaults

theorem atFix_runtime : (m.atFix cache read r.cache).scope "CMAKE_MSVC_RUNTIME_LIBRARY" =
    (initMsvcRuntime (m.atRuntime cache read r)).scope "CMAKE_MSVC_RUNTIME_LIBRARY" := by
  rw [atFix_eq, nologo_scope]
  exact beforeNologo_runtime _ (by decide)

theorem atRuntime_scope {name : String} (hname : name ≠ "MSVC_RUNTIME_DYNAMIC") :
    (m.atRuntime cache read r).scope name = (m.atCheck cache read).scope name := by
  rw [Machine.atRuntime, setDefaults_scope, initOptions_scope _ (by simpa using hname)]
  rfl

theorem atRuntime_msvc : (m.atRuntime cache read r).isTrue "MSVC" = m.toolchain.msvc := by
  refine isTrue_msvc ?_
  rw [atRuntime_scope (by decide)]
  exact atCheck_msvc

/-- In every build tree, MSVC builds use the runtime library that somebody else has selected, and
otherwise the one of the option: what has been set by hand, however often the option has been hidden
since, or the dynamic one. -/
theorem runtimeLibrary_chosen (hrun : Runs.run step fresh es = some cache)
    {scope : String → Option Text} (hresult : (m.run cache).result = .ok scope) :
    scope "CMAKE_MSVC_RUNTIME_LIBRARY" =
      if m.available cache then
        runtimeLibrary ((setByHand es "MSVC_RUNTIME_DYNAMIC").getD "ON".toList)
      else (m.projected cache).scope "CMAKE_MSVC_RUNTIME_LIBRARY" := by
  obtain ⟨read, r, options, hcheck, hfix, -, rfl, -⟩ := run_completed hresult
  have hprojected : (m.atRuntime cache read r).scope "CMAKE_MSVC_RUNTIME_LIBRARY" =
      (m.projected cache).scope "CMAKE_MSVC_RUNTIME_LIBRARY" := by
    rw [atRuntime_scope (by decide), atCheck_scope_eq _ (by decide)]
  rw [atEnd_scope hfix _ (by decide), atFix_runtime]
  cases havailable : m.available cache with
  | true =>
    obtain ⟨hscope, v, hv⟩ := options_available hcheck havailable
    have hvalue : (m.atRuntime cache read r).value? "MSVC_RUNTIME_DYNAMIC" = some v := by
      have hkept := (setDefaults_gives initDefaults).keeps List.not_mem_nil hv
      rw [State.value?, Machine.atRuntime, setDefaults_scope, hscope, hkept, Option.none_or]
    obtain ⟨hmsvc, hnot⟩ := Bool.and_eq_true_iff.mp havailable
    have hnone : (m.atRuntime cache read r).scope "CMAKE_MSVC_RUNTIME_LIBRARY" = none := by
      rw [Bool.not_eq_true', State.isDefined, Option.isSome_eq_false_iff,
        Option.isNone_iff_eq_none, State.value?, Option.or_eq_none_iff] at hnot
      rw [hprojected, hnot.1]
    rw [msvcRuntime_selects (atRuntime_msvc.trans hmsvc) hvalue hnone, if_pos rfl,
      options_dynamic hrun hcheck hv]
  | false =>
    have hhidden : (m.atRuntime cache read r).value? "MSVC_RUNTIME_DYNAMIC" =
        some "MSVC_RUNTIME_DYNAMIC-NOTFOUND".toList := by
      rw [State.value?, Machine.atRuntime, setDefaults_scope, options_hidden hcheck havailable,
        Option.some_or]
    rw [msvcRuntime_keeps fun _ => hhidden, hprojected, if_neg Bool.false_ne_true]

/-- The static runtime, for which another choice is in the way in one configure step. -/
def selections : List Event := [.edit "MSVC_RUNTIME_DYNAMIC" (some "OFF".toList),
  .edit "CMAKE_MSVC_RUNTIME_LIBRARY" (some "MultiThreadedDLL".toList), .configure studio,
  .edit "CMAKE_MSVC_RUNTIME_LIBRARY" none]

theorem selections_end : ∃ cache, Runs.run step fresh selections = some cache ∧
    (studio.run cache).result.isOk = true ∧ studio.available cache = true := by
  have h : ((Runs.run step fresh selections).any fun cache =>
      (studio.run cache).result.isOk && studio.available cache) = true := by
    decide +kernel
  obtain ⟨cache, hrun, hcache⟩ := (Option.any_eq_true _ _).mp h
  rw [Bool.and_eq_true] at hcache
  exact ⟨cache, hrun, hcache⟩

theorem runtimeLibrary_chosen_static : ∃ cache scope,
    Runs.run step fresh selections = some cache ∧ (studio.run cache).result = .ok scope ∧
      scope "CMAKE_MSVC_RUNTIME_LIBRARY" =
        some "MultiThreaded$<$<CONFIG:Debug>:Debug>".toList := by
  obtain ⟨cache, hrun, hok, havailable⟩ := selections_end
  have hset : setByHand selections "MSVC_RUNTIME_DYNAMIC" = some "OFF".toList := rfl
  cases hresult : (studio.run cache).result with
  | error e =>
    rw [hresult] at hok
    cases hok
  | ok scope =>
    refine ⟨cache, scope, hrun, hresult, ?_⟩
    rw [runtimeLibrary_chosen hrun hresult, havailable, hset, Option.getD_some]
    rfl

end TinyPlay.Project

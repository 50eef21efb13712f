import TinyPlay.Proofs.Project

/-! Entries over the life of a build tree: what has been set by hand stays as it is, and where
nothing is set, there is a default or nothing. -/

namespace TinyPlay.Project

open CMake Entries

def Event.edit? : Event → Option (String × Option Text)
  | .edit name value => some (name, value)
  | .configure _ => none

def Event.defaults : Event → List (String × Text)
  | .edit _ _ => []
  | .configure m => m.defaults

def Event.owned : Event → List String
  | .edit _ _ => []
  | .configure m => m.owned

def offered (es : List Event) : List (String × Text) := es.flatMap Event.defaults

/-- What the configure steps write as they like. -/
def written (es : List Event) : List String := es.flatMap Event.owned

/-- What has been set by hand. -/
def setByHand (es : List Event) : Cache := byHand Event.edit? es

variable {es : List Event} {cache : Cache} {m : Machine}

theorem edit_eq {name : String} {value : Option Text} {cache' : Cache}
    (hstep : step cache (.edit name value) = some cache') :
    name ∉ kept ∧ cache' = Function.update cache name value := by
  simp only [step] at hstep
  split_ifs at hstep with hname
  exact ⟨hname, (Option.some.inj hstep).symm⟩

theorem run_entries (hrun : Runs.run step fresh es = some cache) :
    Gives (offered es) (written es) (setByHand es) cache := by
  refine Entries.run_gives ?_ ?_ hrun
  · intro c e c' w hstep he
    cases e with
    | edit name value =>
      obtain rfl := Option.some.inj he
      exact (edit_eq hstep).2
    | configure m => cases he
  · intro c e c' hstep he
    cases e with
    | edit name value => cases he
    | configure m =>
      obtain rfl := Option.some.inj hstep
      exact run_gives m c

/-- `project()` overwrites none of the project's own entries. -/
theorem owned_own {name : String} (hown : name ∈ own) (hname : name ∉ owned) : name ∉ m.owned := by
  rw [Machine.owned, List.mem_append, not_or]
  exact ⟨forcedNames_other (List.mem_cons_of_mem _ hown), hname⟩

theorem written_own {name : String} (hown : name ∈ own) (hname : name ∉ owned) :
    name ∉ written es := by
  intro hmem
  obtain ⟨e, -, he⟩ := List.mem_flatMap.mp hmem
  cases e with
  | edit name' value => cases he
  | configure m => exact owned_own hown hname he

/-! ### The flags of the resource compiler -/

/-- From one value of the entry to another one, the option is added at most once. -/
structure RcFlags (defaults : List (String × Text)) (flags flags' : Option Text) : Prop where
  kept : ∀ f, flags = some f → flags' = some f ∨ flags' = some (withNologo f)
  given : flags = none → ∀ f', flags' = some f' → ∃ f,
    (f = [] ∨ ("CMAKE_RC_FLAGS", f) ∈ defaults) ∧ (f' = f ∨ f' = withNologo f)

theorem withNologo_withNologo (flags : Text) :
    withNologo (withNologo flags) = withNologo flags := by
  rw [withNologo, if_pos (hasNologo_withNologo flags)]

section RcFlags

variable {defaults defaults' : List (String × Text)} {flags flags' flags'' : Option Text}

theorem RcFlags.refl (flags : Option Text) : RcFlags defaults flags flags := by
  refine ⟨fun f hf => .inl hf, fun hnone f' hf' => ?_⟩
  rw [hnone] at hf'
  cases hf'

theorem RcFlags.trans (h : RcFlags defaults flags flags') (h' : RcFlags defaults flags' flags'') :
    RcFlags defaults flags flags'' := by
  refine ⟨fun f hf => ?_, fun hnone f'' hf'' => ?_⟩
  · rcases h.kept f hf with hf' | hf'
    · exact h'.kept f hf'
    · rcases h'.kept _ hf' with hf'' | hf''
      · exact .inr hf''
      · rw [withNologo_withNologo] at hf''
        exact .inr hf''
  · cases hflags' : flags' with
    | none => exact h'.given hflags' f'' hf''
    | some f' =>
      obtain ⟨f, hf, heq⟩ := h.given hnone f' hflags'
      have hlast : f'' = f' ∨ f'' = withNologo f' := by
        rcases h'.kept f' hflags' with hf' | hf'
        · rw [hf''] at hf'
          exact .inl (Option.some.inj hf')
        · rw [hf''] at hf'
          exact .inr (Option.some.inj hf')
      refine ⟨f, hf, ?_⟩
      rcases heq with rfl | rfl
      · exact hlast
      · rw [withNologo_withNologo, or_self] at hlast
        exact .inr hlast

theorem RcFlags.mono (h : RcFlags defaults flags flags') (hsub : defaults ⊆ defaults') :
    RcFlags defaults' flags flags' := by
  refine ⟨h.kept, fun hnone f' hf' => ?_⟩
  obtain ⟨f, hf, heq⟩ := h.given hnone f' hf'
  exact ⟨f, hf.imp_right fun hmem => hsub hmem, heq⟩

theorem RcFlags.of_gives {owned : List String} {c d : Cache} (h : Gives defaults owned c d)
    (hname : "CMAKE_RC_FLAGS" ∉ owned) :
    RcFlags defaults (c "CMAKE_RC_FLAGS") (d "CMAKE_RC_FLAGS") := by
  refine ⟨fun f hf => .inl (h.keeps hname hf), fun hnone f' hf' => ?_⟩
  rcases h _ hname with heq | ⟨-, value, hvalue, heq⟩
  · rw [heq, hnone] at hf'
    cases hf'
  · rw [heq] at hf'
    obtain rfl := Option.some.inj hf'
    exact ⟨_, .inr hvalue, .inl rfl⟩

theorem RcFlags.nologo : RcFlags defaults flags (some (withNologo (flags.getD []))) := by
  refine ⟨fun f hf => .inr (by rw [hf, Option.getD_some]), fun hnone f' hf' => ?_⟩
  rw [hnone, Option.getD_none] at hf'
  exact ⟨[], .inl rfl, .inr (Option.some.inj hf').symm⟩

end RcFlags

section Step

variable {read : VersionHeader.Read}

theorem atFix_rcFlags_eq (checked : Cache) :
    (m.atFix cache read checked).cache "CMAKE_RC_FLAGS" =
      if m.toolchain.msvc then
        some (withNologo (((m.atNologo cache read checked).cache "CMAKE_RC_FLAGS").getD []))
      else (m.atNologo cache read checked).cache "CMAKE_RC_FLAGS" := by
  have hscope : (m.atNologo cache read checked).scope "CMAKE_RC_FLAGS" = none := by
    rw [atNologo_scope _ _ (by decide), atCheck_scope (by decide)]
  have hmsvc : (m.atNologo cache read checked).isTrue "MSVC" = m.toolchain.msvc := by
    refine isTrue_msvc ?_
    rw [atNologo_scope _ _ (by decide), atCheck_msvc]
  rw [atFix_eq, nologo_cache hscope, hmsvc]

theorem atFix_rcFlags (checked : Cache) :
    RcFlags m.defaults (checked "CMAKE_RC_FLAGS")
      ((m.atFix cache read checked).cache "CMAKE_RC_FLAGS") := by
  have hbefore : RcFlags m.defaults (checked "CMAKE_RC_FLAGS")
      ((m.atNologo cache read checked).cache "CMAKE_RC_FLAGS") :=
    (RcFlags.of_gives (atNologo_gives checked) (by decide)).mono (List.subset_append_right _ _)
  rw [atFix_rcFlags_eq]
  split_ifs
  · exact hbefore.trans .nologo
  · exact hbefore

/-- A configure step adds the option at most once. -/
theorem run_rcFlags (m : Machine) (cache : Cache) :
    RcFlags m.defaults (cache "CMAKE_RC_FLAGS") ((m.run cache).cache "CMAKE_RC_FLAGS") := by
  have hchecked : ∀ {read : VersionHeader.Read}, RcFlags m.defaults (cache "CMAKE_RC_FLAGS")
      ((m.atCheck cache read).cache "CMAKE_RC_FLAGS") := by
    intro read
    exact (RcFlags.of_gives atCheck_gives (forcedNames_other List.mem_cons_self)).mono
      (List.subset_append_left _ _)
  have hfixed : ∀ {read : VersionHeader.Read} {r : Returned},
      configure m.toolchain (m.atCheck cache read).cache m.qmake = .ok r →
        RcFlags m.defaults (cache "CMAKE_RC_FLAGS")
          ((m.atFix cache read r.cache).cache "CMAKE_RC_FLAGS") := by
    intro read r hcheck
    have hflags : RcFlags m.defaults (r.cache "CMAKE_RC_FLAGS")
        ((m.atFix cache read r.cache).cache "CMAKE_RC_FLAGS") := atFix_rcFlags r.cache
    rw [configure_agree hcheck _ (by decide)] at hflags
    exact hchecked.trans hflags
  cases run_stage m cache with
  | header _ _ hcache =>
    rw [hcache]
    refine (RcFlags.of_gives before_gives List.not_mem_nil).mono ?_
    rw [Machine.defaults, List.append_assoc]
    exact List.subset_append_left _ _
  | toolchain _ _ _ hcache =>
    rw [hcache]
    exact hchecked
  | @ccache read r _ _ hcheck _ _ hcache =>
    rw [hcache, Machine.fix, fixCcache_agree _ _ _ _ (by decide)]
    exact hfixed hcheck
  | @ended read r options _ hcheck _ _ hcache =>
    rw [hcache, atEnd_agree _ _ _ (by decide)]
    exact hfixed hcheck

end Step

/-! ### The life of a build tree -/

/-- All that can be said of the entries. -/
structure Ledger (es : List Event) (cache : Cache) : Prop where
  entries : Gives (offered es) (written es) (setByHand es) cache
  rcFlags : RcFlags (offered es) (setByHand es "CMAKE_RC_FLAGS") (cache "CMAKE_RC_FLAGS")
  defined : ∀ (m : Machine) scope, (m.run cache).result = .ok scope →
    ∀ d ∈ initDefaults ++ importedConfigs m.toolchain.msvc,
      ((m.run cache).cache d.1).isSome = true
  nologo : ∀ (m : Machine) scope, (m.run cache).result = .ok scope → m.toolchain.msvc = true →
    ∃ flags, (m.run cache).cache "CMAKE_RC_FLAGS" = some flags ∧ hasNologo flags = true

theorem run_offered_rcFlags (hrun : Runs.run step fresh es = some cache) :
    RcFlags (offered es) (setByHand es "CMAKE_RC_FLAGS") (cache "CMAKE_RC_FLAGS") := by
  refine Runs.invariant (P := fun es cache => RcFlags (offered es)
    (setByHand es "CMAKE_RC_FLAGS") (cache "CMAKE_RC_FLAGS")) (.refl _) ?_ hrun
  intro es c e c' hc hstep
  have hoffered : offered (es ++ [e]) = offered es ++ e.defaults := by
    rw [offered, List.flatMap_append, List.flatMap_singleton, offered]
  cases e with
  | edit name value =>
    obtain ⟨-, rfl⟩ := edit_eq hstep
    have hset : setByHand (es ++ [.edit name value]) =
        Function.update (setByHand es) name value := by
      have he : Event.edit? (.edit name value) = some (name, value) := rfl
      exact byHand_edit he es
    rw [hset, hoffered]
    by_cases hname : "CMAKE_RC_FLAGS" = name
    · subst hname
      rw [Function.update_self, Function.update_self]
      exact .refl _
    · rw [Function.update_of_ne hname, Function.update_of_ne hname]
      exact hc.mono (List.subset_append_left _ _)
  | configure m =>
    obtain rfl := Option.some.inj hstep
    have hset : setByHand (es ++ [.configure m]) = setByHand es := by
      have he : Event.edit? (.configure m) = none := rfl
      exact byHand_other he es
    rw [hset, hoffered]
    exact (hc.mono (List.subset_append_left _ _)).trans
      ((run_rcFlags m c).mono (List.subset_append_right _ _))

theorem defaults_other : ∀ msvc, ∀ d ∈ initDefaults ++ importedConfigs msvc,
    d.1 ∉ "CMAKE_RC_FLAGS" :: "TINY_BUILD_GENDIR" :: ccacheEntries := by decide

section Completed

variable {scope : String → Option Text}

/-- A step without a fatal error. -/
theorem run_completed (h : (m.run cache).result = .ok scope) :
    ∃ (read : VersionHeader.Read) (r : Returned) (options : List (String × Text)),
      configure m.toolchain (m.atCheck cache read).cache m.qmake = .ok r ∧
      (m.fix (m.atFix cache read r.cache)).result = .ok options ∧
      tinyCheckUnsupportedBuild (m.atEnd (m.atFix cache read r.cache) options) = .ok () ∧
      scope = (m.atEnd (m.atFix cache read r.cache) options).scope ∧
      (m.run cache).cache = (m.atEnd (m.atFix cache read r.cache) options).cache := by
  cases run_stage m cache with
  | header _ hresult _ =>
    rw [hresult] at h
    cases h
  | toolchain _ _ hresult _ =>
    rw [hresult] at h
    cases h
  | ccache _ _ _ hresult _ =>
    rw [hresult] at h
    cases h
  | @ended read r options _ hcheck hfix hresult hcache =>
    rw [hresult] at h
    cases hunsupported : tinyCheckUnsupportedBuild
        (m.atEnd (m.atFix cache read r.cache) options) with
    | error e =>
      rw [hunsupported] at h
      cases h
    | ok a =>
      rw [hunsupported] at h
      exact ⟨read, r, options, hcheck, hfix, hunsupported, (Except.ok.inj h).symm, hcache⟩

theorem completed_defined (h : (m.run cache).result = .ok scope) {d : String × Text}
    (hd : d ∈ initDefaults ++ importedConfigs m.toolchain.msvc) :
    ((m.run cache).cache d.1).isSome = true := by
  obtain ⟨read, r, options, -, -, -, -, hcache⟩ := run_completed h
  have hother := defaults_other _ d hd
  rw [List.mem_cons, not_or] at hother
  have hmsvc : (initOptions { m.atCheck cache read with cache := r.cache }).scope "MSVC" =
      some (if m.toolchain.msvc then "1".toList else []) := by
    rw [initOptions_scope _ (by decide)]
    exact atCheck_msvc
  rw [hcache, atEnd_agree _ _ _ hother.2, atFix_eq, nologo_agree _ (by simpa using hother.1)]
  exact beforeNologo_isSome hmsvc hd

theorem completed_nologo (h : (m.run cache).result = .ok scope) (hmsvc : m.toolchain.msvc = true) :
    ∃ flags, (m.run cache).cache "CMAKE_RC_FLAGS" = some flags ∧ hasNologo flags = true := by
  obtain ⟨read, r, options, -, -, -, -, hcache⟩ := run_completed h
  rw [hcache, atEnd_agree _ _ _ (by decide), atFix_rcFlags_eq, hmsvc, if_pos rfl]
  exact ⟨_, rfl, hasNologo_withNologo _⟩

end Completed

/-- Over whole runs, configure steps never change an entry that has been set by hand, apart from the
ones they own, and otherwise leave one of their defaults there. A step that ends well leaves none of
CMake's defaults undefined, and the flags of the resource compiler get the option only where they
lack it. -/
theorem entries_byHand (hrun : Runs.run step fresh es = some cache) : Ledger es cache :=
  ⟨run_entries hrun, run_offered_rcFlags hrun, fun _ _ h _ hd => completed_defined h hd,
    fun _ _ h hmsvc => completed_nologo h hmsvc⟩

/-- The lines of a version header that are read. -/
def versionHeader : List Char := ("#define TINYPLAY_VERSION_MAJOR 0\n" ++
  "#define TINYPLAY_VERSION_MINOR 6\n#define TINYPLAY_VERSION_BUGFIX 1\n" ++
  "#define TINYPLAY_VERSION_BUILD 0\n").toList

/-- A machine with Visual Studio and Qt 6.7. -/
def studio : Machine where
  environment := fun _ => none
  versionHeader := versionHeader
  toolchain := ⟨true, "MSVC".toList, "19.40.33811.0".toList, [], [], "qmake".toList⟩
  found := []
  entries := [("CMAKE_RC_FLAGS", "-DWIN32".toList)]
  forced := [("CMAKE_PROJECT_NAME", "TinyOrmPlayground".toList)]
  found_other := fun _ h => absurd h List.not_mem_nil
  entries_other := by decide
  forced_other := by decide
  qmake := ⟨.exited 0, "6.7.2\n".toList⟩
  policyCmp0141 := "NEW".toList
  ccache := ⟨.exited 0, "4.10.2\n".toList⟩
  isMultiConfig := false

/-- A name for debug builds, and two configure steps. -/
def postfixByHand : List Event :=
  [.edit "CMAKE_DEBUG_POSTFIX" (some "_d".toList), .configure studio, .configure studio]

theorem entries_byHand_postfix : ∃ cache, Runs.run step fresh postfixByHand = some cache ∧
    cache "CMAKE_DEBUG_POSTFIX" = some "_d".toList := by
  obtain ⟨cache, hrun⟩ : ∃ cache, Runs.run step fresh postfixByHand = some cache := ⟨_, rfl⟩
  exact ⟨cache, hrun, (entries_byHand hrun).entries.keeps (by decide) rfl⟩

end TinyPlay.Project

import TinyPlay.Lib.Run
import TinyPlay.Proofs.CcacheVersion

/-! The ccache fixes over the life of a build tree: configure steps, and entries that are set or
removed by hand between them. -/

namespace TinyPlay.Ccache

open CMake

/-! ### What a configure step changes -/

/-- The entries of the debug information fixes. -/
def flagEntries : List String := ["CMAKE_MSVC_DEBUG_INFORMATION_FORMAT", "CMAKE_CXX_FLAGS_DEBUG",
  "CMAKE_C_FLAGS_DEBUG", "CMAKE_CXX_FLAGS_RELEASE", "CMAKE_C_FLAGS_RELEASE",
  "CMAKE_CXX_FLAGS_RELWITHDEBINFO", "CMAKE_C_FLAGS_RELWITHDEBINFO"]

/-- Nothing but the flags is changed. -/
structure ChangesFlags (s s' : State) : Prop where
  scope : s'.scope = s.scope
  cache : ∀ name ∉ flagEntries, s'.cache name = s.cache name

theorem ChangesFlags.refl (s : State) : ChangesFlags s s := ⟨rfl, fun _ _ => rfl⟩

theorem ChangesFlags.trans {s s' s'' : State} (h : ChangesFlags s s') (h' : ChangesFlags s' s'') :
    ChangesFlags s s'' :=
  ⟨h'.scope.trans h.scope, fun name hname => (h'.cache name hname).trans (h.cache name hname)⟩

theorem changesFlags_setCache {s : State} {name : String} (hname : name ∈ flagEntries)
    (value : Text) : ChangesFlags s (s.setCache name value) :=
  ⟨rfl, fun _ hname' => Function.update_of_ne (ne_of_mem_of_not_mem hname hname').symm _ _⟩

theorem changesFlags_replaceZi {s : State} {option : String} (hoption : option ∈ flagEntries) :
    ChangesFlags s (tinyReplaceZiByZ7For s option) := by
  unfold tinyReplaceZiByZ7For
  split_ifs
  · exact changesFlags_setCache hoption _
  · exact .refl s

theorem changesFlags_324 (s : State) : ChangesFlags s (tinyFixCcacheMsvc324 s).1 := by
  unfold tinyFixCcacheMsvc324
  split_ifs
  · exact .refl s
  · exact (changesFlags_replaceZi (by decide)).trans (changesFlags_replaceZi (by decide))
  · exact (changesFlags_replaceZi (by decide)).trans (changesFlags_replaceZi (by decide))
  · exact (changesFlags_replaceZi (by decide)).trans (changesFlags_replaceZi (by decide))
  · exact .refl s

theorem changesFlags_325 (s : State) : ChangesFlags s (tinyFixCcacheMsvc325 s) :=
  changesFlags_setCache (by decide) _

theorem ChangesFlags.value {s s' : State} (h : ChangesFlags s s') {name : String}
    (hname : name ∉ flagEntries) : s'.value? name = s.value? name := by
  rw [State.value?, State.value?, h.scope, h.cache name hname]

/-- The state in which the debug information is fixed. -/
def withFlags (s : State) (policyCmp0141 : Text) : State :=
  if tinyIsNewMsvcDebugInformationFormat325 s policyCmp0141 then tinyFixCcacheMsvc325 s
  else (tinyFixCcacheMsvc324 s).1

theorem changesFlags_withFlags (s : State) (policyCmp0141 : Text) :
    ChangesFlags s (withFlags s policyCmp0141) := by
  unfold withFlags
  split_ifs
  · exact changesFlags_325 s
  · exact changesFlags_324 s

/-- This configure step asks for the version. -/
def ConfigureStep.asks (c : ConfigureStep) (cache : Cache) : Bool :=
  let s : State := ⟨c.scope, cache⟩
  tinyShouldFixCcacheMsvc s &&
    (tinyIsNewMsvcDebugInformationFormat325 s c.policyCmp0141 || !s.isTrue "TINY_IS_MULTI_CONFIG")

/-- The answer, and what is remembered then. A step that does not ask leaves precompiled headers
alone. -/
def ConfigureStep.probe (c : ConfigureStep) (cache : Cache) (version : Option Text) :
    Except Text Bool × Option Text :=
  if c.asks cache then Probe.ask isOld verdict version c.ccache else (.ok false, version)

def headersAfter (before : Option Text) : Except Text Bool → Option Text
  | .ok true => some "ON".toList
  | _ => before

/-- What a probe in a configure step leaves behind; `flags` is the cache after the flags have been
fixed. -/
structure Probed (o : Outcome Unit) (cache flags : Cache) (probe : Except Text Bool × Option Text) :
    Prop where
  result : o.result = probe.1.map fun _ => ()
  memory : o.cache "TINY_CCACHE_VERSION" = probe.2
  headers : o.cache "CMAKE_DISABLE_PRECOMPILE_HEADERS" =
    headersAfter (cache "CMAKE_DISABLE_PRECOMPILE_HEADERS") probe.1
  rest : ∀ name ∉ ["TINY_CCACHE_VERSION", "CMAKE_DISABLE_PRECOMPILE_HEADERS"],
    o.cache name = flags name

theorem disablePch_asks {s : State} {version : Option Text}
    (hscope : s.scope "TINY_CCACHE_VERSION" = none) (hmemory : Remembers version s.cache)
    (ccache : Process) :
    Probed (tinyDisablePrecompileHeaders s ccache) s.cache s.cache
      (Probe.ask isOld verdict version ccache) := by
  rw [tinyDisablePrecompileHeaders, shouldDisable_asks hscope hmemory, Outcome.next]
  generalize Probe.ask isOld verdict version ccache = probe
  rcases probe with ⟨_ | _ | _, version'⟩
  · refine ⟨rfl, ?_, ?_, ?_⟩
    · simp
    · simp [headersAfter]
    · simp +contextual
  · refine ⟨rfl, ?_, ?_, ?_⟩
    · simp
    · simp [headersAfter]
    · simp +contextual
  · refine ⟨rfl, ?_, ?_, ?_⟩
    · simp [State.setCache]
    · simp [State.setCache, headersAfter]
    · simp +contextual [State.setCache]

theorem Probed.of_messages {o : Outcome Unit} {cache flags : Cache}
    {probe : Except Text Bool × Option Text} (h : Probed o cache flags probe)
    (messages : List (Level × Text)) : Probed { o with messages := messages } cache flags probe :=
  ⟨h.result, h.memory, h.headers, h.rest⟩

/-- Seen from before the flags have been fixed. -/
theorem Probed.of_changesFlags {o : Outcome Unit} {s s' : State} {flags : Cache}
    {probe : Except Text Bool × Option Text} (h : Probed o s'.cache flags probe)
    (hflags : ChangesFlags s s') : Probed o s.cache flags probe := by
  refine ⟨h.result, h.memory, ?_, h.rest⟩
  rw [h.headers, hflags.cache _ (by decide)]

theorem probed_unchanged {cache : Cache} {version : Option Text}
    (hmemory : Remembers version cache) (messages : List (Level × Text)) :
    Probed ⟨.ok (), cache, messages⟩ cache cache (.ok false, version) :=
  ⟨rfl, hmemory.1, rfl, fun _ _ => rfl⟩

/-- `tiny_fix_ccache_msvc` with its guard. -/
def fixMsvc (s : State) (policyCmp0141 : Text) (ccache : Process) : Outcome Unit :=
  if tinyShouldFixCcacheMsvc s then tinyFixCcacheMsvc s policyCmp0141 ccache
  else ⟨.ok (), s.cache, []⟩

theorem fixCcacheMsvc_eq (s : State) (policyCmp0141 : Text) (ccache : Process) :
    ∃ messages, tinyFixCcacheMsvc s policyCmp0141 ccache =
      { (if tinyIsNewMsvcDebugInformationFormat325 s policyCmp0141 ||
          !(withFlags s policyCmp0141).isTrue "TINY_IS_MULTI_CONFIG" then
            tinyDisablePrecompileHeaders (withFlags s policyCmp0141) ccache
          else ⟨.ok (), (withFlags s policyCmp0141).cache, []⟩ : Outcome Unit) with
        messages := messages } := by
  unfold tinyFixCcacheMsvc withFlags
  cases tinyIsNewMsvcDebugInformationFormat325 s policyCmp0141 with
  | true => exact ⟨_, rfl⟩
  | false => exact ⟨_, rfl⟩

/-- The cache after the flags have been fixed. -/
def ConfigureStep.flags (c : ConfigureStep) (cache : Cache) : Cache :=
  if tinyShouldFixCcacheMsvc ⟨c.scope, cache⟩ then
    (withFlags ⟨c.scope, cache⟩ c.policyCmp0141).cache
  else cache

theorem fixMsvc_probed (c : ConfigureStep) {cache : Cache} {version : Option Text}
    (hmemory : Remembers version cache) :
    Probed (fixMsvc ⟨c.scope, cache⟩ c.policyCmp0141 c.ccache) cache (c.flags cache)
      (c.probe cache version) := by
  have hflags := changesFlags_withFlags ⟨c.scope, cache⟩ c.policyCmp0141
  have hmulti : (withFlags ⟨c.scope, cache⟩ c.policyCmp0141).isTrue "TINY_IS_MULTI_CONFIG" =
      State.isTrue ⟨c.scope, cache⟩ "TINY_IS_MULTI_CONFIG" := by
    rw [State.isTrue, State.isTrue, hflags.value (by decide)]
  have hversion := hflags.cache "TINY_CCACHE_VERSION" (by decide)
  have hmemory' : Remembers version (withFlags ⟨c.scope, cache⟩ c.policyCmp0141).cache :=
    ⟨hversion.trans hmemory.1, hmemory.2⟩
  have hscope : (withFlags ⟨c.scope, cache⟩ c.policyCmp0141).scope "TINY_CCACHE_VERSION" = none :=
    (congrFun hflags.scope _).trans (c.hides _ (by decide))
  obtain ⟨messages, heq⟩ := fixCcacheMsvc_eq ⟨c.scope, cache⟩ c.policyCmp0141 c.ccache
  rw [fixMsvc, ConfigureStep.probe, ConfigureStep.asks, ConfigureStep.flags, heq, hmulti]
  cases tinyShouldFixCcacheMsvc ⟨c.scope, cache⟩ with
  | false => exact probed_unchanged hmemory []
  | true =>
    simp only [Bool.true_and, if_true]
    split_ifs
    · exact ((disablePch_asks hscope hmemory' c.ccache).of_messages _).of_changesFlags hflags
    · exact (probed_unchanged hmemory' _).of_changesFlags hflags

/-- The memory of a configure step, and the mark that only a completed one leaves. -/
structure Ran (c : ConfigureStep) (cache : Cache) (version : Option Text) : Prop where
  result : (c.run cache).result = (c.probe cache version).1.map fun _ => ()
  memory : (c.run cache).cache "TINY_CCACHE_VERSION" = (c.probe cache version).2
  headers : (c.run cache).cache "CMAKE_DISABLE_PRECOMPILE_HEADERS" =
    headersAfter (cache "CMAKE_DISABLE_PRECOMPILE_HEADERS") (c.probe cache version).1
  multiConfig : ∀ disable, (c.probe cache version).1 = .ok disable →
    (c.run cache).cache "TINY_IS_MULTI_CONFIG" = some (if c.isMultiConfig then ['1'] else ['0'])
  rest : ∀ name ∉ ["TINY_CCACHE_VERSION", "TINY_IS_MULTI_CONFIG",
    "CMAKE_DISABLE_PRECOMPILE_HEADERS"], (c.run cache).cache name = c.flags cache name

/-- The Clang part of `tiny_fix_ccache`, which leaves the cache alone. -/
def fixClang (s : State) : Outcome (List (String × Text)) :=
  if tinyShouldFixCcacheClang s then
    ⟨.ok [("CMAKE_CXX_COMPILE_OPTIONS_CREATE_PCH",
      listAppend (s.reference "CMAKE_CXX_COMPILE_OPTIONS_CREATE_PCH")
        ["-Xclang".toList, "-fno-pch-timestamp".toList])], s.cache, []⟩
  else ⟨.ok [], s.cache, []⟩

theorem fixCcache_of_ok {s : State} {policyCmp0141 : Text} {ccache : Process}
    (h : (fixMsvc s policyCmp0141 ccache).result = .ok ()) :
    (∃ options, (tinyFixCcache s policyCmp0141 ccache).result = .ok options) ∧
      (tinyFixCcache s policyCmp0141 ccache).cache = (fixMsvc s policyCmp0141 ccache).cache := by
  have hnext : tinyFixCcache s policyCmp0141 ccache =
      (fixMsvc s policyCmp0141 ccache).next s fun _ s => fixClang s := rfl
  rw [hnext, (Outcome.next_of_ok h).1, (Outcome.next_of_ok h).2, fixClang]
  split_ifs
  · exact ⟨⟨_, rfl⟩, rfl⟩
  · exact ⟨⟨_, rfl⟩, rfl⟩

theorem fixCcache_of_error {s : State} {policyCmp0141 : Text} {ccache : Process} {e : Text}
    (h : (fixMsvc s policyCmp0141 ccache).result = .error e) :
    (tinyFixCcache s policyCmp0141 ccache).result = .error e ∧
      (tinyFixCcache s policyCmp0141 ccache).cache = (fixMsvc s policyCmp0141 ccache).cache :=
  Outcome.next_of_error h

/-- One spec for all configure steps. -/
theorem run_ran (c : ConfigureStep) {cache : Cache} {version : Option Text}
    (hmemory : Remembers version cache) : Ran c cache version := by
  have hprobed := fixMsvc_probed c hmemory
  cases hfixed : (fixMsvc ⟨c.scope, cache⟩ c.policyCmp0141 c.ccache).result with
  | error e =>
    obtain ⟨hresult, hcache⟩ := fixCcache_of_error hfixed
    obtain ⟨hrun, hrunCache⟩ : (c.run cache).result = .error e ∧ (c.run cache).cache = _ :=
      Outcome.next_of_error hresult
    have herror := hfixed.symm.trans hprobed.result
    refine ⟨hrun.trans herror, ?_, ?_, ?_, ?_⟩
    · rw [hrunCache, hcache, hprobed.memory]
    · rw [hrunCache, hcache, hprobed.headers]
    · intro disable hok
      rw [hok] at herror
      cases herror
    · intro name hname
      simp only [List.mem_cons, not_or] at hname
      rw [hrunCache, hcache, hprobed.rest]
      simp only [List.mem_cons, not_or]
      exact ⟨hname.1, hname.2.2⟩
  | ok a =>
    obtain ⟨⟨options, hresult⟩, hcache⟩ := fixCcache_of_ok hfixed
    obtain ⟨hrun, hrunCache⟩ : (c.run cache).result = .ok () ∧ (c.run cache).cache =
        Function.update ((State.mk c.scope _).setAll options).cache "TINY_IS_MULTI_CONFIG" _ :=
      Outcome.next_of_ok hresult
    rw [setAll_cache] at hrunCache
    dsimp only at hrunCache
    rw [hcache] at hrunCache
    refine ⟨hrun.trans (hfixed.symm.trans hprobed.result), ?_, ?_, ?_, ?_⟩
    · rw [hrunCache, Function.update_of_ne (by decide), hprobed.memory]
    · rw [hrunCache, Function.update_of_ne (by decide), hprobed.headers]
    · intro disable _
      rw [hrunCache, Function.update_self]
      split_ifs
      · rfl
      · rfl
    · intro name hname
      simp only [List.mem_cons, not_or] at hname
      rw [hrunCache, Function.update_of_ne hname.2.1, hprobed.rest]
      simp only [List.mem_cons, not_or]
      exact ⟨hname.1, hname.2.2⟩

/-! ### The life of a build tree -/

/-- The ccache that a configure step asks. -/
def askedBy (cache : Cache) : Event → Option Process
  | .edit _ _ => none
  | .configure c => if c.asks cache then some c.ccache else none

def asked (es : List Event) : List Process := Runs.seen step askedBy fresh es

/-- The first definite result. -/
def remembered (es : List Event) : Option Text := Probe.first verdict (asked es)

variable {es : List Event} {cache : Cache}

theorem asked_snoc (hrun : Runs.run step fresh es = some cache) (e : Event) :
    asked (es ++ [e]) = asked es ++ (askedBy cache e).toList := Runs.seen_snoc hrun e

theorem remembered_edit (hrun : Runs.run step fresh es = some cache) (name : String)
    (value : Option Text) : remembered (es ++ [.edit name value]) = remembered es := by
  rw [remembered, asked_snoc hrun, askedBy, Option.toList_none, List.append_nil, remembered]

theorem remembered_configure (hrun : Runs.run step fresh es = some cache) (c : ConfigureStep) :
    remembered (es ++ [.configure c]) = (c.probe cache (remembered es)).2 := by
  rw [remembered, asked_snoc hrun, askedBy, ConfigureStep.probe]
  split_ifs
  · exact (Probe.first_snoc _ _).trans (Probe.ask_snd _ _).symm
  · rw [Option.toList_none, List.append_nil, remembered]

theorem remembered_ne_nil (es : List Event) : remembered es ≠ some [] := by
  intro h
  obtain ⟨ccache, -, hknown⟩ := Probe.exists_of_first h
  exact verdict_ne_nil hknown rfl

/-- A step that is not by hand, or by hand but for other entries. -/
theorem edit_eq {name : String} {value : Option Text} {cache' : Cache}
    (hstep : step cache (.edit name value) = some cache') :
    name ∉ kept ∧ cache' = Function.update cache name value := by
  simp only [step] at hstep
  split_ifs at hstep with hname
  exact ⟨hname, (Option.some.inj hstep).symm⟩

theorem run_remembers (hrun : Runs.run step fresh es = some cache) :
    Remembers (remembered es) cache := by
  refine ⟨?_, remembered_ne_nil es⟩
  refine Runs.invariant_of_forall (P := fun es cache => cache "TINY_CCACHE_VERSION" = remembered es)
    (K := fun _ => True) rfl ?_ (fun _ _ => trivial) hrun
  intro es cache e cache' hrun hcache _ hstep
  cases e with
  | edit name value =>
    obtain ⟨hname, rfl⟩ := edit_eq hstep
    have hne : "TINY_CCACHE_VERSION" ≠ name := by
      rintro rfl
      exact hname (by decide)
    rw [Function.update_of_ne hne, remembered_edit hrun, hcache]
  | configure c =>
    obtain rfl := Option.some.inj hstep
    rw [remembered_configure hrun, (run_ran c ⟨hcache, remembered_ne_nil es⟩).memory]

/-- From the first definite result on. -/
theorem remembered_append {version : Text} (hversion : remembered es = some version)
    (hrun : Runs.run step fresh es = some cache) {es' : List Event} {cache' : Cache}
    (hrun' : Runs.run step cache es' = some cache') :
    Runs.run step fresh (es ++ es') = some cache' ∧ remembered (es ++ es') = some version := by
  refine Runs.invariant (P := fun es' cache' => Runs.run step fresh (es ++ es') = some cache' ∧
    remembered (es ++ es') = some version) ?_ ?_ hrun'
  · rw [List.append_nil]
    exact ⟨hrun, hversion⟩
  · rintro es' cache' e cache'' ⟨hrun', hversion'⟩ hstep
    rw [← List.append_assoc]
    refine ⟨Runs.run_snoc_eq_some.mpr ⟨cache', hrun', hstep⟩, ?_⟩
    rw [remembered, asked_snoc hrun']
    exact Probe.first_append_of_some hversion' _

/-- The version is what the first definite run of ccache has said, all configure steps answer by
it, and from then on nothing that the installed ccache says matters. -/
structure Settled (es : List Event) (cache : Cache) : Prop where
  version : cache "TINY_CCACHE_VERSION" = remembered es
  ran : ∀ c : ConfigureStep, Ran c cache (remembered es)
  forever : ∀ version, remembered es = some version → ∀ es' cache',
    Runs.run step cache es' = some cache' →
      cache' "TINY_CCACHE_VERSION" = some version ∧
      ∀ c : ConfigureStep, (c.run cache').result = .ok () ∧
        (c.run cache').cache "CMAKE_DISABLE_PRECOMPILE_HEADERS" =
          if c.asks cache' && isOld version then some "ON".toList
          else cache' "CMAKE_DISABLE_PRECOMPILE_HEADERS"

theorem ccache_settled (hrun : Runs.run step fresh es = some cache) : Settled es cache := by
  refine ⟨(run_remembers hrun).1, fun c => run_ran c (run_remembers hrun), ?_⟩
  intro version hversion es' cache' hrun'
  obtain ⟨hrun', hversion'⟩ := remembered_append hversion hrun hrun'
  have hmemory := run_remembers hrun'
  rw [hversion'] at hmemory
  refine ⟨hmemory.1, fun c => ?_⟩
  have hran := run_ran c hmemory
  have hprobe : (c.probe cache' (some version)).1 = .ok (c.asks cache' && isOld version) := by
    rw [ConfigureStep.probe]
    split_ifs with hasks
    · rw [hasks]
      rfl
    · rw [Bool.not_eq_true] at hasks
      rw [hasks]
      rfl
  rw [hran.result, hran.headers, hprobe]
  refine ⟨rfl, ?_⟩
  cases c.asks cache' && isOld version with
  | true => rfl
  | false => rfl

/-- Before the first definite result, a configure step that asks decides by what ccache says. -/
theorem unsettled_decides (hrun : Runs.run step fresh es = some cache)
    (hnothing : remembered es = none) {c : ConfigureStep} (hasks : c.asks cache = true) :
    ((∃ e, (c.run cache).result = .error e) ↔
      Succeeds c.ccache ∧ ¬IsGitRef c.ccache.stripped ∧ ¬IsCcacheVersion c.ccache.stripped) ∧
    (Disables c.ccache →
      (c.run cache).cache "CMAKE_DISABLE_PRECOMPILE_HEADERS" = some "ON".toList) ∧
    (¬Disables c.ccache → (c.run cache).cache "CMAKE_DISABLE_PRECOMPILE_HEADERS" =
      cache "CMAKE_DISABLE_PRECOMPILE_HEADERS") := by
  have hran := run_ran c (run_remembers hrun)
  have hprobe : (c.probe cache (remembered es)).1 = (verdict c.ccache).answer isOld := by
    rw [ConfigureStep.probe, hasks, hnothing]
    rfl
  rw [hran.result, hran.headers, hprobe, ← fails_iff, disables_iff, fails_iff_answer]
  cases (verdict c.ccache).answer isOld with
  | error e => simp [Except.map, headersAfter]
  | ok disable =>
    cases disable with
    | true => simp [Except.map, headersAfter]
    | false => simp [Except.map, headersAfter]

/-- A machine with the Visual Studio compiler and CMake 3.29. -/
def msvcScope (name : String) : Option Text :=
  ([("WIN32", "1"), ("MSVC", "1"), ("CMAKE_HOST_WIN32", "1"), ("CMAKE_VERSION", "3.29.0"),
    ("CMAKE_CXX_COMPILER_ID", "MSVC"), ("CMAKE_CXX_COMPILER_LAUNCHER", "C:/bin/ccache.exe")].lookup
      name).map String.toList

def msvc (ccache : Process) : ConfigureStep where
  scope := msvcScope
  hides := by decide
  policyCmp0141 := "NEW".toList
  ccache := ccache
  isMultiConfig := false

theorem unsettled_decides_old :
    ((msvc ⟨.exited 0, "4.9.1\n".toList⟩).run fresh).cache "CMAKE_DISABLE_PRECOMPILE_HEADERS" =
      some "ON".toList := by
  have hrun : Runs.run step fresh [] = some fresh := rfl
  exact (unsettled_decides hrun rfl (by decide)).2.1 ((disables_iff _).mpr rfl)

/-- A ccache that does not know the option is replaced by a new one. -/
theorem ccache_settled_upgraded :
    ∃ cache, Runs.run step fresh [.configure (msvc ⟨.exited 1, []⟩)] = some cache ∧
      (∀ es' cache', Runs.run step cache es' = some cache' →
        cache' "TINY_CCACHE_VERSION" = some ['0']) ∧
      ((msvc ⟨.exited 0, "4.10.2\n".toList⟩).run cache).cache "CMAKE_DISABLE_PRECOMPILE_HEADERS" =
        some "ON".toList := by
  have hremembered : remembered [.configure (msvc ⟨.exited 1, []⟩)] = some ['0'] := by decide
  refine ⟨_, rfl, ?_, ?_⟩
  · exact fun es' cache' hrun' => ((ccache_settled rfl).forever _ hremembered es' cache' hrun').1
  · rw [(((ccache_settled rfl).forever _ hremembered [] _ rfl).2 _).2]
    decide

/-! ### Generators with several configurations -/

/-- CMake before 3.25, or without the policy: the flags are to be rewritten. -/
def ConfigureStep.OldFormat (c : ConfigureStep) : Prop :=
  ∀ cache, tinyIsNewMsvcDebugInformationFormat325 ⟨c.scope, cache⟩ c.policyCmp0141 = false

theorem asks_oldFormat {c : ConfigureStep} (hold : c.OldFormat) (hasks : c.asks cache = true) :
    cache "TINY_IS_MULTI_CONFIG" ≠ some ['1'] := by
  intro hmulti
  have hscope := c.hides "TINY_IS_MULTI_CONFIG" (by decide)
  have hvalue : State.value? ⟨c.scope, cache⟩ "TINY_IS_MULTI_CONFIG" = some ['1'] := by
    simp only [State.value?, hscope, hmulti, Option.none_or]
  have htrue : State.isTrue ⟨c.scope, cache⟩ "TINY_IS_MULTI_CONFIG" = true := by
    rw [State.isTrue, hvalue]
    decide
  rw [ConfigureStep.asks, hold cache, htrue] at hasks
  simp at hasks

/-- The mark is there as soon as a run of ccache has not ended its configure step. -/
structure Marked (es : List Event) (cache : Cache) : Prop where
  mark : (∃ ccache ∈ asked es, ¬Fails ccache) → cache "TINY_IS_MULTI_CONFIG" = some ['1']
  once : ∀ ccache ∈ (asked es).dropLast, Fails ccache

theorem known_of_fails {ccache : Process} (h : Fails ccache) : (verdict ccache).known? = none := by
  obtain ⟨e, h⟩ := h
  rw [h]
  rfl

theorem remembered_of_fails (h : ∀ ccache ∈ asked es, Fails ccache) : remembered es = none := by
  cases hremembered : remembered es with
  | none => rfl
  | some version =>
    obtain ⟨ccache, hmem, hknown⟩ := Probe.exists_of_first hremembered
    rw [known_of_fails (h ccache hmem)] at hknown
    cases hknown

theorem answer_of_not_fails {ccache : Process} (h : ¬Fails ccache) :
    ∃ disable, (verdict ccache).answer isOld = .ok disable := by
  cases hanswer : (verdict ccache).answer isOld with
  | ok disable => exact ⟨disable, rfl⟩
  | error e => exact absurd ((fails_iff_answer ccache).mpr ⟨e, hanswer⟩) h

theorem Marked.configure {c : ConfigureStep} (h : Marked es cache)
    (hrun : Runs.run step fresh es = some cache) (hold : c.OldFormat)
    (hmulti : c.isMultiConfig = true) :
    Marked (es ++ [.configure c]) (c.run cache).cache := by
  have hran := run_ran c (run_remembers hrun)
  have hmark : ∀ disable, (c.probe cache (remembered es)).1 = .ok disable →
      (c.run cache).cache "TINY_IS_MULTI_CONFIG" = some ['1'] := by
    intro disable hdisable
    rw [hran.multiConfig disable hdisable, hmulti, if_pos rfl]
  cases hasks : c.asks cache with
  | false =>
    have hasked : asked (es ++ [.configure c]) = asked es := by
      rw [asked_snoc hrun, askedBy, hasks]
      exact List.append_nil _
    refine ⟨fun _ => hmark false ?_, ?_⟩
    · rw [ConfigureStep.probe, hasks]
      rfl
    · rw [hasked]
      exact h.once
  | true =>
    -- without the mark, no ccache has been asked successfully
    have hfails : ∀ ccache ∈ asked es, Fails ccache := by
      intro ccache hccache
      by_contra hnot
      exact asks_oldFormat hold hasks (h.mark ⟨ccache, hccache, hnot⟩)
    have hasked : asked (es ++ [.configure c]) = asked es ++ [c.ccache] := by
      rw [asked_snoc hrun, askedBy, hasks]
      rfl
    refine ⟨?_, ?_⟩
    · rintro ⟨ccache, hccache, hnot⟩
      rw [hasked, List.mem_append, List.mem_singleton] at hccache
      rcases hccache with hccache | rfl
      · exact absurd (hfails ccache hccache) hnot
      · obtain ⟨disable, hdisable⟩ := answer_of_not_fails hnot
        refine hmark disable ?_
        rw [ConfigureStep.probe, hasks, remembered_of_fails hfails]
        exact hdisable
    · rw [hasked, List.dropLast_concat]
      exact hfails

theorem Marked.edit {name : String} {value : Option Text} (h : Marked es cache)
    (hrun : Runs.run step fresh es = some cache) (hname : name ∉ kept) :
    Marked (es ++ [.edit name value]) (Function.update cache name value) := by
  have hasked : asked (es ++ [.edit name value]) = asked es := by
    rw [asked_snoc hrun, askedBy]
    exact List.append_nil _
  have hne : "TINY_IS_MULTI_CONFIG" ≠ name := by
    rintro rfl
    exact hname (by decide)
  refine ⟨?_, ?_⟩
  · rw [hasked, Function.update_of_ne hne]
    exact h.mark
  · rw [hasked]
    exact h.once

theorem run_marked (hrun : Runs.run step fresh es = some cache)
    (hsteps : ∀ c, .configure c ∈ es → c.OldFormat ∧ c.isMultiConfig = true) :
    Marked es cache := by
  refine Runs.invariant_of_forall (P := Marked)
    (K := fun e => ∀ c, e = .configure c → c.OldFormat ∧ c.isMultiConfig = true)
    ⟨?_, ?_⟩ ?_ (fun e he c hc => hsteps c (hc ▸ he)) hrun
  · rintro ⟨ccache, hccache, -⟩
    cases hccache
  · intro ccache hccache
    cases hccache
  · intro es cache e cache' hrun hmarked hkind hstep
    cases e with
    | edit name value =>
      obtain ⟨hname, rfl⟩ := edit_eq hstep
      exact hmarked.edit hrun hname
    | configure c =>
      obtain rfl := Option.some.inj hstep
      exact hmarked.configure hrun (hkind c rfl).1 (hkind c rfl).2

/-- In a build tree for several configurations, before CMake 3.25, ccache is asked until it does
not end the configure step. This step decides about precompiled headers, and none after it does. -/
theorem multiConfig_asked_once (hrun : Runs.run step fresh es = some cache)
    (hsteps : ∀ c, .configure c ∈ es → c.OldFormat ∧ c.isMultiConfig = true) :
    (∀ ccache ∈ (asked es).dropLast, Fails ccache) ∧
      ((∃ ccache ∈ asked es, ¬Fails ccache) → ∀ c : ConfigureStep, c.OldFormat →
        c.asks cache = false ∧ (c.run cache).cache "CMAKE_DISABLE_PRECOMPILE_HEADERS" =
          cache "CMAKE_DISABLE_PRECOMPILE_HEADERS") := by
  have hmarked := run_marked hrun hsteps
  refine ⟨hmarked.once, fun hasked c hold => ?_⟩
  have hasks : c.asks cache = false := by
    rw [← Bool.not_eq_true]
    exact fun hasks => asks_oldFormat hold hasks (hmarked.mark hasked)
  refine ⟨hasks, ?_⟩
  rw [(run_ran c (run_remembers hrun)).headers, ConfigureStep.probe, hasks]
  rfl

/-- A Visual Studio generator with CMake 3.24. -/
def visualStudio (ccache : Process) : ConfigureStep where
  scope := Function.update msvcScope "CMAKE_VERSION" (some "3.24.4".toList)
  hides := by decide
  policyCmp0141 := []
  ccache := ccache
  isMultiConfig := true

theorem visualStudio_oldFormat (ccache : Process) : (visualStudio ccache).OldFormat := by
  intro cache
  have hversion : State.versionAtLeast ⟨(visualStudio ccache).scope, cache⟩ "CMAKE_VERSION" "3.25" =
      false := rfl
  rw [tinyIsNewMsvcDebugInformationFormat325, hversion]
  rfl

theorem multiConfig_asked_once_visualStudio :
    ∃ cache, Runs.run step fresh [.configure (visualStudio ⟨.exited 1, []⟩)] = some cache ∧
      cache "CMAKE_DISABLE_PRECOMPILE_HEADERS" = some "ON".toList ∧
      ∀ ccache, (visualStudio ccache).asks cache = false := by
  obtain ⟨cache, hrun⟩ : ∃ cache,
      Runs.run step fresh [.configure (visualStudio ⟨.exited 1, []⟩)] = some cache := ⟨_, rfl⟩
  have hheaders : cache "CMAKE_DISABLE_PRECOMPILE_HEADERS" = some "ON".toList := by
    obtain rfl := Option.some.inj hrun
    decide
  refine ⟨cache, hrun, hheaders, fun ccache => ?_⟩
  refine ((multiConfig_asked_once hrun ?_).2 ?_ _ (visualStudio_oldFormat ccache)).1
  · intro c hc
    obtain rfl := Event.configure.inj (List.mem_singleton.mp hc)
    exact ⟨visualStudio_oldFormat _, rfl⟩
  · have hasked : asked [.configure (visualStudio ⟨.exited 1, []⟩)] = [⟨.exited 1, []⟩] := rfl
    rw [hasked]
    refine ⟨_, List.mem_singleton_self _, ?_⟩
    rintro ⟨e, he⟩
    cases he

end TinyPlay.Ccache

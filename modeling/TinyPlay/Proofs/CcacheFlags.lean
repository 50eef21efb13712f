import TinyPlay.Proofs.Ccache

/-! The compiler flags that ccache does not support: where CMake has no setting for the debug
information, they are rewritten in the cache. -/

namespace TinyPlay.Ccache

open CMake

/-- The switches of debug information that ccache does not support. -/
def switches : List Text :=
  [['/', 'Z', 'i'], ['/', 'Z', 'I'], ['-', 'Z', 'i'], ['-', 'Z', 'I']]

theorem isZi_iff (a b c : Char) : isZi a b c = true ↔ [a, b, c] ∈ switches := by
  simp only [isZi, switches, Bool.and_eq_true, Bool.or_eq_true, beq_iff_eq, List.mem_cons,
    List.not_mem_nil, or_false, List.cons.injEq, and_true]
  tauto

theorem length_of_mem_switches : ∀ w ∈ switches, w.length = 3 := by decide

theorem containsZi_iff (t : Text) : containsZi t = true ↔ ∃ w ∈ switches, w <:+: t := by
  fun_induction containsZi t with
  | case1 a b c s ih =>
    rw [Bool.or_eq_true, ih, isZi_iff]
    constructor
    · rintro (h | ⟨w, hw, hinfix⟩)
      · exact ⟨_, h, [], s, rfl⟩
      · exact ⟨w, hw, List.infix_cons hinfix⟩
    · rintro ⟨w, hw, hinfix⟩
      rcases List.infix_cons_iff.mp hinfix with hprefix | hinfix
      · left
        have htake := List.prefix_iff_eq_take.mp hprefix
        rw [length_of_mem_switches w hw] at htake
        rwa [htake] at hw
      · exact .inr ⟨w, hw, hinfix⟩
  | case2 t hshort =>
    refine ⟨fun h => (nomatch h), fun ⟨w, hw, hinfix⟩ => ?_⟩
    have hlength := hinfix.length_le
    rw [length_of_mem_switches w hw] at hlength
    obtain _ | ⟨a, _ | ⟨b, _ | ⟨c, s⟩⟩⟩ := t
    · simp at hlength
    · simp at hlength
    · simp at hlength
    · exact absurd rfl (hshort a b c s)

theorem replaceZi_of_not_contains {t : Text} (h : containsZi t = false) : replaceZi t = t := by
  fun_induction replaceZi t with
  | case1 a b c s hzi ih => simp [containsZi, hzi] at h
  | case2 a b c s hzi ih =>
    simp only [containsZi, Bool.or_eq_false_iff] at h
    rw [ih h.2]
  | case3 => rfl

theorem containsZi_cons {a : Char} (ha : a ≠ '/') (ha' : a ≠ '-') (t : Text) :
    containsZi (a :: t) = containsZi t := by
  match t with
  | [] => rfl
  | [_] => rfl
  | b :: c :: s => simp [containsZi, isZi, ha, ha']

/-- The first symbol stays, or it is the first one of the new switch. -/
theorem replaceZi_cons (c : Char) (s : Text) :
    ∃ d u, replaceZi (c :: s) = d :: u ∧ (d = c ∨ d = '/') := by
  match s with
  | [] => exact ⟨c, [], rfl, .inl rfl⟩
  | [d] => exact ⟨c, [d], rfl, .inl rfl⟩
  | d :: e :: s =>
    rw [replaceZi]
    split_ifs
    · exact ⟨_, _, rfl, .inr rfl⟩
    · exact ⟨_, _, rfl, .inl rfl⟩

/-- No switch begins at a symbol that has been kept. -/
theorem containsZi_cons_replaceZi {a b : Char} {s : Text}
    (h : ∀ c s', s = c :: s' → isZi a b c = false) :
    containsZi (a :: replaceZi (b :: s)) = containsZi (replaceZi (b :: s)) := by
  have hslash : ∀ c, isZi a '/' c = false := fun c => by simp [isZi]
  have hthird : isZi a b '/' = false := by simp [isZi]
  match s with
  | [] => rfl
  | [c] => simp [replaceZi, containsZi, h c [] rfl]
  | c :: d :: s =>
    rw [replaceZi]
    split_ifs
    · rw [containsZi, hslash, Bool.false_or]
    · obtain ⟨e, u, heq, rfl | rfl⟩ := replaceZi_cons c (d :: s)
      · rw [heq, containsZi, h e (d :: s) rfl, Bool.false_or]
      · rw [heq, containsZi, hthird, Bool.false_or]

/-- Nothing that is replaced comes back. -/
theorem not_containsZi_replaceZi (t : Text) : containsZi (replaceZi t) = false := by
  fun_induction replaceZi t with
  | case1 a b c s hzi ih =>
    have hsecond : containsZi ('/' :: 'Z' :: '7' :: replaceZi s) =
        containsZi ('Z' :: '7' :: replaceZi s) := rfl
    rw [hsecond, containsZi_cons (by decide) (by decide), containsZi_cons (by decide) (by decide),
      ih]
  | case2 a b c s hzi ih =>
    rw [containsZi_cons_replaceZi, ih]
    rintro _ _ ⟨⟩
    exact Bool.not_eq_true _ ▸ hzi
  | case3 t hshort =>
    obtain _ | ⟨a, _ | ⟨b, _ | ⟨c, s⟩⟩⟩ := t
    · rfl
    · rfl
    · rfl
    · exact absurd rfl (hshort a b c s)

/-- A text without the switches is left alone, so rewriting again changes nothing. -/
theorem replaceZi_replaceZi (t : Text) : replaceZi (replaceZi t) = replaceZi t :=
  replaceZi_of_not_contains (not_containsZi_replaceZi t)

/-! ### The entries -/

/-- The flags of a build type. -/
def flagsOf (buildType : Text) : List String :=
  if buildType = "debug".toList then ["CMAKE_CXX_FLAGS_DEBUG", "CMAKE_C_FLAGS_DEBUG"]
  else if buildType = "release".toList then ["CMAKE_CXX_FLAGS_RELEASE", "CMAKE_C_FLAGS_RELEASE"]
  else if buildType = "relwithdebinfo".toList then
    ["CMAKE_CXX_FLAGS_RELWITHDEBINFO", "CMAKE_C_FLAGS_RELWITHDEBINFO"]
  else []

/-- An entry that no variable hides. -/
theorem replaceZi_cache {s : State} {option : String} (hscope : s.scope option = none) :
    (tinyReplaceZiByZ7For s option).cache =
      Function.update s.cache option ((s.cache option).map replaceZi) := by
  have hvalue : s.value? option = s.cache option := by
    rw [State.value?, hscope, Option.none_or]
  rw [tinyReplaceZiByZ7For, State.isDefined, State.reference, hvalue]
  cases hcache : s.cache option with
  | none =>
    have hsame : Function.update s.cache option none = s.cache := by
      rw [← hcache, Function.update_eq_self]
    rw [Option.map_none, hsame]
    rfl
  | some flags =>
    rw [Option.isSome_some, Bool.true_and, Option.getD_some, Option.map_some]
    split_ifs with hcontains
    · rfl
    · rw [Bool.not_eq_true] at hcontains
      rw [replaceZi_of_not_contains hcontains, ← hcache, Function.update_eq_self]

theorem replaceZi_scope (s : State) (option : String) :
    (tinyReplaceZiByZ7For s option).scope = s.scope := by
  unfold tinyReplaceZiByZ7For
  split_ifs
  · rfl
  · rfl

/-- Two different options after each other. -/
theorem replaceZi_both {s : State} {first second : String}
    (hscope : ∀ option ∈ [first, second], s.scope option = none) (hne : first ≠ second)
    (name : String) :
    (tinyReplaceZiByZ7For (tinyReplaceZiByZ7For s first) second).cache name =
      if name ∈ [first, second] then (s.cache name).map replaceZi else s.cache name := by
  have hfirst := hscope first List.mem_cons_self
  have hsecond := hscope second (List.mem_cons_of_mem _ List.mem_cons_self)
  rw [replaceZi_cache ((congrFun (replaceZi_scope s first) second).trans hsecond),
    replaceZi_cache hfirst, Function.update_of_ne hne.symm]
  simp only [List.mem_cons, List.not_mem_nil, or_false]
  by_cases hname : name = second
  · rw [hname, Function.update_self, if_pos (.inr rfl)]
  · rw [Function.update_of_ne hname]
    by_cases hname' : name = first
    · rw [hname', Function.update_self, if_pos (.inl rfl)]
    · rw [Function.update_of_ne hname', if_neg (by tauto)]

/-- The entries that a state lets be rewritten. Without a build type the text of its name is
compared, which is none. -/
def rewritten (s : State) : List String :=
  if s.isTrue "TINY_IS_MULTI_CONFIG" then [] else flagsOf (s.operand "TINY_BUILD_TYPE_LOWER")

theorem flags_324 {s : State} (hscope : ∀ option ∈ rewritten s, s.scope option = none)
    (name : String) :
    (tinyFixCcacheMsvc324 s).1.cache name =
      if name ∈ rewritten s then (s.cache name).map replaceZi else s.cache name := by
  rw [rewritten] at hscope ⊢
  rw [tinyFixCcacheMsvc324]
  cases hmulti : s.isTrue "TINY_IS_MULTI_CONFIG" with
  | true => rfl
  | false =>
    simp only [hmulti, State.strequal, Bool.false_or, Bool.false_eq_true, if_false,
      decide_eq_true_eq] at hscope ⊢
    generalize s.operand "TINY_BUILD_TYPE_LOWER" = buildType at hscope ⊢
    by_cases hempty : buildType = "".toList
    · subst hempty
      rfl
    rw [if_neg hempty]
    by_cases hdebug : buildType = "debug".toList
    · rw [flagsOf, if_pos hdebug] at hscope ⊢
      rw [if_pos hdebug]
      exact replaceZi_both hscope (by decide) name
    rw [if_neg hdebug]
    by_cases hrelease : buildType = "release".toList
    · rw [flagsOf, if_neg hdebug, if_pos hrelease] at hscope ⊢
      rw [if_pos hrelease]
      exact replaceZi_both hscope (by decide) name
    rw [if_neg hrelease]
    by_cases hrelWithDebInfo : buildType = "relwithdebinfo".toList
    · rw [flagsOf, if_neg hdebug, if_neg hrelease, if_pos hrelWithDebInfo] at hscope ⊢
      rw [if_pos hrelWithDebInfo]
      exact replaceZi_both hscope (by decide) name
    · rw [flagsOf, if_neg hdebug, if_neg hrelease, if_neg hrelWithDebInfo, if_neg hrelWithDebInfo,
        if_neg List.not_mem_nil]

/-- The entries that a configure step rewrites. -/
def ConfigureStep.rewrites (c : ConfigureStep) (cache : Cache) : List String :=
  if tinyShouldFixCcacheMsvc ⟨c.scope, cache⟩ then rewritten ⟨c.scope, cache⟩ else []

theorem flags_eq {c : ConfigureStep} {cache : Cache} (hold : c.OldFormat)
    (hscope : ∀ option ∈ c.rewrites cache, c.scope option = none) (name : String) :
    c.flags cache name =
      if name ∈ c.rewrites cache then (cache name).map replaceZi else cache name := by
  rw [ConfigureStep.rewrites] at hscope ⊢
  rw [ConfigureStep.flags, withFlags, hold cache, if_neg Bool.false_ne_true]
  cases hfix : tinyShouldFixCcacheMsvc ⟨c.scope, cache⟩ with
  | true =>
    rw [hfix, if_pos rfl] at hscope
    exact flags_324 hscope name
  | false => rfl

/-! ### Runs -/

/-- The entries of the ccache fixes that are not flags. -/
def marks : List String :=
  ["TINY_CCACHE_VERSION", "TINY_IS_MULTI_CONFIG", "CMAKE_DISABLE_PRECOMPILE_HEADERS"]

/-- What the edits alone leave. -/
def byHand (es : List Event) : Cache := es.foldl (fun cache e => match e with
  | .edit name value => Function.update cache name value
  | .configure _ => cache) fresh

variable {es : List Event} {cache : Cache}

theorem flagsOf_subset (buildType : Text) : ∀ name ∈ flagsOf buildType, name ∈ flagEntries := by
  unfold flagsOf
  split_ifs
  · decide
  · decide
  · decide
  · exact fun name hname => absurd hname List.not_mem_nil

theorem rewrites_subset (c : ConfigureStep) (cache : Cache) :
    ∀ name ∈ c.rewrites cache, name ∈ flagEntries := by
  intro name hname
  unfold ConfigureStep.rewrites rewritten at hname
  split_ifs at hname
  · cases hname
  · exact flagsOf_subset _ name hname
  · cases hname

theorem notMem_marks : ∀ name ∈ flagEntries, name ∉ marks := by decide

theorem run_rest (hrun : Runs.run step fresh es = some cache) {c : ConfigureStep}
    (hold : c.OldFormat) (hscope : ∀ option ∈ flagEntries, c.scope option = none) {name : String}
    (hname : name ∉ marks) : (c.run cache).cache name =
      if name ∈ c.rewrites cache then (cache name).map replaceZi else cache name := by
  rw [(run_ran c (run_remembers hrun)).rest name hname]
  exact flags_eq hold (fun option hoption => hscope option (rewrites_subset c cache _ hoption)) name

/-- The ccache fixes before CMake 3.25 rewrite the flags of the build type and nothing else but
their marks. The switches are gone then, and the next fixes find nothing to rewrite. -/
theorem flags_rewritten (hrun : Runs.run step fresh es = some cache) {c : ConfigureStep}
    (hold : c.OldFormat) (hscope : ∀ option ∈ flagEntries, c.scope option = none) :
    (∀ name ∉ marks, (c.run cache).cache name =
      if name ∈ c.rewrites cache then (cache name).map replaceZi else cache name) ∧
    ∀ name ∈ c.rewrites cache, ∀ flags, (c.run cache).cache name = some flags →
      (∀ w ∈ switches, ¬w <:+: flags) ∧
      (c.run (c.run cache).cache).cache name = some flags := by
  refine ⟨fun name hname => run_rest hrun hold hscope hname, ?_⟩
  intro name hname flags hflags
  have hmark := notMem_marks name (rewrites_subset c cache name hname)
  have hrewritten := run_rest hrun hold hscope hmark
  rw [hflags, if_pos hname] at hrewritten
  obtain ⟨before, -, rfl⟩ := Option.map_eq_some_iff.mp hrewritten.symm
  refine ⟨fun w hw hinfix => ?_, ?_⟩
  · have hcontains := (containsZi_iff (replaceZi before)).mpr ⟨w, hw, hinfix⟩
    rw [not_containsZi_replaceZi] at hcontains
    cases hcontains
  · have hagain : Runs.run step fresh (es ++ [.configure c]) = some (c.run cache).cache :=
      Runs.run_snoc_eq_some.mpr ⟨cache, hrun, rfl⟩
    rw [run_rest hagain hold hscope hmark, hflags, Option.map_some, replaceZi_replaceZi, ite_self]

/-- Without a build type the text of its name is compared. -/
theorem rewrites_nil {c : ConfigureStep} (hscope : c.scope "TINY_BUILD_TYPE_LOWER" = none)
    (hcache : cache "TINY_BUILD_TYPE_LOWER" = none) : c.rewrites cache = [] := by
  have hoperand : State.operand ⟨c.scope, cache⟩ "TINY_BUILD_TYPE_LOWER" =
      "TINY_BUILD_TYPE_LOWER".toList := by
    simp only [State.operand, State.value?, hscope, hcache, Option.none_or, Option.getD_none]
  unfold ConfigureStep.rewrites rewritten
  rw [hoperand]
  split_ifs
  · rfl
  · rfl
  · rfl

theorem byHand_edit (es : List Event) (name : String) (value : Option Text) :
    byHand (es ++ [.edit name value]) = Function.update (byHand es) name value :=
  List.foldl_concat ..

theorem byHand_configure (es : List Event) (c : ConfigureStep) :
    byHand (es ++ [.configure c]) = byHand es := List.foldl_concat ..

/-- Where nobody gives the build type under the name that is asked for, the ccache fixes change no
entry but their marks: the switches that ccache does not support stay. -/
theorem flags_byHand (hrun : Runs.run step fresh es = some cache)
    (hsteps : ∀ c, .configure c ∈ es → c.OldFormat ∧ c.scope "TINY_BUILD_TYPE_LOWER" = none)
    (hedits : ∀ value, .edit "TINY_BUILD_TYPE_LOWER" value ∉ es) :
    ∀ name ∉ marks, cache name = byHand es name := by
  have h : (∀ name ∉ marks, cache name = byHand es name) ∧
      cache "TINY_BUILD_TYPE_LOWER" = none := by
    refine Runs.invariant_of_forall
      (P := fun es cache => (∀ name ∉ marks, cache name = byHand es name) ∧
        cache "TINY_BUILD_TYPE_LOWER" = none)
      (K := fun e => match e with
        | .edit name _ => name ≠ "TINY_BUILD_TYPE_LOWER"
        | .configure c => c.OldFormat ∧ c.scope "TINY_BUILD_TYPE_LOWER" = none)
      ⟨fun _ _ => rfl, rfl⟩ ?_ ?_ hrun
    · rintro es cache e cache' hrun ⟨hcache, hbuildType⟩ hkind hstep
      cases e with
      | edit name value =>
        obtain ⟨-, rfl⟩ := edit_eq hstep
        refine ⟨fun name' hname' => ?_, ?_⟩
        · rw [byHand_edit, Function.update_apply, Function.update_apply, hcache name' hname']
        · rw [Function.update_of_ne (Ne.symm hkind), hbuildType]
      | configure c =>
        obtain rfl := Option.some.inj hstep
        have hrewrites := rewrites_nil hkind.2 hbuildType
        have hscope : ∀ option ∈ c.rewrites cache, c.scope option = none := by
          rw [hrewrites]
          exact fun option hoption => absurd hoption List.not_mem_nil
        have hsame : ∀ name ∉ marks, (c.run cache).cache name = cache name := by
          intro name hname
          rw [(run_ran c (run_remembers hrun)).rest name hname, flags_eq hkind.1 hscope, hrewrites,
            if_neg List.not_mem_nil]
        refine ⟨fun name hname => ?_, ?_⟩
        · rw [hsame name hname, byHand_configure, hcache name hname]
        · rw [hsame _ (by decide), hbuildType]
    · intro e he
      cases e with
      | edit name value =>
        rintro rfl
        exact hedits value he
      | configure c => exact hsteps c he
  exact h.1

/-- A debug build with ninja and CMake 3.24. -/
def ninja (ccache : Process) : ConfigureStep := { visualStudio ccache with isMultiConfig := false }

theorem ninja_oldFormat (ccache : Process) : (ninja ccache).OldFormat :=
  visualStudio_oldFormat ccache

/-- A build type given under the name that is asked for. -/
def debugByHand : List Event := [.edit "TINY_BUILD_TYPE_LOWER" (some "debug".toList),
  .edit "CMAKE_CXX_FLAGS_DEBUG" (some "/MDd /Zi /Od".toList)]

theorem flags_rewritten_debug :
    ∃ cache, Runs.run step fresh debugByHand = some cache ∧
      ((ninja ⟨.exited 1, []⟩).run cache).cache "CMAKE_CXX_FLAGS_DEBUG" =
        some "/MDd /Z7 /Od".toList := by
  have hrun : Runs.run step fresh debugByHand = some (byHand debugByHand) := rfl
  refine ⟨_, hrun, ?_⟩
  have hscope : ∀ option ∈ flagEntries, (ninja ⟨.exited 1, []⟩).scope option = none := by decide
  rw [(flags_rewritten hrun (ninja_oldFormat _) hscope).1 _ (by decide)]
  decide

/-- A build type given as usual. -/
def buildType : List Event := [.edit "CMAKE_CXX_FLAGS_DEBUG" (some "/MDd /Zi /Od".toList),
  .edit "CMAKE_BUILD_TYPE" (some "Debug".toList), .configure (ninja ⟨.exited 1, []⟩)]

theorem flags_byHand_ninja :
    ∃ cache, Runs.run step fresh buildType = some cache ∧
      cache "CMAKE_CXX_FLAGS_DEBUG" = some "/MDd /Zi /Od".toList := by
  obtain ⟨cache, hrun⟩ : ∃ cache, Runs.run step fresh buildType = some cache := ⟨_, rfl⟩
  refine ⟨cache, hrun, ?_⟩
  rw [flags_byHand hrun ?_ ?_ _ (by decide)]
  · decide
  · intro c hc
    simp only [buildType, List.mem_cons, reduceCtorEq, Event.configure.injEq, List.not_mem_nil,
      or_false, false_or] at hc
    rw [hc]
    exact ⟨ninja_oldFormat _, rfl⟩
  · intro value hvalue
    simp [buildType] at hvalue

end TinyPlay.Ccache

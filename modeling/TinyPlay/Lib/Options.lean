import TinyPlay.Lib.CMake
import TinyPlay.Lib.Entries

/-! The commands of CMake that give a project its options and defaults. An entry that is there
already keeps its value, unless it is forced. -/

namespace CMake

open Entries

namespace State

/-- `set(name value CACHE ..)` -/
def setDefault (s : State) (name : String) (value : Text) : State :=
  if (s.cache name).isSome then s else s.setCache name value

def setDefaults (s : State) (defaults : List (String × Text)) : State :=
  defaults.foldl (fun s d => s.setDefault d.1 d.2) s

/-- `set(name value CACHE type .. FORCE)`, for each of them -/
def forceAll (s : State) (values : List (String × Text)) : State :=
  values.foldl (fun s v => s.setCache v.1 v.2) s

/-- `option(name .. value)`: a variable of the scope counts as well. -/
def option (s : State) (name : String) (value : Text) : State :=
  if s.isDefined name then s else s.setCache name value

/-- `cmake_dependent_option(name .. value depends force)`, where `available` is what `depends` says:
an option that is not available keeps its value in the cache, behind a variable. -/
def dependentOption (s : State) (name : String) (value : Text) (available : Bool) (force : Text) :
    State :=
  if available then
    let s := s.option name value
    s.setCache name (s.reference name)
  else
    -- whether it has a value is seen from its name
    let s := if s.operand name = name.toList then s else s.setCache name (s.reference name)
    if force = [] then s.unset name else s.set name force

end State

section Defaults

variable {s : State} {name : String} {value : Text}

/-- The value of an entry that no variable hides. -/
theorem value?_of_unset (h : s.scope name = none) : s.value? name = s.cache name := by
  rw [State.value?, h, Option.none_or]

/-- A defined name keeps its value where only defaults are given. -/
theorem value?_keeps {s' : State} {defaults : List (String × Text)} {owned : List String}
    {v : Text} (hscope : s'.scope name = s.scope name)
    (hgives : Gives defaults owned s.cache s'.cache) (hname : name ∉ owned)
    (h : s.value? name = some v) : s'.value? name = some v := by
  rw [State.value?] at h ⊢
  rw [hscope]
  cases hset : s.scope name with
  | some w => rwa [hset] at h
  | none =>
    rw [hset, Option.none_or] at h
    rw [Option.none_or, hgives.keeps hname h]

theorem setCache_self (name : String) (value : Text) (s : State) :
    (s.setCache name value).cache name = some value := by
  simp [State.setCache]

theorem setCache_agree (name : String) (value : Text) (s : State) :
    Agree [name] s.cache (s.setCache name value).cache :=
  fun _ hname => Function.update_of_ne (List.ne_of_not_mem_cons hname) _ _

theorem set_self (name : String) (value : Text) (s : State) :
    (s.set name value).scope name = some value := by
  simp [State.set]

theorem set_agree (name : String) (value : Text) (s : State) :
    Agree [name] s.scope (s.set name value).scope :=
  fun _ hname => Function.update_of_ne (List.ne_of_not_mem_cons hname) _ _

theorem setDefault_scope : (s.setDefault name value).scope = s.scope := by
  unfold State.setDefault
  split_ifs
  · rfl
  · rfl

theorem setDefault_gives : Gives [(name, value)] [] s.cache (s.setDefault name value).cache := by
  unfold State.setDefault
  split_ifs with hsome
  · exact .refl _
  · intro name' _
    by_cases hname : name' = name
    · subst hname
      rw [Bool.not_eq_true, Option.isSome_eq_false_iff, Option.isNone_iff_eq_none] at hsome
      exact .inr ⟨hsome, value, List.mem_singleton_self _, Function.update_self _ _ _⟩
    · exact .inl (Function.update_of_ne hname _ _)

theorem setDefault_isSome (s : State) (name : String) (value : Text) :
    ((s.setDefault name value).cache name).isSome = true := by
  unfold State.setDefault
  split_ifs with hsome
  · exact hsome
  · rw [setCache_self, Option.isSome_some]

theorem setDefaults_scope (defaults : List (String × Text)) :
    (s.setDefaults defaults).scope = s.scope := by
  induction defaults generalizing s with
  | nil => rfl
  | cons d defaults ih => exact ih.trans setDefault_scope

theorem setDefaults_gives (defaults : List (String × Text)) :
    Gives defaults [] s.cache (s.setDefaults defaults).cache := by
  induction defaults generalizing s with
  | nil => exact .refl _
  | cons d defaults ih =>
    have hfirst : Gives (d :: defaults) [] s.cache (s.setDefault d.1 d.2).cache :=
      setDefault_gives.mono (by simp) (List.nil_subset _)
    exact hfirst.trans (ih.mono (List.subset_cons_self _ _) (List.nil_subset _))

/-- What becomes of the cache is a matter of the cache. -/
theorem setDefaults_cache {s' : State} (h : s.cache = s'.cache) (defaults : List (String × Text)) :
    (s.setDefaults defaults).cache = (s'.setDefaults defaults).cache := by
  induction defaults generalizing s s' with
  | nil => exact h
  | cons d defaults ih =>
    refine ih ?_
    dsimp only [State.setDefault]
    rw [h]
    split_ifs
    · exact h
    · rw [State.setCache, State.setCache, h]

theorem forceAll_scope (values : List (String × Text)) : (s.forceAll values).scope = s.scope := by
  induction values generalizing s with
  | nil => rfl
  | cons v values ih => exact ih

theorem forceAll_agree (values : List (String × Text)) :
    Agree (values.map Prod.fst) s.cache (s.forceAll values).cache := by
  induction values generalizing s with
  | nil => exact .refl _
  | cons v values ih =>
    have hfirst : Agree ((v :: values).map Prod.fst) s.cache (s.setCache v.1 v.2).cache :=
      (setCache_agree v.1 v.2 s).mono (by simp)
    exact hfirst.trans (ih.mono (List.subset_cons_self _ _))

theorem setDefaults_forceAll_gives (defaults values : List (String × Text)) :
    Gives defaults (values.map Prod.fst) s.cache
      ((s.setDefaults defaults).forceAll values).cache :=
  ((setDefaults_gives defaults).mono (List.Subset.refl _) (List.nil_subset _)).trans
    (forceAll_agree values).gives

theorem forceAll_cache {s' : State} (h : s.cache = s'.cache) (values : List (String × Text)) :
    (s.forceAll values).cache = (s'.forceAll values).cache := by
  induction values generalizing s s' with
  | nil => exact h
  | cons v values ih =>
    have hfirst : (s.setCache v.1 v.2).cache = (s'.setCache v.1 v.2).cache := by
      rw [State.setCache, State.setCache, h]
    exact ih hfirst

theorem setAll_scope_congr {s' : State} (h : s.scope name = s'.scope name)
    (values : List (String × Text)) :
    (s.setAll values).scope name = (s'.setAll values).scope name := by
  induction values generalizing s s' with
  | nil => exact h
  | cons v values ih =>
    refine ih ?_
    dsimp only [State.set]
    rw [Function.update_apply, Function.update_apply, h]

/-- All defaults are defined then. -/
theorem setDefaults_isSome {defaults : List (String × Text)} {d : String × Text}
    (h : d ∈ defaults) : ((s.setDefaults defaults).cache d.1).isSome = true := by
  induction defaults generalizing s with
  | nil => cases h
  | cons d' defaults ih =>
    rcases List.mem_cons.mp h with rfl | h
    · obtain ⟨value, hvalue⟩ := Option.isSome_iff_exists.mp (setDefault_isSome s d.1 d.2)
      have hkept := (setDefaults_gives defaults).keeps (List.not_mem_nil (a := d.1)) hvalue
      exact Option.isSome_iff_exists.mpr ⟨value, hkept⟩
    · exact ih h

theorem option_scope : (s.option name value).scope = s.scope := by
  unfold State.option
  split_ifs
  · rfl
  · rfl

/-- The option is the value that is there already, or its own. -/
theorem option_value (s : State) (name : String) (value : Text) :
    (s.option name value).value? name = some ((s.value? name).getD value) := by
  unfold State.option
  split_ifs with hdefined
  · obtain ⟨v, hv⟩ := Option.isSome_iff_exists.mp hdefined
    rw [hv, Option.getD_some]
  · have hnone : s.value? name = none := Option.not_isSome_iff_eq_none.mp hdefined
    have hscope : s.scope name = none := (Option.or_eq_none_iff.mp hnone).1
    rw [hnone, Option.getD_none, State.value?, setCache_self, State.setCache, hscope,
      Option.none_or]

theorem option_gives : Gives [(name, value)] [] s.cache (s.option name value).cache := by
  unfold State.option
  split_ifs with hdefined
  · exact .refl _
  · intro name' _
    by_cases hname : name' = name
    · subst hname
      rw [State.isDefined, State.value?, Option.isSome_or, Bool.or_eq_true, not_or,
        Option.not_isSome_iff_eq_none, Option.not_isSome_iff_eq_none] at hdefined
      exact .inr ⟨hdefined.2, value, List.mem_singleton_self _, Function.update_self _ _ _⟩
    · exact .inl (Function.update_of_ne hname _ _)

theorem option_eq (h : s.scope name = none) (value : Text) :
    s.option name value = s.setDefault name value := by
  rw [State.option, State.isDefined, value?_of_unset h, State.setDefault]

/-- As long as it is available, an option that depends on others is one like any other. -/
theorem dependentOption_available (h : s.scope name = none) (value force : Text) :
    s.dependentOption name value true force = s.setDefault name value := by
  have hscope : (s.setDefault name value).scope name = none := by
    rw [setDefault_scope, h]
  obtain ⟨v, hv⟩ := Option.isSome_iff_exists.mp (setDefault_isSome s name value)
  rw [State.dependentOption, if_pos rfl, option_eq h]
  dsimp only
  rw [State.reference, value?_of_unset hscope, hv, State.setCache, Option.getD_some, ← hv,
    Function.update_eq_self]

/-- Hidden, it leaves the cache alone. -/
theorem dependentOption_hidden (h : s.scope name = none) (value : Text) {force : Text}
    (hforce : force ≠ []) : s.dependentOption name value false force = s.set name force := by
  rw [State.dependentOption, if_neg Bool.false_ne_true, if_neg hforce, State.operand,
    State.reference, value?_of_unset h]
  cases hcache : s.cache name with
  | none => rw [Option.getD_none, if_pos rfl]
  | some v =>
    rw [Option.getD_some, Option.getD_some, State.setCache, ← hcache, Function.update_eq_self,
      ite_self]

theorem dependentOption_scope (available : Bool) (force : Text) :
    Agree [name] s.scope (s.dependentOption name value available force).scope := by
  have hset : ∀ value? : Option Text,
      Agree [name] s.scope (Function.update s.scope name value?) := fun _ _ hname =>
    Function.update_of_ne (List.ne_of_not_mem_cons hname) _ _
  unfold State.dependentOption
  split_ifs
  · exact fun name' _ => congrFun option_scope name'
  · exact hset none
  · exact hset (some force)
  · exact hset none
  · exact hset (some force)

theorem dependentOption_gives (h : s.scope name = none) (available : Bool) {force : Text}
    (hforce : force ≠ []) :
    Gives [(name, value)] [] s.cache (s.dependentOption name value available force).cache := by
  cases available with
  | true =>
    rw [dependentOption_available h]
    exact setDefault_gives
  | false =>
    rw [dependentOption_hidden h value hforce]
    exact .refl _

/-- A call and what follows it write the same names. -/
theorem next_agree {α β : Type} {o : Outcome α} {f : α → State → Outcome β} {names : List String}
    {cache : Cache} (h : Agree names cache o.cache)
    (hrest : ∀ a, Agree names o.cache (f a { s with cache := o.cache }).cache) :
    Agree names cache (o.next s f).cache := by
  cases hresult : o.result with
  | error e =>
    rw [(Outcome.next_of_error hresult).2]
    exact h
  | ok a =>
    rw [(Outcome.next_of_ok hresult).2]
    exact h.trans (hrest a)

end Defaults

end CMake

import Mathlib.Data.List.Basic
import Mathlib.Logic.Function.Basic
import TinyPlay.Lib.Run

/-! Entries under names that several parties write. A party that only gives defaults leaves a
defined entry alone, so that a name nobody owns keeps what was set from outside. -/

namespace Entries

variable {K V : Type*}

abbrev Store (K V : Type*) := K → Option V

/-- Other names are not written. -/
def Agree (names : List K) (c c' : Store K V) : Prop := ∀ name ∉ names, c' name = c name

/-- From `c` to `c'` the owned names are written freely, and any other name is left alone or gets
one of the defaults where nothing was defined. -/
def Gives (defaults : List (K × V)) (owned : List K) (c c' : Store K V) : Prop :=
  ∀ name ∉ owned, c' name = c name ∨
    c name = none ∧ ∃ value, (name, value) ∈ defaults ∧ c' name = some value

variable {names names' owned owned' : List K} {defaults defaults' : List (K × V)}
  {c c' c'' : Store K V}

theorem Agree.refl (c : Store K V) : Agree names c c := fun _ _ => rfl

theorem Agree.trans (h : Agree names c c') (h' : Agree names c' c'') : Agree names c c'' :=
  fun name hname => (h' name hname).trans (h name hname)

theorem Agree.mono (h : Agree names c c') (hsub : names ⊆ names') : Agree names' c c' :=
  fun name hname => h name fun hmem => hname (hsub hmem)

theorem Agree.gives (h : Agree owned c c') : Gives defaults owned c c' :=
  fun name hname => .inl (h name hname)

theorem Gives.refl (c : Store K V) : Gives defaults owned c c := fun _ _ => .inl rfl

theorem Gives.trans (h : Gives defaults owned c c') (h' : Gives defaults owned c' c'') :
    Gives defaults owned c c'' := by
  intro name hname
  rcases h' name hname with heq | ⟨hnone, value, hvalue, heq⟩
  · rw [heq]
    exact h name hname
  · rcases h name hname with hsame | ⟨-, _, -, hsome⟩
    · rw [hnone] at hsame
      exact .inr ⟨hsame.symm, value, hvalue, heq⟩
    · rw [hnone] at hsome
      cases hsome

theorem Gives.mono (h : Gives defaults owned c c') (hdefaults : defaults ⊆ defaults')
    (howned : owned ⊆ owned') : Gives defaults' owned' c c' := by
  intro name hname
  rcases h name fun hmem => hname (howned hmem) with heq | ⟨hnone, value, hvalue, heq⟩
  · exact .inl heq
  · exact .inr ⟨hnone, value, hdefaults hvalue, heq⟩

/-- The same is written before and after. -/
theorem Gives.update [DecidableEq K] (h : Gives defaults owned c c') (name : K)
    (value : Option V) : Gives defaults owned (Function.update c name value)
      (Function.update c' name value) := by
  intro name' hname'
  by_cases heq : name' = name
  · subst heq
    rw [Function.update_self, Function.update_self]
    exact .inl rfl
  · rw [Function.update_of_ne heq, Function.update_of_ne heq]
    exact h name' hname'

/-- A defined entry stays. -/
theorem Gives.keeps (h : Gives defaults owned c c') {name : K} (hname : name ∉ owned) {value : V}
    (hvalue : c name = some value) : c' name = some value := by
  rcases h name hname with heq | ⟨hnone, -⟩
  · rw [heq, hvalue]
  · rw [hvalue] at hnone
    cases hnone

theorem Gives.agree (h : Gives defaults owned c c') :
    Agree (owned ++ defaults.map Prod.fst) c c' := by
  intro name hname
  rw [List.mem_append, not_or] at hname
  rcases h name hname.1 with heq | ⟨-, value, hvalue, -⟩
  · exact heq
  · exact absurd (List.mem_map_of_mem hvalue) hname.2

/-! ### Runs -/

section Runs

variable {ε : Type*} [DecidableEq K] {step : Store K V → ε → Option (Store K V)}

/-- What is written at once can be written name by name, and nobody sees it. -/
theorem Agree.leads {β : Type*} {look : Store K V → ε → Option β} {edit : K → Option V → ε}
    (hedit : ∀ name ∈ names, ∀ c value, step c (edit name value) =
      some (Function.update c name value))
    (hlook : ∀ c name value, look c (edit name value) = none) (h : Agree names c c') :
    Runs.Leads step look c c' [] := by
  induction names generalizing c with
  | nil =>
    have hsame : c' = c := funext fun name => h name List.not_mem_nil
    rw [hsame]
    exact .refl c
  | cons name names ih =>
    rw [List.forall_mem_cons] at hedit
    have hrest : Agree names (Function.update c name (c' name)) c' := by
      intro name' hname'
      by_cases heq : name' = name
      · rw [heq, Function.update_self]
      · rw [Function.update_of_ne heq]
        exact h name' fun hmem => (List.mem_cons.mp hmem).elim heq hname'
    have hfirst : Runs.Leads step look c (Function.update c name (c' name)) [] := by
      have hsingle : Runs.Leads step look c _ (look c (edit name (c' name))).toList :=
        .single (hedit.1 c (c' name))
      rwa [hlook] at hsingle
    exact hfirst.trans (ih hedit.2 hrest)

variable {edit? : ε → Option (K × Option V)}

/-- What has been set from outside. -/
def byHand (edit? : ε → Option (K × Option V)) (es : List ε) : Store K V :=
  (es.filterMap edit?).foldl (fun c w => Function.update c w.1 w.2) fun _ => none

theorem byHand_edit {e : ε} {w : K × Option V} (he : edit? e = some w) (es : List ε) :
    byHand edit? (es ++ [e]) = Function.update (byHand edit? es) w.1 w.2 := by
  rw [byHand, List.filterMap_append, List.foldl_append, List.filterMap_cons_some he]
  rfl

theorem byHand_other {e : ε} (he : edit? e = none) (es : List ε) :
    byHand edit? (es ++ [e]) = byHand edit? es := by
  rw [byHand, List.filterMap_append, List.filterMap_cons_none he, List.filterMap_nil,
    List.append_nil, byHand]

/-- The rule for runs: if every step is from outside or gives its defaults and writes what it owns,
a run from nothing does so, with all of them, to what has been set from outside. -/
theorem run_gives {defaultsOf : ε → List (K × V)} {ownedBy : ε → List K}
    (hedit : ∀ c e c' w, step c e = some c' → edit? e = some w →
      c' = Function.update c w.1 w.2)
    (hgives : ∀ c e c', step c e = some c' → edit? e = none →
      Gives (defaultsOf e) (ownedBy e) c c')
    {es : List ε} (hrun : Runs.run step (fun _ => none) es = some c) :
    Gives (es.flatMap defaultsOf) (es.flatMap ownedBy) (byHand edit? es) c := by
  refine Runs.invariant (P := fun es c =>
    Gives (es.flatMap defaultsOf) (es.flatMap ownedBy) (byHand edit? es) c) (.refl _) ?_ hrun
  intro es c e c' hc hstep
  rw [List.flatMap_append, List.flatMap_append, List.flatMap_singleton, List.flatMap_singleton]
  have hold : Gives (es.flatMap defaultsOf ++ defaultsOf e) (es.flatMap ownedBy ++ ownedBy e)
      (byHand edit? es) c :=
    hc.mono (List.subset_append_left _ _) (List.subset_append_left _ _)
  cases he : edit? e with
  | some w =>
    rw [hedit c e c' w hstep he, byHand_edit he]
    exact hold.update _ _
  | none =>
    rw [byHand_other he]
    exact hold.trans ((hgives c e c' hstep he).mono (List.subset_append_right _ _)
      (List.subset_append_right _ _))

end Runs

end Entries

import Mathlib.Data.List.Induction

/-! Runs of an executable step function. `step s e` is the state after the event `e`, or `none`
where `e` cannot happen in `s`. An invariant relates the history of a run to the state it
reached; it may rest on a guard that every step of the run met. -/

namespace Runs

variable {σ ε : Type*} {step : σ → ε → Option σ}

def run (step : σ → ε → Option σ) (s : σ) (es : List ε) : Option σ := es.foldlM step s

theorem run_snoc (s : σ) (es : List ε) (e : ε) :
    run step s (es ++ [e]) = (run step s es).bind fun t => step t e := by
  unfold run
  rw [List.foldlM_append]
  cases es.foldlM step s with
  | none => rfl
  | some t => cases h : step t e <;> simp [h]

theorem run_snoc_eq_some {s t : σ} {es : List ε} {e : ε} :
    run step s (es ++ [e]) = some t ↔ ∃ t', run step s es = some t' ∧ step t' e = some t := by
  rw [run_snoc, Option.bind_eq_some_iff]

/-- What is seen along a run: `look` sees an event and the state before it. -/
def seen {β : Type*} (step : σ → ε → Option σ) (look : σ → ε → Option β) : σ → List ε → List β
  | _, [] => []
  | s, e :: es => (look s e).toList ++ (step s e).elim [] fun t => seen step look t es

theorem run_append {s t : σ} {es es' : List ε} (hrun : run step s es = some t) :
    run step s (es ++ es') = run step t es' := by
  unfold run at hrun ⊢
  rw [List.foldlM_append, hrun]
  rfl

theorem seen_append {β : Type*} {look : σ → ε → Option β} {s t : σ} {es es' : List ε}
    (hrun : run step s es = some t) :
    seen step look s (es ++ es') = seen step look s es ++ seen step look t es' := by
  induction es generalizing s with
  | nil =>
    cases hrun
    rfl
  | cons e es ih =>
    obtain ⟨s', hstep, hrest⟩ := Option.bind_eq_some_iff.mp hrun
    rw [List.cons_append, seen, seen, hstep, Option.elim_some, Option.elim_some, ih hrest,
      List.append_assoc]

theorem seen_snoc {β : Type*} {look : σ → ε → Option β} {s t : σ} {es : List ε}
    (hrun : run step s es = some t) (e : ε) :
    seen step look s (es ++ [e]) = seen step look s es ++ (look t e).toList := by
  rw [seen_append hrun, seen]
  cases step t e <;> simp [seen]

/-- Some run from `s` to `t`, along which `bs` is seen. -/
def Leads {β : Type*} (step : σ → ε → Option σ) (look : σ → ε → Option β) (s t : σ) (bs : List β) :
    Prop := ∃ es, run step s es = some t ∧ seen step look s es = bs

section Leads

variable {β : Type*} {look : σ → ε → Option β} {s t u : σ} {bs bs' : List β}

theorem Leads.refl (s : σ) : Leads step look s s [] := ⟨[], rfl, rfl⟩

theorem Leads.trans (h : Leads step look s t bs) (h' : Leads step look t u bs') :
    Leads step look s u (bs ++ bs') := by
  obtain ⟨es, hrun, rfl⟩ := h
  obtain ⟨es', hrun', rfl⟩ := h'
  exact ⟨es ++ es', (run_append hrun).trans hrun', seen_append hrun⟩

theorem Leads.single {e : ε} (h : step s e = some t) :
    Leads step look s t (look s e).toList := by
  refine ⟨[e], ?_, ?_⟩
  · rw [run, List.foldlM_cons, h]
    rfl
  · rw [seen, h]
    exact List.append_nil _

/-- The rule for components: where every step of the system is a run of the component, in which
the others are its environment, every run of the system is one of the component. -/
theorem Leads.of_steps {σ' ε' : Type*} {step' : σ' → ε' → Option σ'} {look' : σ' → ε' → Option β}
    (view : σ → σ')
    (hstep : ∀ s e t, step s e = some t → Leads step' look' (view s) (view t) (look s e).toList)
    {es : List ε} (hrun : run step s es = some t) :
    Leads step' look' (view s) (view t) (seen step look s es) := by
  induction es generalizing s with
  | nil =>
    cases hrun
    exact .refl _
  | cons e es ih =>
    obtain ⟨s', he, hrest⟩ := Option.bind_eq_some_iff.mp hrun
    rw [seen, he, Option.elim_some]
    exact (hstep s e s' he).trans (ih hrest)

end Leads

/-- Every step of the run meets `guard` in the state before it. -/
def Meets (step : σ → ε → Option σ) (guard : σ → ε → Bool) (s : σ) (es : List ε) : Prop :=
  ∀ before e after t, es = before ++ e :: after → run step s before = some t → guard t e = true

section Meets

variable {guard : σ → ε → Bool} {s : σ} {es : List ε} {e : ε}

theorem Meets.init (h : Meets step guard s (es ++ [e])) : Meets step guard s es := by
  intro before e' after t heq hrun
  refine h before e' (after ++ [e]) t ?_ hrun
  rw [heq, List.append_assoc, List.cons_append]

theorem Meets.last {t : σ} (h : Meets step guard s (es ++ [e])) (hrun : run step s es = some t) :
    guard t e = true :=
  h es e [] t rfl hrun

/-- `Meets` on a given run, by evaluation. -/
def checks (step : σ → ε → Option σ) (guard : σ → ε → Bool) : σ → List ε → Bool
  | _, [] => true
  | s, e :: es => guard s e && (step s e).all fun t => checks step guard t es

theorem Meets.of_checks (h : checks step guard s es = true) : Meets step guard s es := by
  intro before e after t heq hrun
  induction before generalizing s es with
  | nil =>
    cases hrun
    rw [heq] at h
    exact (Bool.and_eq_true_iff.mp h).1
  | cons e' before ih =>
    rw [heq] at h
    obtain ⟨s', hstep, hrest⟩ := Option.bind_eq_some_iff.mp hrun
    have hnext := (Bool.and_eq_true_iff.mp h).2
    rw [hstep] at hnext
    exact ih hnext rfl hrest

end Meets

/-- The rule for invariants of guarded runs, with the history at hand. -/
theorem invariant_of_meets (guard : σ → ε → Bool) {s t : σ} {es : List ε} {P : List ε → σ → Prop}
    (hstart : P [] s)
    (hstep : ∀ es t e t', P es t → guard t e = true → step t e = some t' → P (es ++ [e]) t')
    (hmeets : Meets step guard s es) (hrun : run step s es = some t) : P es t := by
  induction es using List.reverseRecOn generalizing t with
  | nil =>
    cases hrun
    exact hstart
  | append_singleton es e ih =>
    obtain ⟨t', hbefore, hlast⟩ := run_snoc_eq_some.mp hrun
    exact hstep es t' e t (ih hmeets.init hbefore) (hmeets.last hbefore) hlast

/-- The rule for invariants of all runs. -/
theorem invariant {s t : σ} {es : List ε} {P : List ε → σ → Prop} (hstart : P [] s)
    (hstep : ∀ es t e t', P es t → step t e = some t' → P (es ++ [e]) t')
    (hrun : run step s es = some t) : P es t :=
  invariant_of_meets (fun _ _ => true) hstart
    (fun es t e t' h _ => hstep es t e t' h) (fun _ _ _ _ _ _ => rfl) hrun

/-- The rule for invariants of runs whose events all are of a kind. -/
theorem invariant_of_forall {s t : σ} {es : List ε} {P : List ε → σ → Prop} {K : ε → Prop}
    (hstart : P [] s)
    (hstep : ∀ es t e t', run step s es = some t → P es t → K e → step t e = some t' →
      P (es ++ [e]) t')
    (hkind : ∀ e ∈ es, K e) (hrun : run step s es = some t) : P es t := by
  induction es using List.reverseRecOn generalizing t with
  | nil =>
    cases hrun
    exact hstart
  | append_singleton es e ih =>
    obtain ⟨t', hbefore, hlast⟩ := run_snoc_eq_some.mp hrun
    have hP := ih (fun e' he' => hkind e' (List.mem_append_left _ he')) hbefore
    exact hstep es t' e t hbefore hP (hkind e (List.mem_append_right _ List.mem_cons_self)) hlast

/-- The rule for termination: a measure that every step keeps or lowers, and that a counted step
lowers, bounds the counted steps of a run. -/
theorem countP_add_le {μ : σ → ℕ} {counted : ε → Bool}
    (hstep : ∀ s e t, step s e = some t → (if counted e then 1 else 0) + μ t ≤ μ s)
    {s t : σ} {es : List ε} (hrun : run step s es = some t) : es.countP counted + μ t ≤ μ s := by
  refine invariant (P := fun es t => es.countP counted + μ t ≤ μ s) ?_ ?_ hrun
  · simp
  · intro es t e t' h ht
    have hlast := hstep t e t' ht
    rw [List.countP_append, List.countP_singleton]
    omega

theorem Meets.cons {guard : σ → ε → Bool} {s t : σ} {e : ε} {es : List ε}
    (hguard : guard s e = true) (ht : step s e = some t) (h : Meets step guard t es) :
    Meets step guard s (e :: es) := by
  intro before e' after u heq hrun
  cases before with
  | nil =>
    cases hrun
    cases heq
    exact hguard
  | cons e'' before =>
    cases heq
    simp only [run, List.foldlM_cons, ht] at hrun
    exact h before e' after u rfl hrun

/-- Where the measure bounds the counted steps and every state that is not done has one that meets
the guard, some continuation of such steps is done. -/
theorem exists_run_done {μ : σ → ℕ} {counted : ε → Bool} (guard : σ → ε → Bool) {I : σ → Prop}
    {done : σ → Bool}
    (hstep : ∀ s e t, step s e = some t → (if counted e then 1 else 0) + μ t ≤ μ s)
    (hlive : ∀ s, I s → done s = false →
      ∃ e t, counted e = true ∧ guard s e = true ∧ step s e = some t ∧ I t)
    (s : σ) (hs : I s) :
    ∃ es t, run step s es = some t ∧ Meets step guard s es ∧ done t = true ∧ I t := by
  induction hn : μ s using Nat.strongRecOn generalizing s with
  | ind n ih =>
    cases hdone : done s with
    | true =>
      refine ⟨[], s, rfl, ?_, hdone, hs⟩
      intro before e after t heq
      simp at heq
    | false =>
      obtain ⟨e, t, hcounted, hguard, ht, hI⟩ := hlive s hs hdone
      have hlower := hstep s e t ht
      rw [if_pos hcounted] at hlower
      obtain ⟨es, u, hrun, hmeets, hu, hIu⟩ := ih (μ t) (by omega) t hI rfl
      refine ⟨e :: es, u, ?_, .cons hguard ht hmeets, hu, hIu⟩
      rw [← hrun]
      simp [run, ht]

end Runs

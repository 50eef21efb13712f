import TinyPlay.Proofs.FailingWorker
import TinyPlay.Proofs.FullRange
import TinyPlay.Proofs.StoredSums

/-! The figures of a threaded run. Whatever the order in which the threads save, the entries of
the application counters add up to the amounts that the saving threads have logged, each amount
once. Of these sums the Application Summary prints those of the statements. -/

namespace TinyPlay

open Accumulator Sentinel

/-! ### Sums of counters -/

/-- A counter of the totals, which is added up. -/
def ThreadCounters.statements (kind : StatementKind) (t : ThreadCounters) : ℤ :=
  t.statementsCounter.column kind

theorem ThreadCounters.statements_sum (kind : StatementKind) (l : List ThreadCounters) :
    l.sum.statements kind = (l.map (statements kind)).sum := number_sum (.statements kind) l

theorem ThreadCounters.statements_sum_nonneg {l : List ThreadCounters} {kind : StatementKind}
    (h : ∀ t ∈ l, 0 ≤ t.statements kind) : 0 ≤ l.sum.statements kind := by
  rw [statements_sum]
  refine List.sum_nonneg ?_
  intro v hv
  obtain ⟨t, ht, rfl⟩ := List.mem_map.mp hv
  exact h t ht

namespace System

variable {cfg : Configuration} {es : List Event} {s : System}

/-! ### What the workers have logged -/

/-- What a finished `logQueryCounters` of one of the workers added. -/
def workerAmount? (saved : List ℕ) : Event → Option ThreadCounters
  | .worker i a => if i ∈ saved then a.amount? else none
  | .main _ => none

theorem amounts_cons (i : ℕ) (e : Event) (es : List Event) : amounts (historyOf i (e :: es)) =
    ((e.actionOf i).bind WorkerAction.amount?).getD 0 + amounts (historyOf i es) := by
  unfold historyOf amounts
  rw [List.filterMap_cons]
  cases hact : e.actionOf i with
  | none => simp
  | some a =>
    simp only [List.filterMap_cons, Option.bind_some]
    cases a.amount? <;> simp

/-- The amounts of some workers, thread by thread and in the order of the run. -/
theorem sum_amounts {saved : List ℕ} (hnodup : saved.Nodup) (es : List Event) :
    (saved.map fun i => amounts (historyOf i es)).sum =
      (es.filterMap (workerAmount? saved)).sum := by
  induction es with
  | nil =>
    rw [List.sum_eq_zero]
    · rfl
    · intro t ht
      obtain ⟨i, -, rfl⟩ := List.mem_map.mp ht
      rfl
  | cons e es ih =>
    have hone : (saved.map fun i => ((e.actionOf i).bind WorkerAction.amount?).getD 0).sum =
        (workerAmount? saved e).getD 0 := by
      cases e with
      | main a => simp [Event.actionOf, workerAmount?]
      | worker j a =>
        rw [List.sum_map_eq_nsmul_single j, workerAmount?]
        · simp only [Event.actionOf, if_true, Option.bind_some]
          split_ifs with hj
          · rw [List.count_eq_one_of_mem hnodup hj, one_nsmul]
          · rw [List.count_eq_zero_of_not_mem hj, zero_nsmul]
            rfl
        · intro i hi _
          simp [Event.actionOf, Ne.symm hi]
    simp only [amounts_cons, List.sum_map_add, ih, hone, List.filterMap_cons]
    cases workerAmount? saved e <;> simp

/-- What a finished `logQueryCounters` of a thread that has saved its counters added. -/
def savedAmount? (es : List Event) (s : System) : Event → Option ThreadCounters
  | .main a => if pastSave s.pc then a.amount? else none
  | .worker i a => if i ∈ countersOrder es then a.amount? else none

theorem sum_filterMap {α : Type} (f : α → Option ThreadCounters) (l : List α) :
    (l.filterMap f).sum = (l.map fun a => (f a).getD 0).sum := by
  induction l with
  | nil => rfl
  | cons a l ih =>
    rw [List.filterMap_cons, List.map_cons, List.sum_cons, ← ih]
    cases f a with
    | none => exact (zero_add _).symm
    | some t => exact List.sum_cons

/-- The saved counters are what the saving threads have logged. -/
theorem sum_saveCalls (hrun : Runs.run step (start cfg) es = some s) :
    ((saveCalls es s).map Prod.snd).sum = (es.filterMap (savedAmount? es s)).sum := by
  have hmain : ((if pastSave s.pc then [("main", mainAmounts es)] else []).map Prod.snd).sum =
      (es.map fun e => if pastSave s.pc then e.mainAmount?.getD 0 else 0).sum := by
    split_ifs
    · rw [mainAmounts, sum_filterMap]
      exact List.sum_singleton
    · simp
  have hworkers : (((countersOrder es).map (callOf es s)).map Prod.snd).sum =
      (es.map fun e => (workerAmount? (countersOrder es) e).getD 0).sum := by
    have hnodup : (countersOrder es).Nodup := run_execOrder_nodup hrun _
    rw [← sum_filterMap, ← sum_amounts hnodup, List.map_map]
    rfl
  rw [saveCalls, List.map_append, List.sum_append, hmain, hworkers, sum_filterMap,
    ← List.sum_map_add]
  refine congrArg List.sum (List.map_congr_left fun e _ => ?_)
  cases e with
  | main a =>
    simp only [workerAmount?, savedAmount?, Event.mainAmount?, Option.getD_none, zero_add]
    split_ifs <;> rfl
  | worker i a =>
    simp only [workerAmount?, savedAmount?, Event.mainAmount?, Option.getD_none]
    split_ifs <;> exact add_zero _

/-! ### What the entries add up to -/

/-- The entries of the application counters add up to `t`, and the statement columns of the
Application Summary print their sums. -/
structure SumsTo (build : Build) (app : AppCounters) (t : ThreadCounters) : Prop where
  functionsElapsed : (app.functionsElapsed.map (·.value)).sum = t.functionsElapsed
  queriesElapsed : (app.queriesElapsed.map (·.value)).sum = t.queriesElapsed
  recordsHaveBeenModified :
    app.recordsHaveBeenModified.any (·.value) = t.recordsHaveBeenModified
  statements : ∀ kind,
    (sumCounters build.unbounded app.statementsCounter).column kind = t.statements kind
  total : (sumCounters build.unbounded app.statementsCounter).total =
    t.statements .normal + t.statements .affecting + t.statements .transactional
  printed : ∀ kind,
    printedSum ((app.getAppCountersPrintable build.unbounded).statementsCounter.column kind) =
      toString (t.statements kind)
  printed_total : printedSum (app.getAppCountersPrintable build.unbounded).statementsCounter.total =
    toString (t.statements .normal + t.statements .affecting + t.statements .transactional)

/-- No entry is negative when no amount is. -/
theorem statements_nonneg {calls : List (String × ThreadCounters)}
    (hcalls : ∀ c ∈ calls, ∀ kind, 0 ≤ c.2.statements kind) {e : String × ThreadCounters}
    (he : e ∈ accumulateAll AppCounters.constructedItems calls) (kind : StatementKind) :
    0 ≤ e.2.statements kind := by
  have hnodup : (keys AppCounters.constructedItems).Nodup :=
    AppCounters.constructed_represents.nodup
  have htotal := ((mem_iff_total (nodup_accumulateAll hnodup calls) e).mp he).2
  rw [total_accumulateAll hnodup, AppCounters.total_constructedItems, zero_add] at htotal
  rw [← htotal, Accumulator.total]
  refine ThreadCounters.statements_sum_nonneg ?_
  intro t ht
  obtain ⟨c, hc, rfl⟩ := List.mem_map.mp ht
  exact hcalls c (List.mem_of_mem_filter hc) kind

theorem sumsTo_of_represents (build : Build) {app : AppCounters}
    {calls : List (String × ThreadCounters)}
    (hrep : app.Represents (accumulateAll AppCounters.constructedItems calls))
    (hcalls : ∀ c ∈ calls, ∀ kind, 0 ≤ c.2.statements kind) :
    SumsTo build app (calls.map Prod.snd).sum := by
  have hsum := sum_accumulateAll AppCounters.constructed_represents.nodup calls
  have hstart : (AppCounters.constructedItems.map Prod.snd).sum = 0 := add_zero 0
  rw [hstart, zero_add] at hsum
  have hnonneg : ∀ item ∈ app.statementsCounter, ∀ kind, 0 ≤ item.value.column kind := by
    intro item hitem kind
    rw [hrep.statementsCounter] at hitem
    obtain ⟨e, he, rfl⟩ := List.mem_map.mp hitem
    exact statements_nonneg hcalls he kind
  have hmain : ∃ item, item ∈ app.statementsCounter := by
    have hkey : "main" ∈ keys (accumulateAll AppCounters.constructedItems calls) :=
      (mem_keys_accumulateAll "main").mpr (Or.inl (List.mem_singleton.mpr rfl))
    obtain ⟨e, he, -⟩ := List.mem_map.mp hkey
    rw [hrep.statementsCounter]
    exact ⟨_, List.mem_map_of_mem he⟩
  have hexact := sumsExactly build fun item hitem kind =>
    le_trans (by decide) (hnonneg item hitem kind)
  have hcolumn : ∀ kind, (sumCounters build.unbounded app.statementsCounter).column kind =
      (calls.map Prod.snd).sum.statements kind := by
    intro kind
    obtain ⟨item, hitem⟩ := hmain
    rw [hexact.columns, if_neg, List.filter_eq_self.mpr]
    · rw [hrep.statementsCounter, ← hsum, ThreadCounters.statements_sum, List.map_map,
        List.map_map]
      rfl
    · intro v hv
      obtain ⟨item, hitem, rfl⟩ := List.mem_map.mp hv
      exact decide_eq_true (hnonneg item hitem kind)
    · intro hoff
      have hpos := hnonneg item hitem kind
      rw [hoff item hitem] at hpos
      omega
  have hpos : ∀ kind, 0 ≤ (calls.map Prod.snd).sum.statements kind := by
    intro kind
    refine ThreadCounters.statements_sum_nonneg ?_
    intro t ht
    obtain ⟨c, hc, rfl⟩ := List.mem_map.mp ht
    exact hcalls c hc kind
  have htotal : (sumCounters build.unbounded app.statementsCounter).total =
      (calls.map Prod.snd).sum.statements .normal +
        (calls.map Prod.snd).sum.statements .affecting +
        (calls.map Prod.snd).sum.statements .transactional := by
    have hread : ∀ kind,
        readZero ((sumCounters build.unbounded app.statementsCounter).column kind) =
          (calls.map Prod.snd).sum.statements kind := by
      intro kind
      rw [hcolumn, readZero_of_nonneg (hpos kind)]
    have hon : (sumCounters build.unbounded app.statementsCounter).total ≠ -1 := by
      intro hoff
      have hnormal := hexact.total_off.mp hoff .normal
      rw [hcolumn] at hnormal
      have hnormalpos := hpos .normal
      omega
    rw [hexact.total hon, ← hread, ← hread, ← hread]
    rfl
  refine ⟨?_, ?_, ?_, hcolumn, htotal, fun kind => ?_, ?_⟩
  · rw [hrep.functionsElapsed, ← hsum, List.map_map]
    refine Eq.trans ?_ (ThreadCounters.number_sum .functionsElapsed _).symm
    rw [List.map_map]
    rfl
  · rw [hrep.queriesElapsed, ← hsum, List.map_map]
    refine Eq.trans ?_ (ThreadCounters.number_sum .queriesElapsed _).symm
    rw [List.map_map]
    rfl
  · rw [hrep.recordsHaveBeenModified, ← hsum, ThreadCounters.recordsHaveBeenModified_sum,
      List.any_map, List.any_map]
    rfl
  · rw [← hcolumn]
    cases kind <;> exact printedSum_sumPrintable _ _
  · rw [← htotal]
    exact printedSum_sumPrintable _ _

/-- What a finished `logQueryCounters` added. -/
def Event.amount? : Event → Option ThreadCounters
  | .main a => a.amount?
  | .worker _ a => a.amount?

/-- In every interleaving the entries of the application counters add up to what the threads that
have saved have logged, each amount once. -/
theorem summary_totals (build : Build) (hrun : Runs.run step (start cfg) es = some s)
    (hamounts : ∀ t ∈ es.filterMap Event.amount?, ∀ kind, 0 ≤ t.statements kind) :
    SumsTo build s.shared.app (es.filterMap (savedAmount? es s)).sum := by
  rw [← sum_saveCalls hrun]
  refine sumsTo_of_represents build (run_counted hrun) ?_
  intro c hc kind
  rcases List.mem_append.mp hc with hc | hc
  · obtain ⟨i, hi, rfl⟩ := List.mem_map.mp hc
    refine ThreadCounters.statements_sum_nonneg ?_
    intro t ht
    obtain ⟨a, ha, hamount⟩ := List.mem_filterMap.mp ht
    exact hamounts t (List.mem_filterMap.mpr ⟨_, mem_historyOf.mp ha, hamount⟩) kind
  · split_ifs at hc with hpast
    · obtain rfl := List.mem_singleton.mp hc
      refine ThreadCounters.statements_sum_nonneg ?_
      intro t ht
      obtain ⟨e, he, hamount⟩ := List.mem_filterMap.mp ht
      refine hamounts t (List.mem_filterMap.mpr ⟨e, he, ?_⟩) kind
      cases e with
      | main => exact hamount
      | worker => cases hamount
    · cases hc

/-- A worker whose connection is not configured throws with empty hands, the other one logs. -/
def unconfiguredWorker : List Event :=
  startWorkers 2 ++ [.worker 0 (.exec .nameThreadForDebugging), .worker 0 .throw] ++ untilTests 1 ++
    [.worker 0 (.emit ⟨.critical, "no configuration"⟩), .worker 1 (.emit ⟨.info, "b"⟩),
      .worker 1 (.exec .testQueryBuilder), .worker 1 (.log ⟨7, 4, ⟨1, 0, 0⟩, false⟩),
      .worker 1 (.exec .testTinyOrm), .worker 1 (.exec .saveCountersForAppSummary),
      .worker 1 (.exec .saveLogsFromThread), .worker 0 .leaveCatch] ++ finishRun ++
    [.main (.exec .saveCountersForAppSummary)]

theorem summary_totals_unconfigured :
    ∃ s, Runs.run step (start (.initial true false ["other", "sqlite"])) unconfiguredWorker =
        some s ∧
      SumsTo bareBuild s.shared.app
        (unconfiguredWorker.filterMap (savedAmount? unconfiguredWorker s)).sum := by
  have hends : (Runs.run step (start (.initial true false ["other", "sqlite"]))
      unconfiguredWorker).isSome = true := by decide
  obtain ⟨s, hrun⟩ := Option.isSome_iff_exists.mp hends
  have hamounts : unconfiguredWorker.filterMap Event.amount? = [⟨7, 4, ⟨1, 0, 0⟩, false⟩] := by
    decide
  refine ⟨s, hrun, summary_totals bareBuild hrun ?_⟩
  intro t ht kind
  rw [hamounts] at ht
  obtain rfl := List.mem_singleton.mp ht
  cases kind <;> decide

end System

end TinyPlay

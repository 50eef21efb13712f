import TinyPlay.Proofs.Benchmark
import TinyPlay.Proofs.Conservation
import Mathlib.Algebra.Order.BigOperators.Group.List
import Mathlib.Algebra.Order.Group.Int

/-! What the main thread counted is what the script averages: the reports of a thread are the
entries of its run, so no name in them is read as a time, and the times of the Application Summary
are the ones that the calls of the run were given and took. -/

namespace TinyPlay

open Lines Culture

variable {σ : Type} {orm : Orm σ} {cs : List String} {u : Culture}
  {pendingElapsed : σ → String → ℤ} {pendingStatements : σ → String → StatementsCounter}

/-! ### The names in the reports -/

theorem loop_names {ds : List String} {s s' : LogLoop σ}
    (h : ds.foldlM (logConnection orm) s = .ok s') :
    s'.blocks.map Prod.fst = s.blocks.map Prod.fst ++ ds := by
  induction ds generalizing s with
  | nil =>
    cases h
    exact (List.append_nil _).symm
  | cons d ds ih =>
    obtain ⟨s₁, h₁, h₂⟩ := bind_eq_ok.mp h
    obtain ⟨db, hlogged⟩ := logConnection_logged h₁
    obtain ⟨block, hblocks, -⟩ := hlogged.blocks
    rw [ih h₂, hblocks, List.map_append, List.append_assoc]
    rfl

/-- Every report has one block for each connection of the list, in its order. -/
theorem run_names {t t' : CountingThread σ} {ops : List CountingOp}
    (ht : ∀ report ∈ t.reports, report.connections.map Prod.fst = cs)
    (hrun : CountingThread.run orm cs t ops = .ok t') :
    ∀ report ∈ t'.reports, report.connections.map Prod.fst = cs := by
  induction ops generalizing t with
  | nil =>
    cases hrun
    exact ht
  | cons op ops ih =>
    obtain ⟨t₁, h₁, h₂⟩ := bind_eq_ok.mp hrun
    refine ih ?_ h₂
    cases op with
    | enableAllQueryLogCounters =>
      obtain ⟨db', -, rfl⟩ := map_eq_ok.mp h₁
      exact ht
    | resetAllQueryLogCounters =>
      cases h₁
      exact ht
    | execute c kind ms =>
      cases h₁
      exact ht
    | logQueryCounters fe =>
      obtain ⟨s, hloop, hs⟩ := bind_eq_ok.mp h₁
      cases hs
      refine List.forall_mem_append.mpr ⟨ht, List.forall_mem_singleton.mpr ?_⟩
      exact loop_names hloop

/-- Both lists of counted connections are parts of `CountableConnections`. -/
theorem Configuration.mem_countable_of_printed {cfg : Configuration} {name : String}
    (h : name ∈ cfg.appCountedConnectionsPrintable) : name ∈ cfg.countableConnections := by
  unfold appCountedConnectionsPrintable at h
  split_ifs at h
  · exact (List.mem_filter.mp (List.mem_of_mem_erase h)).1
  · exact (List.mem_filter.mp h).1

theorem Configuration.mem_countable_of_counted {cfg : Configuration} {name : String}
    (hcs : cfg.computeConnectionsToCount false "" = .ok cs) (h : name ∈ cs) :
    name ∈ cfg.countableConnections := by
  cases hcs
  exact (List.mem_filter.mp (List.mem_of_mem_erase h)).1

/-! ### The times -/

theorem givenTimes_nonneg {ops : List CountingOp}
    (h : ∀ n, .logQueryCounters (some n) ∈ ops → 0 ≤ n) : 0 ≤ givenTimes ops := by
  induction ops with
  | nil => exact le_rfl
  | cons op ops ih =>
    have hops := ih fun n hn => h n (List.mem_cons_of_mem op hn)
    cases op with
    | logQueryCounters fe =>
      cases fe with
      | none => simpa [givenTimes] using hops
      | some n => exact add_nonneg (h n List.mem_cons_self) hops
    | _ => exact hops

/-- The query times of a run that were counted and taken. -/
def takenTimes (orm : Orm σ) (cs : List String) (db : σ) (ops : List CountingOp) : ℤ :=
  ((countedStatements orm cs orm.elapsed.counting ⟨db, 0, []⟩ ops).map fun e => (e.2 : ℤ)).sum

theorem takenTimes_nonneg (orm : Orm σ) (cs : List String) (db : σ) (ops : List CountingOp) :
    0 ≤ takenTimes orm cs db ops := by
  apply List.sum_nonneg
  intro x hx
  obtain ⟨e, -, rfl⟩ := List.mem_map.mp hx
  exact Int.natCast_nonneg e.2

/-! ### A run that prints what it counted -/

def LogEntry.report? : LogEntry → Option CountersReport
  | .queryCounters _ _ _ report => some report
  | .other _ => none

/-- The run is in single-threaded mode and prints what its main thread counted in the calls `ops`,
from a start where nothing counts. No counted name and no other line is read as a time. -/
structure ProgramRun.Counts (r : ProgramRun) (orm : Orm σ) (u : Culture) (db : σ)
    (ops : List CountingOp) : Prop where
  single : r.printer.cfg.connectionsInThreads = false
  counted : r.printer.cfg.computeConnectionsToCount false "" = .ok r.printer.connectionsToCount
  start : ∀ n, orm.elapsed.counting db n = false
  thread : ∃ t, CountingThread.run orm r.printer.connectionsToCount ⟨db, 0, []⟩ ops = .ok t ∧
    r.printer.thread = t.counters ∧ r.entries.filterMap LogEntry.report? = t.reports
  times : ∀ n, .logQueryCounters (some n) ∈ ops → 0 ≤ n
  names : ∀ name ∈ r.printer.cfg.countableConnections,
    Silent u name.toList ∧ titleContains name "Application" = false
  comma : r.printer.build.CommaSeparates
  environment : ∀ m ∈ environmentMessages r.printer.build,
    Elapsed.Ignores u m ∧ messageReads u.threadsModePattern m = []
  others : ∀ message, .other message ∈ r.entries → Elapsed.Ignores u message
  calls : ∀ connectionsToCount thread func report,
    .queryCounters connectionsToCount thread func report ∈ r.entries →
      connectionsToCount = r.printer.connectionsToCount ∧ Elapsed.Ignores u (playTestMessage func)

variable {r : ProgramRun} {db : σ} {ops : List CountingOp}

theorem ProgramRun.Counts.queriesElapsed (h : r.Counts orm u db ops)
    (hlawful : orm.Lawful pendingElapsed pendingStatements) :
    r.printer.thread.queriesElapsed = takenTimes orm r.printer.connectionsToCount db ops := by
  obtain ⟨t, hrun, hthread, -⟩ := h.thread
  rw [hthread]
  exact ((Figure.queriesElapsed_kept hlawful).total rfl h.start hrun).1

theorem ProgramRun.Counts.functionsElapsed (h : r.Counts orm u db ops) :
    r.printer.thread.functionsElapsed = givenTimes ops := by
  obtain ⟨t, hrun, hthread, -⟩ := h.thread
  rw [hthread, run_functionsElapsed hrun]
  exact zero_add _

theorem ProgramRun.Counts.readable (h : r.Counts orm u db ops)
    (hlawful : orm.Lawful pendingElapsed pendingStatements) : r.Readable u where
  single := h.single
  functionsElapsed := by
    rw [h.functionsElapsed]
    exact givenTimes_nonneg h.times
  queriesElapsed := by
    rw [h.queriesElapsed hlawful]
    exact takenTimes_nonneg _ _ _ _
  comma := h.comma
  environment := h.environment
  countedNames name hname := (h.names name (Configuration.mem_countable_of_printed hname)).1
  entries := by
    intro e he
    cases e with
    | other message => exact h.others message he
    | queryCounters connectionsToCount thread func report =>
      obtain ⟨hcs, hfunc⟩ := h.calls _ _ _ _ he
      obtain ⟨t, hrun, -, hreports⟩ := h.thread
      have hreport : report ∈ t.reports := by
        rw [← hreports]
        exact List.mem_filterMap.mpr ⟨_, he, rfl⟩
      have hblocks := run_names (fun _ hnone => absurd hnone List.not_mem_nil) hrun report hreport
      have hnames : ∀ name ∈ r.printer.connectionsToCount,
          Silent u name.toList ∧ titleContains name "Application" = false := fun name hname =>
        h.names name (Configuration.mem_countable_of_counted h.counted hname)
      refine ⟨hfunc, fun name hname => (hnames name (hcs ▸ hname)).1, ?_⟩
      intro block hblock
      exact hnames block.1 (hblocks ▸ List.mem_map_of_mem hblock)

/-- What the script prints about a run that counted: the function times that the calls were given
and the query times that they took. -/
def countedElapsed (orm : Orm σ) (run : ProgramRun × σ × List CountingOp) : RunElapsed where
  singleThread := some ((toString (givenTimes run.2.2)).toList,
    (toString (takenTimes orm run.1.printer.connectionsToCount run.2.1 run.2.2)).toList)
  total := (toString run.1.totalElapsed).toList

theorem ProgramRun.Counts.elapsed_eq {run : ProgramRun × σ × List CountingOp}
    (h : run.1.Counts orm u run.2.1 run.2.2)
    (hlawful : orm.Lawful pendingElapsed pendingStatements) :
    run.1.elapsed = countedElapsed orm run := by
  rw [countedElapsed, ← h.functionsElapsed, ← h.queriesElapsed hlawful]
  rfl

/-- The numbers that the script averages. -/
def countedAverages (orm : Orm σ) (runs : List (ProgramRun × σ × List CountingOp)) : Averages where
  singleThread := some (runs.map fun run => (toString (givenTimes run.2.2)).toList,
    runs.map fun run =>
      (toString (takenTimes orm run.1.printer.connectionsToCount run.2.1 run.2.2)).toList)
  total := runs.map fun run => (toString run.1.totalElapsed).toList

/-- The script reads out of the log, run by run, the function times that the calls were given and
the query times that they counted. With counted names that leave the threads mode within its last
20 lines, a whole execution of the script prints and averages just these. -/
theorem script_averages_counted (hlawful : orm.Lawful pendingElapsed pendingStatements)
    {runs : List (ProgramRun × σ × List CountingOp)}
    (h : ∀ run ∈ runs, run.1.Counts orm u run.2.1 run.2.2) :
    selectString u.functionsPattern (lines (errorLog (runs.map Prod.fst))) =
      (runs.map fun run => (toString (givenTimes run.2.2)).toList) ∧
    selectString u.queriesAveragePattern (lines (errorLog (runs.map Prod.fst))) =
      (runs.map fun run =>
        (toString (takenTimes orm run.1.printer.connectionsToCount run.2.1 run.2.2)).toList) ∧
    (runs ≠ [] → (∀ run ∈ runs, run.1.printer.CountedFits) →
      invoke u (runs.map fun run => (0, consoleText run.1.messages)) =
        .ok (runs.map (countedElapsed orm), countedAverages orm runs)) := by
  have hreadable : ∀ r ∈ runs.map Prod.fst, r.Readable u := by
    intro r hr
    obtain ⟨run, hrun, rfl⟩ := List.mem_map.mp hr
    exact (h run hrun).readable hlawful
  have hgiven : (runs.map Prod.fst).map Elapsed.functions.ofRun =
      runs.map fun run => (toString (givenTimes run.2.2)).toList := by
    rw [List.map_map]
    refine List.map_congr_left fun run hrun => ?_
    rw [← (h run hrun).functionsElapsed]
    rfl
  have htaken : (runs.map Prod.fst).map Elapsed.queriesAverage.ofRun = runs.map fun run =>
      (toString (takenTimes orm run.1.printer.connectionsToCount run.2.1 run.2.2)).toList := by
    rw [List.map_map]
    refine List.map_congr_left fun run hrun => ?_
    rw [← (h run hrun).queriesElapsed hlawful]
    rfl
  refine ⟨(reads_runs (k := .functions) (by decide) hreadable).trans hgiven,
    (reads_runs (k := .queriesAverage) (by decide) hreadable).trans htaken, fun hne hfits => ?_⟩
  have hfits' : ∀ r ∈ runs.map Prod.fst, r.printer.CountedFits := by
    intro r hr
    obtain ⟨run, hrun, rfl⟩ := List.mem_map.mp hr
    exact hfits run hrun
  have hinvoke := invoke_runs (by simpa using hne) hreadable hfits'
  have helapsed : (runs.map Prod.fst).map ProgramRun.elapsed = runs.map (countedElapsed orm) := by
    rw [List.map_map]
    exact List.map_congr_left fun run hrun => (h run hrun).elapsed_eq hlawful
  have haverages : averagesOf (runs.map Prod.fst) = countedAverages orm runs := by
    rw [averagesOf, hgiven, htaken, List.map_map]
    rfl
  rw [List.map_map, helapsed, haverages] at hinvoke
  exact hinvoke

/-- One select on the counted connection, logged once. -/
def selectOnce : List CountingOp :=
  [.enableAllQueryLogCounters, .execute "mysql" .normal 4, .logQueryCounters (some 9)]

/-- What the run of `selectOnce` prints. -/
def selectRun : ProgramRun :=
  { plainRun with
    printer := { plainRun.printer with thread := ⟨9, 4, ⟨1, 0, 0⟩, false⟩ }
    entries := [.queryCounters ["mysql"] ⟨9, 4, ⟨1, 0, 0⟩, false⟩ "TestTinyOrm"
      ⟨some 9, [("mysql", ⟨4, ⟨1, 0, 0⟩, false⟩)], ⟨4, ⟨1, 0, 0⟩, false⟩⟩] }

theorem selectRun_counts : selectRun.Counts Pool.orm ascii Pool.empty selectOnce where
  single := rfl
  counted := by decide
  start _ := rfl
  thread := by
    refine ⟨_, rfl, ?_, ?_⟩ <;> decide
  times := by
    intro n hn
    simp [selectOnce] at hn
    omega
  names := by
    intro name hname
    obtain rfl := List.mem_singleton.mp hname
    exact ⟨silent_of_wide (by decide), by decide⟩
  comma := plainRun_readable.comma
  environment := plainRun_readable.environment
  others := by
    intro message hmessage
    simp [selectRun] at hmessage
  calls := by
    intro connectionsToCount thread func report hentry
    obtain ⟨rfl, -, rfl, -⟩ := LogEntry.queryCounters.inj (List.mem_singleton.mp hentry)
    exact ⟨rfl, fun k => reads_of_wide k (by decide)⟩

theorem script_averages_counted_selectOnce :
    selectString ascii.functionsPattern (lines (errorLog [selectRun, selectRun])) =
      ["9".toList, "9".toList] ∧
    selectString ascii.queriesAveragePattern (lines (errorLog [selectRun, selectRun])) =
      ["4".toList, "4".toList] ∧
    invoke ascii [(0, consoleText selectRun.messages), (0, consoleText selectRun.messages)] =
      .ok ([⟨some ("9".toList, "4".toList), "99".toList⟩,
          ⟨some ("9".toList, "4".toList), "99".toList⟩],
        ⟨some (["9".toList, "9".toList], ["4".toList, "4".toList]),
          ["99".toList, "99".toList]⟩) := by
  have hcounts : ∀ run ∈ [(selectRun, Pool.empty, selectOnce), (selectRun, Pool.empty, selectOnce)],
      run.1.Counts Pool.orm ascii run.2.1 run.2.2 := by
    intro run hrun
    obtain rfl : run = (selectRun, Pool.empty, selectOnce) := by simpa using hrun
    exact selectRun_counts
  obtain ⟨hfunctions, hqueries, hinvoke⟩ := script_averages_counted Pool.lawful hcounts
  refine ⟨hfunctions.trans (by decide), hqueries.trans (by decide), ?_⟩
  refine (hinvoke (by simp) ?_).trans (by decide)
  intro run hrun
  obtain rfl : run = (selectRun, Pool.empty, selectOnce) := by simpa using hrun
  unfold Printer.CountedFits
  decide

end TinyPlay

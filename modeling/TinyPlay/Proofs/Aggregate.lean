import TinyPlay.Lib.Sentinel
import TinyPlay.Proofs.Figure
import TinyPlay.Spec.Printing
import Mathlib.Algebra.BigOperators.Pi
import Mathlib.Tactic.Abel

/-! The sums of the Application Summary. The three columns of a counter are three counters that
may be off, a list of counters means their sum, and the loops of the service compute the codes of
that sum. -/

namespace TinyPlay

open Sentinel

variable {build : Build} {items : List (AppCounterItem StatementsCounter)}

/-! ### The loops as sums -/

/-- The columns in the order in which the loops visit them. -/
def StatementsCounter.columns (c : StatementsCounter) : List ℤ :=
  [c.normal, c.affecting, c.transactional]

def StatementsCounterTotal.column (sum : StatementsCounterTotal) : StatementKind → ℤ
  | .normal => sum.normal
  | .affecting => sum.affecting
  | .transactional => sum.transactional

/-- The `sumCounters` of `appStatementsCounterPrintable`. -/
def sumCounters (build : Build) (items : List (AppCounterItem StatementsCounter)) :
    StatementsCounterTotal :=
  appSumUpCounters build items (appZeroCounters items ⟨-1, -1, -1, -1⟩)

theorem column_appSumUpCounter (sum : StatementsCounterTotal)
    (item : AppCounterItem StatementsCounter) (kind : StatementKind) :
    (appSumUpCounter build sum item).column kind =
      if item.value.column kind > -1 then build.int (sum.column kind + item.value.column kind)
      else sum.column kind := by
  obtain ⟨threadName, normal, affecting, transactional⟩ := item
  unfold appSumUpCounter
  cases kind <;> dsimp only [StatementsCounter.column] <;> split_ifs <;>
    simp [StatementsCounterTotal.column, *]

theorem total_appSumUpCounter (sum : StatementsCounterTotal)
    (item : AppCounterItem StatementsCounter) :
    (appSumUpCounter build sum item).total = item.value.columns.foldl
      (fun sum v => if v > -1 then build.qint64 (sum + v) else sum) sum.total := by
  obtain ⟨threadName, normal, affecting, transactional⟩ := item
  unfold appSumUpCounter
  simp only [StatementsCounter.columns, List.foldl_cons, List.foldl_nil]
  split_ifs <;> rfl

theorem column_appSumUpCounters (sum : StatementsCounterTotal) (kind : StatementKind) :
    (appSumUpCounters build items sum).column kind =
      (items.map fun item => item.value.column kind).foldl
        (fun sum v => if v > -1 then build.int (sum + v) else sum) (sum.column kind) := by
  unfold appSumUpCounters
  induction items generalizing sum with
  | nil => rfl
  | cons item items ih =>
    rw [List.foldl_cons, ih, column_appSumUpCounter]
    rfl

theorem total_appSumUpCounters (sum : StatementsCounterTotal) :
    (appSumUpCounters build items sum).total =
      (items.flatMap fun item => item.value.columns).foldl
        (fun sum v => if v > -1 then build.qint64 (sum + v) else sum) sum.total := by
  unfold appSumUpCounters
  induction items generalizing sum with
  | nil => rfl
  | cons item items ih =>
    rw [List.foldl_cons, ih, total_appSumUpCounter, List.flatMap_cons, List.foldl_append]

theorem column_sumCounters (kind : StatementKind) : (sumCounters build items).column kind =
    sumUp build.int (items.map fun item => item.value.column kind) := by
  unfold sumCounters sumUp
  rw [column_appSumUpCounters, List.any_map]
  cases kind <;> rfl

theorem total_sumCounters : (sumCounters build items).total =
    sumUp build.qint64 (items.flatMap fun item => item.value.columns) := by
  unfold sumCounters sumUp
  rw [total_appSumUpCounters, List.any_flatMap]
  simp [appZeroCounters, StatementsCounter.columns, or_assoc]

theorem threadTotal_eq (c : StatementsCounter) :
    threadTotal build c = sumUp build.qint64 c.columns := by
  unfold threadTotal sumUp
  simp [StatementsCounter.columns]

/-! ### What a list of counters means -/

/-- The three columns of a counter, each of which may be off. -/
abbrev Counts := StatementKind → WithZero ℕ

def StatementsCounter.counts (c : StatementsCounter) : Counts := fun kind => meaning (c.column kind)

def Counts.total (n : Counts) : WithZero ℕ := n .normal + n .affecting + n .transactional

/-- The sums that show `n`. -/
def Counts.shown (n : Counts) : StatementsCounterTotal :=
  ⟨code (n .normal), code (n .affecting), code (n .transactional), code n.total⟩

def countsOf (items : List (AppCounterItem StatementsCounter)) : Counts :=
  (items.map fun item => item.value.counts).sum

theorem column_shown (n : Counts) (kind : StatementKind) : n.shown.column kind = code (n kind) := by
  cases kind <;> rfl

theorem countsOf_apply (items : List (AppCounterItem StatementsCounter)) (kind : StatementKind) :
    countsOf items kind = ((items.map fun item => item.value.column kind).map meaning).sum := by
  unfold countsOf
  rw [Pi.list_sum_apply, List.map_map, List.map_map]
  rfl

theorem total_counts (c : StatementsCounter) : c.counts.total = (c.columns.map meaning).sum := by
  simp [StatementsCounter.columns, Counts.total, StatementsCounter.counts, StatementsCounter.column,
    add_assoc]

theorem Counts.total_add (m n : Counts) : (m + n).total = m.total + n.total := by
  simp only [Counts.total, Pi.add_apply]
  abel

theorem total_countsOf (items : List (AppCounterItem StatementsCounter)) :
    (countsOf items).total = (items.map fun item => item.value.counts.total).sum := by
  unfold countsOf
  induction items with
  | nil => rfl
  | cons item items ih => rw [List.map_cons, List.sum_cons, Counts.total_add, ih, List.map_cons,
      List.sum_cons]

theorem total_countsOf_flatMap (items : List (AppCounterItem StatementsCounter)) :
    (countsOf items).total =
      ((items.flatMap fun item => item.value.columns).map meaning).sum := by
  rw [total_countsOf, List.map_flatMap, List.flatMap_def, List.sum_flatten, List.map_map]
  exact congrArg List.sum (List.map_congr_left fun item _ => total_counts item.value)

theorem Counts.total_eq_zero {n : Counts} : n.total = 0 ↔ ∀ kind, n kind = 0 := by
  have h : n.total = [n .normal, n .affecting, n .transactional].sum := by
    simp [Counts.total, add_assoc]
  rw [h, sum_eq_zero_iff]
  constructor
  · intro hall kind
    cases kind <;> exact hall _ (by simp)
  · intro hall c hc
    simp only [List.mem_cons, List.not_mem_nil, or_false] at hc
    rcases hc with rfl | rfl | rfl <;> exact hall _

/-! ### The sums are the sums of what is meant -/

/-- The build as it were if `int` and `qint64` were unbounded. -/
def Build.unbounded (build : Build) : Build := { build with int := id, qint64 := id }

theorem sumCounters_unbounded (build : Build) (items : List (AppCounterItem StatementsCounter)) :
    sumCounters build.unbounded items = (countsOf items).shown := by
  have hcolumn : ∀ kind, (sumCounters build.unbounded items).column kind =
      code (countsOf items kind) := by
    intro kind
    rw [column_sumCounters, countsOf_apply]
    exact sumUp_of_exact fun _ _ _ => rfl
  have htotal : (sumCounters build.unbounded items).total = code (countsOf items).total := by
    rw [total_sumCounters, total_countsOf_flatMap]
    exact sumUp_of_exact fun _ _ _ => rfl
  rw [Counts.shown, ← hcolumn, ← hcolumn, ← hcolumn, ← htotal]
  rfl

theorem threadTotal_unbounded (build : Build) (c : StatementsCounter) :
    threadTotal build.unbounded c = code c.counts.total := by
  rw [threadTotal_eq, total_counts]
  exact sumUp_of_exact fun _ _ _ => rfl

theorem readZero_code (c : WithZero ℕ) : readZero (code c) = value c := by
  unfold readZero
  split_ifs with h
  · rw [code_eq_neg_one.mp h, map_zero]
  · exact code_of_ne_zero (mt code_eq_neg_one.mpr h)

/-- Two sums combined column by column. -/
def StatementsCounterTotal.absorb (a b : StatementsCounterTotal) : StatementsCounterTotal :=
  ⟨Sentinel.absorb a.normal b.normal, Sentinel.absorb a.affecting b.affecting,
    Sentinel.absorb a.transactional b.transactional, Sentinel.absorb a.total b.total⟩

theorem Counts.shown_add (m n : Counts) : (m + n).shown = m.shown.absorb n.shown := by
  unfold shown StatementsCounterTotal.absorb
  rw [Counts.total_add]
  simp only [Pi.add_apply, code_add]

/-- What the printed sums of a list of counters are, where -1 shows what is off. -/
structure SumsExactly (build : Build) (items : List (AppCounterItem StatementsCounter))
    (sum : StatementsCounterTotal) : Prop where
  columns : ∀ kind, sum.column kind =
    if ∀ item ∈ items, item.value.column kind = -1 then -1
    else ((items.map fun item => item.value.column kind).filter (0 ≤ ·)).sum
  total_off : sum.total = -1 ↔ ∀ kind, sum.column kind = -1
  total : sum.total ≠ -1 →
    sum.total = readZero sum.normal + readZero sum.affecting + readZero sum.transactional
  threads : readZero sum.total = (items.map fun item => readZero (threadTotal build item.value)).sum
  /-- The totals of the threads are printed behind a total that is positive. -/
  printed : 1 ≤ sum.total → (appStatementsCounterPrintable build items).total =
    toString (items.map fun item => readZero (threadTotal build item.value)).sum ++ " [" ++
      build.comma.intercalate (items.map fun item =>
        counterPrintable (toString (threadTotal build item.value)) item.threadName) ++ "]"

theorem sumsExactly (build : Build) {items : List (AppCounterItem StatementsCounter)}
    (hitems : ∀ item ∈ items, ∀ kind, -1 ≤ item.value.column kind) :
    SumsExactly build.unbounded items (sumCounters build.unbounded items) := by
  have hthreads : readZero (sumCounters build.unbounded items).total =
      (items.map fun item => readZero (threadTotal build.unbounded item.value)).sum := by
    rw [sumCounters_unbounded]
    simp only [Counts.shown, readZero_code, threadTotal_unbounded, total_countsOf, map_list_sum,
      List.map_map]
    rfl
  refine ⟨?_, ?_, ?_, hthreads, ?_⟩
  · intro kind
    have hcolumn : ∀ v ∈ items.map fun item => item.value.column kind, -1 ≤ v :=
      List.forall_mem_map.mpr fun item hitem => hitems item hitem kind
    rw [sumCounters_unbounded, column_shown, countsOf_apply, ← total_eq_code hcolumn,
      Sentinel.total]
    simp only [List.forall_mem_map]
    rfl
  · rw [sumCounters_unbounded]
    simp only [column_shown, code_eq_neg_one]
    exact code_eq_neg_one.trans Counts.total_eq_zero
  · rw [sumCounters_unbounded]
    intro hne
    have hvalue := code_of_ne_zero (mt code_eq_neg_one.mpr hne)
    simp only [Counts.shown, readZero_code]
    rw [hvalue, Counts.total, map_add, map_add]
  · intro hpos
    rw [readZero_of_nonneg (by omega)] at hthreads
    rw [← hthreads]
    exact if_neg (not_lt.mpr hpos)

/-- The sums do not depend on the order of the counters, and the sums of two lists in a row are
their sums combined. -/
theorem sumCounters_exact (build : Build) {items : List (AppCounterItem StatementsCounter)}
    (hitems : ∀ item ∈ items, ∀ kind, -1 ≤ item.value.column kind) :
    SumsExactly build.unbounded items (sumCounters build.unbounded items) ∧
    (∀ items', items.Perm items' →
      sumCounters build.unbounded items' = sumCounters build.unbounded items) ∧
    ∀ items', sumCounters build.unbounded (items ++ items') =
      (sumCounters build.unbounded items).absorb (sumCounters build.unbounded items') := by
  refine ⟨sumsExactly build hitems, ?_, ?_⟩
  · intro items' hperm
    rw [sumCounters_unbounded, sumCounters_unbounded, countsOf, countsOf, (hperm.map _).sum_eq]
  · intro items'
    simp only [sumCounters_unbounded, countsOf, List.map_append, List.sum_append,
      Counts.shown_add]

/-- A build without texts whose integers are unbounded. -/
def bareBuild : Build where
  comma := ", "
  compiler := ""
  simulated := none
  qtVersion := ""
  qtIsDebugBuild := false
  qtBuild := ""
  ormVersion := ""
  ormIsDebugBuild := false
  ormBuild := ""
  playVersion := ""
  playNoDebug := true
  int := id
  qint64 := id

def twoThreads : List (AppCounterItem StatementsCounter) :=
  [⟨"mysql", ⟨4, -1, -1⟩⟩, ⟨"sqlite", ⟨3, -1, 0⟩⟩]

theorem sumCounters_exact_twoThreads :
    SumsExactly bareBuild twoThreads ⟨7, -1, 0, 7⟩ ∧
    (appStatementsCounterPrintable bareBuild twoThreads).total =
      "7 [4 (mysql), 3 (sqlite)]" := by
  have hitems : ∀ item ∈ twoThreads, ∀ kind, -1 ≤ item.value.column kind := by
    intro item hitem kind
    simp only [twoThreads, List.mem_cons, List.not_mem_nil, or_false] at hitem
    rcases hitem with rfl | rfl <;> cases kind <;> decide
  have hsums := (sumCounters_exact bareBuild hitems).1
  exact ⟨hsums, (hsums.printed (by decide)).trans (by decide)⟩

end TinyPlay

import TinyPlay.Proofs.Aggregate
import TinyPlay.Proofs.Printed
import Mathlib

/-! The printed statement totals when `int` has 32 bits. One path keeps its total in an `int`, the
other one in a `qint64`, and the columns of both are `int`s: what is printed is the true sum as long
as that sum is an `int`. -/

namespace TinyPlay

open Sentinel

variable {build : Build} {items : List (AppCounterItem StatementsCounter)}

/-- `int` has 32 bits and `qint64` has 64. -/
structure Build.Widths (build : Build) : Prop where
  int : Holds build.int (2 ^ 31)
  qint64 : Holds build.qint64 (2 ^ 63)

/-- The fields of a counter are `int`s, none of them below -1. -/
def StatementsCounter.Fits (c : StatementsCounter) : Prop :=
  ∀ kind, -1 ≤ c.column kind ∧ c.column kind < 2 ^ 31

def StatementsCounterPrintable.column (p : StatementsCounterPrintable) : StatementKind → String
  | .normal => p.normal
  | .affecting => p.affecting
  | .transactional => p.transactional

/-! ### The number in front of the brackets -/

/-- A printed sum without what stands in brackets behind it. -/
def printedSum (text : String) : String := String.ofList (text.toList.takeWhile (· ≠ ' '))

theorem ne_blank_of_mem_toString {n : ℤ} {c : Char} (hc : c ∈ (toString n).toList) : c ≠ ' ' := by
  rintro rfl
  rw [Int.toString_eq_repr, Int.repr_eq_if] at hc
  split_ifs at hc
  · exact absurd (isDigit_of_mem_repr hc) (by decide)
  · rw [String.toList_append, List.mem_append] at hc
    rcases hc with hc | hc
    · exact absurd hc (by decide)
    · exact absurd (isDigit_of_mem_repr hc) (by decide)

theorem printedSum_toString (n : ℤ) : printedSum (toString n) = toString n := by
  rw [printedSum, List.takeWhile_eq_self_iff.mpr, String.ofList_toList]
  intro c hc
  simpa using ne_blank_of_mem_toString hc

theorem printedSum_sumPrintable (sum : ℤ) (value : StatementsCounter → ℤ) :
    printedSum (sumPrintable build sum items value) = toString sum := by
  unfold sumPrintable
  split_ifs
  · exact printedSum_toString sum
  · rw [printedSum, String.append_assoc, String.append_assoc, String.toList_append,
      List.takeWhile_append_of_pos]
    · rw [String.toList_append]
      have hblank : " [".toList = [' ', '['] := rfl
      rw [hblank, List.cons_append, List.takeWhile_cons_of_neg (by decide), List.append_nil,
        String.ofList_toList]
    · intro c hc
      simpa using ne_blank_of_mem_toString hc

theorem toString_inj {m n : ℤ} : toString m = toString n ↔ m = n := by
  rw [Int.toString_eq_repr, Int.toString_eq_repr, Int.repr_inj]

/-! ### Both paths -/

/-- The total of the single-thread path. -/
def singleTotal (build : Build) (functionsElapsed : ℤ) (counters : BlockCounters) : String :=
  (getAppCountersPrintable build functionsElapsed counters).statementsCounter.total

/-- The total of the multi-thread path. -/
def multiTotal (build : Build) (items : List (AppCounterItem StatementsCounter)) : String :=
  printedSum (appStatementsCounterPrintable build items).total

/-- Both paths print the true total of one counter. -/
structure TotalsAgree (build : Build) (functionsElapsed : ℤ) (counters : BlockCounters)
    (threadName : String) : Prop where
  single : singleTotal build functionsElapsed counters =
    toString (Sentinel.total counters.statementsCounter.columns)
  multi : multiTotal build [⟨threadName, counters.statementsCounter⟩] =
    toString (Sentinel.total counters.statementsCounter.columns)
  agree : singleTotal build functionsElapsed counters =
    multiTotal build [⟨threadName, counters.statementsCounter⟩]

/-- Every sum of the multi-thread path is the true sum of what stands behind it. -/
structure GrandTotalsAgree (build : Build) (items : List (AppCounterItem StatementsCounter)) :
    Prop where
  columns : ∀ kind, printedSum ((appStatementsCounterPrintable build items).column kind) =
    toString (Sentinel.total (items.map fun item => item.value.column kind))
  total : multiTotal build items =
    toString (Sentinel.total (items.map fun item => threadTotal build item.value))

theorem singleTotal_eq (functionsElapsed : ℤ) (counters : BlockCounters) :
    singleTotal build functionsElapsed counters =
      toString (sumUp build.int counters.statementsCounter.columns) := by
  unfold singleTotal getAppCountersPrintable sumUp
  simp [StatementsCounter.columns]

theorem multiTotal_eq : multiTotal build items =
    toString (sumUp build.qint64 (items.flatMap fun item => item.value.columns)) := by
  rw [← total_sumCounters]
  exact printedSum_sumPrintable _ _

theorem multi_column (kind : StatementKind) :
    printedSum ((appStatementsCounterPrintable build items).column kind) =
      toString (sumUp build.int (items.map fun item => item.value.column kind)) := by
  rw [← column_sumCounters]
  cases kind <;> exact printedSum_sumPrintable _ _

/-! ### What fits -/

theorem StatementsCounter.Fits.columns {c : StatementsCounter} (h : c.Fits) :
    ∀ v ∈ c.columns, -1 ≤ v ∧ v < 2 ^ 31 := by
  intro v hv
  simp only [StatementsCounter.columns, List.mem_cons, List.not_mem_nil, or_false] at hv
  rcases hv with rfl | rfl | rfl
  · exact h .normal
  · exact h .affecting
  · exact h .transactional

/-- Three `int`s add up to a `qint64`. -/
theorem StatementsCounter.Fits.counted_lt {c : StatementsCounter} (h : c.Fits) :
    counted c.columns < 2 ^ 63 := by
  have hn := (h .normal).2
  have ha := (h .affecting).2
  have ht := (h .transactional).2
  simp only [StatementsCounter.column] at hn ha ht
  simp only [StatementsCounter.columns, counted_cons]
  have hnil : counted [] = 0 := rfl
  split_ifs <;> omega

theorem Build.Widths.sumUp_int (h : build.Widths) {vs : List ℤ} (hvs : ∀ v ∈ vs, -1 ≤ v) :
    sumUp build.int vs = Sentinel.total vs ↔ counted vs < 2 ^ 31 := by
  rw [total_eq_code hvs]
  exact h.int.sumUp_eq_iff (by norm_num) vs

theorem Build.Widths.sumUp_qint64 (h : build.Widths) {vs : List ℤ} (hlt : counted vs < 2 ^ 63) :
    sumUp build.qint64 vs = code (vs.map meaning).sum :=
  (h.qint64.sumUp_eq_iff (by norm_num) vs).mpr hlt

theorem Build.Widths.threadTotal_eq_code (h : build.Widths) {c : StatementsCounter}
    (hc : c.Fits) : threadTotal build c = code c.counts.total := by
  rw [threadTotal_eq, h.sumUp_qint64 hc.counted_lt, total_counts]

/-- What all threads counted is what they counted column by column. -/
theorem counted_flatMap (items : List (AppCounterItem StatementsCounter)) :
    counted (items.flatMap fun item => item.value.columns) =
      counted (items.map fun item => item.value.column .normal) +
      counted (items.map fun item => item.value.column .affecting) +
      counted (items.map fun item => item.value.column .transactional) := by
  simp only [← value_sum, ← countsOf_apply, ← total_countsOf_flatMap, Counts.total, map_add]

theorem Build.Widths.totalsAgree_iff (h : build.Widths) (functionsElapsed : ℤ)
    (counters : BlockCounters) (threadName : String) (hfits : counters.statementsCounter.Fits) :
    TotalsAgree build functionsElapsed counters threadName ↔
      counted counters.statementsCounter.columns < 2 ^ 31 := by
  have hcolumns := fun v hv => (hfits.columns v hv).1
  have hmulti : multiTotal build [⟨threadName, counters.statementsCounter⟩] =
      toString (Sentinel.total counters.statementsCounter.columns) := by
    rw [multiTotal_eq, List.flatMap_singleton, h.sumUp_qint64 hfits.counted_lt,
      total_eq_code hcolumns]
  have hsingle : singleTotal build functionsElapsed counters =
      toString (Sentinel.total counters.statementsCounter.columns) ↔
      counted counters.statementsCounter.columns < 2 ^ 31 := by
    rw [singleTotal_eq, toString_inj]
    exact h.sumUp_int hcolumns
  constructor
  · intro hagree
    exact hsingle.mp hagree.single
  · intro hlt
    exact ⟨hsingle.mpr hlt, hmulti, (hsingle.mpr hlt).trans hmulti.symm⟩

theorem Build.Widths.multi_column_iff (h : build.Widths) (hitems : ∀ item ∈ items, item.value.Fits)
    (kind : StatementKind) :
    printedSum ((appStatementsCounterPrintable build items).column kind) =
        toString (Sentinel.total (items.map fun item => item.value.column kind)) ↔
      counted (items.map fun item => item.value.column kind) < 2 ^ 31 := by
  have hkind : ∀ v ∈ items.map fun item => item.value.column kind, -1 ≤ v :=
    List.forall_mem_map.mpr fun item hitem => (hitems item hitem kind).1
  rw [multi_column, toString_inj]
  exact h.sumUp_int hkind

/-- Three columns of `int`s add up to a `qint64`, and so do the totals of the threads. -/
theorem Build.Widths.multiTotal_of_columns (h : build.Widths)
    (hitems : ∀ item ∈ items, item.value.Fits)
    (hlt : ∀ kind, counted (items.map fun item => item.value.column kind) < 2 ^ 31) :
    multiTotal build items =
      toString (Sentinel.total (items.map fun item => threadTotal build item.value)) := by
  have hsum : counted (items.flatMap fun item => item.value.columns) < 2 ^ 63 := by
    rw [counted_flatMap]
    have hn := hlt .normal
    have ha := hlt .affecting
    have ht := hlt .transactional
    omega
  have htotals : (items.map fun item => threadTotal build item.value) =
      items.map fun item => code item.value.counts.total :=
    List.map_congr_left fun item hitem => h.threadTotal_eq_code (hitems item hitem)
  have hcodes : ∀ v ∈ items.map fun item => code item.value.counts.total, -1 ≤ v :=
    List.forall_mem_map.mpr fun item _ => neg_one_le_code _
  rw [multiTotal_eq, h.sumUp_qint64 hsum, htotals, total_eq_code hcodes,
    ← total_countsOf_flatMap, total_countsOf, List.map_map]
  simp only [Function.comp_def, meaning_code]

/-- The total of one counter is right in both paths if and only if it is an `int`; the sums over
threads are right if and only if the sum of each column is. -/
theorem totals_at_full_range (h : build.Widths) :
    (∀ functionsElapsed counters threadName, counters.statementsCounter.Fits →
      (TotalsAgree build functionsElapsed counters threadName ↔
        counted counters.statementsCounter.columns < 2 ^ 31)) ∧
    ∀ items, (∀ item ∈ items, item.value.Fits) →
      (GrandTotalsAgree build items ↔
        ∀ kind, counted (items.map fun item => item.value.column kind) < 2 ^ 31) := by
  constructor
  · intro functionsElapsed counters threadName hfits
    exact h.totalsAgree_iff functionsElapsed counters threadName hfits
  · intro items hitems
    constructor
    · intro hagree kind
      exact (h.multi_column_iff hitems kind).mp (hagree.columns kind)
    · intro hlt
      exact ⟨fun kind => (h.multi_column_iff hitems kind).mpr (hlt kind),
        h.multiTotal_of_columns hitems hlt⟩

/-- A build on which sums wrap around. -/
def wrappingBuild : Build :=
  { bareBuild with int := wrap (2 ^ 31), qint64 := wrap (2 ^ 63) }

theorem wrappingBuild_widths : wrappingBuild.Widths where
  int := holds_wrap (by norm_num)
  qint64 := holds_wrap (by norm_num)

theorem fits_of_bounds {c : StatementsCounter} (hn : -1 ≤ c.normal ∧ c.normal < 2 ^ 31)
    (ha : -1 ≤ c.affecting ∧ c.affecting < 2 ^ 31)
    (ht : -1 ≤ c.transactional ∧ c.transactional < 2 ^ 31) : c.Fits := by
  intro kind
  cases kind
  · exact hn
  · exact ha
  · exact ht

/-- One statement more than an `int` can count. -/
def overflowing : StatementsCounter := ⟨2 ^ 31 - 1, 1, -1⟩

theorem overflowing_fits : overflowing.Fits :=
  fits_of_bounds (by decide) (by decide) (by decide)

theorem totals_at_full_range_small :
    TotalsAgree wrappingBuild 9 ⟨4, ⟨4, -1, 0⟩, false⟩ "mysql" ∧
    GrandTotalsAgree wrappingBuild twoThreads := by
  have hfits : ∀ item ∈ twoThreads, item.value.Fits := by
    intro item hitem
    simp only [twoThreads, List.mem_cons, List.not_mem_nil, or_false] at hitem
    rcases hitem with rfl | rfl <;> exact fits_of_bounds (by decide) (by decide) (by decide)
  obtain ⟨hone, hall⟩ := totals_at_full_range wrappingBuild_widths
  refine ⟨(hone 9 _ "mysql" ?_).mpr (by decide), (hall twoThreads hfits).mpr ?_⟩
  · exact fits_of_bounds (by decide) (by decide) (by decide)
  · intro kind
    cases kind <;> decide

/-- Two threads whose normal statements are more than an `int` can count. -/
def overflowingThreads : List (AppCounterItem StatementsCounter) :=
  [⟨"mysql", ⟨2 ^ 31 - 1, -1, -1⟩⟩, ⟨"sqlite", ⟨1, -1, -1⟩⟩]

theorem full_range_overflows :
    singleTotal wrappingBuild 0 ⟨0, overflowing, false⟩ = "-2147483648" ∧
    (appStatementsCounterPrintable wrappingBuild [⟨"mysql", overflowing⟩]).total =
      "2147483648 [2147483648 (mysql)]" ∧
    (appStatementsCounterPrintable wrappingBuild overflowingThreads).normal = "-2147483648" ∧
    ¬∀ build : Build, build.Widths →
      (∀ functionsElapsed counters threadName, counters.statementsCounter.Fits →
        TotalsAgree build functionsElapsed counters threadName) ∧
      ∀ items, items.length < 2 ^ 31 → (∀ item ∈ items, item.value.Fits) →
        GrandTotalsAgree build items := by
  refine ⟨by decide, by decide, by decide, fun hclaim => ?_⟩
  have hsingle := ((hclaim wrappingBuild wrappingBuild_widths).1 0 ⟨0, overflowing, false⟩ "mysql"
    overflowing_fits).single
  exact absurd hsingle (by decide)

end TinyPlay

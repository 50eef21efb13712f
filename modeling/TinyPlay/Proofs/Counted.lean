import TinyPlay.Spec.Configuration
import Mathlib.Data.Set.Basic

/-! Which connections are counted, and by whom. The main thread filters the countable names,
a worker takes the names its connection maps to, and the Application Summary filters the
countable names once more with a test of its own. -/

namespace TinyPlay.Configuration

/-- The forward and the reverse map say the same about every removable connection. -/
def MapsAgree (cfg : Configuration) : Prop :=
  ∀ c ∈ cfg.removableConnections, ∀ x,
    x ∈ cfg.getMappedConnections c ↔ cfg.mappedConnection x = c

structure CountingWellFormed (cfg : Configuration) : Prop where
  test_removable : ∀ c ∈ cfg.connectionsToTest, c ∈ cfg.removableConnections
  run_removable : ∀ c ∈ cfg.connectionsToRunInThread, c ∈ cfg.removableConnections
  removable_countable : ∀ c ∈ cfg.removableConnections, c ∈ cfg.countableConnections
  listed_countable : ∀ c l, cfg.connectionsMap.lookup c = some l →
    ∀ x ∈ l, x ∈ cfg.countableConnections
  countable_nodup : cfg.countableConnections.Nodup
  mainThread_not_removable : mysqlMainThread ∉ cfg.removableConnections
  mainThread_not_reverse : mysqlMainThread ∉ cfg.connectionsMapReverse
  maps_agree : cfg.MapsAgree

theorem mappedConnection_of_notMem {cfg : Configuration} {x : String}
    (h : x ∉ cfg.connectionsMapReverse) : cfg.mappedConnection x = x := by
  unfold mappedConnection
  rw [AList.lookup_eq_none.mpr h]

/-! ### The workers -/

theorem runsInThread_santize (cfg : Configuration) (c : String) :
    cfg.santizeConnectionsToRunInThread.runsInThread c = true ↔
      cfg.connectionsInThreads = true ∧ c ∈ cfg.connectionsToRunInThread ∧
        c ∈ cfg.connectionsToTest := by
  unfold santizeConnectionsToRunInThread runsInThread
  cases hm : cfg.connectionsInThreads <;> simp [hm]

theorem santize_connectionsToTest (cfg : Configuration) :
    cfg.santizeConnectionsToRunInThread.connectionsToTest = cfg.connectionsToTest := by
  unfold santizeConnectionsToRunInThread
  split <;> rfl

theorem santize_getMappedConnections (cfg : Configuration) (c : String) :
    cfg.santizeConnectionsToRunInThread.getMappedConnections c = cfg.getMappedConnections c := by
  unfold santizeConnectionsToRunInThread
  split <;> rfl

/-- Sanitizing does not change which tested connections run in a worker. -/
theorem mem_workerConnections (cfg : Configuration) (c : String) :
    c ∈ cfg.workerConnections ↔
      cfg.connectionsInThreads = true ∧ c ∈ cfg.connectionsToTest ∧
        c ∈ cfg.connectionsToRunInThread := by
  unfold workerConnections
  rw [List.mem_filter, santize_connectionsToTest, runsInThread_santize]
  tauto

/-! ### What each thread counts -/

/-- The list of the main thread, as a value. -/
def mainThreadCounts (cfg : Configuration) : List String :=
  (cfg.countableConnections.filter cfg.countsInMainThread).erase mysqlMainThread

theorem computeConnectionsToCount_main (cfg : Configuration) :
    cfg.computeConnectionsToCount false "" = .ok cfg.mainThreadCounts := rfl

theorem computeConnectionsToCount_worker (cfg : Configuration) {c : String} (hc : c ≠ "") :
    cfg.computeConnectionsToCount true c = .ok (cfg.getMappedConnections c) := by
  simp [computeConnectionsToCount, throwIfNonEmptyConn, throwIfEmptyConn, hc,
    computeConnectionsToCountForWorkerThread, bind, Except.bind, pure, Except.pure]

/-- A worker for the empty name ends in `throwIfEmptyConn`. -/
theorem computeConnectionsToCount_worker_ok (cfg : Configuration) (c : String) (l : List String) :
    cfg.computeConnectionsToCount true c = .ok l ↔
      c ≠ "" ∧ l = cfg.getMappedConnections c := by
  by_cases hc : c = ""
  · subst hc
    simp [computeConnectionsToCount, throwIfNonEmptyConn, throwIfEmptyConn, bind, Except.bind]
  · rw [computeConnectionsToCount_worker cfg hc, Except.ok.injEq]
    exact ⟨fun h => ⟨hc, h.symm⟩, fun h => h.2.symm⟩

theorem mem_mainThreadCounts {cfg : Configuration} (hnd : cfg.countableConnections.Nodup)
    (x : String) : x ∈ cfg.mainThreadCounts ↔
      x ≠ mysqlMainThread ∧ x ∈ cfg.countableConnections ∧ cfg.countsInMainThread x = true := by
  unfold mainThreadCounts
  rw [(hnd.filter _).mem_erase_iff, List.mem_filter]

theorem countsInMainThread_iff (cfg : Configuration) (x : String) :
    cfg.countsInMainThread x = true ↔
      cfg.mappedConnection x ∉ cfg.removableConnections ∨
        (cfg.mappedConnection x ∈ cfg.connectionsToTest ∧
          (cfg.connectionsInThreads = true →
            cfg.mappedConnection x ∉ cfg.connectionsToRunInThread)) := by
  unfold countsInMainThread
  cases hm : cfg.connectionsInThreads <;> simp

theorem isPrintedAsCounted_iff (cfg : Configuration) (x : String) :
    cfg.isPrintedAsCounted x = true ↔
      cfg.mappedConnection x ∉ cfg.removableConnections ∨
        cfg.mappedConnection x ∈ cfg.connectionsToTest := by
  simp [isPrintedAsCounted]

/-- A name is counted when some thread of the run enables and sums its counters. -/
def IsCounted (cfg : Configuration) (x : String) : Prop :=
  (∃ l, cfg.computeConnectionsToCount false "" = .ok l ∧ x ∈ l) ∨
  ∃ c ∈ cfg.workerConnections, ∃ l,
    cfg.santizeConnectionsToRunInThread.computeConnectionsToCount true c = .ok l ∧ x ∈ l

theorem isCounted_iff (cfg : Configuration) (x : String) :
    cfg.IsCounted x ↔ x ∈ cfg.mainThreadCounts ∨
      ∃ c ∈ cfg.workerConnections, c ≠ "" ∧ x ∈ cfg.getMappedConnections c := by
  unfold IsCounted
  simp only [computeConnectionsToCount_main, Except.ok.injEq,
    computeConnectionsToCount_worker_ok, santize_getMappedConnections]
  constructor
  · rintro (⟨l, rfl, hx⟩ | ⟨c, hc, l, ⟨hne, rfl⟩, hx⟩)
    · exact Or.inl hx
    · exact Or.inr ⟨c, hc, hne, hx⟩
  · rintro (hx | ⟨c, hc, hne, hx⟩)
    · exact Or.inl ⟨_, rfl, hx⟩
    · exact Or.inr ⟨c, hc, _, ⟨hne, rfl⟩, hx⟩

/-! ### Printed against counted -/

theorem getMappedConnections_countable {cfg : Configuration} (h : cfg.CountingWellFormed)
    {c x : String} (hc : c ∈ cfg.removableConnections) (hx : x ∈ cfg.getMappedConnections c) :
    x ∈ cfg.countableConnections := by
  unfold getMappedConnections at hx
  cases hl : cfg.connectionsMap.lookup c with
  | some l =>
    rw [hl] at hx
    exact h.listed_countable c l hl x hx
  | none =>
    rw [hl] at hx
    have hxc : x = c := List.mem_singleton.mp hx
    rw [hxc]
    exact h.removable_countable c hc

/-- The main-thread name is its own mapping and nobody else's, so no worker counts it. -/
theorem mainThread_not_mapped {cfg : Configuration} (h : cfg.CountingWellFormed) {c : String}
    (hc : c ∈ cfg.removableConnections) : mysqlMainThread ∉ cfg.getMappedConnections c := by
  intro hx
  have hm := (h.maps_agree c hc mysqlMainThread).mp hx
  rw [mappedConnection_of_notMem h.mainThread_not_reverse] at hm
  exact h.mainThread_not_removable (hm ▸ hc)

theorem mem_appCountedConnectionsPrintable {cfg : Configuration}
    (hnd : cfg.countableConnections.Nodup) (x : String) :
    x ∈ cfg.appCountedConnectionsPrintable ↔
      (cfg.connectionsInThreads = false → x ≠ mysqlMainThread) ∧
        x ∈ cfg.countableConnections ∧ cfg.isPrintedAsCounted x = true := by
  unfold appCountedConnectionsPrintable
  cases hm : cfg.connectionsInThreads
  · simp [(hnd.filter _).mem_erase_iff]
  · simp

/-- In a single-threaded build the two filters select the same names. -/
theorem printed_iff_counted_single {cfg : Configuration} (h : cfg.CountingWellFormed)
    (hm : cfg.connectionsInThreads = false) (x : String) :
    x ∈ cfg.appCountedConnectionsPrintable ↔ cfg.IsCounted x := by
  have hw : ¬ ∃ c ∈ cfg.workerConnections, c ≠ "" ∧ x ∈ cfg.getMappedConnections c := by
    intro hex
    obtain ⟨c, hc, -⟩ := hex
    have := ((mem_workerConnections cfg c).mp hc).1
    rw [hm] at this
    exact Bool.noConfusion this
  rw [isCounted_iff, mem_appCountedConnectionsPrintable h.countable_nodup,
    mem_mainThreadCounts h.countable_nodup, isPrintedAsCounted_iff, countsInMainThread_iff]
  simp [hm, hw]

/-- A printed name of a threaded build is counted by the main thread, or its worker is named. -/
theorem counted_of_printed {cfg : Configuration} (h : cfg.CountingWellFormed)
    (hm : cfg.connectionsInThreads = true) {x : String} (hx : x ∈ cfg.countableConnections)
    (hp : cfg.isPrintedAsCounted x = true) (hmt : x ≠ mysqlMainThread) :
    x ∈ cfg.mainThreadCounts ∨
      (cfg.mappedConnection x ∈ cfg.workerConnections ∧
        x ∈ cfg.getMappedConnections (cfg.mappedConnection x)) := by
  rw [mem_mainThreadCounts h.countable_nodup, countsInMainThread_iff]
  rcases (isPrintedAsCounted_iff cfg x).mp hp with hr | ht
  · exact Or.inl ⟨hmt, hx, Or.inl hr⟩
  · by_cases hrun : cfg.mappedConnection x ∈ cfg.connectionsToRunInThread
    · right
      refine ⟨(mem_workerConnections cfg _).mpr ⟨hm, ht, hrun⟩, ?_⟩
      exact (h.maps_agree _ (h.test_removable _ ht) x).mpr rfl
    · exact Or.inl ⟨hmt, hx, Or.inr ⟨ht, fun _ => hrun⟩⟩

/-- Whatever a thread counts is printed. -/
theorem printed_of_counted {cfg : Configuration} (h : cfg.CountingWellFormed)
    (hm : cfg.connectionsInThreads = true) {x : String} (hx : cfg.IsCounted x) :
    x ∈ cfg.appCountedConnectionsPrintable := by
  rw [mem_appCountedConnectionsPrintable h.countable_nodup, isPrintedAsCounted_iff]
  refine ⟨fun hf => absurd (hm.symm.trans hf) Bool.noConfusion, ?_⟩
  rcases (isCounted_iff cfg x).mp hx with hmain | ⟨c, hc, -, hxc⟩
  · rw [mem_mainThreadCounts h.countable_nodup, countsInMainThread_iff] at hmain
    obtain ⟨-, hcount, hr | ⟨ht, -⟩⟩ := hmain
    · exact ⟨hcount, Or.inl hr⟩
    · exact ⟨hcount, Or.inr ht⟩
  · obtain ⟨-, ht, -⟩ := (mem_workerConnections cfg c).mp hc
    have hr := h.test_removable c ht
    have hmap := (h.maps_agree c hr x).mp hxc
    exact ⟨getMappedConnections_countable h hr hxc, Or.inr (hmap ▸ ht)⟩

theorem mainThread_printed {cfg : Configuration} (h : cfg.CountingWellFormed)
    (hm : cfg.connectionsInThreads = true) (hmt : mysqlMainThread ∈ cfg.countableConnections) :
    mysqlMainThread ∈ cfg.appCountedConnectionsPrintable := by
  rw [mem_appCountedConnectionsPrintable h.countable_nodup, isPrintedAsCounted_iff,
    mappedConnection_of_notMem h.mainThread_not_reverse]
  exact ⟨fun hf => absurd (hm.symm.trans hf) Bool.noConfusion, hmt,
    Or.inl h.mainThread_not_removable⟩

theorem mainThread_not_counted {cfg : Configuration} (h : cfg.CountingWellFormed) :
    ¬cfg.IsCounted mysqlMainThread := by
  rw [isCounted_iff]
  rintro (hmain | ⟨c, hc, -, hxc⟩)
  · exact ((mem_mainThreadCounts h.countable_nodup _).mp hmain).1 rfl
  · have hr := h.test_removable c ((mem_workerConnections cfg c).mp hc).2.1
    exact mainThread_not_mapped h hr hxc

theorem mapped_printed {cfg : Configuration} (h : cfg.CountingWellFormed)
    (hm : cfg.connectionsInThreads = true) {c x : String} (ht : c ∈ cfg.connectionsToTest)
    (hx : x ∈ cfg.getMappedConnections c) : x ∈ cfg.appCountedConnectionsPrintable := by
  have hr := h.test_removable c ht
  rw [mem_appCountedConnectionsPrintable h.countable_nodup, isPrintedAsCounted_iff,
    (h.maps_agree c hr x).mp hx]
  exact ⟨fun hf => absurd (hm.symm.trans hf) Bool.noConfusion,
    getMappedConnections_countable h hr hx, Or.inr ht⟩

/-- What maps to the empty name is counted neither by its worker, which throws, nor elsewhere. -/
theorem emptyName_not_counted {cfg : Configuration} (h : cfg.CountingWellFormed)
    (hm : cfg.connectionsInThreads = true) (ht : "" ∈ cfg.connectionsToTest)
    (hrun : "" ∈ cfg.connectionsToRunInThread) {x : String}
    (hx : x ∈ cfg.getMappedConnections "") : ¬cfg.IsCounted x := by
  have hr := h.test_removable "" ht
  have hmap := (h.maps_agree "" hr x).mp hx
  rw [isCounted_iff]
  rintro (hmain | ⟨c, hc, hne, hxc⟩)
  · rw [mem_mainThreadCounts h.countable_nodup, countsInMainThread_iff, hmap] at hmain
    obtain ⟨-, -, hnr | ⟨-, hnrun⟩⟩ := hmain
    · exact hnr hr
    · exact hnrun hm hrun
  · have hrc := h.test_removable c ((mem_workerConnections cfg c).mp hc).2.1
    exact hne (((h.maps_agree c hrc x).mp hxc).symm.trans hmap)

/-- The printed and the counted names agree unless a threaded build lists the main-thread name
as countable, or runs a worker for the empty name that would have something to count. -/
theorem printed_eq_counted_iff (cfg : Configuration) (h : cfg.CountingWellFormed) :
    {x | x ∈ cfg.appCountedConnectionsPrintable} = {x | cfg.IsCounted x} ↔
      (cfg.connectionsInThreads = true →
        mysqlMainThread ∉ cfg.countableConnections ∧
          ("" ∈ cfg.connectionsToTest → "" ∈ cfg.connectionsToRunInThread →
            cfg.getMappedConnections "" = [])) := by
  rw [Set.ext_iff]
  simp only [Set.mem_ofPred_eq]
  constructor
  · intro heq hm
    refine ⟨fun hmt => ?_, fun ht hrun => ?_⟩
    · exact mainThread_not_counted h ((heq _).mp (mainThread_printed h hm hmt))
    · by_contra hne
      obtain ⟨x, hx⟩ := List.exists_mem_of_ne_nil _ hne
      exact emptyName_not_counted h hm ht hrun hx ((heq x).mp (mapped_printed h hm ht hx))
  · intro hcond x
    cases hm : cfg.connectionsInThreads with
    | false => exact printed_iff_counted_single h hm x
    | true =>
      refine ⟨fun hp => ?_, printed_of_counted h hm⟩
      obtain ⟨hmt, hempty⟩ := hcond hm
      obtain ⟨-, hcount, hpr⟩ := (mem_appCountedConnectionsPrintable h.countable_nodup x).mp hp
      have hne : x ≠ mysqlMainThread := fun he => hmt (he ▸ hcount)
      rw [isCounted_iff]
      rcases counted_of_printed h hm hcount hpr hne with hmain | ⟨hw, hx⟩
      · exact Or.inl hmain
      · refine Or.inr ⟨_, hw, fun he => ?_, hx⟩
        -- the empty name has a worker only when nothing maps to it
        rw [he] at hw hx
        obtain ⟨-, ht, hrun⟩ := (mem_workerConnections cfg "").mp hw
        rw [hempty ht hrun] at hx
        exact List.not_mem_nil hx

/-- A reverse map of one real connection `a` with one alias `b`. -/
theorem mappedConnection_of_pair {cfg : Configuration} {a b : String}
    (h : cfg.connectionsMapReverse = [⟨a, a⟩, ⟨b, a⟩].toAList) (x : String) :
    cfg.mappedConnection x = if x = a ∨ x = b then a else x := by
  unfold mappedConnection
  rw [h, AList.lookup_to_alist]
  by_cases ha : x = a
  · subst ha
    rw [List.dlookup_cons_eq, if_pos (Or.inl rfl)]
  rw [List.dlookup_cons_ne _ _ ha]
  by_cases hb : x = b
  · subst hb
    rw [List.dlookup_cons_eq, if_pos (Or.inr rfl)]
  · rw [List.dlookup_cons_ne _ _ hb, if_neg (by tauto), List.dlookup_nil]

theorem initial_mapsAgree (threads file : Bool) (tested : List String) :
    (initial threads file tested).MapsAgree := by
  intro c hc x
  rw [mappedConnection_of_pair (a := mysql) (b := mysqlAlt) rfl]
  change c ∈ [mysql, sqlite, postgres] at hc
  simp only [List.mem_cons, List.not_mem_nil, or_false] at hc
  have hlist : (initial threads file tested).getMappedConnections c =
      if c = mysql then [mysql, mysqlAlt] else [c] := by
    rcases hc with rfl | rfl | rfl <;> rfl
  rw [hlist]
  by_cases hx : x = mysql ∨ x = mysqlAlt
  · rw [if_pos hx]
    rcases hx with rfl | rfl <;> rcases hc with rfl | rfl | rfl <;> decide
  · rw [if_neg hx]
    by_cases hcm : c = mysql
    · rw [if_pos hcm, hcm]
      simp only [List.mem_cons, List.not_mem_nil, or_false]
      tauto
    · rw [if_neg hcm, List.mem_singleton]

theorem initial_wellFormed (threads file : Bool) {tested : List String}
    (ht : ∀ c ∈ tested, c ∈ [mysql, sqlite, postgres]) :
    (initial threads file tested).CountingWellFormed where
  test_removable := ht
  run_removable := ht
  removable_countable := by
    change ∀ c ∈ [mysql, sqlite, postgres],
      c ∈ [mysql, mysqlAlt, mysqlMainThread, sqlite, sqliteMemory, postgres]
    decide
  listed_countable := by
    intro c l hl
    by_cases hc : c = mysql
    · subst hc
      have hle : [mysql, mysqlAlt] = l := Option.some.inj hl
      rw [← hle]
      change ∀ x ∈ [mysql, mysqlAlt],
        x ∈ [mysql, mysqlAlt, mysqlMainThread, sqlite, sqliteMemory, postgres]
      decide
    · have hnone : (initial threads file tested).connectionsMap.lookup c = none := by
        rw [AList.lookup_eq_none]
        change c ∉ [mysql]
        simp [hc]
      rw [hnone] at hl
      cases hl
  countable_nodup := by
    change [mysql, mysqlAlt, mysqlMainThread, sqlite, sqliteMemory, postgres].Nodup
    decide
  mainThread_not_removable := by
    change mysqlMainThread ∉ [mysql, sqlite, postgres]
    decide
  mainThread_not_reverse := by
    change mysqlMainThread ∉ [mysql, mysqlAlt]
    decide
  maps_agree := initial_mapsAgree threads file tested

theorem printed_eq_counted_iff_initial :
    {x | x ∈ (initial false true [mysql]).appCountedConnectionsPrintable} =
        {x | (initial false true [mysql]).IsCounted x} ↔
      ((initial false true [mysql]).connectionsInThreads = true →
        mysqlMainThread ∉ (initial false true [mysql]).countableConnections ∧
          ("" ∈ (initial false true [mysql]).connectionsToTest →
            "" ∈ (initial false true [mysql]).connectionsToRunInThread →
              (initial false true [mysql]).getMappedConnections "" = [])) :=
  printed_eq_counted_iff _ (initial_wellFormed false true (by decide))

/-- The shipped lists in a threaded build: `mysql_mainthread` is printed and counted nowhere. -/
theorem mainThread_printed_not_counted :
    (initial true true [mysql]).CountingWellFormed ∧
      mysqlMainThread ∈ (initial true true [mysql]).appCountedConnectionsPrintable ∧
      ¬ (initial true true [mysql]).IsCounted mysqlMainThread := by
  refine ⟨initial_wellFormed true true (by decide), by decide, ?_⟩
  rw [isCounted_iff]
  decide

end TinyPlay.Configuration

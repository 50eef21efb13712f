import TinyPlay.Proofs.Counted

/-! Which thread registers which connection. A worker registers the names its connection maps
to. The main thread drops the names of `ConnectionsToRunInThread` themselves and not the names
these map to, so an alias of a threaded connection stays registered in the main thread. -/

namespace TinyPlay.Configuration

/-! ### Keys of the registered configurations -/

theorem computeConfigurationsToAdd_single {cfg : Configuration}
    (hm : cfg.connectionsInThreads = false) (inThread : Bool) (connection : String) :
    cfg.computeConfigurationsToAdd inThread connection =
      .ok cfg.configurationsWhenSingleThread := by
  simp [computeConfigurationsToAdd, hm]

theorem computeConfigurationsToAdd_main {cfg : Configuration}
    (hm : cfg.connectionsInThreads = true) :
    cfg.computeConfigurationsToAdd false "" = .ok cfg.configsForMainThrdWhenMultiThrd := by
  simp [computeConfigurationsToAdd, hm, throwIfNonEmptyConn, bind, Except.bind, pure, Except.pure]

theorem computeConfigurationsToAdd_worker {cfg : Configuration}
    (hm : cfg.connectionsInThreads = true) {c : String} (hc : c ≠ "") :
    cfg.computeConfigurationsToAdd true c = cfg.configsForWorkerThrdWhenMultiThrd c := by
  simp [computeConfigurationsToAdd, hm, throwIfNonEmptyConn, throwIfEmptyConn, hc, bind,
    Except.bind]

theorem computeConfigurationsToAdd_worker_ne {cfg : Configuration}
    (hm : cfg.connectionsInThreads = true) {c : String} {w : OrmConfigurations}
    (h : cfg.computeConfigurationsToAdd true c = .ok w) : c ≠ "" := by
  intro hc
  subst hc
  simp [computeConfigurationsToAdd, hm, throwIfNonEmptyConn, throwIfEmptyConn, bind,
    Except.bind] at h

theorem mem_configurationsWhenSingleThread (cfg : Configuration) (x : String) :
    x ∈ cfg.configurationsWhenSingleThread ↔ x ∈ cfg.configurations ∧ x ≠ mysqlMainThread := by
  unfold configurationsWhenSingleThread
  rw [AList.mem_emplaceIf_empty, decide_eq_true_iff]

theorem mem_configsForMainThrdWhenMultiThrd (cfg : Configuration) (x : String) :
    x ∈ cfg.configsForMainThrdWhenMultiThrd ↔
      x ∈ cfg.configurations ∧ x ∉ cfg.connectionsToRunInThread := by
  unfold configsForMainThrdWhenMultiThrd
  rw [AList.mem_emplaceIf_empty]
  simp

theorem workerConnections_single {cfg : Configuration} (hm : cfg.connectionsInThreads = false) :
    cfg.workerConnections = [] := by
  refine List.eq_nil_iff_forall_not_mem.mpr fun c hc => ?_
  rw [((mem_workerConnections cfg c).mp hc).1] at hm
  exact Bool.noConfusion hm

/-- A worker that gets its configurations registers exactly its mapped names. -/
theorem mem_of_worker {cfg : Configuration} (hm : cfg.connectionsInThreads = true) {c : String}
    {w : OrmConfigurations} (h : cfg.computeConfigurationsToAdd true c = .ok w) (x : String) :
    x ∈ w ↔ x ∈ cfg.getMappedConnections c := by
  rw [computeConfigurationsToAdd_worker hm (computeConfigurationsToAdd_worker_ne hm h)] at h
  exact AList.mem_collect_empty h x

/-- It gets them when its name is not empty and every mapped name is configured. -/
theorem exists_worker_iff {cfg : Configuration} (hm : cfg.connectionsInThreads = true)
    (c : String) : (∃ w, cfg.computeConfigurationsToAdd true c = .ok w) ↔
      c ≠ "" ∧ ∀ x ∈ cfg.getMappedConnections c, x ∈ cfg.configurations := by
  refine ⟨fun h => ?_, fun h => ?_⟩
  · obtain ⟨w, hw⟩ := h
    have hc := computeConfigurationsToAdd_worker_ne hm hw
    rw [computeConfigurationsToAdd_worker hm hc] at hw
    exact ⟨hc, AList.collect_empty_ok_iff.mp ⟨w, hw⟩⟩
  · rw [computeConfigurationsToAdd_worker hm h.1]
    exact AList.collect_empty_ok_iff.mpr h.2

@[simp] theorem santize_connectionsInThreads (cfg : Configuration) :
    cfg.santizeConnectionsToRunInThread.connectionsInThreads = cfg.connectionsInThreads := by
  unfold santizeConnectionsToRunInThread
  split <;> rfl

@[simp] theorem santize_configurations (cfg : Configuration) :
    cfg.santizeConnectionsToRunInThread.configurations = cfg.configurations := by
  unfold santizeConnectionsToRunInThread
  split <;> rfl

/-! ### One thread a name -/

/-- No name is registered by two threads: by the main thread and a worker, or by two workers. -/
def RegisteredOnce (cfg : Configuration) : Prop :=
  (∀ m, cfg.computeConfigurationsToAdd false "" = .ok m → ∀ c ∈ cfg.workerConnections, ∀ w,
    cfg.santizeConnectionsToRunInThread.computeConfigurationsToAdd true c = .ok w →
      ∀ x ∈ m, x ∉ w) ∧
  cfg.workerConnections.Pairwise fun c c' => ∀ w w',
    cfg.santizeConnectionsToRunInThread.computeConfigurationsToAdd true c = .ok w →
    cfg.santizeConnectionsToRunInThread.computeConfigurationsToAdd true c' = .ok w' →
      ∀ x ∈ w, x ∉ w'

/-- Two workers never map to one name, because the reverse map sends a name to one connection. -/
theorem mapped_disjoint {cfg : Configuration} (h : cfg.MapsAgree) {c c' x : String}
    (hc : c ∈ cfg.removableConnections) (hc' : c' ∈ cfg.removableConnections) (hne : c ≠ c')
    (hx : x ∈ cfg.getMappedConnections c) : x ∉ cfg.getMappedConnections c' := by
  intro hx'
  have h1 := (h c hc x).mp hx
  have h2 := (h c' hc' x).mp hx'
  exact hne (h1.symm.trans h2)

structure RegistrationWellFormed (cfg : Configuration) : Prop where
  test_nodup : cfg.connectionsToTest.Nodup
  test_removable : ∀ c ∈ cfg.connectionsToTest, c ∈ cfg.removableConnections
  run_removable : ∀ c ∈ cfg.connectionsToRunInThread, c ∈ cfg.removableConnections
  maps_agree : cfg.MapsAgree

theorem workers_registeredOnce {cfg : Configuration} (hm : cfg.connectionsInThreads = true)
    (h : cfg.RegistrationWellFormed) :
    cfg.workerConnections.Pairwise fun c c' => ∀ w w',
      cfg.santizeConnectionsToRunInThread.computeConfigurationsToAdd true c = .ok w →
      cfg.santizeConnectionsToRunInThread.computeConfigurationsToAdd true c' = .ok w' →
        ∀ x ∈ w, x ∉ w' := by
  have hwnd : cfg.workerConnections.Nodup := by
    unfold workerConnections
    rw [santize_connectionsToTest]
    exact h.test_nodup.filter _
  refine hwnd.imp_of_mem ?_
  intro c c' hc hc' hne w w' hw hw' x hx hx'
  have hsm := (santize_connectionsInThreads cfg).trans hm
  rw [mem_of_worker hsm hw, santize_getMappedConnections] at hx
  rw [mem_of_worker hsm hw', santize_getMappedConnections] at hx'
  have hr := h.test_removable c ((mem_workerConnections cfg c).mp hc).2.1
  have hr' := h.test_removable c' ((mem_workerConnections cfg c').mp hc').2.1
  exact mapped_disjoint h.maps_agree hr hr' hne hx hx'

/-- The main thread keeps every configured name that is not itself run in a thread, so a worker
that can register has to stay within `ConnectionsToRunInThread`. -/
theorem mapped_run_of_registeredOnce {cfg : Configuration} (hm : cfg.connectionsInThreads = true)
    (h : cfg.RegisteredOnce) {c x : String} (hct : c ∈ cfg.connectionsToTest)
    (hcr : c ∈ cfg.connectionsToRunInThread) (hne : c ≠ "")
    (hconf : ∀ y ∈ cfg.getMappedConnections c, y ∈ cfg.configurations)
    (hx : x ∈ cfg.getMappedConnections c) : x ∈ cfg.connectionsToRunInThread := by
  have hsm := (santize_connectionsInThreads cfg).trans hm
  obtain ⟨w, hw⟩ := (exists_worker_iff hsm c).mpr ⟨hne, by simpa [santize_getMappedConnections]⟩
  have hc := (mem_workerConnections cfg c).mpr ⟨hm, hct, hcr⟩
  by_contra hnot
  have hmain := (mem_configsForMainThrdWhenMultiThrd cfg x).mpr ⟨hconf x hx, hnot⟩
  refine h.1 _ (computeConfigurationsToAdd_main hm) c hc w hw x hmain ?_
  rw [mem_of_worker hsm hw, santize_getMappedConnections]
  exact hx

/-- The threads register disjoint names exactly when every worker that can register at all maps
to names of `ConnectionsToRunInThread` only. -/
theorem registeredOnce_iff (cfg : Configuration) (hm : cfg.connectionsInThreads = true)
    (hwf : cfg.RegistrationWellFormed) :
    cfg.RegisteredOnce ↔ ∀ c ∈ cfg.connectionsToTest, c ∈ cfg.connectionsToRunInThread →
      c ≠ "" → (∀ x ∈ cfg.getMappedConnections c, x ∈ cfg.configurations) →
        ∀ x ∈ cfg.getMappedConnections c, x ∈ cfg.connectionsToRunInThread := by
  refine ⟨fun h => ?_, fun h => ⟨?_, workers_registeredOnce hm hwf⟩⟩
  · intro c hct hcr hne hconf x hx
    exact mapped_run_of_registeredOnce hm h hct hcr hne hconf hx
  · intro m hmain c hc w hw x hxm hxw
    rw [computeConfigurationsToAdd_main hm] at hmain
    cases hmain
    have hsm := (santize_connectionsInThreads cfg).trans hm
    obtain ⟨-, hct, hcr⟩ := (mem_workerConnections cfg c).mp hc
    obtain ⟨hne, hconf⟩ := (exists_worker_iff hsm c).mp ⟨w, hw⟩
    rw [santize_getMappedConnections, santize_configurations] at hconf
    rw [mem_of_worker hsm hw, santize_getMappedConnections] at hxw
    have hnot := ((mem_configsForMainThrdWhenMultiThrd cfg x).mp hxm).2
    exact hnot (h c hct hcr hne hconf x hxw)

theorem initial_registrationWellFormed (threads file : Bool) {tested : List String}
    (hnd : tested.Nodup) (ht : ∀ c ∈ tested, c ∈ [mysql, sqlite, postgres]) :
    (initial threads file tested).RegistrationWellFormed :=
  ⟨hnd, ht, ht, initial_mapsAgree threads file tested⟩

theorem registeredOnce_iff_sqlite :
    (initial true true [sqlite]).RegisteredOnce ↔
      ∀ c ∈ (initial true true [sqlite]).connectionsToTest,
        c ∈ (initial true true [sqlite]).connectionsToRunInThread → c ≠ "" →
          (∀ x ∈ (initial true true [sqlite]).getMappedConnections c,
            x ∈ (initial true true [sqlite]).configurations) →
          ∀ x ∈ (initial true true [sqlite]).getMappedConnections c,
            x ∈ (initial true true [sqlite]).connectionsToRunInThread :=
  registeredOnce_iff _ rfl
    (initial_registrationWellFormed true true (List.nodup_singleton _) (by decide))

/-- The shipped lists in a threaded build: `mysql_alt` is registered by the main thread and by
the worker for `mysql`. -/
theorem mysqlAlt_registered_twice :
    (initial true true [mysql]).RegistrationWellFormed ∧
      ¬ (initial true true [mysql]).RegisteredOnce := by
  refine ⟨initial_registrationWellFormed true true (List.nodup_singleton _) (by decide), ?_⟩
  intro h
  have hrun : mysqlAlt ∈ (initial true true [mysql]).connectionsToRunInThread :=
    mapped_run_of_registeredOnce (c := mysql) rfl h (by decide) (by decide) (by decide)
      (by decide) (by decide)
  exact absurd hrun (by decide)

/-! ### Eagerly opened connections -/

structure OpeningWellFormed (cfg : Configuration) : Prop where
  test_removable : ∀ c ∈ cfg.connectionsToTest, c ∈ cfg.removableConnections
  run_removable : ∀ c ∈ cfg.connectionsToRunInThread, c ∈ cfg.removableConnections
  countable_nodup : cfg.countableConnections.Nodup
  countable_configured : ∀ x ∈ cfg.countableConnections, x ∈ cfg.configurations
  removable_configured : ∀ x ∈ cfg.removableConnections, x ∈ cfg.configurations
  listed_configured : ∀ c l, cfg.connectionsMap.lookup c = some l →
    ∀ x ∈ l, x ∈ cfg.configurations
  mainThread_not_removable : mysqlMainThread ∉ cfg.removableConnections
  mainThread_not_reverse : mysqlMainThread ∉ cfg.connectionsMapReverse
  maps_agree : cfg.MapsAgree

/-- The main thread opens its counted connections with the unsanitized lists; the loop of
`testAllConnections` and the workers see the sanitized ones. -/
structure EagerlyRegistered (cfg : Configuration) : Prop where
  main : ∀ l, cfg.computeConnectionsToCount false "" = .ok l →
    ∃ m, cfg.computeConfigurationsToAdd false "" = .ok m ∧ ∀ x ∈ l, x ∈ m
  worker : ∀ c ∈ cfg.workerConnections, ∀ l,
    cfg.santizeConnectionsToRunInThread.computeConnectionsToCount true c = .ok l →
      ∃ w, cfg.santizeConnectionsToRunInThread.computeConfigurationsToAdd true c = .ok w ∧
        ∀ x ∈ l, x ∈ w
  /-- No name is opened by two of the started workers, whichever positions of `ConnectionsToTest`
  start them. -/
  workers_apart : cfg.workerConnections.Pairwise fun c c' => ∀ l l',
    cfg.santizeConnectionsToRunInThread.computeConnectionsToCount true c = .ok l →
    cfg.santizeConnectionsToRunInThread.computeConnectionsToCount true c' = .ok l' →
      ∀ x ∈ l, x ∉ l'
  /-- What a worker opens, the main thread neither counts nor runs the tests of. -/
  main_apart : ∀ c ∈ cfg.workerConnections, ∀ l,
    cfg.santizeConnectionsToRunInThread.computeConnectionsToCount true c = .ok l →
      (∀ l', cfg.computeConnectionsToCount false "" = .ok l' → ∀ x ∈ l, x ∉ l') ∧
      ∀ c' ∈ cfg.connectionsToTest,
        cfg.santizeConnectionsToRunInThread.runsInThread c' = false → c' ∉ l
  /-- A connection run by the main thread is registered there. -/
  in_main : ∀ c ∈ cfg.connectionsToTest,
    cfg.santizeConnectionsToRunInThread.runsInThread c = false →
      ∃ m, cfg.computeConfigurationsToAdd false "" = .ok m ∧ c ∈ m

/-- What the lists of a threaded build have to satisfy. -/
structure ThreadsApart (cfg : Configuration) : Prop where
  /-- A countable name of `ConnectionsToRunInThread` resolves to a connection that the main thread
  does not count. -/
  counted : ∀ x ∈ cfg.connectionsToRunInThread, x ∈ cfg.countableConnections →
    cfg.mappedConnection x ∈ cfg.removableConnections ∧
      (cfg.mappedConnection x ∈ cfg.connectionsToTest →
        cfg.mappedConnection x ∈ cfg.connectionsToRunInThread)
  /-- No worker that opens anything is started twice. -/
  started_once : ∀ c ∈ cfg.connectionsToTest, c ∈ cfg.connectionsToRunInThread → c ≠ "" →
    cfg.getMappedConnections c ≠ [] → cfg.connectionsToTest.count c = 1
  /-- The main thread does not test an alias of a connection that a worker runs. -/
  dispatched : ∀ c ∈ cfg.connectionsToTest, c ∉ cfg.connectionsToRunInThread →
    cfg.mappedConnection c ∈ cfg.connectionsToTest →
      cfg.mappedConnection c ∈ cfg.connectionsToRunInThread → cfg.mappedConnection c = ""

theorem getMappedConnections_configured {cfg : Configuration} (h : cfg.OpeningWellFormed)
    {c x : String} (hc : c ∈ cfg.removableConnections) (hx : x ∈ cfg.getMappedConnections c) :
    x ∈ cfg.configurations := by
  unfold getMappedConnections at hx
  cases hl : cfg.connectionsMap.lookup c with
  | some l =>
    rw [hl] at hx
    exact h.listed_configured c l hl x hx
  | none =>
    rw [hl] at hx
    rw [List.mem_singleton.mp hx]
    exact h.removable_configured c hc

/-- A worker's counted names are the names it registered. -/
theorem worker_registered {cfg : Configuration} (h : cfg.OpeningWellFormed) {c : String}
    (hc : c ∈ cfg.workerConnections) {l : List String}
    (hl : cfg.santizeConnectionsToRunInThread.computeConnectionsToCount true c = .ok l) :
    ∃ w, cfg.santizeConnectionsToRunInThread.computeConfigurationsToAdd true c = .ok w ∧
      ∀ x ∈ l, x ∈ w := by
  obtain ⟨hm, hct, -⟩ := (mem_workerConnections cfg c).mp hc
  have hsm := (santize_connectionsInThreads cfg).trans hm
  obtain ⟨hne, hlm⟩ := (computeConnectionsToCount_worker_ok _ c l).mp hl
  rw [santize_getMappedConnections] at hlm
  have hconf : ∀ x ∈ cfg.santizeConnectionsToRunInThread.getMappedConnections c,
      x ∈ cfg.santizeConnectionsToRunInThread.configurations := by
    intro x hx
    rw [santize_getMappedConnections] at hx
    rw [santize_configurations]
    exact getMappedConnections_configured h (h.test_removable c hct) hx
  obtain ⟨w, hw⟩ := (exists_worker_iff hsm c).mpr ⟨hne, hconf⟩
  refine ⟨w, hw, fun x hx => ?_⟩
  rw [mem_of_worker hsm hw, santize_getMappedConnections, ← hlm]
  exact hx

/-- A worker's counted names resolve to its connection, which the main thread does not count. -/
theorem worker_not_main {cfg : Configuration} (h : cfg.OpeningWellFormed) {c x : String}
    (hm : cfg.connectionsInThreads = true) (hct : c ∈ cfg.connectionsToTest)
    (hcr : c ∈ cfg.connectionsToRunInThread) (hx : x ∈ cfg.getMappedConnections c) :
    x ∉ cfg.mainThreadCounts := by
  intro hmain
  have hr := h.test_removable c hct
  have hmap := (h.maps_agree c hr x).mp hx
  rw [mem_mainThreadCounts h.countable_nodup, countsInMainThread_iff, hmap] at hmain
  obtain ⟨-, -, hnr | ⟨-, hnrun⟩⟩ := hmain
  · exact hnr hr
  · exact hnrun hm hcr

theorem main_registered_single {cfg : Configuration} (h : cfg.OpeningWellFormed)
    {x : String} (hx : x ∈ cfg.mainThreadCounts) : x ∈ cfg.configurationsWhenSingleThread := by
  obtain ⟨hne, hcount, -⟩ := (mem_mainThreadCounts h.countable_nodup x).mp hx
  exact (mem_configurationsWhenSingleThread cfg x).mpr ⟨h.countable_configured x hcount, hne⟩

/-- What the main thread counts but does not register: the countable names of
`ConnectionsToRunInThread` that resolve to a connection the main thread counts. -/
theorem main_registered_iff {cfg : Configuration} (h : cfg.OpeningWellFormed)
    (hm : cfg.connectionsInThreads = true) :
    (∀ x ∈ cfg.mainThreadCounts, x ∈ cfg.configsForMainThrdWhenMultiThrd) ↔
      ∀ x ∈ cfg.connectionsToRunInThread, x ∈ cfg.countableConnections →
        cfg.mappedConnection x ∈ cfg.removableConnections ∧
          (cfg.mappedConnection x ∈ cfg.connectionsToTest →
            cfg.mappedConnection x ∈ cfg.connectionsToRunInThread) := by
  refine ⟨fun hreg x hrun hcount => ?_, fun hcond x hx => ?_⟩
  · have hne : x ≠ mysqlMainThread := by
      intro he
      exact h.mainThread_not_removable (he ▸ h.run_removable x hrun)
    have hnot : x ∉ cfg.mainThreadCounts := fun hx =>
      ((mem_configsForMainThrdWhenMultiThrd cfg x).mp (hreg x hx)).2 hrun
    rw [mem_mainThreadCounts h.countable_nodup, countsInMainThread_iff] at hnot
    refine ⟨?_, fun htest => ?_⟩
    · by_contra hnr
      exact hnot ⟨hne, hcount, Or.inl hnr⟩
    · by_contra hnrun
      exact hnot ⟨hne, hcount, Or.inr ⟨htest, fun _ => hnrun⟩⟩
  · obtain ⟨-, hcount, hcounts⟩ := (mem_mainThreadCounts h.countable_nodup x).mp hx
    refine (mem_configsForMainThrdWhenMultiThrd cfg x).mpr ⟨h.countable_configured x hcount, ?_⟩
    intro hrun
    obtain ⟨hrem, htest⟩ := hcond x hrun hcount
    rcases (countsInMainThread_iff cfg x).mp hcounts with hnr | ⟨ht, hnrun⟩
    · exact hnr hrem
    · exact hnrun hm (htest ht)

theorem main_dispatch_registered {cfg : Configuration} (h : cfg.OpeningWellFormed) {c : String}
    (hct : c ∈ cfg.connectionsToTest)
    (hrun : cfg.santizeConnectionsToRunInThread.runsInThread c = false) :
    ∃ m, cfg.computeConfigurationsToAdd false "" = .ok m ∧ c ∈ m := by
  have hr := h.test_removable c hct
  cases hm : cfg.connectionsInThreads with
  | false =>
    refine ⟨_, computeConfigurationsToAdd_single hm _ _, ?_⟩
    refine (mem_configurationsWhenSingleThread cfg c).mpr ⟨h.removable_configured c hr, ?_⟩
    intro he
    exact h.mainThread_not_removable (he ▸ hr)
  | true =>
    refine ⟨_, computeConfigurationsToAdd_main hm, ?_⟩
    refine (mem_configsForMainThrdWhenMultiThrd cfg c).mpr ⟨h.removable_configured c hr, ?_⟩
    intro hcr
    rw [(runsInThread_santize cfg c).mpr ⟨hm, hcr, hct⟩] at hrun
    exact Bool.noConfusion hrun

/-- What a started worker opens. -/
theorem opened_iff (cfg : Configuration) {c : String} {l : List String} :
    cfg.santizeConnectionsToRunInThread.computeConnectionsToCount true c = .ok l ↔
      c ≠ "" ∧ l = cfg.getMappedConnections c := by
  rw [computeConnectionsToCount_worker_ok, santize_getMappedConnections]

/-- Two positions of one connection start two workers. -/
theorem two_workers {cfg : Configuration} (hm : cfg.connectionsInThreads = true) {c : String}
    (hcr : c ∈ cfg.connectionsToRunInThread) (hcount : 2 ≤ cfg.connectionsToTest.count c) :
    [c, c].Sublist cfg.workerConnections := by
  have hct : c ∈ cfg.connectionsToTest := List.count_pos_iff.mp (by omega)
  have hruns := (runsInThread_santize cfg c).mpr ⟨hm, hcr, hct⟩
  have hsub : [c, c].Sublist cfg.connectionsToTest := List.replicate_sublist_iff.mpr hcount
  have hfilter := hsub.filter cfg.santizeConnectionsToRunInThread.runsInThread
  unfold workerConnections
  rw [santize_connectionsToTest]
  simpa [hruns] using hfilter

/-- Workers of different connections open different names, so only a connection started twice
opens a name in two workers. -/
theorem workers_apart_iff {cfg : Configuration} (h : cfg.OpeningWellFormed)
    (hm : cfg.connectionsInThreads = true) :
    (cfg.workerConnections.Pairwise fun c c' => ∀ l l',
      cfg.santizeConnectionsToRunInThread.computeConnectionsToCount true c = .ok l →
      cfg.santizeConnectionsToRunInThread.computeConnectionsToCount true c' = .ok l' →
        ∀ x ∈ l, x ∉ l') ↔
      ∀ c ∈ cfg.connectionsToTest, c ∈ cfg.connectionsToRunInThread → c ≠ "" →
        cfg.getMappedConnections c ≠ [] → cfg.connectionsToTest.count c = 1 := by
  rw [List.pairwise_iff_forall_sublist]
  refine ⟨fun hapart c hct hcr hne hmapped => ?_, fun honce c c' hsub l l' hl hl' x hx => ?_⟩
  · have hpos : 0 < cfg.connectionsToTest.count c := List.count_pos_iff.mpr hct
    by_contra hcount
    have hsub := two_workers hm hcr (show 2 ≤ cfg.connectionsToTest.count c by omega)
    have hopen := (opened_iff cfg).mpr ⟨hne, rfl⟩
    obtain ⟨x, hx⟩ := List.exists_mem_of_ne_nil _ hmapped
    exact hapart hsub _ _ hopen hopen x hx hx
  · obtain ⟨hne, rfl⟩ := (opened_iff cfg).mp hl
    obtain ⟨-, rfl⟩ := (opened_iff cfg).mp hl'
    obtain ⟨-, hct, hcr⟩ := (mem_workerConnections cfg c).mp (hsub.subset (by simp))
    obtain ⟨-, hct', -⟩ := (mem_workerConnections cfg c').mp (hsub.subset (by simp))
    by_cases heq : c = c'
    · subst heq
      have hle := (hsub.trans List.filter_sublist).count_le c
      rw [santize_connectionsToTest, honce c hct hcr hne (List.ne_nil_of_mem hx)] at hle
      simp at hle
    · exact mapped_disjoint h.maps_agree (h.test_removable c hct) (h.test_removable c' hct') heq hx

/-- A worker opens a tested name exactly when the name resolves to the worker's connection. -/
theorem main_dispatch_apart_iff {cfg : Configuration} (h : cfg.OpeningWellFormed)
    (hm : cfg.connectionsInThreads = true) :
    (∀ c ∈ cfg.workerConnections, ∀ l,
      cfg.santizeConnectionsToRunInThread.computeConnectionsToCount true c = .ok l →
        ∀ c' ∈ cfg.connectionsToTest,
          cfg.santizeConnectionsToRunInThread.runsInThread c' = false → c' ∉ l) ↔
      ∀ c ∈ cfg.connectionsToTest, c ∉ cfg.connectionsToRunInThread →
        cfg.mappedConnection c ∈ cfg.connectionsToTest →
          cfg.mappedConnection c ∈ cfg.connectionsToRunInThread →
            cfg.mappedConnection c = "" := by
  refine ⟨fun hapart c hct hncr ht hr => ?_, fun hdisp c hc l hl c' hct' hruns hmem => ?_⟩
  · by_contra hne
    have hworker := (mem_workerConnections cfg _).mpr ⟨hm, ht, hr⟩
    have hruns : cfg.santizeConnectionsToRunInThread.runsInThread c = false :=
      Bool.eq_false_iff.mpr fun hruns => hncr ((runsInThread_santize cfg c).mp hruns).2.1
    refine hapart _ hworker _ ((opened_iff cfg).mpr ⟨hne, rfl⟩) c hct hruns ?_
    exact (h.maps_agree _ (h.test_removable _ ht) c).mpr rfl
  · obtain ⟨hne, rfl⟩ := (opened_iff cfg).mp hl
    obtain ⟨-, hct, hcr⟩ := (mem_workerConnections cfg c).mp hc
    have hmap := (h.maps_agree c (h.test_removable c hct) c').mp hmem
    have hncr : c' ∉ cfg.connectionsToRunInThread := by
      intro hcr'
      rw [(runsInThread_santize cfg c').mpr ⟨hm, hcr', hct'⟩] at hruns
      exact Bool.noConfusion hruns
    exact hne (hmap ▸ hdisp c' hct' hncr (hmap ▸ hct) (hmap ▸ hcr))

theorem EagerlyRegistered.threadsApart {cfg : Configuration} (hreg : cfg.EagerlyRegistered)
    (h : cfg.OpeningWellFormed) (hm : cfg.connectionsInThreads = true) : cfg.ThreadsApart where
  counted := by
    refine (main_registered_iff h hm).mp fun x hx => ?_
    obtain ⟨m, hmain, hall⟩ := hreg.main _ (computeConnectionsToCount_main cfg)
    rw [computeConfigurationsToAdd_main hm] at hmain
    cases hmain
    exact hall x hx
  started_once := (workers_apart_iff h hm).mp hreg.workers_apart
  dispatched := (main_dispatch_apart_iff h hm).mp fun c hc l hl => (hreg.main_apart c hc l hl).2

/-- Counting follows the reverse map and registering does not: the eagerly opened connections
are registered in their own thread and opened by it alone exactly when the lists keep the threads
apart. -/
theorem eagerlyRegistered_iff (cfg : Configuration) (h : cfg.OpeningWellFormed) :
    cfg.EagerlyRegistered ↔ (cfg.connectionsInThreads = true → cfg.ThreadsApart) := by
  refine ⟨fun hreg hm => hreg.threadsApart h hm, fun hcond => ⟨?_, ?_, ?_, ?_, ?_⟩⟩
  · intro l hl
    rw [computeConnectionsToCount_main] at hl
    cases hl
    cases hm : cfg.connectionsInThreads with
    | false =>
      exact ⟨_, computeConfigurationsToAdd_single hm _ _,
        fun x hx => main_registered_single h hx⟩
    | true =>
      exact ⟨_, computeConfigurationsToAdd_main hm,
        (main_registered_iff h hm).mpr (hcond hm).counted⟩
  · intro c hc l hl
    exact worker_registered h hc hl
  · cases hm : cfg.connectionsInThreads with
    | false => rw [workerConnections_single hm]; exact List.Pairwise.nil
    | true => exact (workers_apart_iff h hm).mpr (hcond hm).started_once
  · intro c hc l hl
    obtain ⟨hm, hct, hcr⟩ := (mem_workerConnections cfg c).mp hc
    refine ⟨fun l' hl' x hx => ?_,
      (main_dispatch_apart_iff h hm).mpr (hcond hm).dispatched c hc l hl⟩
    rw [computeConnectionsToCount_main] at hl'
    cases hl'
    obtain ⟨-, rfl⟩ := (opened_iff cfg).mp hl
    exact worker_not_main h hm hct hcr hx
  · intro c hct hrun
    exact main_dispatch_registered h hct hrun

theorem initial_countable_configured (threads file : Bool) (tested : List String) :
    ∀ x ∈ (initial threads file tested).countableConnections,
      x ∈ (initial threads file tested).configurations := by
  change ∀ x ∈ [mysql, mysqlAlt, mysqlMainThread, sqlite, sqliteMemory, postgres],
    x ∈ (initial true true []).configurations
  decide

theorem initial_openingWellFormed (threads file : Bool) {tested : List String}
    (ht : ∀ c ∈ tested, c ∈ [mysql, sqlite, postgres]) :
    (initial threads file tested).OpeningWellFormed where
  test_removable := ht
  run_removable := ht
  countable_nodup := (initial_wellFormed threads file ht).countable_nodup
  countable_configured := initial_countable_configured threads file tested
  removable_configured := fun x hx => initial_countable_configured threads file tested x
    ((initial_wellFormed threads file ht).removable_countable x hx)
  listed_configured := by
    intro c l hl x hx
    exact initial_countable_configured threads file tested x
      ((initial_wellFormed threads file ht).listed_countable c l hl x hx)
  mainThread_not_removable := (initial_wellFormed threads file ht).mainThread_not_removable
  mainThread_not_reverse := (initial_wellFormed threads file ht).mainThread_not_reverse
  maps_agree := initial_mapsAgree threads file tested

theorem eagerlyRegistered_iff_initial :
    (initial true true [mysql, sqlite]).EagerlyRegistered ↔
      ((initial true true [mysql, sqlite]).connectionsInThreads = true →
        (initial true true [mysql, sqlite]).ThreadsApart) :=
  eagerlyRegistered_iff _ (initial_openingWellFormed true true (by decide))

/-- `sqlite` is an alias of `mysql` that could itself run in a thread. -/
def removableAlias : Configuration where
  connectionsInThreads := true
  isLoggingToFile := true
  configurations := [⟨mysql, []⟩, ⟨sqlite, []⟩].toAList
  connectionsToTest := [mysql]
  connectionsToRunInThread := [sqlite]
  countableConnections := [mysql, sqlite]
  removableConnections := [mysql, sqlite]
  connectionsMap := [⟨mysql, [mysql, sqlite]⟩, ⟨sqlite, []⟩].toAList
  connectionsMapReverse := [⟨mysql, mysql⟩, ⟨sqlite, mysql⟩].toAList

theorem removableAlias_wellFormed : removableAlias.OpeningWellFormed where
  test_removable := by decide
  run_removable := by decide
  countable_nodup := by decide
  countable_configured := by decide
  removable_configured := by decide
  listed_configured := by
    intro c l hl
    by_cases hc : c = mysql
    · subst hc
      rw [← show [mysql, sqlite] = l from Option.some.inj hl]
      decide
    by_cases hs : c = sqlite
    · subst hs
      rw [← show [] = l from Option.some.inj hl]
      decide
    · have hnone : removableAlias.connectionsMap.lookup c = none := by
        rw [AList.lookup_eq_none]
        change c ∉ [mysql, sqlite]
        simp [hc, hs]
      rw [hnone] at hl
      cases hl
  mainThread_not_removable := by decide
  mainThread_not_reverse := by decide
  maps_agree := by
    intro c hc x
    rw [mappedConnection_of_pair (a := mysql) (b := sqlite) rfl]
    change c ∈ [mysql, sqlite] at hc
    simp only [List.mem_cons, List.not_mem_nil, or_false] at hc
    rcases hc with rfl | rfl
    · change x ∈ [mysql, sqlite] ↔ _
      by_cases hx : x = mysql ∨ x = sqlite
      · simp [hx]
      · rw [if_neg hx]
        simp only [List.mem_cons, List.not_mem_nil, or_false]
        tauto
    · change x ∈ [] ↔ _
      by_cases hx : x = mysql ∨ x = sqlite
      · rw [if_pos hx]
        exact ⟨fun h => absurd h List.not_mem_nil, fun h => absurd h (by decide)⟩
      · rw [if_neg hx]
        exact ⟨fun h => absurd h List.not_mem_nil, fun h => absurd (Or.inr h) hx⟩

/-- The main thread counts `sqlite` through `mysql` and opens it, but has not registered it. -/
theorem removableAlias_not_registered :
    removableAlias.OpeningWellFormed ∧ ¬ removableAlias.EagerlyRegistered := by
  refine ⟨removableAlias_wellFormed, fun h => ?_⟩
  obtain ⟨m, hm, hall⟩ := h.main _ (computeConnectionsToCount_main removableAlias)
  rw [computeConfigurationsToAdd_main rfl] at hm
  cases hm
  exact absurd (hall sqlite (by decide)) (by decide)

end TinyPlay.Configuration

import TinyPlay.Proofs.Registered
import TinyPlay.Spec.TestOrm

/-! The two guards of a threaded run. Each of them checks less than the code behind it needs: the
check for an empty list runs before the list is filtered, and a worker checks one name and then
looks up all the names it maps to. -/

namespace TinyPlay

open Attempt TinyPlay.Configuration

namespace Configuration

variable {cfg : Configuration}

/-! ### Preparing the threaded run -/

theorem attemptInit_ok_iff {cfg' : Configuration} {opened : Except LogFileError Unit} :
    cfg.attemptInitConnsInThreadsTesting opened = (.ok (), cfg') ↔
      cfg.initConnsInThreadsTesting opened = .ok cfg' := by
  unfold attemptInitConnsInThreadsTesting initConnsInThreadsTesting
  rw [attempt_ok_iff]
  simp only [List.foldlM_cons, List.foldlM_nil, bind, Except.bind, Except.map]
  cases throwIfConnsToRunEmpty cfg with
  | error e => rfl
  | ok _ =>
    dsimp only
    cases initThreadLogging cfg opened with
    | error e => rfl
    | ok _ => rfl

/-- Either a `LogicError` is thrown and the list is as before, or the list keeps the tested names,
one at least, and a second check passes. -/
def PreparesThreads (cfg : Configuration) : Prop :=
  (∃ what cfg', cfg.attemptInitConnsInThreadsTesting (.ok ()) = (.error (.logicError what), cfg') ∧
    cfg'.connectionsToRunInThread = cfg.connectionsToRunInThread) ∨
  ∃ cfg', cfg.attemptInitConnsInThreadsTesting (.ok ()) = (.ok (), cfg') ∧
    cfg'.connectionsToRunInThread ≠ [] ∧
    cfg'.connectionsToRunInThread =
      cfg.connectionsToRunInThread.filter (· ∈ cfg.connectionsToTest) ∧
    throwIfConnsToRunEmpty cfg' = .ok ()

theorem throwIfConnsToRunEmpty_ok (h : cfg.connectionsToRunInThread ≠ []) :
    throwIfConnsToRunEmpty cfg = .ok () := by
  unfold throwIfConnsToRunEmpty
  rw [if_neg]
  simp [h]

theorem santize_connectionsToRunInThread (hm : cfg.connectionsInThreads = true) :
    cfg.santizeConnectionsToRunInThread.connectionsToRunInThread =
      cfg.connectionsToRunInThread.filter (· ∈ cfg.connectionsToTest) := by
  unfold santizeConnectionsToRunInThread
  rw [if_neg (by simp [hm])]
  exact List.filter_congr fun c _ => by simp

theorem attemptInit_empty (hm : cfg.connectionsInThreads = true)
    (h : cfg.connectionsToRunInThread = []) : ∃ what,
    cfg.attemptInitConnsInThreadsTesting (.ok ()) = (.error (.logicError what), cfg) := by
  have hthrown : ∃ what, throwIfConnsToRunEmpty cfg = .error (.logicError what) :=
    ⟨_, if_pos (by simp [hm, h])⟩
  obtain ⟨what, hwhat⟩ := hthrown
  refine ⟨what, attempt_cons_error ?_⟩
  dsimp only
  rw [hwhat]
  rfl

theorem attemptInit_nonempty (h : cfg.connectionsToRunInThread ≠ []) :
    cfg.attemptInitConnsInThreadsTesting (.ok ()) =
      (.ok (), cfg.santizeConnectionsToRunInThread) := by
  rw [attemptInit_ok_iff, initConnsInThreadsTesting, throwIfConnsToRunEmpty_ok h]
  unfold initThreadLogging
  split_ifs <;> rfl

/-- The list that is left is usable, unless nothing in it is tested. -/
theorem preparesThreads_iff (hm : cfg.connectionsInThreads = true) : cfg.PreparesThreads ↔
    cfg.connectionsToRunInThread = [] ∨
      ∃ c ∈ cfg.connectionsToRunInThread, c ∈ cfg.connectionsToTest := by
  by_cases hrun : cfg.connectionsToRunInThread = []
  · obtain ⟨what, hthrown⟩ := attemptInit_empty hm hrun
    exact iff_of_true (Or.inl ⟨what, cfg, hthrown, rfl⟩) (Or.inl hrun)
  · have hfilter : cfg.connectionsToRunInThread.filter (· ∈ cfg.connectionsToTest) ≠ [] ↔
        ∃ c ∈ cfg.connectionsToRunInThread, c ∈ cfg.connectionsToTest := by
      simp [List.filter_eq_nil_iff]
    rw [or_iff_right hrun, ← hfilter]
    have hattempt := attemptInit_nonempty hrun
    have hsantize := santize_connectionsToRunInThread hm
    constructor
    · rintro (⟨what, cfg', hthrown, -⟩ | ⟨cfg', hleft, hne, -⟩)
      · rw [hattempt] at hthrown
        cases hthrown
      · obtain rfl := (Prod.mk.inj (hattempt.symm.trans hleft)).2
        rwa [hsantize] at hne
    · intro hne
      rw [← hsantize] at hne
      exact Or.inr ⟨_, hattempt, hne, hsantize, throwIfConnsToRunEmpty_ok hne⟩

theorem preparesThreads_iff_initial :
    (Configuration.initial true false ["mysql"]).PreparesThreads :=
  (preparesThreads_iff rfl).mpr (by decide)

/-- A threaded connection that is not tested. -/
def untestedThread : Configuration :=
  { Configuration.initial true false ["sqlite"] with connectionsToRunInThread := ["mysql"] }

/-- The first check passes, the filtered list is empty, and a second check throws. -/
theorem untestedThread_not_prepared :
    (untestedThread.attemptInitConnsInThreadsTesting (.ok ())).1 = .ok () ∧
    (untestedThread.attemptInitConnsInThreadsTesting (.ok ())).2.connectionsToRunInThread = [] ∧
    ¬∀ cfg : Configuration, cfg.connectionsInThreads = true → cfg.PreparesThreads := by
  refine ⟨rfl, rfl, fun hclaim => ?_⟩
  rcases hclaim untestedThread rfl with ⟨what, cfg', hthrown, -⟩ | ⟨cfg', hleft, hne, -⟩
  · cases hthrown
  · cases hleft
    exact hne rfl

end Configuration

/-! ### Starting a worker -/

variable {cfg : Configuration} {connection : String}

/-- Either the guard throws and the thread is as before, or the connections of the worker are
registered, which are those it maps to. -/
def GuardSuffices (cfg : Configuration) (connection : String) (t : ThreadLocals) (s : Shared) :
    Prop :=
  (∃ what, throwIfNoConfig cfg connection = .error (.invalidArgumentError what) ∧
    attemptWorkerStmts cfg connection workerPrologue (t, s) =
      (.error (.invalidArgumentError what), (t, s))) ∨
  ∃ w, cfg.computeConfigurationsToAdd true connection = .ok w ∧
    (∀ x, x ∈ w ↔ x ∈ cfg.getMappedConnections connection) ∧
    attemptWorkerStmts cfg connection workerPrologue (t, s) =
      (.ok (), ({ t with inThread := true, configurations := w }, s))

theorem throwIfNoConfig_ok (h : connection ∈ cfg.configurations) :
    throwIfNoConfig cfg connection = .ok () := if_pos h

theorem throwIfNoConfig_error (h : connection ∉ cfg.configurations) :
    ∃ what, throwIfNoConfig cfg connection = .error (.invalidArgumentError what) :=
  ⟨_, if_neg h⟩

/-- The guard throws before anything has changed. -/
theorem attemptWorkerStmts_guarded {what : String} {t : ThreadLocals} {s : Shared}
    (h : throwIfNoConfig cfg connection = .error (.invalidArgumentError what)) :
    attemptWorkerStmts cfg connection workerPrologue (t, s) =
      (.error (.invalidArgumentError what), (t, s)) := by
  unfold attemptWorkerStmts workerPrologue
  rw [attempt_cons_ok rfl]
  apply attempt_cons_error
  simp only [execWorkerStmt, h]
  rfl

/-- Behind the guard the thread is marked first, and then its configurations are looked up. -/
theorem attemptWorkerStmts_passed {t : ThreadLocals} {s : Shared}
    (h : throwIfNoConfig cfg connection = .ok ()) :
    attemptWorkerStmts cfg connection workerPrologue (t, s) =
      match cfg.computeConfigurationsToAdd true connection with
      | .ok w => (.ok (), ({ t with inThread := true, configurations := w }, s))
      | .error e => (.error e, ({ t with inThread := true }, s)) := by
  unfold attemptWorkerStmts workerPrologue
  have hguard : execWorkerStmt cfg connection t s .throwIfNoConfig = .ok (t, s) := by
    simp only [execWorkerStmt, h]
    rfl
  rw [attempt_cons_ok rfl, attempt_cons_ok hguard, attempt_cons_ok rfl]
  cases hw : cfg.computeConfigurationsToAdd true connection with
  | ok w =>
    apply attempt_cons_ok
    simp only [execWorkerStmt, hw]
    rfl
  | error e =>
    apply attempt_cons_error
    simp only [execWorkerStmt, hw]
    rfl

/-- The guard is sufficient for the connections that it stops, and for those of which every mapped
name is configured. -/
theorem guardSuffices_iff (hm : cfg.connectionsInThreads = true) (hc : connection ≠ "") :
    (∀ t s, GuardSuffices cfg connection t s) ↔
      connection ∉ cfg.configurations ∨
        ∀ x ∈ cfg.getMappedConnections connection, x ∈ cfg.configurations := by
  have hfound := exists_worker_iff hm connection
  constructor
  · intro h
    rcases h .initial .initial with ⟨what, hthrown, -⟩ | ⟨w, hw, -⟩
    · left
      intro hmem
      rw [throwIfNoConfig_ok hmem] at hthrown
      cases hthrown
    · exact Or.inr (hfound.mp ⟨w, hw⟩).2
  · intro h t s
    by_cases hmem : connection ∈ cfg.configurations
    · obtain ⟨w, hw⟩ := hfound.mpr ⟨hc, h.resolve_left (not_not_intro hmem)⟩
      refine Or.inr ⟨w, hw, mem_of_worker hm hw, ?_⟩
      rw [attemptWorkerStmts_passed (throwIfNoConfig_ok hmem), hw]
    · obtain ⟨what, hthrown⟩ := throwIfNoConfig_error hmem
      exact Or.inl ⟨what, hthrown, attemptWorkerStmts_guarded hthrown⟩

theorem guardSuffices_iff_initial :
    GuardSuffices (Configuration.initial true false ["mysql"]) "mysql" .initial .initial :=
  (guardSuffices_iff rfl (by decide)).mpr (Or.inr (by decide)) .initial .initial

/-- A connection that maps to a name without configuration. -/
def unconfiguredAlias : Configuration :=
  { Configuration.initial true false ["mysql"] with configurations := [⟨"mysql", []⟩].toAList }

/-- The guard passes, and the worker dies of a failed lookup after it was marked. -/
theorem unconfiguredAlias_not_guarded :
    throwIfNoConfig unconfiguredAlias "mysql" = .ok () ∧
    attemptWorkerStmts unconfiguredAlias "mysql" workerPrologue (.initial, .initial) =
      (.error .outOfRange, ({ ThreadLocals.initial with inThread := true }, .initial)) ∧
    ¬∀ (cfg : Configuration) (connection : String), cfg.connectionsInThreads = true →
      connection ≠ "" → ∀ t s, GuardSuffices cfg connection t s := by
  refine ⟨rfl, rfl, fun hclaim => ?_⟩
  rcases hclaim unconfiguredAlias "mysql" rfl (by decide) .initial .initial with
    ⟨what, hthrown, -⟩ | ⟨w, hw, -⟩
  · cases hthrown
  · cases hw

end TinyPlay

import TinyPlay.Proofs.AppCounters
import TinyPlay.Proofs.WorkerLogs
import Mathlib.Algebra.BigOperators.Group.Finset.Basic

/-! The application counters over a whole run, and workers that throw. What a worker captured and
counted is kept only when its exception comes while it holds nothing unsaved. -/

namespace TinyPlay.System

open Accumulator

variable {cfg : Configuration} {es : List Event} {e : Event} {s s' : System}

/-! ### Who saved which counters -/

/-- The main thread is past its save. -/
def pastSave : MainPc → Bool
  | .logApplicationSummary => true
  | .returned => true
  | _ => false

theorem pastReplay_of_pastSave {pc : MainPc} (h : pastSave pc = true) : pastReplay pc = true := by
  cases pc with
  | logApplicationSummary | returned => rfl
  | _ => cases h

theorem MainMove.pastSave {a : MainAction} (h : MainMove s a s') :
    pastSave s'.pc = (pastSave s.pc || a = .exec .saveCountersForAppSummary) ∧
      (a = .exec .saveCountersForAppSummary → pastSave s.pc = false) := by
  cases h with
  | message a m _ ha =>
    have hne := message_ne_main_exec ha .saveCountersForAppSummary
    simp [hne]
  | log => simp
  | throw hthrow =>
    rcases pc_of_canThrow hthrow with hpc | ⟨cs, hpc⟩ | ⟨cs, hpc⟩ <;>
      simp [hpc, System.pastSave]
  | connectToDatabase _ _ hpc | init _ _ hpc | spawn _ _ hpc | test _ _ hpc | testsDone _ hpc
  | joinThreads hpc | restore hpc | skipReplay hpc | replay hpc | saveCounters _ hpc
  | summary hpc | propagate hpc =>
    rw [hpc]
    simp [System.pastSave]

def countersOrder (es : List Event) : List ℕ := execOrder .saveCountersForAppSummary es

/-- The counters of a worker under its name. -/
def callOf (es : List Event) (s : System) (i : ℕ) : String × ThreadCounters :=
  (s.connectionOf i, amounts (historyOf i es))

/-- The saves of a run: the workers in their order, then the main thread. -/
def saveCalls (es : List Event) (s : System) : List (String × ThreadCounters) :=
  (countersOrder es).map (callOf es s) ++
    if pastSave s.pc then [("main", mainAmounts es)] else []

/-- A worker that saved its counters runs no more tests. -/
theorem Threads.call_frozen (h : Threads cfg es s) (hmove : Move s e s') {i : ℕ}
    (hi : i ∈ countersOrder es) : callOf (es ++ [e]) s' i = callOf es s i := by
  have hmem := mem_execOrder.mp hi
  obtain ⟨w, hw⟩ := h.exists_worker hmem
  unfold callOf
  rw [hmove.connectionOf h.inThread hw]
  congr 1
  cases hmove with
  | main => rw [historyOf_main]
  | @worker j a v v' shared aborted hv hworker =>
    by_cases hj : j = i
    · subst hj
      rw [hw] at hv
      cases hv
      rw [historyOf_self, amounts_snoc]
      cases hworker with
      | log amount hpc =>
        obtain ⟨stmt, hbody, -, hlt⟩ := WorkerPc.body_of_testing hpc
        have hexecuted := (h.workers j w hw).executed
        rw [hbody] at hexecuted
        have hlt' := (hexecuted.2 _).mp hmem
        omega
      | capture _ _ ha | print _ _ ha =>
        rw [message_amount ha]
        exact add_zero _
      | _ => exact add_zero _
    · rw [historyOf_ne hj]

theorem Threads.map_callOf (h : Threads cfg es s) (hmove : Move s e s') :
    (countersOrder es).map (callOf (es ++ [e]) s') = (countersOrder es).map (callOf es s) :=
  List.map_congr_left fun _ hi => h.call_frozen hmove hi

/-! ### The application counters -/

/-- The application counters are the accumulated saves. -/
def Counted (es : List Event) (s : System) : Prop :=
  s.shared.app.Represents (accumulateAll AppCounters.constructedItems (saveCalls es s))

theorem Counted.save (h : Counted es s) {app : AppCounters} {n : String} {t : ThreadCounters}
    (hsave : s.shared.app.saveCountersForAppSummary t n = .ok app)
    (hcalls : saveCalls (es ++ [e]) s' = saveCalls es s ++ [(n, t)])
    (happ : s'.shared.app = app) : Counted (es ++ [e]) s' := by
  obtain ⟨app', hsave', hrep⟩ := AppCounters.save_represents h t n
  obtain rfl : app' = app := Except.ok.inj (hsave'.symm.trans hsave)
  unfold Counted
  rw [happ, hcalls, accumulateAll_append]
  exact hrep

theorem Counted.keep (h : Counted es s) (hcalls : saveCalls (es ++ [e]) s' = saveCalls es s)
    (happ : s'.shared.app = s.shared.app) : Counted (es ++ [e]) s' := by
  unfold Counted
  rw [happ, hcalls]
  exact h

/-- The main thread counts nothing more once it has saved. -/
theorem MainMove.no_amount {a : MainAction} (h : MainMove s a s')
    (hp : System.pastSave s.pc = true) :
    Event.mainAmount? (.main a) = none := by
  cases h with
  | log amount htests =>
    unfold inMainTests at htests
    split at htests
    · rw [‹s.pc = _›] at hp
      cases hp
    · rw [‹s.pc = _›] at hp
      cases hp
    · cases htests
  | message a m _ hm => cases a <;> first | rfl | cases hm
  | _ => rfl

theorem Counted.main {a : MainAction} (h : Counted es s) (hthreads : Threads cfg es s)
    (hmain : MainMove s a s') : Counted (es ++ [.main a]) s' := by
  obtain ⟨hpast, hfirst⟩ := hmain.pastSave
  have horder : countersOrder (es ++ [.main a]) = countersOrder es := by
    rw [countersOrder, execOrder_snoc]
    exact List.append_nil _
  rcases (hmain.effect hthreads.inThread).app with ⟨ha, hsave⟩ | ⟨ha, happ⟩
  · refine h.save hsave ?_ rfl
    unfold saveCalls
    rw [horder, hthreads.map_callOf (.main hmain), hpast, hfirst ha, mainAmounts_snoc,
      ← hthreads.counters, ha]
    simp [Event.mainAmount?, MainAction.amount?]
  · refine h.keep ?_ happ
    unfold saveCalls
    rw [horder, hthreads.map_callOf (.main hmain), hpast, mainAmounts_snoc]
    cases hp : pastSave s.pc with
    | false => simp [ha]
    | true => simp [hmain.no_amount hp]

theorem Counted.worker {i : ℕ} {a : WorkerAction} {w w' : Worker} {shared : Shared}
    {aborted : Option ThreadId} (h : Counted es s) (hthreads : Threads cfg es s)
    (hw : s.workers[i]? = some w) (hworker : WorkerMove s.cfg i w s.shared a w' shared) :
    Counted (es ++ [.worker i a])
      { s with workers := s.workers.set i w', shared, aborted } := by
  have hmove := Move.worker aborted hw hworker
  have hp : pastSave s.pc = false := by
    rw [← Bool.not_eq_true]
    intro hp
    exact hworker.not_finished (hthreads.joined
      (pastJoin_of_pastReplay (pastReplay_of_pastSave hp)) w (List.mem_of_getElem? hw))
  rcases hworker.effect.app with ⟨rfl, hsave⟩ | ⟨ha, happ⟩
  · refine h.save hsave ?_ rfl
    have horder : countersOrder (es ++ [.worker i (.exec .saveCountersForAppSummary)]) =
        countersOrder es ++ [i] := by
      rw [countersOrder, execOrder_snoc]
      rfl
    have hcall : callOf (es ++ [.worker i (.exec .saveCountersForAppSummary)])
        { s with workers := s.workers.set i w', shared, aborted } i =
          (w.connection, w.locals.counters) := by
      unfold callOf
      rw [hmove.connectionOf hthreads.inThread hw, historyOf_self, amounts_snoc,
        (hthreads.workers i w hw).counters]
      simp [connectionOf, hw, WorkerAction.amount?]
    unfold saveCalls
    rw [horder, List.map_append, List.map_singleton, hthreads.map_callOf hmove, hcall]
    simp [hp]
  · refine h.keep ?_ happ
    have horder : countersOrder (es ++ [.worker i a]) = countersOrder es := execOrder_keep es ha
    unfold saveCalls
    rw [horder, hthreads.map_callOf hmove]
    simp [hp]

theorem Counted.step (h : Counted es s) (hthreads : Threads cfg es s) (hmove : Move s e s') :
    Counted (es ++ [e]) s' := by
  cases hmove with
  | main hmain => exact h.main hthreads hmain
  | worker aborted hw hworker => exact h.worker hthreads hw hworker

theorem run_counted (hrun : Runs.run step (start cfg) es = some s) : Counted es s :=
  run_invariant AppCounters.constructed_represents
    (fun _ _ _ _ hthreads h hmove => h.step hthreads hmove) hrun

/-! ### Throwing with empty hands -/

/-- A worker throws while it captures only when its log is empty and its counters are saved or
zero. -/
def keepsOnThrow (s : System) : Event → Bool
  | .worker i .throw =>
    match s.workers[i]? with
    | some w => !w.locals.inThread || (w.locals.logFromThread.isEmpty &&
        (w.pc = .body .saveLogsFromThread || w.locals.counters = 0))
    | none => true
  | _ => true

/-- A worker that threw left nothing behind. -/
def LeftNothing (es : List Event) : Prop :=
  ∀ i, .throw ∈ historyOf i es → captured (historyOf i es) = [] ∧
    (i ∈ countersOrder es ∨ amounts (historyOf i es) = 0)

theorem mem_countersOrder_snoc {i : ℕ} (h : i ∈ countersOrder es) :
    i ∈ countersOrder (es ++ [e]) := by
  rw [countersOrder, execOrder_snoc]
  exact List.mem_append_left _ h

theorem LeftNothing.step (h : LeftNothing es) (hthreads : Threads cfg es s)
    (hguard : keepsOnThrow s e = true) (hmove : Move s e s') : LeftNothing (es ++ [e]) := by
  intro i hthrow
  cases hmove with
  | main =>
    rw [historyOf_main] at hthrow ⊢
    obtain ⟨hlog, hcounters⟩ := h i hthrow
    exact ⟨hlog, hcounters.imp_left mem_countersOrder_snoc⟩
  | @worker j a w w' shared aborted hw hworker =>
    by_cases hj : j = i
    case neg =>
      rw [historyOf_ne hj] at hthrow ⊢
      obtain ⟨hlog, hcounters⟩ := h i hthrow
      exact ⟨hlog, hcounters.imp_left mem_countersOrder_snoc⟩
    case pos =>
      subst hj
      have hhistory := hthreads.workers j w hw
      rw [historyOf_self] at hthrow ⊢
      rcases List.mem_append.mp hthrow with hbefore | hnow
      · have hpc : w.pc = .caught := by
          have hexecuted := hhistory.executed
          cases hpc : w.pc with
          | body stmt =>
            rw [hpc] at hexecuted
            exact absurd hbefore hexecuted.1
          | caught => rfl
          | finished => exact absurd hpc hworker.not_finished
        obtain ⟨hlog, hcounters⟩ := h j hbefore
        obtain ⟨hcaptured, hamounts⟩ := hhistory.caught_step hpc hworker
        rw [hcaptured, hamounts]
        exact ⟨hlog, hcounters.imp_left mem_countersOrder_snoc⟩
      · obtain rfl := List.mem_singleton.mp hnow
        have hstep := hhistory.step hworker
        rw [hstep.captured_eq, ← hstep.counters]
        cases hworker with
        | throw stmt hpc =>
          cases hin : w.locals.inThread with
          | false =>
            obtain ⟨hlog, hcounters⟩ := hhistory.nothing_before hpc hin
            exact ⟨hlog, Or.inr hcounters⟩
          | true =>
            simp only [keepsOnThrow, hw, hin, Bool.not_true, Bool.false_or, Bool.and_eq_true,
              List.isEmpty_iff, Bool.or_eq_true, decide_eq_true_eq] at hguard
            obtain ⟨hlog, hsaved⟩ := hguard
            refine ⟨hlog, hsaved.imp_left ?_⟩
            intro hsave
            have hexecuted := hhistory.executed
            rw [hsave] at hexecuted
            exact mem_countersOrder_snoc (mem_execOrder.mpr ((hexecuted.2 _).mpr (by decide)))
        | capture _ _ ha => cases ha
        | print _ _ ha => cases ha

theorem run_leftNothing (hmeets : Runs.Meets step keepsOnThrow (start cfg) es)
    (hrun : Runs.run step (start cfg) es = some s) : LeftNothing es :=
  run_invariant_of_meets (P := fun es _ => LeftNothing es) keepsOnThrow
    (fun _ hthrow => absurd hthrow List.not_mem_nil)
    (fun _ _ _ _ hthreads h hguard hstep => h.step hthreads hguard (step_move hstep)) hmeets hrun

/-! ### Nothing is lost -/

/-- Everything that a name's workers, and the main thread under its name, have counted. -/
def contributed (es : List Event) (s : System) (n : String) : ThreadCounters :=
  (∑ i ∈ Finset.range s.workers.length with s.connectionOf i = n, amounts (historyOf i es)) +
    if n = "main" then mainAmounts es else 0

/-- Each captured message is delivered once, in the block of its worker, and the application
counters contain every counted amount. -/
structure NothingLost (cfg : Configuration) (es : List Event) (s : System) : Prop where
  delivered : Delivered cfg es s
  once : ∀ i, captured (historyOf i es) ≠ [] → (saveOrder es).count i = 1
  counters : ∀ n, (s.shared.app.valueOf n).getD 0 = contributed es s n

theorem total_saveCalls (hnodup : (countersOrder es).Nodup) (hpast : pastSave s.pc = true)
    (n : String) : total (saveCalls es s) n =
      (∑ i ∈ (countersOrder es).toFinset with s.connectionOf i = n, amounts (historyOf i es)) +
        if n = "main" then mainAmounts es else 0 := by
  unfold saveCalls
  rw [total_append, if_pos hpast, total_cons, total_nil, add_zero]
  congr 1
  · unfold total
    have hset : {i ∈ (countersOrder es).toFinset | s.connectionOf i = n} =
        ((countersOrder es).filter fun i => s.connectionOf i = n).toFinset := by
      ext i
      simp
    rw [List.filter_map, List.map_map, hset, List.sum_toFinset _ (hnodup.filter _)]
    rfl
  · simp only [eq_comm]

theorem nothingLost_of_keeps (hmeets : Runs.Meets step keepsOnThrow (start cfg) es)
    (hrun : Runs.run step (start cfg) es = some s) (hpast : pastSave s.pc = true) :
    NothingLost cfg es s := by
  have hreplay := pastReplay_of_pastSave hpast
  have hthreads := run_threads hrun
  have hleft : LeftNothing es := run_leftNothing hmeets hrun
  have hfinished := hthreads.joined (pastJoin_of_pastReplay hreplay)
  have hnodup : ∀ stmt, (execOrder stmt es).Nodup := run_execOrder_nodup hrun
  refine ⟨run_delivered hrun hreplay, ?_, ?_⟩
  · intro i hne
    refine List.count_eq_one_of_mem (hnodup _) ?_
    by_cases hthrow : .throw ∈ historyOf i es
    · exact absurd (hleft i hthrow).1 hne
    · cases hw : s.workers[i]? with
      | none =>
        rw [hthreads.absent i (List.getElem?_eq_none_iff.mp hw)] at hne
        exact absurd rfl hne
      | some w => exact hthreads.mem_saveOrder hw (hfinished w (List.mem_of_getElem? hw)) hthrow
  · intro n
    rw [AppCounters.valueOf_getD (run_counted hrun),
      total_accumulateAll AppCounters.constructed_represents.nodup,
      AppCounters.total_constructedItems, zero_add, total_saveCalls (hnodup _) hpast]
    unfold contributed
    congr 1
    refine Finset.sum_subset ?_ ?_
    · intro i hi
      rw [Finset.mem_filter, List.mem_toFinset] at hi
      obtain ⟨w, hw⟩ := hthreads.exists_worker (mem_execOrder.mp hi.1)
      rw [Finset.mem_filter, Finset.mem_range]
      exact ⟨(List.getElem?_eq_some_iff.mp hw).1, hi.2⟩
    · intro i hi hnot
      rw [Finset.mem_filter, Finset.mem_range] at hi
      have hmem : i ∉ countersOrder es := by
        intro h
        exact hnot (Finset.mem_filter.mpr ⟨List.mem_toFinset.mpr h, hi.2⟩)
      have hw := List.getElem?_eq_getElem hi.1
      have hexecuted := (hthreads.workers i _ hw).executed
      rw [hfinished _ (List.getElem_mem hi.1)] at hexecuted
      rcases hexecuted with ⟨hthrow, -⟩ | ⟨-, hall⟩
      · exact (hleft i hthrow).2.resolve_left hmem
      · exact absurd (mem_execOrder.mpr (hall _)) hmem

/-- Two workers throw with `g_inThread` set: one has counted nothing, the other one has saved its
counters, and neither has captured a message. The third one logs. -/
def throwingWorkers : List Event :=
  startWorkers 3 ++ untilTests 0 ++ untilTests 1 ++ [.worker 0 .throw,
    .worker 1 (.log ⟨3, 1, ⟨0, 1, 0⟩, true⟩)] ++ untilTests 2 ++
    [.worker 2 (.emit ⟨.info, "b"⟩), .worker 0 (.emit ⟨.critical, "failed"⟩),
      .worker 2 (.log ⟨7, 4, ⟨1, 0, 0⟩, false⟩), .worker 0 .leaveCatch] ++
    execAll 1 [.testQueryBuilder, .testTinyOrm, .saveCountersForAppSummary] ++
    [.worker 1 .throw] ++ fromTests 2 ++ [.worker 1 .leaveCatch] ++ finishRun ++
    [.main (.exec .saveCountersForAppSummary)]

theorem nothingLost_of_keeps_throwing :
    ∃ s, Runs.run step (start (.initial true false ["sqlite", "postgres", "mysql"]))
        throwingWorkers = some s ∧
      NothingLost (.initial true false ["sqlite", "postgres", "mysql"]) throwingWorkers s ∧
      captured (historyOf 2 throwingWorkers) = [⟨.info, "b"⟩] ∧
      amounts (historyOf 1 throwingWorkers) = ⟨3, 1, ⟨0, 1, 0⟩, true⟩ := by
  have hpc : ((Runs.run step (start (.initial true false ["sqlite", "postgres", "mysql"]))
      throwingWorkers).map fun s => pastSave s.pc) = some true := by decide
  obtain ⟨s, hrun, hpast⟩ := Option.map_eq_some_iff.mp hpc
  have hmeets : Runs.Meets step keepsOnThrow
      (start (.initial true false ["sqlite", "postgres", "mysql"])) throwingWorkers :=
    .of_checks (by decide)
  exact ⟨s, hrun, nothingLost_of_keeps hmeets hrun hpast, by decide, by decide⟩

/-- The worker throws in its tests, after a message and a finished count. -/
def failingWorker : List Event :=
  startWorkers 1 ++ untilTests 0 ++
    [.worker 0 (.emit ⟨.info, "a"⟩), .worker 0 (.log ⟨7, 4, ⟨1, 0, 0⟩, false⟩), .worker 0 .throw,
      .worker 0 (.emit ⟨.critical, "failed"⟩), .worker 0 .leaveCatch] ++ finishRun ++
    [.main (.exec .saveCountersForAppSummary)]

/-- The captured message and the counted amounts die with the thread. -/
theorem failingWorker_loses :
    ∃ s, Runs.run step (start (.initial true false ["sqlite"])) failingWorker = some s ∧
      s.pc = .logApplicationSummary ∧
      ¬ NothingLost (.initial true false ["sqlite"]) failingWorker s := by
  have hpc : ((Runs.run step (start (.initial true false ["sqlite"])) failingWorker).map
      System.pc) = some .logApplicationSummary := by decide
  obtain ⟨s, hrun, hs⟩ := Option.map_eq_some_iff.mp hpc
  refine ⟨s, hrun, hs, ?_⟩
  intro h
  have honce := h.once 0 (by decide)
  exact absurd honce (by decide)

end TinyPlay.System

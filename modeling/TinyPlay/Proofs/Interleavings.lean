import TinyPlay.Proofs.Aggregate
import TinyPlay.Proofs.Exits
import TinyPlay.Proofs.Isolation

/-! Two runs in which every thread makes the same steps, in any two orders. The threads end alike,
the application counters and the saved logs are the same up to the order of the saves, and the
sums of the Application Summary are the same. -/

namespace TinyPlay

open Accumulator

namespace AppCounters

/-- The same entries in another order. -/
structure Shuffled (app app' : AppCounters) : Prop where
  functionsElapsed : app.functionsElapsed.Perm app'.functionsElapsed
  queriesElapsed : app.queriesElapsed.Perm app'.queriesElapsed
  statementsCounter : app.statementsCounter.Perm app'.statementsCounter
  recordsHaveBeenModified : app.recordsHaveBeenModified.Perm app'.recordsHaveBeenModified
  value : ∀ n, app.valueOf n = app'.valueOf n

theorem Represents.shuffled {app app' : AppCounters} {items items' : List (String × ThreadCounters)}
    (h : app.Represents items) (h' : app'.Represents items') (hperm : items.Perm items') :
    app.Shuffled app' := by
  refine ⟨?_, ?_, ?_, ?_, ?_⟩
  · rw [h.functionsElapsed, h'.functionsElapsed]
    exact hperm.map _
  · rw [h.queriesElapsed, h'.queriesElapsed]
    exact hperm.map _
  · rw [h.statementsCounter, h'.statementsCounter]
    exact hperm.map _
  · rw [h.recordsHaveBeenModified, h'.recordsHaveBeenModified]
    exact hperm.map _
  · intro n
    have hkey : n ∈ keys items ↔ n ∈ keys items' := (hperm.map Prod.fst).mem_iff
    rw [valueOf_eq h, valueOf_eq h', total_perm hperm]
    simp only [hkey]

end AppCounters

namespace System

/-- Every thread makes the same steps in two runs. -/
structure SameSteps (es es' : List Event) : Prop where
  main : mainHistory es = mainHistory es'
  workers : ∀ i, historyOf i es = historyOf i es'

/-- Two runs that differ in nothing but the order of the saves and of the console. -/
structure SameOutcome (s s' : System) : Prop where
  pc : s.pc = s'.pc
  cfg : s.cfg = s'.cfg
  main : s.main = s'.main
  workers : s.workers = s'.workers
  aborted : s.aborted = s'.aborted
  app : s.shared.app.Shuffled s'.shared.app
  stream : ∃ blocks blocks', s.shared.logThreadStream = String.join blocks ∧
    s'.shared.logThreadStream = String.join blocks' ∧ blocks.Perm blocks'
  logs : s.shared.logsFromThreads.Perm s'.shared.logsFromThreads
  console : ∀ t, (messagesOf t s.shared.console).Perm (messagesOf t s'.shared.console)
  /-- Between the messages of a worker nothing changes its place. -/
  workersConsole : ∀ i, messagesOf (.worker i) s.shared.console =
    messagesOf (.worker i) s'.shared.console

variable {cfg : Configuration} {es es' : List Event} {s s' : System}

theorem mainMessages_eq (es : List Event) :
    directOf .main es = (mainHistory es).filterMap MainAction.message? := by
  unfold directOf mainHistory
  rw [List.filterMap_filterMap]
  refine congrArg (List.filterMap · es) ?_
  funext e
  cases e <;> rfl

theorem mainAmounts_eq (es : List Event) :
    mainAmounts es = ((mainHistory es).filterMap MainAction.amount?).sum := by
  unfold mainAmounts mainHistory
  rw [List.filterMap_filterMap]
  refine congrArg (fun f => (List.filterMap f es).sum) ?_
  funext e
  cases e <;> rfl

theorem SameSteps.execOrder_perm (h : SameSteps es es')
    (hrun : Runs.run step (start cfg) es = some s)
    (hrun' : Runs.run step (start cfg) es' = some s') (stmt : WorkerStmt) :
    (execOrder stmt es).Perm (execOrder stmt es') := by
  rw [List.perm_ext_iff_of_nodup (run_execOrder_nodup hrun stmt) (run_execOrder_nodup hrun' stmt)]
  intro i
  rw [mem_execOrder, mem_execOrder, h.workers]

theorem SameSteps.mainAlone_eq (h : SameSteps es es')
    (hrun : Runs.run step (start cfg) es = some s)
    (hrun' : Runs.run step (start cfg) es' = some s') : s.mainAlone = s'.mainAlone := by
  have hmain := (run_alone hrun).main
  rw [h.main, (run_alone hrun').main] at hmain
  exact (Option.some.inj hmain).symm

theorem SameSteps.main_eq (h : SameSteps es es')
    (hrun : Runs.run step (start cfg) es = some s)
    (hrun' : Runs.run step (start cfg) es' = some s') :
    s.pc = s'.pc ∧ s.cfg = s'.cfg ∧ s.main = s'.main := by
  have hmain := h.mainAlone_eq hrun hrun'
  refine ⟨?_, ?_, ?_⟩
  · simpa using congrArg System.pc hmain
  · simpa using congrArg System.cfg hmain
  · simpa using congrArg System.main hmain

theorem SameSteps.workers_eq (h : SameSteps es es')
    (hrun : Runs.run step (start cfg) es = some s)
    (hrun' : Runs.run step (start cfg) es' = some s') : s.workers = s'.workers := by
  have hmain := h.mainAlone_eq hrun hrun'
  have hcfg := (h.main_eq hrun hrun').2.1
  have hnames : s.workers.map Worker.connection = s'.workers.map Worker.connection := by
    rw [← mainAlone_connections, hmain, mainAlone_connections]
  apply List.ext_getElem?
  intro i
  have hname := congrArg (fun names => names[i]?) hnames
  simp only [List.getElem?_map] at hname
  cases hw : s.workers[i]? with
  | none =>
    rw [hw] at hname
    exact (Option.map_eq_none_iff.mp hname.symm).symm
  | some w =>
    rw [hw] at hname
    obtain ⟨w', hw', hc⟩ := Option.map_eq_some_iff.mp hname.symm
    obtain ⟨t, -, halone⟩ := (run_alone hrun).workers i w hw
    obtain ⟨t', -, halone'⟩ := (run_alone hrun').workers i w' hw'
    rw [hcfg, h.workers, ← hc, halone'] at halone
    rw [hw', (Prod.mk.inj (Option.some.inj halone)).1]

theorem SameSteps.connectionOf_eq (h : SameSteps es es')
    (hrun : Runs.run step (start cfg) es = some s)
    (hrun' : Runs.run step (start cfg) es' = some s') (i : ℕ) :
    s.connectionOf i = s'.connectionOf i := by
  unfold connectionOf
  rw [h.workers_eq hrun hrun']

/-- The process is aborted by the thread that has emitted a fatal message. -/
theorem run_aborted (hrun : Runs.run step (start cfg) es = some s) (t : ThreadId) :
    s.aborted = some t ↔ ∃ e ∈ es, e.fatalThread = some t := by
  refine Runs.invariant
    (P := fun es s => ∀ t, s.aborted = some t ↔ ∃ e ∈ es, e.fatalThread = some t) ?_ ?_ hrun t
  · intro t
    simp [start]
  · intro es s e s' h hstep t
    have hnone : s.aborted = none := by
      cases haborted : s.aborted with
      | none => rfl
      | some _ => simp [System.step, haborted] at hstep
    have hbefore : ∀ e ∈ es, e.fatalThread ≠ some t := by
      intro e he hfatal
      have hsome := (h t).mpr ⟨e, he, hfatal⟩
      rw [hnone] at hsome
      cases hsome
    rw [step_aborted hstep]
    refine ⟨fun hfatal => ⟨e, by simp, hfatal⟩, ?_⟩
    rintro ⟨e', he', hfatal⟩
    rcases List.mem_append.mp he' with he' | he'
    · exact absurd hfatal (hbefore e' he')
    · exact List.mem_singleton.mp he' ▸ hfatal

theorem exists_fatalThread (es : List Event) (t : ThreadId) :
    (∃ e ∈ es, e.fatalThread = some t) ↔ match t with
      | .main => ∃ message, .fatal message ∈ mainHistory es
      | .worker i => ∃ message, .fatal message ∈ historyOf i es := by
  cases t with
  | main =>
    simp only [mainHistory, List.mem_filterMap]
    refine ⟨?_, ?_⟩
    · rintro ⟨e, he, hfatal⟩
      cases e with
      | main a => cases a with
        | fatal message => exact ⟨message, _, he, rfl⟩
        | _ => cases hfatal
      | worker i a => cases a <;> cases hfatal
    · rintro ⟨message, e, he, haction⟩
      cases e with
      | main a =>
        cases haction
        exact ⟨_, he, rfl⟩
      | worker => cases haction
  | worker i =>
    simp only [mem_historyOf]
    refine ⟨?_, ?_⟩
    · rintro ⟨e, he, hfatal⟩
      cases e with
      | main a => cases a <;> cases hfatal
      | worker j a => cases a with
        | fatal message =>
          cases hfatal
          exact ⟨message, he⟩
        | _ => cases hfatal
    · rintro ⟨message, he⟩
      exact ⟨_, he, rfl⟩

theorem SameSteps.aborted_eq (h : SameSteps es es')
    (hrun : Runs.run step (start cfg) es = some s)
    (hrun' : Runs.run step (start cfg) es' = some s') : s.aborted = s'.aborted := by
  apply Option.ext
  intro t
  rw [run_aborted hrun, run_aborted hrun', exists_fatalThread, exists_fatalThread]
  cases t with
  | main => rw [h.main]
  | worker i => simp only [h.workers]

theorem SameSteps.saveCalls_perm (h : SameSteps es es')
    (hrun : Runs.run step (start cfg) es = some s)
    (hrun' : Runs.run step (start cfg) es' = some s') :
    (saveCalls es s).Perm (saveCalls es' s') := by
  have hpc := (h.main_eq hrun hrun').1
  have hcall : callOf es s = callOf es' s' := by
    funext i
    rw [callOf, callOf, h.connectionOf_eq hrun hrun', h.workers]
  unfold saveCalls
  rw [hpc, hcall, mainAmounts_eq, mainAmounts_eq, h.main]
  exact ((h.execOrder_perm hrun hrun' _).map _).append_right _

theorem SameSteps.logs_perm (h : SameSteps es es')
    (hrun : Runs.run step (start cfg) es = some s)
    (hrun' : Runs.run step (start cfg) es' = some s') :
    s.shared.logsFromThreads.Perm s'.shared.logsFromThreads := by
  have hitem : itemOf es s = itemOf es' s' := by
    funext i
    rw [itemOf, itemOf, h.connectionOf_eq hrun hrun', h.workers]
  rw [(run_saved hrun).logs, (run_saved hrun').logs, hitem]
  split_ifs
  · exact .refl _
  · exact (h.execOrder_perm hrun hrun' _).map _

theorem SameSteps.stream (h : SameSteps es es')
    (hrun : Runs.run step (start cfg) es = some s)
    (hrun' : Runs.run step (start cfg) es' = some s') :
    ∃ blocks blocks', s.shared.logThreadStream = String.join blocks ∧
      s'.shared.logThreadStream = String.join blocks' ∧ blocks.Perm blocks' := by
  have hsaved := (run_saved hrun).stream
  have hsaved' := (run_saved hrun').stream
  cases hfile : cfg.isLoggingToFile with
  | false =>
    rw [hfile] at hsaved hsaved'
    exact ⟨[], [], hsaved, hsaved', .refl _⟩
  | true =>
    rw [hfile] at hsaved hsaved'
    refine ⟨_, _, hsaved, hsaved', ?_⟩
    simp only [h.workers]
    exact (h.execOrder_perm hrun hrun' _).map _

theorem SameSteps.console (h : SameSteps es es')
    (hrun : Runs.run step (start cfg) es = some s)
    (hrun' : Runs.run step (start cfg) es' = some s') (t : ThreadId) :
    (messagesOf t s.shared.console).Perm (messagesOf t s'.shared.console) := by
  have hdirect : directOf t es = directOf t es' := by
    cases t with
    | main => rw [mainMessages_eq, mainMessages_eq, h.main]
    | worker i => exact congrArg direct (h.workers i)
  have hpc := (h.main_eq hrun hrun').1
  have hblock : (messagesOf t (replayBlock cfg s)).Perm (messagesOf t (replayBlock cfg s')) := by
    unfold replayBlock
    rw [hpc]
    split_ifs
    · exact (((h.logs_perm hrun hrun').flatMap_right _).map _).filter _ |>.map _
    · exact .refl _
  obtain ⟨before, after, hconsole, hprinted, -⟩ := run_console hrun
  obtain ⟨before', after', hconsole', hprinted', -⟩ := run_console hrun'
  have hsplit : ∀ before after block : List (ThreadId × MessageLogItem),
      (messagesOf t (before ++ block ++ after)).Perm
        (messagesOf t (before ++ after) ++ messagesOf t block) := by
    intro before after block
    rw [messagesOf_append, messagesOf_append, messagesOf_append, List.append_assoc,
      List.append_assoc]
    exact List.perm_append_comm.append_left _
  rw [hconsole, hconsole']
  refine (hsplit _ _ _).trans (.trans ?_ (hsplit _ _ _).symm)
  rw [hprinted, hprinted', hdirect]
  exact hblock.append_left _

/-- The order in which the threads take their turns changes neither where a thread ends, nor what
a name has counted, nor which logs are saved, but only the order of the saves. -/
theorem interleavings_agree (h : SameSteps es es')
    (hrun : Runs.run step (start cfg) es = some s)
    (hrun' : Runs.run step (start cfg) es' = some s') :
    SameOutcome s s' ∧ ∀ build, sumCounters (Build.unbounded build) s.shared.app.statementsCounter =
      sumCounters (Build.unbounded build) s'.shared.app.statementsCounter := by
  obtain ⟨hpc, hcfg, hmain⟩ := h.main_eq hrun hrun'
  have happ : s.shared.app.Shuffled s'.shared.app := by
    refine (run_counted hrun).shuffled (run_counted hrun') ?_
    exact accumulateAll_perm AppCounters.constructed_represents.nodup (h.saveCalls_perm hrun hrun')
  refine ⟨⟨hpc, hcfg, hmain, h.workers_eq hrun hrun', h.aborted_eq hrun hrun', happ,
    h.stream hrun hrun', h.logs_perm hrun hrun', h.console hrun hrun', ?_⟩, ?_⟩
  · intro i
    rw [(run_console hrun).worker i, (run_console hrun').worker i, h.workers]
  · intro build
    rw [sumCounters_unbounded, sumCounters_unbounded, countsOf, countsOf,
      (happ.statementsCounter.map _).sum_eq]

/-- The steps of `twoWorkers`, one thread after the other. -/
def oneByOne : List Event :=
  startWorkers 2 ++ [.main (.emit ⟨.info, "m"⟩)] ++ untilTests 0 ++
    [.worker 0 (.emit ⟨.info, "a"⟩), .worker 0 (.emit ⟨.warning, "c"⟩)] ++ fromTests 0 ++
    untilTests 1 ++ [.worker 1 (.emit ⟨.debug, "b"⟩)] ++ fromTests 1 ++ finishRun

theorem interleavings_agree_twoWorkers :
    ∃ s s', Runs.run step (start (.initial true false ["sqlite", "postgres"])) twoWorkers =
        some s ∧
      Runs.run step (start (.initial true false ["sqlite", "postgres"])) oneByOne = some s' ∧
      SameOutcome s s' := by
  have hends : (Runs.run step (start (.initial true false ["sqlite", "postgres"]))
      twoWorkers).isSome = true := by decide
  have hends' : (Runs.run step (start (.initial true false ["sqlite", "postgres"]))
      oneByOne).isSome = true := by decide
  obtain ⟨s, hrun⟩ := Option.isSome_iff_exists.mp hends
  obtain ⟨s', hrun'⟩ := Option.isSome_iff_exists.mp hends'
  have hsame : SameSteps twoWorkers oneByOne := by
    refine ⟨by decide, ?_⟩
    intro i
    match i with
    | 0 => decide
    | 1 => decide
    | i + 2 => rfl
  exact ⟨s, s', hrun, hrun', (interleavings_agree hsame hrun hrun').1⟩

end System

end TinyPlay

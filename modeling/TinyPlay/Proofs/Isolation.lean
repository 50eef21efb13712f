import TinyPlay.Proofs.Alone

/-! Isolation of the threads: after any interleaving every thread is where its own steps bring it
when it runs alone, and what the threads share is put together from what the workers leave alone. -/

namespace TinyPlay.System

variable {cfg : Configuration} {es : List Event} {e : Event} {s s' : System}

/-! ### The threads of a run -/

/-- Every thread is where it is alone. -/
structure Alone (cfg : Configuration) (es : List Event) (s : System) : Prop where
  main : Runs.run mainStepAlone (start cfg) (mainHistory es) = some s.mainAlone
  workers : ∀ i w, s.workers[i]? = some w → ∃ t, t.Ready ∧
    Worker.alone s.cfg i w.connection (historyOf i es) = some (w, t)

theorem start_alone (cfg : Configuration) : Alone cfg [] (start cfg) :=
  ⟨rfl, fun _ _ h => by cases h⟩

theorem step_cases (h : s.step e = some s') :
    (∃ a, e = .main a ∧ s.mainStep a = some s') ∨
    ∃ i a w w' shared aborted, e = .worker i a ∧ s.workers[i]? = some w ∧
      workerStep s.cfg i w s.shared a = some (w', shared) ∧
      s' = { s with workers := s.workers.set i w', shared, aborted } := by
  simp only [System.step] at h
  split at h
  case isTrue => cases h
  case isFalse =>
    cases e with
    | main a => exact Or.inl ⟨a, rfl, h⟩
    | worker i a =>
      simp only at h
      split at h
      · cases h
      · rename_i hw
        split at h
        · cases h
        · rename_i hmove
          cases h
          exact Or.inr ⟨i, a, _, _, _, _, rfl, hw, hmove, rfl⟩

/-- The configuration changes only before the first worker starts. -/
theorem MainMove.cfg_or {a : MainAction} (h : MainMove s a s') :
    s'.cfg = s.cfg ∨ s.pc = .initConnsInThreadsTesting ∧ s'.workers = s.workers := by
  cases h with
  | init _ _ hpc => exact Or.inr ⟨hpc, rfl⟩
  | _ => exact Or.inl rfl

theorem Alone.main_step {a : MainAction} (h : Alone cfg es s) (hthreads : Threads cfg es s)
    (hdispatched : Dispatched cfg s) (hstep : s.mainStep a = some s') :
    Alone cfg (es ++ [.main a]) s' := by
  have hmove := mainStep_move hstep
  refine ⟨?_, ?_⟩
  · rw [mainHistory_main]
    exact Runs.run_snoc_eq_some.mpr ⟨_, h.main, mainStep_alone hstep⟩
  · intro i w hw
    rw [historyOf_main]
    rcases hmove.cfg_or with hcfg | ⟨hpc, hsame⟩
    · rw [hcfg]
      rcases (hmove.effect hthreads.inThread).workers with hsame | ⟨c, cs, -, hsame⟩
      · rw [hsame] at hw
        exact h.workers i w hw
      · rw [hsame, List.getElem?_append] at hw
        split_ifs at hw with hlt
        · exact h.workers i w hw
        · obtain rfl : w = Worker.start c := by simpa using List.mem_of_getElem? hw
          rw [hthreads.absent i (by omega)]
          exact ⟨.initial, Shared.initial_ready, rfl⟩
    · unfold Dispatched at hdispatched
      rw [hpc] at hdispatched
      rw [hsame, hdispatched.2] at hw
      cases hw

theorem map_connection_set {i : ℕ} {w w' : Worker} {workers : List Worker}
    (hw : workers[i]? = some w) (hc : w'.connection = w.connection) :
    (workers.set i w').map Worker.connection = workers.map Worker.connection := by
  rw [List.map_set, hc]
  apply List.ext_getElem?
  intro k
  rw [List.getElem?_set]
  split_ifs with hk hlt
  · rw [← hk, List.getElem?_map, hw]
    rfl
  · rw [← hk, List.getElem?_eq_none (Nat.le_of_not_lt hlt)]
  · rfl

theorem Alone.worker_step {i : ℕ} {a : WorkerAction} {w w' : Worker} {shared : Shared}
    (h : Alone cfg es s) (aborted : Option ThreadId) (hw : s.workers[i]? = some w)
    (hstep : workerStep s.cfg i w s.shared a = some (w', shared)) :
    Alone cfg (es ++ [.worker i a])
      { s with workers := s.workers.set i w', shared, aborted } := by
  have hc := (workerStep_move hstep).connection
  refine ⟨?_, ?_⟩
  · rw [mainHistory_worker, h.main]
    exact congrArg some (mainAlone_congr rfl rfl rfl (map_connection_set hw hc).symm)
  · intro k v hv
    rw [List.getElem?_set] at hv
    split_ifs at hv with hk
    · subst hk
      cases hv
      obtain ⟨t, ht, halone⟩ := h.workers i w hw
      obtain ⟨t', hstep', ht'⟩ := workerStep_alone ht hstep
      refine ⟨t', ht', ?_⟩
      rw [historyOf_self, hc]
      exact Runs.run_snoc_eq_some.mpr ⟨_, halone, hstep'⟩
    · rw [historyOf_ne hk]
      exact h.workers k v hv

theorem run_alone (hrun : Runs.run step (start cfg) es = some s) : Alone cfg es s := by
  have hboth : Alone cfg es s ∧ Threads cfg es s ∧ Dispatched cfg s := by
    refine Runs.invariant (P := fun es s => Alone cfg es s ∧ Threads cfg es s ∧ Dispatched cfg s)
      ⟨start_alone cfg, start_threads cfg, start_dispatched cfg⟩ ?_ hrun
    rintro es s e s' ⟨h, hthreads, hdispatched⟩ hstep
    have hmove := step_move hstep
    refine ⟨?_, hthreads.step hmove, hdispatched.step hmove⟩
    rcases step_cases hstep with ⟨a, rfl, ha⟩ | ⟨i, a, w, w', shared, aborted, rfl, hw, ha, rfl⟩
    · exact h.main_step hthreads hdispatched ha
    · exact h.worker_step aborted hw ha
  exact hboth.1

/-- The shared state that worker `i` leaves when it is alone. -/
def leftBy (es : List Event) (s : System) (i : ℕ) : Shared :=
  ((Worker.alone s.cfg i (s.connectionOf i) (historyOf i es)).map Prod.snd).getD .initial

/-- The shared state is put together from what the workers leave alone. -/
structure PutTogether (es : List Event) (s : System) : Prop where
  stream : s.shared.logThreadStream =
    String.join ((saveOrder es).map fun i => (leftBy es s i).logThreadStream)
  logs : s.shared.logsFromThreads = (saveOrder es).flatMap fun i => (leftBy es s i).logsFromThreads
  console : ∀ i, messagesOf (.worker i) s.shared.console =
    messagesOf (.worker i) (leftBy es s i).console

theorem Alone.leftBy {i : ℕ} {w : Worker} (h : Alone cfg es s) (hw : s.workers[i]? = some w) :
    Worker.Leaves s.cfg i w.connection (historyOf i es) w (leftBy es s i) := by
  obtain ⟨t, -, halone⟩ := h.workers i w hw
  have hleft : System.leftBy es s i = t := by
    have hc : s.connectionOf i = w.connection := by simp [connectionOf, hw]
    unfold System.leftBy
    rw [hc, halone]
    rfl
  rw [hleft]
  exact Worker.alone_leaves halone

theorem leftBy_absent {i : ℕ} (h : historyOf i es = []) :
    leftBy es s i = .initial := by
  unfold leftBy
  rw [h]
  rfl

/-- The replay speaks for the main thread. -/
theorem messagesOf_replayBlock (cfg : Configuration) (s : System) (i : ℕ) :
    messagesOf (.worker i) (replayBlock cfg s) = [] := by
  unfold replayBlock replayed
  split_ifs
  · rw [messagesOf_map, if_neg (by simp)]
  · rfl

theorem ConsoleOf.worker (h : ConsoleOf cfg es s) (i : ℕ) :
    messagesOf (.worker i) s.shared.console = direct (historyOf i es) := by
  obtain ⟨before, after, hconsole, hdirect, -⟩ := h
  rw [hconsole, messagesOf_append, messagesOf_append, messagesOf_replayBlock, List.append_nil,
    ← messagesOf_append]
  exact hdirect (.worker i)

theorem join_const_empty {α : Type} (l : List α) : String.join (l.map fun _ => "") = "" := by
  induction l using List.reverseRecOn with
  | nil => rfl
  | append_singleton l a ih =>
    rw [List.map_append, List.map_singleton, join_snoc, ih]
    rfl

theorem run_putTogether (hrun : Runs.run step (start cfg) es = some s) : PutTogether es s := by
  have hthreads := run_threads hrun
  have halone := run_alone hrun
  have hsaved := run_saved hrun
  have hfile := hthreads.file
  have hleaves : ∀ i ∈ saveOrder es,
      (leftBy es s i).logThreadStream =
        (if cfg.isLoggingToFile then logText (captured (historyOf i es)) else "") ∧
      (leftBy es s i).logsFromThreads =
        if cfg.isLoggingToFile then [] else [itemOf es s i] := by
    intro i hi
    obtain ⟨w, hw, -, -⟩ := hthreads.saved_finished hi
    have hleft := halone.leftBy hw
    have hsaves : saves (historyOf i es) = true := decide_eq_true (mem_execOrder.mp hi)
    have hname : s.connectionOf i = w.connection := by simp [connectionOf, hw]
    rw [hleft.stream, hleft.logs, hsaves, hfile, itemOf, hname]
    cases cfg.isLoggingToFile <;> exact ⟨rfl, rfl⟩
  refine ⟨?_, ?_, ?_⟩
  · rw [hsaved.stream, List.map_congr_left fun i hi => (hleaves i hi).1]
    cases cfg.isLoggingToFile with
    | true => rfl
    | false => exact (join_const_empty _).symm
  · rw [hsaved.logs, List.flatMap_congr fun i hi => (hleaves i hi).2]
    cases cfg.isLoggingToFile with
    | true => simp
    | false => exact List.map_eq_flatMap
  · intro i
    rw [(run_console hrun).worker i]
    cases hw : s.workers[i]? with
    | none =>
      have habsent := hthreads.absent i (List.getElem?_eq_none_iff.mp hw)
      rw [leftBy_absent habsent, habsent]
      rfl
    | some w => rw [(halone.leftBy hw).console, messagesOf_map, if_pos rfl]

/-- Whatever the others do, each thread of a run is where its own steps bring it when it runs
alone, and the logs and the console are put together from what the workers leave alone. -/
theorem threads_isolated (hrun : Runs.run step (start cfg) es = some s) :
    Runs.run mainStepAlone (start cfg) (mainHistory es) = some s.mainAlone ∧
      (∀ i w, s.workers[i]? = some w →
        ∃ t, Worker.alone s.cfg i w.connection (historyOf i es) = some (w, t)) ∧
      PutTogether es s := by
  refine ⟨(run_alone hrun).main, ?_, run_putTogether hrun⟩
  intro i w hw
  obtain ⟨t, -, halone⟩ := (run_alone hrun).workers i w hw
  exact ⟨t, halone⟩

theorem threads_isolated_twoWorkers :
    ∃ s, Runs.run step (start (.initial true false ["sqlite", "postgres"])) twoWorkers = some s ∧
      s.shared.logsFromThreads =
        [⟨"postgres", [⟨.debug, "b"⟩]⟩, ⟨"sqlite", [⟨.info, "a"⟩, ⟨.warning, "c"⟩]⟩] ∧
      PutTogether twoWorkers s := by
  have hlogs : ((Runs.run step (start (.initial true false ["sqlite", "postgres"])) twoWorkers).map
      fun s => s.shared.logsFromThreads) =
        some [⟨"postgres", [⟨.debug, "b"⟩]⟩, ⟨"sqlite", [⟨.info, "a"⟩, ⟨.warning, "c"⟩]⟩] := by
    decide
  obtain ⟨s, hrun, hs⟩ := Option.map_eq_some_iff.mp hlogs
  exact ⟨s, hrun, hs, (threads_isolated hrun).2.2⟩

end TinyPlay.System

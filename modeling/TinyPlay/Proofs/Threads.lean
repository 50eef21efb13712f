import TinyPlay.Proofs.MainThread

/-! Runs of the whole system. Every event belongs to one thread, so the history of a worker is
the projection of the run to it, and what a worker has executed happens at most once. -/

namespace TinyPlay.System

/-! ### What a run says about its threads -/

def Event.actionOf (i : ℕ) : Event → Option WorkerAction
  | .worker j a => if j = i then some a else none
  | .main _ => none

/-- The steps of worker `i`. -/
def historyOf (i : ℕ) (es : List Event) : List WorkerAction := es.filterMap (Event.actionOf i)

def Event.executes (stmt : WorkerStmt) : Event → Option ℕ
  | .worker i (.exec st) => if st = stmt then some i else none
  | _ => none

/-- The workers that executed a statement, in the order in which they did. -/
def execOrder (stmt : WorkerStmt) (es : List Event) : List ℕ := es.filterMap (Event.executes stmt)

def Event.mainAmount? : Event → Option ThreadCounters
  | .main a => a.amount?
  | .worker _ _ => none

/-- What the finished `logQueryCounters` calls of the main thread added. -/
def mainAmounts (es : List Event) : ThreadCounters := (es.filterMap Event.mainAmount?).sum

theorem historyOf_main (i : ℕ) (es : List Event) (a : MainAction) :
    historyOf i (es ++ [.main a]) = historyOf i es := by
  simp [historyOf, Event.actionOf]

theorem historyOf_self (i : ℕ) (es : List Event) (a : WorkerAction) :
    historyOf i (es ++ [.worker i a]) = historyOf i es ++ [a] := by
  simp [historyOf, Event.actionOf]

theorem historyOf_ne {i j : ℕ} (h : j ≠ i) (es : List Event) (a : WorkerAction) :
    historyOf i (es ++ [.worker j a]) = historyOf i es := by
  simp [historyOf, Event.actionOf, h]

theorem mem_execOrder {stmt : WorkerStmt} {i : ℕ} {es : List Event} :
    i ∈ execOrder stmt es ↔ .exec stmt ∈ historyOf i es := by
  unfold execOrder historyOf
  rw [List.mem_filterMap, List.mem_filterMap]
  refine exists_congr fun e => and_congr_right fun _ => ?_
  cases e with
  | main a => simp [Event.executes, Event.actionOf]
  | worker j a =>
    cases a with
    | exec st => by_cases hst : st = stmt <;> by_cases hj : j = i <;>
        simp [Event.executes, Event.actionOf, hst, hj]
    | _ => simp [Event.executes, Event.actionOf]

theorem executes_eq_some {stmt : WorkerStmt} {i k : ℕ} {a : WorkerAction}
    (h : Event.executes stmt (.worker i a) = some k) : a = .exec stmt ∧ i = k := by
  cases a with
  | exec st =>
    simp only [Event.executes] at h
    split_ifs at h with hst
    cases h
    exact ⟨congrArg _ hst, rfl⟩
  | _ => cases h

theorem execOrder_snoc (stmt : WorkerStmt) (es : List Event) (e : Event) :
    execOrder stmt (es ++ [e]) = execOrder stmt es ++ (e.executes stmt).toList := by
  unfold execOrder
  rw [List.filterMap_append]
  cases h : e.executes stmt <;> simp [h]

theorem execOrder_keep {stmt : WorkerStmt} {i : ℕ} {a : WorkerAction} (es : List Event)
    (ha : a ≠ .exec stmt) : execOrder stmt (es ++ [.worker i a]) = execOrder stmt es := by
  rw [execOrder_snoc]
  cases hexec : Event.executes stmt (.worker i a) with
  | none => exact List.append_nil _
  | some k => exact absurd (executes_eq_some hexec).1 ha

theorem mainAmounts_snoc (es : List Event) (e : Event) :
    mainAmounts (es ++ [e]) = mainAmounts es + e.mainAmount?.getD 0 := by
  unfold mainAmounts
  rw [List.filterMap_append, List.sum_append]
  cases h : e.mainAmount? <;> simp [h]

/-! ### The steps of the system -/

inductive Move (s : System) : Event → System → Prop where
  | main {a : MainAction} {s' : System} (h : MainMove s a s') : Move s (.main a) s'
  | worker {i : ℕ} {a : WorkerAction} {w w' : Worker} {shared : Shared}
      (aborted : Option ThreadId) (hw : s.workers[i]? = some w)
      (h : WorkerMove s.cfg i w s.shared a w' shared) :
      Move s (.worker i a) { s with workers := s.workers.set i w', shared, aborted }

variable {cfg : Configuration} {es : List Event} {e : Event} {s s' : System}

theorem step_move (h : s.step e = some s') : Move s e s' := by
  simp only [step] at h
  split at h
  case isTrue => cases h
  case isFalse =>
    cases e with
    | main a => exact .main (mainStep_move h)
    | worker i a =>
      simp only at h
      split at h
      · cases h
      · rename_i hw
        split at h
        · cases h
        · rename_i hmove
          cases h
          exact .worker _ hw (workerStep_move hmove)

/-- The main thread is past the join, where every worker has finished. -/
def pastJoin : MainPc → Bool
  | .setDefaultConnection => true
  | .replayThrdLogToConsole => true
  | .saveCountersForAppSummary => true
  | .logApplicationSummary => true
  | .returned => true
  | .left => true
  | _ => false

/-- What ties the threads to the run behind them. -/
structure Threads (cfg : Configuration) (es : List Event) (s : System) : Prop where
  workers : ∀ i (w : Worker), s.workers[i]? = some w → w.History (historyOf i es)
  absent : ∀ i, s.workers.length ≤ i → historyOf i es = []
  inThread : s.main.inThread = false
  counters : s.main.counters = mainAmounts es
  file : s.cfg.isLoggingToFile = cfg.isLoggingToFile
  joined : pastJoin s.pc = true → ∀ w ∈ s.workers, w.pc = .finished

theorem start_threads (cfg : Configuration) : Threads cfg [] (start cfg) := by
  refine ⟨?_, ?_, rfl, rfl, rfl, ?_⟩
  · intro i w hw
    cases hw
  · intro i _
    rfl
  · intro h
    cases h

theorem joined_iff : s.joined = true ↔ ∀ w ∈ s.workers, w.pc = .finished := by
  simp [System.joined]

/-- Past the join the main thread starts no worker and came there through a join. -/
theorem MainMove.pastJoin {a : MainAction} (h : MainMove s a s') (hpast : pastJoin s'.pc = true) :
    s'.workers = s.workers ∧ (pastJoin s.pc = true ∨ s.joined = true) := by
  cases h with
  | joinThreads hpc hjoined => exact ⟨rfl, Or.inr hjoined⟩
  | propagate hpc hjoined => exact ⟨rfl, Or.inr hjoined⟩
  | restore hpc | skipReplay hpc | replay hpc | saveCounters _ hpc | summary hpc =>
    refine ⟨rfl, Or.inl ?_⟩
    rw [hpc]
    rfl
  | message | log => exact ⟨rfl, Or.inl hpast⟩
  | _ => cases hpast

theorem Threads.main {a : MainAction} (h : Threads cfg es s) (hmove : MainMove s a s') :
    Threads cfg (es ++ [.main a]) s' := by
  have heffect := hmove.effect h.inThread
  refine ⟨?_, ?_, heffect.inThread, ?_, heffect.file.trans h.file, ?_⟩
  · intro i w hw
    rw [historyOf_main]
    rcases heffect.workers with hsame | ⟨c, cs, -, hsame⟩
    · rw [hsame] at hw
      exact h.workers i w hw
    · rw [hsame] at hw
      rw [List.getElem?_append] at hw
      split_ifs at hw with hlt
      · exact h.workers i w hw
      · obtain rfl : w = Worker.start c := by simpa using List.mem_of_getElem? hw
        rw [h.absent i (by omega)]
        exact Worker.start_history c
  · intro i hi
    rw [historyOf_main]
    refine h.absent i (le_trans ?_ hi)
    rcases heffect.workers with hsame | ⟨c, cs, -, hsame⟩ <;> rw [hsame]
    simp
  · rw [mainAmounts_snoc, heffect.counters, h.counters]
    rfl
  · intro hpast w hw
    obtain ⟨hsame, hjoined⟩ := hmove.pastJoin hpast
    rw [hsame] at hw
    rcases hjoined with hjoined | hjoined
    · exact h.joined hjoined w hw
    · exact joined_iff.mp hjoined w hw

theorem Threads.worker {i : ℕ} {a : WorkerAction} {w w' : Worker} {shared : Shared}
    (h : Threads cfg es s) (aborted : Option ThreadId) (hw : s.workers[i]? = some w)
    (hmove : WorkerMove s.cfg i w s.shared a w' shared) :
    Threads cfg (es ++ [.worker i a])
      { s with workers := s.workers.set i w', shared, aborted } := by
  have hlt : i < s.workers.length := (List.getElem?_eq_some_iff.mp hw).1
  refine ⟨?_, ?_, h.inThread, ?_, h.file, ?_⟩
  · intro k v hv
    rw [List.getElem?_set] at hv
    split_ifs at hv with hk
    · subst hk
      cases hv
      rw [historyOf_self]
      exact (h.workers i w hw).step hmove
    · rw [historyOf_ne hk]
      exact h.workers k v hv
  · intro k hk
    rw [List.length_set] at hk
    rw [historyOf_ne (by omega)]
    exact h.absent k hk
  · rw [mainAmounts_snoc]
    exact h.counters.trans (add_zero _).symm
  · intro hpast v hv
    exact absurd (h.joined hpast w (List.mem_of_getElem? hw)) hmove.not_finished

theorem Threads.step (h : Threads cfg es s) (hmove : Move s e s') :
    Threads cfg (es ++ [e]) s' := by
  cases hmove with
  | main hmain => exact h.main hmain
  | worker aborted hw hworker => exact h.worker aborted hw hworker

theorem run_threads (hrun : Runs.run step (start cfg) es = some s) : Threads cfg es s :=
  Runs.invariant (start_threads cfg) (fun _ _ _ _ h hstep => h.step (step_move hstep)) hrun

/-- The rule for invariants of guarded runs that rest on the threads. -/
theorem run_invariant_of_meets (guard : System → Event → Bool) {P : List Event → System → Prop}
    (hstart : P [] (start cfg))
    (hstep : ∀ es s e s', Threads cfg es s → P es s → guard s e = true → s.step e = some s' →
      P (es ++ [e]) s')
    (hmeets : Runs.Meets step guard (start cfg) es) (hrun : Runs.run step (start cfg) es = some s) :
    P es s := by
  have hboth : Threads cfg es s ∧ P es s := by
    refine Runs.invariant_of_meets (P := fun es s => Threads cfg es s ∧ P es s) guard
      ⟨start_threads cfg, hstart⟩ ?_ hmeets hrun
    intro es t e t' h hguard ht
    exact ⟨h.1.step (step_move ht), hstep es t e t' h.1 h.2 hguard ht⟩
  exact hboth.2

/-- The rule for invariants of all runs that rest on the threads. -/
theorem run_invariant {P : List Event → System → Prop} (hstart : P [] (start cfg))
    (hstep : ∀ es s e s', Threads cfg es s → P es s → Move s e s' → P (es ++ [e]) s')
    (hrun : Runs.run step (start cfg) es = some s) : P es s :=
  run_invariant_of_meets (fun _ _ => true) hstart
    (fun es s e s' hthreads h _ ht => hstep es s e s' hthreads h (step_move ht))
    (fun _ _ _ _ _ _ => rfl) hrun

/-! ### Statements happen once -/

theorem Threads.exists_worker (h : Threads cfg es s) {i : ℕ} {a : WorkerAction}
    (ha : a ∈ historyOf i es) : ∃ w, s.workers[i]? = some w := by
  cases hw : s.workers[i]? with
  | some w => exact ⟨w, rfl⟩
  | none =>
    rw [h.absent i (List.getElem?_eq_none_iff.mp hw)] at ha
    cases ha

/-- A worker that executes a statement has not executed it before. -/
theorem Threads.execOrder_nodup (h : Threads cfg es s) (hmove : Move s e s') (stmt : WorkerStmt)
    (hnd : (execOrder stmt es).Nodup) : (execOrder stmt (es ++ [e])).Nodup := by
  rw [execOrder_snoc]
  cases hmove with
  | main => simpa [Event.executes] using hnd
  | @worker i a w w' shared aborted hw hworker =>
    cases ha : Event.executes stmt (.worker i a) with
    | none => simpa using hnd
    | some k =>
      obtain ⟨rfl, rfl⟩ := executes_eq_some ha
      have hexecuted := (h.workers i w hw).executed
      rw [hworker.pc_of_exec] at hexecuted
      have hnot : i ∉ execOrder stmt es := by
        rw [mem_execOrder, hexecuted.2]
        exact lt_irrefl _
      rw [Option.toList_some, List.nodup_append]
      refine ⟨hnd, List.nodup_singleton i, ?_⟩
      intro x hx y hy hxy
      rw [List.mem_singleton.mp hy] at hxy
      exact hnot (hxy ▸ hx)

theorem run_execOrder_nodup (hrun : Runs.run step (start cfg) es = some s) (stmt : WorkerStmt) :
    (execOrder stmt es).Nodup :=
  run_invariant (P := fun es _ => (execOrder stmt es).Nodup) List.nodup_nil
    (fun _ _ _ _ hthreads h hmove => hthreads.execOrder_nodup hmove stmt h) hrun

/-- A worker that has finished makes no more steps. -/
theorem Threads.historyOf_finished {i : ℕ} {w : Worker} (hmove : Move s e s')
    (hw : s.workers[i]? = some w) (hpc : w.pc = .finished) :
    historyOf i (es ++ [e]) = historyOf i es := by
  cases hmove with
  | main => exact historyOf_main i es _
  | @worker j a v v' shared aborted hv hworker =>
    refine historyOf_ne ?_ es a
    intro hj
    subst hj
    rw [hw] at hv
    cases hv
    exact hworker.not_finished hpc

/-! ### Dispatching -/

/-- The started workers so far, and the ones still to start, at each point of the main thread. -/
def Dispatched (cfg : Configuration) (s : System) : Prop :=
  match s.pc with
  | .connectToDatabase => s.cfg = cfg ∧ s.workers = []
  | .initConnsInThreadsTesting => s.cfg = cfg ∧ s.workers = []
  | .loop connections => s.cfg = cfg.santizeConnectionsToRunInThread ∧
      s.workers.map Worker.connection ++ connections.filter s.cfg.runsInThread =
        cfg.workerConnections
  | .testing connections => s.cfg = cfg.santizeConnectionsToRunInThread ∧
      s.workers.map Worker.connection ++ connections.filter s.cfg.runsInThread =
        cfg.workerConnections
  | .unwinding => s.cfg = cfg ∨ s.cfg = cfg.santizeConnectionsToRunInThread
  | .left => s.cfg = cfg ∨ s.cfg = cfg.santizeConnectionsToRunInThread
  | _ => s.cfg = cfg.santizeConnectionsToRunInThread ∧
      s.workers.map Worker.connection = cfg.workerConnections

theorem init_santize {cfg cfg' : Configuration} {opened : Except LogFileError Unit}
    (h : cfg.initConnsInThreadsTesting opened = .ok cfg') :
    cfg' = cfg.santizeConnectionsToRunInThread := by
  obtain ⟨_, -, h⟩ := bind_eq_ok.mp h
  obtain ⟨_, -, h⟩ := bind_eq_ok.mp h
  cases h
  rfl

theorem Dispatched.step (h : Dispatched cfg s) (hmove : Move s e s') : Dispatched cfg s' := by
  cases hmove with
  | @worker i a w w' shared aborted hw hworker =>
    obtain ⟨hlt, hget⟩ := List.getElem?_eq_some_iff.mp hw
    have hnames : (s.workers.set i w').map Worker.connection = s.workers.map Worker.connection := by
      have hself := @List.set_getElem_self _ (s.workers.map Worker.connection) i
        (by rw [List.length_map]; exact hlt)
      rw [List.getElem_map, hget] at hself
      rw [List.map_set, hworker.connection, hself]
    have hne : s.workers ≠ [] := List.ne_nil_of_length_pos (by omega)
    unfold Dispatched at h ⊢
    simp only [hnames]
    split at h
    · exact absurd h.2 hne
    · exact absurd h.2 hne
    all_goals exact h
  | @main a _ hmain =>
    unfold Dispatched at h
    cases hmain with
    | message a m aborted ha => exact h
    | log amount => exact h
    | throw hthrow =>
      rcases pc_of_canThrow hthrow with hpc | ⟨cs, hpc⟩ | ⟨cs, hpc⟩ <;> rw [hpc] at h
      · exact Or.inl h.1
      · exact Or.inr h.1
      · exact Or.inr h.1
    | init opened cfg hpc hinit =>
      rw [hpc] at h
      obtain ⟨rfl, hworkers⟩ := h
      have hcfg := init_santize hinit
      refine ⟨hcfg, ?_⟩
      rw [hworkers, hcfg]
      rfl
    | spawn c cs hpc hruns =>
      rw [hpc] at h
      refine ⟨h.1, ?_⟩
      rw [← h.2, List.filter_cons_of_pos hruns]
      simp [Worker.start]
    | test c cs hpc hruns =>
      rw [hpc] at h
      refine ⟨h.1, ?_⟩
      rw [← h.2, List.filter_cons_of_neg (by simp [hruns])]
    | connectToDatabase _ _ hpc | testsDone _ hpc | restore hpc | skipReplay hpc | replay hpc
    | saveCounters _ hpc | summary hpc | propagate hpc =>
      rw [hpc] at h
      exact h
    | joinThreads hpc hjoined =>
      rw [hpc] at h
      refine ⟨h.1, ?_⟩
      rw [← h.2]
      exact (List.append_nil _).symm

theorem start_dispatched (cfg : Configuration) : Dispatched cfg (start cfg) := ⟨rfl, rfl⟩

end TinyPlay.System

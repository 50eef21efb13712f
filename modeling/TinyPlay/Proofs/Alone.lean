import TinyPlay.Proofs.FailingWorker

/-! No thread can tell that others run. A worker is, after any interleaving, where it is when it
makes its steps alone, and so is the main thread when its workers end at once: the locks protect
everything that the threads share, and what they share decides nothing. -/

namespace TinyPlay

open Accumulator

/-! ### A worker alone -/

/-- Saving counters cannot fail here. -/
def Shared.Ready (s : Shared) : Prop := ∃ items, s.app.Represents items

theorem Shared.initial_ready : Shared.initial.Ready :=
  ⟨AppCounters.constructedItems, AppCounters.constructed_represents⟩

/-- The steps of worker `i` when no other thread runs. -/
def Worker.alone (cfg : Configuration) (i : ℕ) (connection : String)
    (history : List WorkerAction) : Option (Worker × Shared) :=
  Runs.run (fun ws a => workerStep cfg i ws.1 ws.2 a) (.start connection, .initial) history

variable {cfg : Configuration} {i : ℕ} {w w' : Worker} {s s' t : Shared} {a : WorkerAction}

theorem tinyMessageHandler_locals (thread : ThreadId) (l : ThreadLocals) (s t : Shared)
    (m : MessageLogItem) :
    (tinyMessageHandler thread l s m).1 = (tinyMessageHandler thread l t m).1 := by
  unfold tinyMessageHandler
  split_ifs <;> rfl

theorem tinyMessageHandler_app (thread : ThreadId) (l : ThreadLocals) (s : Shared)
    (m : MessageLogItem) : (tinyMessageHandler thread l s m).2.app = s.app := by
  unfold tinyMessageHandler
  split_ifs <;> rfl

/-- A statement does the same to its thread whatever the others have shared. -/
theorem execWorkerStmt_alone {connection : String} {l l' : ThreadLocals} {stmt : WorkerStmt}
    (ht : t.Ready) (h : execWorkerStmt cfg connection l s stmt = .ok (l', s')) :
    ∃ t', execWorkerStmt cfg connection l t stmt = .ok (l', t') ∧ t'.Ready := by
  cases stmt with
  | throwIfNoConfig | addConnections | computeConnectionsToCount =>
    obtain ⟨_, hx, h⟩ := bind_eq_ok.mp h
    cases h
    exact ⟨t, bind_eq_ok.mpr ⟨_, hx, rfl⟩, ht⟩
  | saveCountersForAppSummary =>
    obtain ⟨_, -, h⟩ := bind_eq_ok.mp h
    cases h
    obtain ⟨items, hrep⟩ := ht
    obtain ⟨app, hsave, hrep'⟩ := AppCounters.save_represents hrep l.counters connection
    exact ⟨{ t with app }, bind_eq_ok.mpr ⟨app, hsave, rfl⟩, _, hrep'⟩
  | saveLogsFromThread =>
    cases h
    refine ⟨saveLogsFromThread cfg l t connection, rfl, ?_⟩
    unfold Shared.Ready
    rw [(saveLogsFromThread_frame cfg l t connection).2]
    exact ht
  | _ =>
    cases h
    exact ⟨t, rfl, ht⟩

theorem workerStep_alone (ht : t.Ready) (h : workerStep cfg i w s a = some (w', s')) :
    ∃ t', workerStep cfg i w t a = some (w', t') ∧ t'.Ready := by
  have hmessage : ∀ m, (tinyMessageHandler (.worker i) w.locals t m).2.Ready := by
    intro m
    unfold Shared.Ready
    rw [tinyMessageHandler_app]
    exact ht
  cases a with
  | exec stmt =>
    simp only [workerStep] at h ⊢
    split at h
    case isFalse => cases h
    case isTrue hpc =>
      split at h
      case h_2 => cases h
      case h_1 hexec =>
        cases h
        obtain ⟨t', hexec', ht'⟩ := execWorkerStmt_alone ht hexec
        refine ⟨t', ?_, ht'⟩
        rw [if_pos hpc, hexec']
  | emit m =>
    simp only [workerStep] at h ⊢
    split at h
    case isFalse => cases h
    case isTrue hpc =>
      cases h
      refine ⟨_, ?_, hmessage m⟩
      rw [if_pos hpc, tinyMessageHandler_locals _ _ s t]
  | fatal message =>
    simp only [workerStep] at h ⊢
    split at h
    case isFalse => cases h
    case isTrue hpc =>
      cases h
      refine ⟨_, ?_, hmessage ⟨.fatal, message⟩⟩
      rw [if_pos hpc, tinyMessageHandler_locals _ _ s t]
  | log amount =>
    simp only [workerStep] at h ⊢
    split at h
    case isFalse => cases h
    case isTrue hpc =>
      cases h
      exact ⟨t, if_pos hpc, ht⟩
  | throw =>
    simp only [workerStep] at h ⊢
    split at h
    · cases h
      exact ⟨t, rfl, ht⟩
    · cases h
  | leaveCatch =>
    simp only [workerStep] at h ⊢
    split at h
    case isFalse => cases h
    case isTrue hpc =>
      cases h
      exact ⟨t, if_pos hpc, ht⟩

/-- Whether the log of a worker is saved after its history. -/
def saves (history : List WorkerAction) : Bool :=
  decide (WorkerAction.exec .saveLogsFromThread ∈ history)

theorem saves_snoc (history : List WorkerAction) (a : WorkerAction) :
    saves (history ++ [a]) = (saves history || decide (a = .exec .saveLogsFromThread)) := by
  unfold saves
  rw [← Bool.decide_or]
  simp [eq_comm]

theorem Worker.History.saves_eq {history : List WorkerAction} (h : w.History history)
    (hpc : w.pc ≠ .finished) : saves history = false := by
  have hexecuted := h.executed
  unfold saves
  rw [decide_eq_false_iff_not]
  intro hmem
  cases hbody : w.pc with
  | body stmt =>
    rw [hbody] at hexecuted
    have hlt := (hexecuted.2 _).mp hmem
    cases stmt <;> exact absurd hlt (by decide)
  | caught =>
    rw [hbody] at hexecuted
    exact hexecuted.2 hmem
  | finished => exact hpc hbody

/-- What a worker alone leaves behind after its history. -/
structure Worker.Leaves (cfg : Configuration) (i : ℕ) (connection : String)
    (history : List WorkerAction) (w : Worker) (t : Shared) : Prop where
  tied : w.History history
  console : t.console = (direct history).map (.worker i, ·)
  stream : t.logThreadStream =
    if cfg.isLoggingToFile && saves history then System.logText (captured history) else ""
  logs : t.logsFromThreads =
    if !cfg.isLoggingToFile && saves history then [⟨connection, captured history⟩] else []
  connection : w.connection = connection

theorem Worker.Leaves.start (cfg : Configuration) (i : ℕ) (connection : String) :
    Worker.Leaves cfg i connection [] (.start connection) .initial :=
  ⟨Worker.start_history connection, rfl, by simp [Shared.initial, saves],
    by simp [Shared.initial, saves], rfl⟩

theorem Worker.Leaves.step {connection : String} {history : List WorkerAction} {t t' : Shared}
    (h : Worker.Leaves cfg i connection history w t) (hmove : WorkerMove cfg i w t a w' t') :
    Worker.Leaves cfg i connection (history ++ [a]) w' t' := by
  have hstep := h.tied.step hmove
  have hbefore := h.tied.saves_eq hmove.not_finished
  have heffect := hmove.effect
  have hstream := h.stream
  have hlogs := h.logs
  rw [hbefore, Bool.and_false] at hstream hlogs
  have hconsole : t'.console = (direct (history ++ [a])).map (.worker i, ·) := by
    rw [heffect.console, h.console, h.tied.direct_snoc hmove, List.map_append]
    unfold printedBy
    split_ifs <;> rfl
  refine ⟨hstep, hconsole, ?_, ?_, hmove.connection.trans h.connection⟩
  · rcases heffect.logs with ⟨rfl, hshared⟩ | ⟨hne, hsame, -, -⟩
    · rw [hshared, System.saveLogs_stream, hstream, hstep.captured_eq, hmove.log_of_exec]
      simp [saves_snoc]
    · rw [hsame, hstream, saves_snoc, hbefore, decide_eq_false hne]
      simp
  · rcases heffect.logs with ⟨rfl, hshared⟩ | ⟨hne, -, hsame, -⟩
    · rw [hshared, System.saveLogs_logs, hlogs, hstep.captured_eq, hmove.log_of_exec, h.connection]
      cases cfg.isLoggingToFile <;> simp [saves_snoc]
    · rw [hsame, hlogs, saves_snoc, hbefore, decide_eq_false hne]
      simp

theorem Worker.alone_leaves {connection : String} {history : List WorkerAction} {t : Shared}
    (h : Worker.alone cfg i connection history = some (w, t)) :
    Worker.Leaves cfg i connection history w t :=
  Runs.invariant (P := fun history ws => Worker.Leaves cfg i connection history ws.1 ws.2)
    (.start cfg i connection) (fun _ _ _ _ h hstep => h.step (workerStep_move hstep)) h

namespace System

/-! ### The main thread alone -/

/-- The main thread, with workers that have finished and left nothing. -/
def mainAlone (s : System) : System :=
  { s with
    workers := s.workers.map fun w => ⟨w.connection, .finished, .initial⟩
    shared := .initial
    aborted := none }

/-- A step of the main thread whose workers end at once. -/
def mainStepAlone (s : System) (a : MainAction) : Option System := (s.mainStep a).map mainAlone

def Event.mainAction? : Event → Option MainAction
  | .main a => some a
  | .worker _ _ => none

/-- The steps of the main thread. -/
def mainHistory (es : List Event) : List MainAction := es.filterMap Event.mainAction?

variable {cfg : Configuration} {es : List Event} {e : Event} {s s' : System}

theorem joined_mainAlone (s : System) : s.mainAlone.joined = true := by
  rw [joined_iff]
  intro w hw
  obtain ⟨v, -, rfl⟩ := List.mem_map.mp hw
  rfl

@[simp] theorem mainAlone_pc (s : System) : s.mainAlone.pc = s.pc := rfl

@[simp] theorem mainAlone_cfg (s : System) : s.mainAlone.cfg = s.cfg := rfl

@[simp] theorem mainAlone_main (s : System) : s.mainAlone.main = s.main := rfl

theorem mainAlone_connections (s : System) :
    s.mainAlone.workers.map Worker.connection = s.workers.map Worker.connection := by
  simp [mainAlone]

/-- What the main thread knows of a state: where it is, what it holds and whom it has started. -/
theorem mainAlone_congr {t : System} (hcfg : s.cfg = t.cfg) (hpc : s.pc = t.pc)
    (hmain : s.main = t.main)
    (hworkers : s.workers.map Worker.connection = t.workers.map Worker.connection) :
    s.mainAlone = t.mainAlone := by
  have hended : ∀ u : System, (u.workers.map fun w => Worker.mk w.connection .finished .initial) =
      (u.workers.map Worker.connection).map fun c => ⟨c, .finished, .initial⟩ := by
    intro u
    rw [List.map_map]
    rfl
  unfold mainAlone
  rw [hended, hended, hworkers, hcfg, hpc, hmain]

/-- The replay runs only in the main thread. -/
theorem replay_inThread {t : ThreadLocals} {shared : Shared} {r : ThreadLocals × Shared}
    (h : replayThrdLogToConsole t shared = .ok r) : t.inThread = false := by
  cases hin : t.inThread with
  | false => rfl
  | true =>
    unfold replayThrdLogToConsole at h
    rw [hin] at h
    cases h

theorem execMainStmt_alone {stmt : MainStmt} (h : s.execMainStmt stmt = some s') :
    ∃ t, s.mainAlone.execMainStmt stmt = some t ∧ t.mainAlone = s'.mainAlone := by
  have hnames := s.mainAlone_connections
  cases stmt with
  | connectToDatabase =>
    simp only [execMainStmt] at h
    split at h
    case h_2 => cases h
    case h_1 hpc hconnect =>
      cases h
      obtain ⟨configurations, hadd, hconnect⟩ := bind_eq_ok.mp hconnect
      obtain ⟨connectionsToCount, hcount, hconnect⟩ := bind_eq_ok.mp hconnect
      cases hconnect
      have hconnect : s.mainAlone.connectToDatabase = .ok { s.mainAlone with
          pc := .initConnsInThreadsTesting
          main := { s.main with
            configurations, connectionsToCount
            defaultConnection := s.cfg.getDefaultConnectionName } } :=
        bind_eq_ok.mpr ⟨_, hadd, bind_eq_ok.mpr ⟨_, hcount, rfl⟩⟩
      refine ⟨{ s.mainAlone with
          pc := .initConnsInThreadsTesting
          main := { s.main with
            configurations, connectionsToCount
            defaultConnection := s.cfg.getDefaultConnectionName } }, ?_,
        mainAlone_congr rfl rfl rfl hnames⟩
      simp only [execMainStmt, mainAlone_pc, hpc, hconnect]
  | initConnsInThreadsTesting opened =>
    simp only [execMainStmt] at h
    split at h
    case h_2 => cases h
    case h_1 cfg' hpc hinit =>
      cases h
      refine ⟨{ s.mainAlone with cfg := cfg', pc := .loop cfg'.connectionsToTest }, ?_,
        mainAlone_congr rfl rfl rfl hnames⟩
      simp only [execMainStmt, mainAlone_pc, mainAlone_cfg, hpc, hinit]
  | nextConnection =>
    simp only [execMainStmt] at h
    split at h
    case h_2 => cases h
    case h_1 c cs hpc =>
      split at h
      case isTrue hruns =>
        cases h
        refine ⟨{ s.mainAlone with
            pc := .loop cs, workers := s.mainAlone.workers ++ [.start c] }, ?_,
          mainAlone_congr rfl rfl rfl ?_⟩
        · simp only [execMainStmt, mainAlone_pc, mainAlone_cfg, hpc, hruns, if_true]
        · rw [List.map_append, List.map_append, hnames]
      case isFalse hruns =>
        cases h
        refine ⟨{ s.mainAlone with
            pc := .testing cs, main := { s.main with defaultConnection := c } }, ?_,
          mainAlone_congr rfl rfl rfl hnames⟩
        simp only [execMainStmt, mainAlone_pc, mainAlone_cfg, mainAlone_main, hpc]
        exact if_neg hruns
  | testsDone =>
    simp only [execMainStmt] at h
    split at h
    case h_2 => cases h
    case h_1 cs hpc =>
      cases h
      refine ⟨{ s.mainAlone with pc := .loop cs }, ?_, mainAlone_congr rfl rfl rfl hnames⟩
      simp only [execMainStmt, mainAlone_pc, hpc]
  | joinThreads =>
    simp only [execMainStmt] at h
    split at h
    case isFalse => cases h
    case isTrue hpc =>
      cases h
      exact ⟨{ s.mainAlone with pc := .setDefaultConnection },
        if_pos ⟨hpc.1, s.joined_mainAlone⟩, mainAlone_congr rfl rfl rfl hnames⟩
  | setDefaultConnection =>
    simp only [execMainStmt] at h
    split at h
    case isFalse => cases h
    case isTrue hpc =>
      cases h
      exact ⟨{ s.mainAlone with
          pc := .replayThrdLogToConsole
          main := { s.main with defaultConnection := s.cfg.getDefaultConnectionName } },
        if_pos hpc, mainAlone_congr rfl rfl rfl hnames⟩
  | replayThrdLogToConsole =>
    simp only [execMainStmt] at h
    split at h
    case isTrue => cases h
    case isFalse hpc =>
      rw [not_not] at hpc
      split at h
      case isTrue hfile =>
        cases h
        refine ⟨{ s.mainAlone with pc := .saveCountersForAppSummary }, ?_,
          mainAlone_congr rfl rfl rfl hnames⟩
        simp [execMainStmt, hpc, hfile]
      case isFalse hfile =>
        split at h
        case h_2 => cases h
        case h_1 main shared hreplay =>
          cases h
          have hin := replay_inThread hreplay
          rw [replay_eq hin] at hreplay
          cases hreplay
          refine ⟨{ s.mainAlone with
              pc := .saveCountersForAppSummary
              shared := { s.mainAlone.shared with
                console := s.mainAlone.shared.console ++
                  replayed s.mainAlone.shared.logsFromThreads } }, ?_,
            mainAlone_congr rfl rfl rfl hnames⟩
          simp [execMainStmt, hpc, hfile, replay_eq hin]
  | saveCountersForAppSummary =>
    simp only [execMainStmt] at h
    split at h
    case h_2 => cases h
    case h_1 hpc hsave =>
      cases h
      obtain ⟨app, hsave', -⟩ :=
        AppCounters.save_represents AppCounters.constructed_represents s.main.counters "main"
      have happ : s.mainAlone.shared.app.saveCountersForAppSummary s.main.counters "main" =
        .ok app := hsave'
      refine ⟨{ s.mainAlone with
          pc := .logApplicationSummary, shared := { s.mainAlone.shared with app } }, ?_,
        mainAlone_congr rfl rfl rfl hnames⟩
      simp only [execMainStmt, mainAlone_pc, mainAlone_main, hpc, happ]
  | logApplicationSummary =>
    simp only [execMainStmt] at h
    split at h
    case isFalse => cases h
    case isTrue hpc =>
      cases h
      exact ⟨{ s.mainAlone with pc := .returned }, if_pos hpc, mainAlone_congr rfl rfl rfl hnames⟩
  | propagate =>
    simp only [execMainStmt] at h
    split at h
    case isFalse => cases h
    case isTrue hpc =>
      cases h
      exact ⟨{ s.mainAlone with pc := .left }, if_pos ⟨hpc.1, s.joined_mainAlone⟩,
        mainAlone_congr rfl rfl rfl hnames⟩

theorem mainStep_alone {a : MainAction} (h : s.mainStep a = some s') :
    s.mainAlone.mainStepAlone a = some s'.mainAlone := by
  have hstep : ∃ t, s.mainAlone.mainStep a = some t ∧ t.mainAlone = s'.mainAlone := by
    have hnames := s.mainAlone_connections
    cases a with
    | exec stmt => exact execMainStmt_alone h
    | emit m =>
      simp only [mainStep] at h ⊢
      split at h
      case isFalse => cases h
      case isTrue hended =>
        cases h
        refine ⟨_, if_pos hended, mainAlone_congr rfl rfl ?_ hnames⟩
        exact tinyMessageHandler_locals _ _ _ _ m
    | fatal message =>
      simp only [mainStep] at h ⊢
      split at h
      case isFalse => cases h
      case isTrue hended =>
        cases h
        refine ⟨_, if_pos hended, mainAlone_congr rfl rfl ?_ hnames⟩
        exact tinyMessageHandler_locals _ _ _ _ _
    | log amount =>
      simp only [mainStep] at h ⊢
      split at h
      case isFalse => cases h
      case isTrue htests =>
        cases h
        exact ⟨_, if_pos htests, mainAlone_congr rfl rfl rfl hnames⟩
    | throw =>
      simp only [mainStep] at h ⊢
      split at h
      case isFalse => cases h
      case isTrue hthrow =>
        cases h
        exact ⟨_, if_pos hthrow, mainAlone_congr rfl rfl rfl hnames⟩
  obtain ⟨t, ht, heq⟩ := hstep
  unfold mainStepAlone
  rw [ht]
  exact congrArg some heq

theorem mainHistory_main (es : List Event) (a : MainAction) :
    mainHistory (es ++ [.main a]) = mainHistory es ++ [a] := by
  simp [mainHistory, Event.mainAction?]

theorem mainHistory_worker (es : List Event) (i : ℕ) (a : WorkerAction) :
    mainHistory (es ++ [.worker i a]) = mainHistory es := by
  simp [mainHistory, Event.mainAction?]

end System

end TinyPlay

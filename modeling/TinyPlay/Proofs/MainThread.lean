import TinyPlay.Proofs.Worker

/-! The steps of the main thread, one constructor for each way `TestOrm::run` can move, and what
the workers and the shared state see of them. -/

namespace TinyPlay

def MainAction.message? : MainAction → Option MessageLogItem
  | .emit m => some m
  | .fatal message => some ⟨.fatal, message⟩
  | _ => none

def MainAction.amount? : MainAction → Option ThreadCounters
  | .log amount => some amount
  | _ => none

namespace System

/-- Everything the main thread can do in one step. -/
inductive MainMove (s : System) : MainAction → System → Prop where
  | connectToDatabase (configurations : OrmConfigurations) (connectionsToCount : List String)
      (hpc : s.pc = .connectToDatabase) :
      MainMove s (.exec .connectToDatabase) { s with
        pc := .initConnsInThreadsTesting
        main := { s.main with
          configurations, connectionsToCount, defaultConnection := s.cfg.getDefaultConnectionName } }
  | init (opened : Except LogFileError Unit) (cfg : Configuration)
      (hpc : s.pc = .initConnsInThreadsTesting)
      (hinit : s.cfg.initConnsInThreadsTesting opened = .ok cfg) :
      MainMove s (.exec (.initConnsInThreadsTesting opened))
        { s with cfg, pc := .loop cfg.connectionsToTest }
  | spawn (connection : String) (connections : List String)
      (hpc : s.pc = .loop (connection :: connections))
      (hruns : s.cfg.runsInThread connection = true) :
      MainMove s (.exec .nextConnection)
        { s with pc := .loop connections, workers := s.workers ++ [.start connection] }
  | test (connection : String) (connections : List String)
      (hpc : s.pc = .loop (connection :: connections))
      (hruns : s.cfg.runsInThread connection = false) :
      MainMove s (.exec .nextConnection)
        { s with pc := .testing connections, main := { s.main with defaultConnection := connection } }
  | testsDone (connections : List String) (hpc : s.pc = .testing connections) :
      MainMove s (.exec .testsDone) { s with pc := .loop connections }
  | joinThreads (hpc : s.pc = .loop []) (hjoined : s.joined = true) :
      MainMove s (.exec .joinThreads) { s with pc := .setDefaultConnection }
  | restore (hpc : s.pc = .setDefaultConnection) :
      MainMove s (.exec .setDefaultConnection) { s with
        pc := .replayThrdLogToConsole
        main := { s.main with defaultConnection := s.cfg.getDefaultConnectionName } }
  | skipReplay (hpc : s.pc = .replayThrdLogToConsole) (hfile : s.cfg.isLoggingToFile = true) :
      MainMove s (.exec .replayThrdLogToConsole) { s with pc := .saveCountersForAppSummary }
  | replay (hpc : s.pc = .replayThrdLogToConsole) (hfile : s.cfg.isLoggingToFile = false)
      (main : ThreadLocals) (shared : Shared)
      (hreplay : replayThrdLogToConsole s.main s.shared = .ok (main, shared)) :
      MainMove s (.exec .replayThrdLogToConsole)
        { s with pc := .saveCountersForAppSummary, main, shared }
  | saveCounters (app : AppCounters) (hpc : s.pc = .saveCountersForAppSummary)
      (hsave : s.shared.app.saveCountersForAppSummary s.main.counters "main" = .ok app) :
      MainMove s (.exec .saveCountersForAppSummary)
        { s with pc := .logApplicationSummary, shared := { s.shared with app } }
  | summary (hpc : s.pc = .logApplicationSummary) :
      MainMove s (.exec .logApplicationSummary) { s with pc := .returned }
  | propagate (hpc : s.pc = .unwinding) (hjoined : s.joined = true) :
      MainMove s (.exec .propagate) { s with pc := .left }
  | message (a : MainAction) (m : MessageLogItem) (aborted : Option ThreadId)
      (ha : a.message? = some m) (hended : s.ended = false) :
      MainMove s a { s with
        main := (tinyMessageHandler .main s.main s.shared m).1
        shared := (tinyMessageHandler .main s.main s.shared m).2
        aborted }
  | log (amount : ThreadCounters) (htests : s.inMainTests = true) :
      MainMove s (.log amount)
        { s with main := { s.main with counters := s.main.counters + amount } }
  | throw (hthrow : s.canThrow = true) : MainMove s .throw { s with pc := .unwinding }

variable {s s' : System} {a : MainAction}

theorem execMainStmt_move {stmt : MainStmt} (h : s.execMainStmt stmt = some s') :
    MainMove s (.exec stmt) s' := by
  cases stmt with
  | connectToDatabase =>
    simp only [execMainStmt] at h
    split at h
    case h_2 => cases h
    case h_1 hpc hconnect =>
      cases h
      obtain ⟨configurations, -, hconnect⟩ := bind_eq_ok.mp hconnect
      obtain ⟨connectionsToCount, -, hconnect⟩ := bind_eq_ok.mp hconnect
      cases hconnect
      exact .connectToDatabase _ _ hpc
  | initConnsInThreadsTesting opened =>
    simp only [execMainStmt] at h
    split at h
    case h_2 => cases h
    case h_1 hpc hinit =>
      cases h
      exact .init opened _ hpc hinit
  | nextConnection =>
    simp only [execMainStmt] at h
    split at h
    case h_2 => cases h
    case h_1 hpc =>
      split at h
      case isTrue hruns =>
        cases h
        exact .spawn _ _ hpc hruns
      case isFalse hruns =>
        cases h
        exact .test _ _ hpc (by simpa using hruns)
  | testsDone =>
    simp only [execMainStmt] at h
    split at h
    case h_2 => cases h
    case h_1 hpc =>
      cases h
      exact .testsDone _ hpc
  | joinThreads =>
    simp only [execMainStmt] at h
    split at h
    case isFalse => cases h
    case isTrue hpc =>
      cases h
      exact .joinThreads hpc.1 hpc.2
  | setDefaultConnection =>
    simp only [execMainStmt] at h
    split at h
    case isFalse => cases h
    case isTrue hpc =>
      cases h
      exact .restore hpc
  | replayThrdLogToConsole =>
    simp only [execMainStmt] at h
    split at h
    case isTrue => cases h
    case isFalse hpc =>
      rw [not_not] at hpc
      split at h
      case isTrue hfile =>
        cases h
        exact .skipReplay hpc hfile
      case isFalse hfile =>
        split at h
        · cases h
          exact .replay hpc (by simpa using hfile) _ _ ‹_›
        · cases h
  | saveCountersForAppSummary =>
    simp only [execMainStmt] at h
    split at h
    case h_2 => cases h
    case h_1 hpc hsave =>
      cases h
      exact .saveCounters _ hpc hsave
  | logApplicationSummary =>
    simp only [execMainStmt] at h
    split at h
    case isFalse => cases h
    case isTrue hpc =>
      cases h
      exact .summary hpc
  | propagate =>
    simp only [execMainStmt] at h
    split at h
    case isFalse => cases h
    case isTrue hpc =>
      cases h
      exact .propagate hpc.1 hpc.2

theorem mainStep_move (h : s.mainStep a = some s') : MainMove s a s' := by
  cases a with
  | exec stmt => exact execMainStmt_move h
  | emit m =>
    simp only [mainStep] at h
    split at h
    case isFalse => cases h
    case isTrue hended =>
      cases h
      exact .message _ m _ rfl (by simpa using hended.1)
  | fatal message =>
    simp only [mainStep] at h
    split at h
    case isFalse => cases h
    case isTrue hended =>
      cases h
      exact .message _ _ _ rfl (by simpa using hended)
  | log amount =>
    simp only [mainStep] at h
    split at h
    case isFalse => cases h
    case isTrue htests =>
      cases h
      exact .log amount htests
  | throw =>
    simp only [mainStep] at h
    split at h
    case isFalse => cases h
    case isTrue hthrow =>
      cases h
      exact .throw hthrow

theorem pc_of_canThrow (h : s.canThrow = true) : s.pc = .initConnsInThreadsTesting ∨
    (∃ connections, s.pc = .loop connections) ∨ ∃ connections, s.pc = .testing connections := by
  unfold canThrow at h
  split at h
  · exact Or.inl ‹_›
  · exact Or.inr (Or.inl ⟨_, ‹_›⟩)
  · exact Or.inr (Or.inr ⟨_, ‹_›⟩)
  · cases h

/-! ### What the rest sees of a step -/

theorem init_isLoggingToFile {cfg cfg' : Configuration} {opened : Except LogFileError Unit}
    (h : cfg.initConnsInThreadsTesting opened = .ok cfg') :
    cfg'.isLoggingToFile = cfg.isLoggingToFile := by
  obtain ⟨_, -, h⟩ := bind_eq_ok.mp h
  obtain ⟨_, -, h⟩ := bind_eq_ok.mp h
  cases h
  unfold Configuration.santizeConnectionsToRunInThread
  split_ifs <;> rfl

/-- The replay as the saved logs in their order, each after its header. -/
def replayed (logsFromThreads : List LogFromThreadItem) : List (ThreadId × MessageLogItem) :=
  (logsFromThreads.flatMap LogFromThreadItem.replayed).map (.main, ·)

/-- Outside of a worker every message goes straight to the console. -/
theorem foldl_tinyMessageHandler {t : ThreadLocals} (ht : t.inThread = false)
    (ms : List MessageLogItem) (shared : Shared) :
    ms.foldl (fun ts m => tinyMessageHandler .main ts.1 ts.2 m) (t, shared) =
      (t, { shared with console := shared.console ++ ms.map (.main, ·) }) := by
  induction ms generalizing shared with
  | nil => simp
  | cons m ms ih =>
    rw [List.foldl_cons, tinyMessageHandler_console ht, ih]
    simp

theorem replay_eq {t : ThreadLocals} (ht : t.inThread = false) (shared : Shared) :
    replayThrdLogToConsole t shared =
      .ok (t, { shared with console := shared.console ++ replayed shared.logsFromThreads }) := by
  unfold replayThrdLogToConsole
  rw [foldl_tinyMessageHandler ht, ht]
  rfl

/-- What a step of the main thread puts on the console. -/
def printedByMain (s : System) (a : MainAction) : List (ThreadId × MessageLogItem) :=
  if a = .exec .replayThrdLogToConsole then
    if s.cfg.isLoggingToFile then [] else replayed s.shared.logsFromThreads
  else a.message?.toList.map (.main, ·)

/-- A step of the main thread, seen from the rest; `g_inThread` is never set in it. -/
structure MainEffect (s : System) (a : MainAction) (s' : System) : Prop where
  workers : s'.workers = s.workers ∨ (∃ c cs, s.pc = .loop (c :: cs) ∧
    s'.workers = s.workers ++ [.start c])
  file : s'.cfg.isLoggingToFile = s.cfg.isLoggingToFile
  inThread : s'.main.inThread = false
  counters : s'.main.counters = s.main.counters + a.amount?.getD 0
  console : s'.shared.console = s.shared.console ++ printedByMain s a
  logs : s'.shared.logThreadStream = s.shared.logThreadStream ∧
    s'.shared.logsFromThreads = s.shared.logsFromThreads ∧
    s'.shared.logsFromThreadsMap = s.shared.logsFromThreadsMap
  app : (a = .exec .saveCountersForAppSummary ∧
      s.shared.app.saveCountersForAppSummary s.main.counters "main" = .ok s'.shared.app) ∨
    (a ≠ .exec .saveCountersForAppSummary ∧ s'.shared.app = s.shared.app)

theorem message_ne_main_exec {m : MessageLogItem} (ha : a.message? = some m) (stmt : MainStmt) :
    a ≠ .exec stmt := by
  intro h
  subst h
  cases ha

/-- A step that touches nothing but the position and the default connection. -/
theorem MainEffect.of_frame {stmt : MainStmt} (hin : s.main.inThread = false)
    (hworkers : s'.workers = s.workers ∨ ∃ c cs, s.pc = .loop (c :: cs) ∧
      s'.workers = s.workers ++ [.start c])
    (hfile : s'.cfg.isLoggingToFile = s.cfg.isLoggingToFile)
    (hthread : s'.main.inThread = s.main.inThread) (hcounters : s'.main.counters = s.main.counters)
    (hshared : s'.shared = s.shared)
    (hreplay : stmt = .replayThrdLogToConsole → s.cfg.isLoggingToFile = true)
    (hsave : stmt ≠ .saveCountersForAppSummary) : MainEffect s (.exec stmt) s' := by
  refine ⟨hworkers, hfile, hthread.trans hin, ?_, ?_, ?_, Or.inr ⟨?_, ?_⟩⟩
  · exact hcounters.trans (add_zero _).symm
  · rw [hshared]
    unfold printedByMain
    split_ifs with hr hf
    · exact (List.append_nil _).symm
    · exact absurd (hreplay (MainAction.exec.inj hr)) hf
    · exact (List.append_nil _).symm
  · rw [hshared]
    exact ⟨rfl, rfl, rfl⟩
  · simpa using hsave
  · rw [hshared]

theorem MainMove.effect (h : MainMove s a s') (hin : s.main.inThread = false) :
    MainEffect s a s' := by
  cases h with
  | init opened cfg hpc hinit =>
    exact .of_frame hin (Or.inl rfl) (init_isLoggingToFile hinit) rfl rfl rfl (by simp) (by simp)
  | spawn c cs hpc hruns =>
    exact .of_frame hin (Or.inr ⟨c, cs, hpc, rfl⟩) rfl rfl rfl rfl (by simp) (by simp)
  | skipReplay hpc hfile =>
    exact .of_frame hin (Or.inl rfl) rfl rfl rfl rfl (fun _ => hfile) (by simp)
  | replay hpc hfile main shared hreplay =>
    rw [replay_eq hin] at hreplay
    cases hreplay
    refine ⟨Or.inl rfl, rfl, hin, (add_zero _).symm, ?_, ⟨rfl, rfl, rfl⟩, Or.inr ⟨by simp, rfl⟩⟩
    simp [printedByMain, hfile]
  | saveCounters app hpc hsave =>
    refine ⟨Or.inl rfl, rfl, hin, (add_zero _).symm, ?_, ⟨rfl, rfl, rfl⟩, Or.inl ⟨rfl, hsave⟩⟩
    exact (List.append_nil _).symm
  | message a m aborted ha hended =>
    rw [tinyMessageHandler_console hin]
    have hno : a.amount? = none := by
      cases a with
      | emit => rfl
      | fatal => rfl
      | _ => cases ha
    refine ⟨Or.inl rfl, rfl, hin, ?_, ?_, ⟨rfl, rfl, rfl⟩, Or.inr ⟨?_, rfl⟩⟩
    · rw [hno]
      exact (add_zero _).symm
    · unfold printedByMain
      rw [if_neg (message_ne_main_exec ha _), ha]
      rfl
    · exact message_ne_main_exec ha _
  | log amount htests =>
    refine ⟨Or.inl rfl, rfl, hin, rfl, ?_, ⟨rfl, rfl, rfl⟩, Or.inr ⟨by simp, rfl⟩⟩
    exact (List.append_nil _).symm
  | throw hthrow =>
    refine ⟨Or.inl rfl, rfl, hin, (add_zero _).symm, ?_, ⟨rfl, rfl, rfl⟩, Or.inr ⟨by simp, rfl⟩⟩
    exact (List.append_nil _).symm
  | _ => exact .of_frame hin (Or.inl rfl) rfl rfl rfl rfl (by simp) (by simp)

end System

end TinyPlay

import TinyPlay.Lib.Run
import TinyPlay.Spec.AppCounters

/-! `TestOrm::run` as a system of threads: the main thread dispatches the connections, each worker
runs the body of `testConnectionInWorkerThread`, and every event is one step of one thread. What
the tests do is left open: at any point of them a thread may log messages, finish a
`logQueryCounters` call, throw, or hit a fatal message. -/

namespace TinyPlay

inductive QtMsgType where
  | debug
  | warning
  | critical
  | fatal
  | info
  deriving DecidableEq, Repr

structure MessageLogItem where
  type : QtMsgType
  message : String
  deriving DecidableEq, Repr

inductive ThreadId where
  | main
  | worker (i : ℕ)
  deriving DecidableEq, Repr

/-- The `thread_local` state of one thread. -/
structure ThreadLocals where
  /-- `g_inThread` -/
  inThread : Bool
  /-- `g_logFromThread` -/
  logFromThread : List MessageLogItem
  counters : ThreadCounters
  /-- the default connection of `DB` -/
  defaultConnection : String
  /-- `Configuration::ConnectionsToCount` -/
  connectionsToCount : List String
  /-- the configurations registered by this thread -/
  configurations : OrmConfigurations

/-- A new thread. -/
def ThreadLocals.initial : ThreadLocals where
  inThread := false
  logFromThread := []
  counters := 0
  defaultConnection := ""
  connectionsToCount := []
  configurations := ∅

structure LogFromThreadItem where
  threadName : String
  logMessages : List MessageLogItem
  deriving DecidableEq, Repr

/-- What the threads share. Each console message carries the thread that called the handler. -/
structure Shared where
  logThreadStream : String
  logsFromThreads : List LogFromThreadItem
  logsFromThreadsMap : AList fun _ : String => ℕ
  app : AppCounters
  console : List (ThreadId × MessageLogItem)

def Shared.initial : Shared := ⟨"", [], ∅, AppCounters.constructed, []⟩

/-! ### Messages -/

/-- `std::invoke(DEFAULT_MESSAGE_HANDLER, …)` puts the message on the console. -/
def tinyMessageHandler (thread : ThreadId) (t : ThreadLocals) (s : Shared) (m : MessageLogItem) :
    ThreadLocals × Shared :=
  if t.inThread then ({ t with logFromThread := t.logFromThread ++ [m] }, s)
  else (t, { s with console := s.console ++ [(thread, m)] })

/-- `operator<<` for the log of a thread. -/
def streamLog (stream : String) (logFromThread : List MessageLogItem) : String :=
  logFromThread.foldl (fun stream m => stream ++ m.message ++ "\n") stream

/-- Runs under `mx_dataLogStream`. -/
def saveLogsFromThread (cfg : Configuration) (t : ThreadLocals) (s : Shared) (threadName : String) :
    Shared :=
  if cfg.isLoggingToFile then
    { s with logThreadStream := streamLog s.logThreadStream t.logFromThread }
  else
    let logsFromThreads := s.logsFromThreads ++ [⟨threadName, t.logFromThread⟩]
    { s with
      logsFromThreads
      logsFromThreadsMap := s.logsFromThreadsMap.emplace threadName logsFromThreads.length }

/-- The messages of one replayed log, its header first. -/
def LogFromThreadItem.replayed (item : LogFromThreadItem) : List MessageLogItem :=
  ⟨.info, "\n\n-- Replaying log from " ++ item.threadName ++ " thread"⟩ :: item.logMessages

def replayThrdLogToConsole (t : ThreadLocals) (s : Shared) :
    Except Exn (ThreadLocals × Shared) := do
  Configuration.throwIfInThread t.inThread
  return (s.logsFromThreads.flatMap LogFromThreadItem.replayed).foldl
    (fun ts m => tinyMessageHandler .main ts.1 ts.2 m) (t, s)

/-! ### The worker threads -/

/-- The statements in the `try` block of `testConnectionInWorkerThread`. -/
inductive WorkerStmt where
  | nameThreadForDebugging
  | throwIfNoConfig
  | setInThread
  | addConnections
  | setDefaultConnection
  | computeConnectionsToCount
  | enableAllQueryLogCounters
  | testQueryBuilder
  | testTinyOrm
  | saveCountersForAppSummary
  | saveLogsFromThread
  deriving DecidableEq, Repr

inductive WorkerPc where
  | body (stmt : WorkerStmt)
  /-- in the `catch` block, after `g_inThread = false` -/
  | caught
  | finished
  deriving DecidableEq, Repr

def WorkerStmt.next : WorkerStmt → WorkerPc
  | .nameThreadForDebugging => .body .throwIfNoConfig
  | .throwIfNoConfig => .body .setInThread
  | .setInThread => .body .addConnections
  | .addConnections => .body .setDefaultConnection
  | .setDefaultConnection => .body .computeConnectionsToCount
  | .computeConnectionsToCount => .body .enableAllQueryLogCounters
  | .enableAllQueryLogCounters => .body .testQueryBuilder
  | .testQueryBuilder => .body .testTinyOrm
  | .testTinyOrm => .body .saveCountersForAppSummary
  | .saveCountersForAppSummary => .body .saveLogsFromThread
  | .saveLogsFromThread => .finished

/-- The test suites run here; only they call `logQueryCounters`. -/
def WorkerPc.testing : WorkerPc → Bool
  | .body .testQueryBuilder => true
  | .body .testTinyOrm => true
  | _ => false

structure Worker where
  connection : String
  pc : WorkerPc
  locals : ThreadLocals

def Worker.start (connection : String) : Worker :=
  ⟨connection, .body .nameThreadForDebugging, .initial⟩

def throwIfNoConfig (cfg : Configuration) (connection : String) : Except Exn Unit :=
  if connection ∈ cfg.configurations then .ok ()
  else .error (.invalidArgumentError
    ("Configurations::Configurations does not contain '" ++ connection ++ "' configuration."))

/-- A statement that returns. The connections and the tests are outside of the model, so their
statements change nothing here. -/
def execWorkerStmt (cfg : Configuration) (connection : String) (t : ThreadLocals) (s : Shared) :
    WorkerStmt → Except Exn (ThreadLocals × Shared)
  | .nameThreadForDebugging => .ok (t, s)
  | .throwIfNoConfig => do
    throwIfNoConfig cfg connection
    return (t, s)
  | .setInThread => .ok ({ t with inThread := true }, s)
  | .addConnections => do
    let configurations ← cfg.computeConfigurationsToAdd t.inThread connection
    return ({ t with configurations }, s)
  | .setDefaultConnection => .ok ({ t with defaultConnection := connection }, s)
  | .computeConnectionsToCount => do
    let connectionsToCount ← cfg.computeConnectionsToCount t.inThread connection
    return ({ t with connectionsToCount }, s)
  | .enableAllQueryLogCounters => .ok (t, s)
  | .testQueryBuilder => .ok (t, s)
  | .testTinyOrm => .ok (t, s)
  | .saveCountersForAppSummary => do
    let app ← s.app.saveCountersForAppSummary t.counters connection
    return (t, { s with app })
  | .saveLogsFromThread => .ok (t, saveLogsFromThread cfg t s connection)

/-- The `try` block up to the registration of the connections. -/
def workerPrologue : List WorkerStmt :=
  [.nameThreadForDebugging, .throwIfNoConfig, .setInThread, .addConnections]

/-- The statements of a worker, run until one throws, with what the exception leaves behind. -/
def attemptWorkerStmts (cfg : Configuration) (connection : String) (stmts : List WorkerStmt)
    (ts : ThreadLocals × Shared) : Except Exn Unit × (ThreadLocals × Shared) :=
  Attempt.attempt (fun stmt ts => execWorkerStmt cfg connection ts.1 ts.2 stmt) stmts ts

inductive WorkerAction where
  | exec (stmt : WorkerStmt)
  | emit (m : MessageLogItem)
  /-- `qFatal`: Qt aborts the process after the handler -/
  | fatal (message : String)
  /-- a finished `logQueryCounters` with what it added to the running totals -/
  | log (amount : ThreadCounters)
  /-- a `std::exception` reaches the `catch` block -/
  | throw
  /-- the `catch` block ends -/
  | leaveCatch
  deriving DecidableEq, Repr

def workerStep (cfg : Configuration) (i : ℕ) (w : Worker) (s : Shared) :
    WorkerAction → Option (Worker × Shared)
  | .exec stmt =>
    if w.pc = .body stmt then
      match execWorkerStmt cfg w.connection w.locals s stmt with
      | .ok (t, s) => some ({ w with pc := stmt.next, locals := t }, s)
      | .error _ => none
    else none
  | .emit m =>
    if w.pc ≠ .finished ∧ m.type ≠ .fatal then
      let (t, s) := tinyMessageHandler (.worker i) w.locals s m
      some ({ w with locals := t }, s)
    else none
  | .fatal message =>
    if w.pc ≠ .finished then
      let (t, s) := tinyMessageHandler (.worker i) w.locals s ⟨.fatal, message⟩
      some ({ w with locals := t }, s)
    else none
  | .log amount =>
    if w.pc.testing then
      some ({ w with locals := { w.locals with counters := w.locals.counters + amount } }, s)
    else none
  | .throw =>
    match w.pc with
    | .body _ => some ({ w with pc := .caught, locals := { w.locals with inThread := false } }, s)
    | _ => none
  | .leaveCatch => if w.pc = .caught then some ({ w with pc := .finished }, s) else none

/-! ### The main thread -/

inductive MainPc where
  | connectToDatabase
  | initConnsInThreadsTesting
  /-- in the loop of `testAllConnections`, before its next connection -/
  | loop (connections : List String)
  /-- in `testConnectionInMainThread` -/
  | testing (connections : List String)
  | setDefaultConnection
  | replayThrdLogToConsole
  | saveCountersForAppSummary
  | logApplicationSummary
  | returned
  /-- an exception waits in the destructor of `threads` -/
  | unwinding
  /-- the exception left `testAllConnections` -/
  | left
  deriving DecidableEq, Repr

inductive MainStmt where
  | connectToDatabase
  | initConnsInThreadsTesting (opened : Except LogFileError Unit)
  | nextConnection
  | testsDone
  | joinThreads
  | setDefaultConnection
  | replayThrdLogToConsole
  | saveCountersForAppSummary
  | logApplicationSummary
  | propagate
  deriving DecidableEq

inductive MainAction where
  | exec (stmt : MainStmt)
  | emit (m : MessageLogItem)
  | fatal (message : String)
  | log (amount : ThreadCounters)
  | throw
  deriving DecidableEq

structure System where
  cfg : Configuration
  pc : MainPc
  main : ThreadLocals
  workers : List Worker
  shared : Shared
  /-- the thread whose fatal message ended the process -/
  aborted : Option ThreadId

namespace System

def start (cfg : Configuration) : System :=
  ⟨cfg, .connectToDatabase, .initial, [], .initial, none⟩

def joined (s : System) : Bool := s.workers.all fun w => w.pc = .finished

def connectToDatabase (s : System) : Except Exn System := do
  let configurations ← s.cfg.computeConfigurationsToAdd s.main.inThread ""
  let defaultConnection := s.cfg.getDefaultConnectionName
  let connectionsToCount ← s.cfg.computeConnectionsToCount s.main.inThread ""
  return { s with
    pc := .initConnsInThreadsTesting
    main := { s.main with configurations, defaultConnection, connectionsToCount } }

/-- A statement of the main thread that returns. -/
def execMainStmt (s : System) : MainStmt → Option System
  | .connectToDatabase =>
    match s.pc, s.connectToDatabase with
    | .connectToDatabase, .ok s => some s
    | _, _ => none
  | .initConnsInThreadsTesting opened =>
    match s.pc, s.cfg.initConnsInThreadsTesting opened with
    | .initConnsInThreadsTesting, .ok cfg => some { s with cfg, pc := .loop cfg.connectionsToTest }
    | _, _ => none
  | .nextConnection =>
    match s.pc with
    | .loop (connection :: connections) =>
      if s.cfg.runsInThread connection then
        some { s with pc := .loop connections, workers := s.workers ++ [.start connection] }
      else some { s with
        pc := .testing connections, main := { s.main with defaultConnection := connection } }
    | _ => none
  | .testsDone =>
    match s.pc with
    | .testing connections => some { s with pc := .loop connections }
    | _ => none
  | .joinThreads =>
    if s.pc = .loop [] ∧ s.joined then some { s with pc := .setDefaultConnection } else none
  | .setDefaultConnection =>
    if s.pc = .setDefaultConnection then
      some { s with
        pc := .replayThrdLogToConsole
        main := { s.main with defaultConnection := s.cfg.getDefaultConnectionName } }
    else none
  | .replayThrdLogToConsole =>
    if s.pc ≠ .replayThrdLogToConsole then none
    else if s.cfg.isLoggingToFile then some { s with pc := .saveCountersForAppSummary }
    else match replayThrdLogToConsole s.main s.shared with
      | .ok (main, shared) => some { s with pc := .saveCountersForAppSummary, main, shared }
      | .error _ => none
  | .saveCountersForAppSummary =>
    match s.pc, s.shared.app.saveCountersForAppSummary s.main.counters "main" with
    | .saveCountersForAppSummary, .ok app =>
      some { s with pc := .logApplicationSummary, shared := { s.shared with app } }
    | _, _ => none
  | .logApplicationSummary =>
    if s.pc = .logApplicationSummary then some { s with pc := .returned } else none
  | .propagate => if s.pc = .unwinding ∧ s.joined then some { s with pc := .left } else none

/-- The points at which a test of the main thread runs. -/
def inMainTests (s : System) : Bool :=
  match s.pc with
  | .initConnsInThreadsTesting => true
  | .testing _ => true
  | _ => false

/-- The points of `testAllConnections` at which an exception can start. -/
def canThrow (s : System) : Bool :=
  match s.pc with
  | .initConnsInThreadsTesting => true
  | .loop _ => true
  | .testing _ => true
  | _ => false

def ended (s : System) : Bool := s.pc = .returned || s.pc = .left

def mainStep (s : System) : MainAction → Option System
  | .exec stmt => s.execMainStmt stmt
  | .emit m =>
    if !s.ended ∧ m.type ≠ .fatal then
      let (main, shared) := tinyMessageHandler .main s.main s.shared m
      some { s with main, shared }
    else none
  | .fatal message =>
    if !s.ended then
      let (main, shared) := tinyMessageHandler .main s.main s.shared ⟨.fatal, message⟩
      some { s with main, shared, aborted := some .main }
    else none
  | .log amount =>
    if s.inMainTests then
      some { s with main := { s.main with counters := s.main.counters + amount } }
    else none
  | .throw => if s.canThrow then some { s with pc := .unwinding } else none

inductive Event where
  | main (action : MainAction)
  | worker (i : ℕ) (action : WorkerAction)
  deriving DecidableEq

/-- One step of one thread; an aborted process makes none. -/
def step (s : System) (e : Event) : Option System :=
  if s.aborted.isSome then none
  else match e with
    | .main action => s.mainStep action
    | .worker i action =>
      match s.workers[i]? with
      | none => none
      | some w =>
        match workerStep s.cfg i w s.shared action with
        | none => none
        | some (w', shared) =>
          some { s with
            workers := s.workers.set i w'
            shared
            aborted := match action with
              | .fatal _ => some (.worker i)
              | _ => none }

end System

end TinyPlay

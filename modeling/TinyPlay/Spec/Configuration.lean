import TinyPlay.Lib.Attempt
import TinyPlay.Lib.Emplace
import TinyPlay.Lib.LastIndex

/-! The `Configuration` object and the two services that read it: which connections a
thread registers and which ones it counts. The compile-time switches `ConnectionsInThreads`
and `IsLoggingToFile` are fields here, so that a statement covers all four builds. -/

namespace TinyPlay

/-- The options of one connection; they are copied and never inspected. -/
abbrev QVariantHash := List (String × String)

/-- `std::unordered_map<QString, QVariantHash>` -/
abbrev OrmConfigurations := AList fun _ : String => QVariantHash

/-- The exceptions the modelled code throws. -/
inductive Exn where
  | invalidArgumentError (what : String)
  | logicError (what : String)
  | runtimeError (what : String)
  | outOfRange
  deriving DecidableEq, Repr

theorem bind_eq_ok {α β : Type} {x : Except Exn α} {f : α → Except Exn β} {b : β} :
    x.bind f = .ok b ↔ ∃ a, x = .ok a ∧ f a = .ok b := by
  cases x with
  | error e => simp [Except.bind]
  | ok a => simp [Except.bind]

theorem map_eq_ok {α β : Type} {x : Except Exn α} {f : α → β} {b : β} :
    x.map f = .ok b ↔ ∃ a, x = .ok a ∧ f a = b := by
  cases x with
  | error e => simp [Except.map]
  | ok a => simp [Except.map]

namespace Configuration

/- Database connection names. -/
def mysql : String := "mysql"
def mysqlAlt : String := "mysql_alt"
def mysqlMainThread : String := "mysql_mainthread"
def mysqlLaravel8 : String := "mysql_laravel8"
def postgres : String := "postgres"
def sqlite : String := "sqlite"
def sqliteMemory : String := "sqlite_memory"
def sqliteCheckExistsTrue : String := "sqlite_check_exists_true"
def sqliteCheckExistsFalse : String := "sqlite_check_exists_false"

end Configuration

open TinyPlay.Configuration

structure Configuration where
  /-- `ConnectionsInThreads` -/
  connectionsInThreads : Bool
  /-- `IsLoggingToFile` -/
  isLoggingToFile : Bool
  configurations : OrmConfigurations
  connectionsToTest : List String
  connectionsToRunInThread : List String
  countableConnections : List String
  removableConnections : List String
  connectionsMap : AList fun _ : String => List String
  connectionsMapReverse : AList fun _ : String => String

/-- The member initializers of the class. `tested` stands for the two lists of tested
connections, which ship as `[mysql]` with `sqlite` and `postgres` commented out. -/
def Configuration.initial (connectionsInThreads isLoggingToFile : Bool) (tested : List String) :
    Configuration where
  connectionsInThreads := connectionsInThreads
  isLoggingToFile := isLoggingToFile
  configurations := ([mysql, mysqlAlt, mysqlMainThread, mysqlLaravel8, sqlite, sqliteMemory,
    sqliteCheckExistsTrue, sqliteCheckExistsFalse, postgres].map fun name => ⟨name, []⟩).toAList
  connectionsToTest := tested
  connectionsToRunInThread := tested
  countableConnections := [mysql, mysqlAlt, mysqlMainThread, sqlite, sqliteMemory, postgres]
  removableConnections := [mysql, sqlite, postgres]
  connectionsMap := [⟨mysql, [mysql, mysqlAlt]⟩].toAList
  connectionsMapReverse := [⟨mysql, mysql⟩, ⟨mysqlAlt, mysql⟩].toAList

/-- What a failed `logFile.open()` reports. -/
structure LogFileError where
  fileName : String
  errorString : String
  error : ℕ
  deriving DecidableEq, Repr

namespace Configuration

/-- `path` is the value of `DB_SQLITE_DATABASE`, empty when it is not set. The native separator is
the slash, and a position counts characters: a slash is one code unit. -/
def initCheckDatabaseExistsFile (path : String) : Except Exn String :=
  if path = "" then
    .error (.runtimeError "Undefined environment variable 'DB_SQLITE_DATABASE'.")
  else
    let path := String.ofList
      (LastIndex.truncate path.toList (LastIndex.lastIndexOf '/' path.toList))
    .ok (path ++ "/tinyorm_test-check_exists.sqlite3")

/-- `getMappedConnections`: the connection with its related connections -/
def getMappedConnections (cfg : Configuration) (connection : String) : List String :=
  match cfg.connectionsMap.lookup connection with
  | some connections => connections
  | none => [connection]

/-- The `mappedConnection` of the two counting filters: the real connection behind a name. -/
def mappedConnection (cfg : Configuration) (connection : String) : String :=
  match cfg.connectionsMapReverse.lookup connection with
  | some mapped => mapped
  | none => connection

/-! ### The guards of `Utils` and of the counters service -/

def throwIfNonEmptyConn (inThread : Bool) (connection : String) : Except Exn Unit :=
  if !inThread && connection ≠ "" then
    .error (.invalidArgumentError
      "The 'connection' argument is supported only when g_inThread = true.")
  else .ok ()

def throwIfEmptyConn (inThread : Bool) (connection : String) : Except Exn Unit :=
  if inThread && connection = "" then
    .error (.invalidArgumentError
      "You have to pass the 'connection' argument when g_inThread = true.")
  else .ok ()

def throwIfInThread (inThread : Bool) : Except Exn Unit :=
  if inThread then
    .error (.invalidArgumentError
      "This method can be called only from the main thread, it means g_inThread = false.")
  else .ok ()

def throwIfConnsToRunEmpty (cfg : Configuration) : Except Exn Unit :=
  if cfg.connectionsInThreads && cfg.connectionsToRunInThread.isEmpty then
    .error (.logicError ("Configuration::ConnectionsInThreads = true but " ++
      "m_config.ConnectionsToRunInThread is empty."))
  else .ok ()

/-! ### `ConfigurationsService` -/

def configurationsWhenSingleThread (cfg : Configuration) : OrmConfigurations :=
  AList.emplaceIf (fun name => name ≠ mysqlMainThread) ∅ cfg.configurations.entries

def configsForMainThrdWhenMultiThrd (cfg : Configuration) : OrmConfigurations :=
  AList.emplaceIf (fun name => !cfg.connectionsToRunInThread.contains name) ∅
    cfg.configurations.entries

/-- `emplace(connection_, Configurations.at(connection_))` for every mapped name. -/
def configsForWorkerThrdWhenMultiThrd (cfg : Configuration) (connection : String) :
    Except Exn OrmConfigurations :=
  AList.collect .outOfRange cfg.configurations (cfg.getMappedConnections connection) ∅

def computeConfigurationsToAdd (cfg : Configuration) (inThread : Bool) (connection : String) :
    Except Exn OrmConfigurations :=
  if !cfg.connectionsInThreads then .ok cfg.configurationsWhenSingleThread
  else do
    throwIfNonEmptyConn inThread connection
    if !inThread then
      return cfg.configsForMainThrdWhenMultiThrd
    throwIfEmptyConn inThread connection
    cfg.configsForWorkerThrdWhenMultiThrd connection

def getDefaultConnectionName (cfg : Configuration) : String :=
  if cfg.connectionsInThreads then mysqlMainThread else mysql

/-! ### The connection lists of `QueryCountersService` -/

/-- The test of the `copy_if` in `computeConnectionsToCountForMainThread`. -/
def countsInMainThread (cfg : Configuration) (connection : String) : Bool :=
  let mapped := cfg.mappedConnection connection
  !cfg.removableConnections.contains mapped ||
    (!cfg.connectionsInThreads && cfg.connectionsToTest.contains mapped) ||
    (cfg.connectionsInThreads && cfg.connectionsToTest.contains mapped &&
      !cfg.connectionsToRunInThread.contains mapped)

/-- `removeOne(Mysql_MainThread)` runs in both modes. -/
def computeConnectionsToCountForMainThread (cfg : Configuration) (inThread : Bool) :
    Except Exn (List String) := do
  throwIfInThread inThread
  let connectionsToCount := cfg.countableConnections.filter cfg.countsInMainThread
  return connectionsToCount.erase mysqlMainThread

def computeConnectionsToCountForWorkerThread (cfg : Configuration) (connection : String) :
    List String :=
  cfg.getMappedConnections connection

def computeConnectionsToCount (cfg : Configuration) (inThread : Bool) (connection : String) :
    Except Exn (List String) := do
  throwIfNonEmptyConn inThread connection
  throwIfEmptyConn inThread connection
  if connection ≠ "" then
    return cfg.computeConnectionsToCountForWorkerThread connection
  cfg.computeConnectionsToCountForMainThread inThread

/-- The test of the `copy_if` in `appCountedConnectionsPrintable`. -/
def isPrintedAsCounted (cfg : Configuration) (connection : String) : Bool :=
  let mapped := cfg.mappedConnection connection
  !cfg.removableConnections.contains mapped || cfg.connectionsToTest.contains mapped

/-- The names behind 'Counted connections' of the Application Summary. -/
def appCountedConnectionsPrintable (cfg : Configuration) : List String :=
  let countedConnections := cfg.countableConnections.filter cfg.isPrintedAsCounted
  if !cfg.connectionsInThreads then countedConnections.erase mysqlMainThread
  else countedConnections

/-! ### Preparing and dispatching the threaded run -/

/-- `santizeConnectionsToRunInThread` (the source's spelling) -/
def santizeConnectionsToRunInThread (cfg : Configuration) : Configuration :=
  if !cfg.connectionsInThreads then cfg
  else { cfg with
    connectionsToRunInThread :=
      cfg.connectionsToRunInThread.filter fun connection =>
        cfg.connectionsToTest.contains connection }

/-- `initThreadLogging` with `openLogFile`; `opened` is the outcome of `logFile.open()`. -/
def initThreadLogging (cfg : Configuration) (opened : Except LogFileError Unit) :
    Except Exn Unit :=
  if !cfg.connectionsInThreads || !cfg.isLoggingToFile then .ok ()
  else match opened with
    | .ok () => .ok ()
    | .error e => .error (.runtimeError ("Can not open log file 'logFile(" ++ e.fileName ++
        ")': " ++ e.errorString ++ " [QFileDevice::FileError(" ++ toString e.error ++ ")]."))

def initConnsInThreadsTesting (cfg : Configuration) (opened : Except LogFileError Unit) :
    Except Exn Configuration := do
  throwIfConnsToRunEmpty cfg
  initThreadLogging cfg opened
  return cfg.santizeConnectionsToRunInThread

/-- `initConnsInThreadsTesting` with the configuration that an exception leaves behind. -/
def attemptInitConnsInThreadsTesting (cfg : Configuration) (opened : Except LogFileError Unit) :
    Except Exn Unit × Configuration :=
  Attempt.attempt (fun stmt cfg => stmt cfg)
    [fun cfg => (throwIfConnsToRunEmpty cfg).map fun _ => cfg,
      fun cfg => (initThreadLogging cfg opened).map fun _ => cfg,
      fun cfg => .ok cfg.santizeConnectionsToRunInThread] cfg

/-- The branch of the loop in `testAllConnections`: `true` starts a worker thread. -/
def runsInThread (cfg : Configuration) (connection : String) : Bool :=
  cfg.connectionsInThreads && cfg.connectionsToRunInThread.contains connection

/-- The connections for which `testAllConnections` starts a worker, in order. The lists that
decide it are the sanitized ones. -/
def workerConnections (cfg : Configuration) : List String :=
  cfg.santizeConnectionsToRunInThread.connectionsToTest.filter
    cfg.santizeConnectionsToRunInThread.runsInThread

end Configuration

end TinyPlay

import TinyPlay.Spec.QueryCounters
import Mathlib.Algebra.GroupWithZero.Nat
import Mathlib.Data.List.Infix

/-! What `QueryCountersService` prints. Each string is one message of `qInfo()`; the console ends
it with a line feed. -/

namespace TinyPlay

/-- What the build fixes: the texts of TinyORM, Qt and the compiler, and how a sum is stored in
an `int` and in a `qint64`. -/
structure Build where
  /-- `Orm::Constants::COMMA` -/
  comma : String
  compiler : String
  /-- `TINYORM_SIMULATED_STRING`, where it is defined -/
  simulated : Option String
  qtVersion : String
  qtIsDebugBuild : Bool
  qtBuild : String
  ormVersion : String
  ormIsDebugBuild : Bool
  ormBuild : String
  playVersion : String
  /-- `TINYPLAY_NO_DEBUG` -/
  playNoDebug : Bool
  int : ℤ → ℤ
  qint64 : ℤ → ℤ

structure StatementsCounterPrintable where
  normal : String
  affecting : String
  transactional : String
  total : String
  deriving DecidableEq, Repr

structure CountersPrintable where
  functionsElapsed : String
  queriesElapsed : String
  statementsCounter : StatementsCounterPrintable
  recordsHaveBeenModified : String
  deriving DecidableEq, Repr

def yesNo (value : Bool) : String := if value then "yes" else "no"

/-! ### The counters of one thread -/

/-- `getAppCountersPrintable` with the counters as arguments -/
def getAppCountersPrintable (build : Build) (functionsElapsed : ℤ) (counters : BlockCounters) :
    CountersPrintable :=
  let ⟨normal, affecting, transactional⟩ := counters.statementsCounter
  -- Show -1 when any statements were not executed
  let total := if normal > -1 ∨ affecting > -1 ∨ transactional > -1 then 0 else -1
  let total := if normal > -1 then build.int (total + normal) else total
  let total := if affecting > -1 then build.int (total + affecting) else total
  let total := if transactional > -1 then build.int (total + transactional) else total
  { functionsElapsed := toString functionsElapsed ++ "ms"
    queriesElapsed := toString counters.queriesElapsed ++
      if counters.queriesElapsed > -1 then "ms" else ""
    statementsCounter := ⟨toString normal, toString affecting, toString transactional,
      toString total⟩
    recordsHaveBeenModified := yesNo counters.recordsHaveBeenModified }

/-! ### The counters of the whole application -/

/-- A sum of statement counters with its total. -/
structure StatementsCounterTotal where
  normal : ℤ
  affecting : ℤ
  transactional : ℤ
  total : ℤ
  deriving DecidableEq, Repr

/-- `countersTmpl` -/
def counterPrintable (value threadName : String) : String := value ++ " (" ++ threadName ++ ")"

def appElapsedCounterPrintable (build : Build) (counters : List (AppCounterItem ℤ)) : String :=
  build.comma.intercalate (counters.map fun c =>
    counterPrintable (toString c.value ++ "ms") c.threadName)

def appBoolCounterPrintable (build : Build) (counters : List (AppCounterItem Bool)) : String :=
  build.comma.intercalate (counters.map fun c => counterPrintable (yesNo c.value) c.threadName)

def appZeroCounters (counters : List (AppCounterItem StatementsCounter))
    (sumCounters : StatementsCounterTotal) : StatementsCounterTotal :=
  let anyOfCounters := fun (condition : StatementsCounter → Bool) =>
    counters.any fun item => condition item.value
  { total := if anyOfCounters fun c =>
      c.normal > -1 || c.affecting > -1 || c.transactional > -1 then 0 else sumCounters.total
    normal := if anyOfCounters fun c => c.normal > -1 then 0 else sumCounters.normal
    affecting := if anyOfCounters fun c => c.affecting > -1 then 0 else sumCounters.affecting
    transactional :=
      if anyOfCounters fun c => c.transactional > -1 then 0 else sumCounters.transactional }

/-- The body of the loop in `appSumUpCounters`. -/
def appSumUpCounter (build : Build) (sum : StatementsCounterTotal)
    (item : AppCounterItem StatementsCounter) : StatementsCounterTotal :=
  let ⟨normal, affecting, transactional⟩ := item.value
  let sum := if normal > -1 then { sum with
    normal := build.int (sum.normal + normal), total := build.qint64 (sum.total + normal) } else sum
  let sum := if affecting > -1 then { sum with
    affecting := build.int (sum.affecting + affecting)
    total := build.qint64 (sum.total + affecting) } else sum
  if transactional > -1 then { sum with
    transactional := build.int (sum.transactional + transactional)
    total := build.qint64 (sum.total + transactional) } else sum

def appSumUpCounters (build : Build) (counters : List (AppCounterItem StatementsCounter))
    (sumCounters : StatementsCounterTotal) : StatementsCounterTotal :=
  counters.foldl (appSumUpCounter build) sumCounters

/-- The `sumThrd` of one thread. -/
def threadTotal (build : Build) (c : StatementsCounter) : ℤ :=
  let sumThrd := if c.normal > -1 ∨ c.affecting > -1 ∨ c.transactional > -1 then 0 else -1
  let sumThrd := if c.normal > -1 then build.qint64 (sumThrd + c.normal) else sumThrd
  let sumThrd := if c.affecting > -1 then build.qint64 (sumThrd + c.affecting) else sumThrd
  if c.transactional > -1 then build.qint64 (sumThrd + c.transactional) else sumThrd

/-- A sum, with the value of each thread in brackets when it is positive. -/
def sumPrintable (build : Build) (sum : ℤ) (counters : List (AppCounterItem StatementsCounter))
    (value : StatementsCounter → ℤ) : String :=
  if sum < 1 then toString sum
  else toString sum ++ " [" ++ build.comma.intercalate (counters.map fun item =>
    counterPrintable (toString (value item.value)) item.threadName) ++ "]"

def appStatementsCounterPrintable (build : Build)
    (counters : List (AppCounterItem StatementsCounter)) : StatementsCounterPrintable :=
  let sumCounters := appSumUpCounters build counters (appZeroCounters counters ⟨-1, -1, -1, -1⟩)
  { normal := sumPrintable build sumCounters.normal counters StatementsCounter.normal
    affecting := sumPrintable build sumCounters.affecting counters StatementsCounter.affecting
    transactional :=
      sumPrintable build sumCounters.transactional counters StatementsCounter.transactional
    total := sumPrintable build sumCounters.total counters (threadTotal build) }

/-- `getAppCountersPrintable` without arguments -/
def AppCounters.getAppCountersPrintable (app : AppCounters) (build : Build) :
    CountersPrintable where
  functionsElapsed := appElapsedCounterPrintable build app.functionsElapsed
  queriesElapsed := appElapsedCounterPrintable build app.queriesElapsed
  statementsCounter := appStatementsCounterPrintable build app.statementsCounter
  recordsHaveBeenModified := appBoolCounterPrintable build app.recordsHaveBeenModified

/-! ### The messages -/

/-- What the printing code reads besides its arguments. The configuration no longer changes once
the first block is printed, so the list that `countedConnectionsPrintable` caches is the one it
would compute again. -/
structure Printer where
  build : Build
  cfg : Configuration
  app : AppCounters
  /-- `Configuration::ConnectionsToCount` of the thread -/
  connectionsToCount : List String
  /-- the `m_thread*` counters -/
  thread : ThreadCounters

/-- `title.contains(text)` -/
def titleContains (title text : String) : Bool := decide (text.toList <:+: title.toList)

/-- `QString::size()`, in UTF-16 code units -/
def qstringSize (s : String) : ℕ :=
  (s.toList.map fun c => if c.toNat < 0x10000 then 1 else 2).sum

def buildType (isDebugBuild : Bool) : String := if isDebugBuild then "Debug" else "Release"

def headerMessages (title : String) (loggingAppSummary : Bool) : List String :=
  if loggingAppSummary then
    ["\n-----------------------", "  " ++ title, "-----------------------"]
  else ["", title, "---"]

/-- General informations about the environment -/
def environmentMessages (build : Build) : List String :=
  ["⚙ Compiler version             : " ++ build.compiler] ++
  (match build.simulated with
    | some simulated => ["⚙ Simulated compiler version   : " ++ simulated]
    | none => []) ++
  ["⚙ Qt version                   : " ++ build.qtVersion,
    "  Qt build type                : " ++ buildType build.qtIsDebugBuild,
    "  Qt full build type           : " ++ build.qtBuild ++ "\n",
    "⚙ TinyORM version              : " ++ build.ormVersion,
    "  TinyORM build type           : " ++ buildType build.ormIsDebugBuild,
    "  TinyORM full build type      : " ++ build.ormBuild,
    "⚙ TinyOrmPlayground version    : " ++ build.playVersion,
    "  TinyOrmPlayground build type : " ++ buildType (!build.playNoDebug) ++ "\n"]

def functionsMessage (functionsElapsed : String) : String :=
  "⚡ Functions Execution time : " ++ functionsElapsed ++ "\n"

def threadsModeMessage (connectionsInThreads : Bool) : String :=
  "♆ Threads mode             : " ++
    if connectionsInThreads then "multi-thread" else "single-thread"

def Printer.countedConnectionsPrintable (p : Printer) (loggingAppSummary : Bool) : List String :=
  if !loggingAppSummary then p.connectionsToCount else p.cfg.appCountedConnectionsPrintable

/-- The two blanks that align the labels of the Application Summary. -/
def summaryPadding (loggingAppSummary : Bool) : String := if loggingAppSummary then "  " else ""

def Printer.countedConnectionsMessage (p : Printer) (loggingAppSummary : Bool) : String :=
  let countedConnections := p.countedConnectionsPrintable loggingAppSummary
  let countedSize := countedConnections.length
  "∑ " ++ "Counted connections    " ++ summaryPadding loggingAppSummary ++ ": " ++
    (toString countedSize ++
      if countedSize > 1 || loggingAppSummary then
        " (" ++ p.build.comma.intercalate countedConnections ++ ")"
      else "")

def queriesMessage (loggingAppSummary : Bool) (queriesElapsed : String) : String :=
  "⚡ Queries execution time " ++ summaryPadding loggingAppSummary ++ ": " ++ queriesElapsed

/-- The rest of a block. -/
def countersMessages (loggingAppSummary : Bool) (printable : CountersPrintable) : List String :=
  [queriesMessage loggingAppSummary printable.queriesElapsed,
    "✎ Records was modified   " ++ summaryPadding loggingAppSummary ++ ": " ++
      printable.recordsHaveBeenModified,
    "⚖ Statements counters",
    "  Normal        : " ++ printable.statementsCounter.normal,
    "  Affecting     : " ++ printable.statementsCounter.affecting,
    "  Transaction   : " ++ printable.statementsCounter.transactional,
    "  Total         : " ++ printable.statementsCounter.total,
    "---"]

def Printer.logQueryCountersBlock (p : Printer) (title : String) (counters : BlockCounters) :
    List String :=
  let loggingAppSummary := titleContains title "Application"
  let printable :=
    if loggingAppSummary && p.cfg.connectionsInThreads then p.app.getAppCountersPrintable p.build
    else getAppCountersPrintable p.build p.thread.functionsElapsed counters
  headerMessages title loggingAppSummary ++
  (if loggingAppSummary then
    environmentMessages p.build ++ [functionsMessage printable.functionsElapsed]
  else []) ++
  (if loggingAppSummary then [threadsModeMessage p.cfg.connectionsInThreads] else []) ++
  (if titleContains title "Summary" then [p.countedConnectionsMessage loggingAppSummary]
  else []) ++
  countersMessages loggingAppSummary printable

def connectionTitle (connectionName : String) : String :=
  "Connection name - '" ++ connectionName ++ "'"

def playTestMessage (func : String) : String := "PlayTest - " ++ func ++ "()"

/-- The messages of a `logQueryCounters` call that reports `report`; `thread` holds the counters
after the function time was added. -/
def Printer.logQueryCounters (p : Printer) (func : String) (report : CountersReport) :
    List String :=
  let line := String.ofList (List.replicate (13 + qstringSize func) '-')
  ["\n" ++ line,
    playTestMessage func,
    line,
    "\n⚡ Function Execution time : " ++ (toString (report.functionElapsed.getD (-1)) ++ "ms")] ++
  (report.connections.flatMap fun block =>
    p.logQueryCountersBlock (connectionTitle block.1) block.2) ++
  p.logQueryCountersBlock "Summary" report.summary ++ [line]

def Printer.logApplicationSummary (p : Printer) : List String :=
  p.logQueryCountersBlock "Application Summary" ⟨p.thread.queriesElapsed,
    p.thread.statementsCounter, p.thread.recordsHaveBeenModified⟩

def totalMessage (totalElapsed : ℕ) : String :=
  "⚡ Total TestOrm instance execution time : " ++ (toString totalElapsed ++ "ms\n" ++ "---")

/-- What `main` prints around the messages of the run; `totalElapsed` is `timer.elapsed()`. -/
def mainMessages (run : List String) (totalElapsed : ℕ) : List String :=
  "" :: run ++ [totalMessage totalElapsed, ""]

/-- The default message handler of Qt ends every message with a line feed. -/
def consoleText (messages : List String) : List Char :=
  messages.flatMap fun message => message.toList ++ ['\n']

end TinyPlay

import TinyPlay.Lib.Lines
import TinyPlay.Lib.Pattern
import TinyPlay.Spec.Printing
import Mathlib.Data.List.DropRight

/-! The benchmark script: it runs the program several times, appends what each run prints to one
error log and reads the elapsed times back from it with `Select-String`. -/

namespace TinyPlay

open Lines Pattern

/-- What the case-insensitive regular expressions accept beyond ASCII: the characters that count
as a variant of a letter, as a decimal digit and as a word character. -/
structure Culture where
  variant : Char → Char → Bool
  digit : Char → Bool
  word : Char → Bool

namespace Culture

/-- The culture that knows ASCII only. -/
def ascii : Culture := ⟨fun _ _ => false, fun _ => false, fun _ => false⟩

def isAscii (c : Char) : Bool := c.toNat < 128

/-- The letter `a` of a pattern accepts `c`. -/
def sameLetter (u : Culture) (a c : Char) : Bool :=
  a.toLower == c.toLower || (a.isAlpha && !isAscii c && u.variant a c)

/-- `\d` -/
def isDigit (u : Culture) (c : Char) : Bool := c.isDigit || (!isAscii c && u.digit c)

/-- `\w` -/
def isWord (u : Culture) (c : Char) : Bool :=
  c.isAlphanum || c == '_' || (!isAscii c && u.word c)

/-- A part of a pattern that stands for itself. -/
def text (u : Culture) (s : String) : Pattern Char := literal u.sameLetter s.toList

/-- ` {least,}` -/
def blanks (least : ℕ) : Pattern Char := [.many (· == ' ') least false]

/-- `label gap: (\d+)ms` -/
def elapsedPattern (u : Culture) (label : String) (gap : Pattern Char) : Pattern Char :=
  u.text label ++ (gap ++ (u.text ":" ++ (u.text " " ++ (.many u.isDigit 1 true :: u.text "ms"))))

/-- `Functions execution time +: (\d+)ms` -/
def functionsPattern (u : Culture) : Pattern Char :=
  u.elapsedPattern "Functions execution time" (blanks 1)

/-- `Queries execution time +: (\d+)ms` -/
def queriesLastPattern (u : Culture) : Pattern Char :=
  u.elapsedPattern "Queries execution time" (blanks 1)

/-- `Queries execution time {2,}: (\d+)ms` -/
def queriesAveragePattern (u : Culture) : Pattern Char :=
  u.elapsedPattern "Queries execution time" (blanks 2)

/-- `Total TestOrm instance execution time : (\d+)ms` -/
def totalPattern (u : Culture) : Pattern Char :=
  u.elapsedPattern "Total TestOrm instance execution time" (u.text " ")

/-- `Threads mode +: ([\w\-]+)` -/
def threadsModePattern (u : Culture) : Pattern Char :=
  u.text "Threads mode" ++ (blanks 1 ++ (u.text ":" ++ (u.text " " ++
    [.many (fun c => u.isWord c || c == '-') 1 true])))

end Culture

/-- `Select-String`: the captured text of the first match of each line. -/
def selectString (p : Pattern Char) (ls : List (List Char)) : List (List Char) :=
  ls.filterMap p.find

/-- `Initialize-ConnectionsInThreads`: the value of `$Script:ConnectionsInThreads` -/
def initializeConnectionsInThreads (u : Culture) (log : List Char) : Except String Bool :=
  match selectString u.threadsModePattern ((lines log).rtake 20) with
  | [] => .error "Can not detect threads mode, no regex matches."
  | threadsMode :: _ =>
    if threadsMode = "single-thread".toList then .ok false
    else if threadsMode = "multi-thread".toList then .ok true
    else .error "Can not detect threads mode."

/-- `Get-LastElapsed` -/
def getLastElapsed (p : Pattern Char) (log : List Char) : Except String (List Char) :=
  match (selectString p (lines log)).getLast? with
  | none => .error "Pattern 'lastElapsed' not found, any regex matches."
  | some lastElapsed => .ok lastElapsed

/-- `Get-AverageElapsed`, up to the texts whose average it takes -/
def getAverageElapsed (p : Pattern Char) (log : List Char) : Except String (List (List Char)) :=
  match selectString p (lines log) with
  | [] => .error "Pattern 'averageElapsed' not found, any regex matches."
  | averageElapsed => .ok averageElapsed

/-! ### The runs of the program -/

/-- What a run writes before its Application Summary: the messages of one `logQueryCounters`
call, or any other message. -/
inductive LogEntry where
  | queryCounters (connectionsToCount : List String) (thread : ThreadCounters) (func : String)
    (report : CountersReport)
  | other (message : String)

/-- One run in which `TestOrm::run` does not throw. -/
structure ProgramRun where
  /-- the main thread at the end of the run -/
  printer : Printer
  entries : List LogEntry
  totalElapsed : ℕ

def LogEntry.messages (p : Printer) : LogEntry → List String
  | .queryCounters connectionsToCount thread func report =>
    Printer.logQueryCounters { p with connectionsToCount, thread } func report
  | .other message => [message]

def ProgramRun.messages (r : ProgramRun) : List String :=
  mainMessages (r.entries.flatMap (LogEntry.messages r.printer) ++ r.printer.logApplicationSummary)
    r.totalElapsed

/-- `Invoke-TinyOrmPlayground-err.log` after some runs -/
def errorLog (runs : List ProgramRun) : List Char := runs.flatMap fun r => consoleText r.messages

/-! ### The script -/

/-- What the script prints about one run: the functions and the queries time in single-thread
mode, and the total. -/
structure RunElapsed where
  singleThread : Option (List Char × List Char)
  total : List Char
  deriving DecidableEq, Repr

structure Script where
  /-- `Invoke-TinyOrmPlayground-err.log` -/
  errorLog : List Char
  /-- `$Script:ConnectionsInThreads` -/
  connectionsInThreads : Option Bool
  elapsed : List RunElapsed
  deriving DecidableEq, Repr

/-- The log files are cleared first. -/
def Script.start : Script := ⟨[], none, []⟩

/-- The body of the loop: one run with its exit code and what it wrote to the error stream. -/
def Script.step (u : Culture) (s : Script) (run : ℤ × List Char) : Except String Script := do
  let log := s.errorLog ++ run.2
  if run.1 ≠ 0 then
    throw ("Last Exit code was not 0, it was: " ++ toString run.1)
  let connectionsInThreads ← match s.connectionsInThreads with
    | none => initializeConnectionsInThreads u log
    | some connectionsInThreads => pure connectionsInThreads
  let singleThread ←
    if !connectionsInThreads then do
      let functionsElapsed ← getLastElapsed u.functionsPattern log
      let queriesElapsed ← getLastElapsed u.queriesLastPattern log
      pure (some (functionsElapsed, queriesElapsed))
    else pure none
  let total ← getLastElapsed u.totalPattern log
  return ⟨log, some connectionsInThreads, s.elapsed ++ [⟨singleThread, total⟩]⟩

/-- What the script averages at its end. -/
structure Averages where
  singleThread : Option (List (List Char) × List (List Char))
  total : List (List Char)
  deriving DecidableEq, Repr

def Script.averages (u : Culture) (s : Script) : Except String Averages := do
  let singleThread ←
    -- the variable is still null when nothing ran
    if !s.connectionsInThreads.getD false then do
      let functionsAverage ← getAverageElapsed u.functionsPattern s.errorLog
      let queriesAverage ← getAverageElapsed u.queriesAveragePattern s.errorLog
      pure (some (functionsAverage, queriesAverage))
    else pure none
  let totalAverage ← getAverageElapsed u.totalPattern s.errorLog
  return ⟨singleThread, totalAverage⟩

def invoke (u : Culture) (runs : List (ℤ × List Char)) :
    Except String (List RunElapsed × Averages) := do
  let s ← runs.foldlM (Script.step u) Script.start
  let averages ← s.averages u
  return (s.elapsed, averages)

end TinyPlay

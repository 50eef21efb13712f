import TinyPlay.Proofs.ThreadsMode

/-! The benchmark script reads back what the program printed: over any number of runs each
pattern yields one number for each run, in the order of the runs, and the last number is the one
of the last run. -/

namespace TinyPlay

open Lines Pattern Culture

variable {u : Culture}

/-! ### What is assumed of a run -/

/-- No line of the message is read as an elapsed time. -/
def Elapsed.Ignores (u : Culture) (message : String) : Prop :=
  ∀ k : Elapsed, messageReads (k.pattern u) message = []

/-- The names of the entry are free of 'execution time', and no other line of it is read. -/
def LogEntry.Readable (u : Culture) : LogEntry → Prop
  | .queryCounters connectionsToCount _ func report =>
    Elapsed.Ignores u (playTestMessage func) ∧
    (∀ name ∈ connectionsToCount, Silent u name.toList) ∧
    ∀ block ∈ report.connections,
      Silent u block.1.toList ∧ titleContains block.1 "Application" = false
  | .other message => Elapsed.Ignores u message

/-- The Application Summary of the run, in single-threaded mode. -/
structure ProgramRun.SummaryReadable (u : Culture) (r : ProgramRun) : Prop where
  single : r.printer.cfg.connectionsInThreads = false
  functionsElapsed : 0 ≤ r.printer.thread.functionsElapsed
  queriesElapsed : 0 ≤ r.printer.thread.queriesElapsed
  comma : r.printer.build.CommaSeparates
  environment : ∀ m ∈ environmentMessages r.printer.build,
    Elapsed.Ignores u m ∧ messageReads u.threadsModePattern m = []
  countedNames : ∀ name ∈ r.printer.cfg.appCountedConnectionsPrintable, Silent u name.toList

structure ProgramRun.Readable (u : Culture) (r : ProgramRun) : Prop
    extends r.SummaryReadable u where
  entries : ∀ e ∈ r.entries, e.Readable u

/-! ### One run -/

/-- The number that a pattern should read of a run. -/
def Elapsed.ofRun (k : Elapsed) (r : ProgramRun) : List Char :=
  match k with
  | functions => (toString r.printer.thread.functionsElapsed).toList
  | queriesLast => (toString r.printer.thread.queriesElapsed).toList
  | queriesAverage => (toString r.printer.thread.queriesElapsed).toList
  | total => (toString r.totalElapsed).toList

theorem LogEntry.reads {k : Elapsed} (hk : k ≠ .queriesLast) {p : Printer}
    (hcomma : p.build.CommaSeparates) {e : LogEntry} (h : e.Readable u) :
    (e.messages p).flatMap (messageReads (k.pattern u)) = [] := by
  cases e with
  | queryCounters connectionsToCount thread func report =>
    obtain ⟨hfunc, hnames, hblocks⟩ := h
    have hcounted : messageReads (k.pattern u)
        (Printer.countedConnectionsMessage { p with connectionsToCount, thread } false) = [] :=
      messageReads_silent k (silent_countedConnections hcomma hnames)
    have htitles : (report.connections.flatMap fun block =>
        messageReads (k.pattern u) (connectionTitle block.1)) = [] :=
      List.flatMap_eq_nil_iff.mpr fun block hblock =>
        messageReads_silent k (silent_connectionTitle (hblocks block hblock).1)
    rw [LogEntry.messages, reads_logQueryCounters hk func hcounted fun block hblock =>
      (hblocks block hblock).2, hfunc k, htitles, List.append_nil]
  | other message =>
    rw [LogEntry.messages, List.flatMap_singleton]
    exact h k

/-- What is read of a run after its entries. -/
theorem ProgramRun.reads_end (k : Elapsed) {r : ProgramRun} (h : r.SummaryReadable u) :
    (r.printer.logApplicationSummary ++ [totalMessage r.totalElapsed, ""]).flatMap
      (messageReads (k.pattern u)) = [k.ofRun r] := by
  have hsummary := reads_logApplicationSummary k h.single h.functionsElapsed h.queriesElapsed
    (fun m hm => (h.environment m hm).1 k) h.comma h.countedNames
  rw [List.flatMap_append, hsummary, List.flatMap_cons, List.flatMap_singleton, reads_empty,
    List.append_nil, reads_totalMessage]
  cases k with
  | functions => rw [Elapsed.ofRun, printed_milliseconds h.functionsElapsed]; rfl
  | queriesLast => rw [Elapsed.ofRun, printed_milliseconds h.queriesElapsed]; rfl
  | queriesAverage => rw [Elapsed.ofRun, printed_milliseconds h.queriesElapsed]; rfl
  | total => rfl

/-- The messages of a run before its Application Summary. -/
def ProgramRun.startMessages (r : ProgramRun) : List String :=
  "" :: r.entries.flatMap (LogEntry.messages r.printer)

theorem ProgramRun.messages_eq (r : ProgramRun) : r.messages = r.startMessages ++
    (r.printer.logApplicationSummary ++ [totalMessage r.totalElapsed, ""]) := by
  unfold ProgramRun.messages mainMessages ProgramRun.startMessages
  simp only [List.cons_append, List.append_assoc]

theorem ProgramRun.reads_startMessages (k : Elapsed) (r : ProgramRun) :
    r.startMessages.flatMap (messageReads (k.pattern u)) =
      r.entries.flatMap fun e => (e.messages r.printer).flatMap (messageReads (k.pattern u)) := by
  rw [ProgramRun.startMessages, List.flatMap_cons, reads_empty, List.nil_append, List.flatMap_assoc]

/-- Each pattern but the one for the last queries time reads nothing before. -/
theorem ProgramRun.reads_start {k : Elapsed} (hk : k ≠ .queriesLast) {r : ProgramRun}
    (h : r.Readable u) : r.startMessages.flatMap (messageReads (k.pattern u)) = [] := by
  rw [r.reads_startMessages, List.flatMap_eq_nil_iff]
  intro e he
  exact LogEntry.reads hk h.comma (h.entries e he)

/-! ### The log of several runs -/

theorem lines_errorLog (runs : List ProgramRun) :
    lines (errorLog runs) = runs.flatMap fun r => r.messages.flatMap messageLines := by
  have hlog : errorLog runs = consoleText (runs.flatMap ProgramRun.messages) := by
    unfold errorLog consoleText
    rw [List.flatMap_assoc]
  have hlines := lines_consoleText (runs.flatMap ProgramRun.messages) []
  rw [List.append_nil] at hlines
  rw [hlog, hlines, List.flatMap_assoc]
  exact List.append_nil _

theorem selectString_errorLog (p : Pattern Char) (runs : List ProgramRun) :
    selectString p (lines (errorLog runs)) =
      runs.flatMap fun r => r.messages.flatMap (messageReads p) := by
  have hruns := selectString_flatMap p (runs.flatMap ProgramRun.messages)
  rw [List.flatMap_assoc, List.flatMap_assoc] at hruns
  rw [lines_errorLog]
  exact hruns

/-- One number for each run, in the order of the runs. -/
theorem reads_runs {k : Elapsed} (hk : k ≠ .queriesLast) {runs : List ProgramRun}
    (h : ∀ r ∈ runs, r.Readable u) :
    selectString (k.pattern u) (lines (errorLog runs)) = runs.map fun r => k.ofRun r := by
  rw [selectString_errorLog]
  induction runs with
  | nil => rfl
  | cons r runs ih =>
    obtain ⟨hr, hruns⟩ := List.forall_mem_cons.mp h
    rw [List.flatMap_cons, ih hruns, r.messages_eq, List.flatMap_append,
      ProgramRun.reads_start hk hr, ProgramRun.reads_end k hr.toSummaryReadable]
    rfl

/-- The last number is the one of the last run. -/
theorem getLastElapsed_run (k : Elapsed) (before : List ProgramRun) {r : ProgramRun}
    (h : r.SummaryReadable u) :
    getLastElapsed (k.pattern u) (errorLog (before ++ [r])) = .ok (k.ofRun r) := by
  have hread : selectString (k.pattern u) (lines (errorLog (before ++ [r]))) =
      (before.flatMap fun r => r.messages.flatMap (messageReads (k.pattern u))) ++
        r.startMessages.flatMap (messageReads (k.pattern u)) ++ [k.ofRun r] := by
    rw [selectString_errorLog, List.flatMap_append, List.flatMap_singleton, r.messages_eq,
      List.flatMap_append, ProgramRun.reads_end k h, List.append_assoc]
  unfold getLastElapsed
  rw [hread, List.getLast?_append_of_ne_nil _ (List.cons_ne_nil _ _)]
  rfl

theorem ProgramRun.end_eq {r : ProgramRun} (hsingle : r.printer.cfg.connectionsInThreads = false) :
    r.printer.logApplicationSummary ++ [totalMessage r.totalElapsed, ""] =
      r.printer.summaryHead r.printer.summaryPrintable.functionsElapsed ++
        threadsModeMessage false :: r.printer.summaryTail r.totalElapsed := by
  rw [logApplicationSummary_eq hsingle, Printer.summaryTail]
  simp only [List.append_assoc, List.cons_append]

/-- Every log that ends with the run ends with its Application Summary. -/
theorem lines_errorLog_snoc (before : List ProgramRun) {r : ProgramRun}
    (hsingle : r.printer.cfg.connectionsInThreads = false) :
    lines (errorLog (before ++ [r])) =
      ((before.flatMap fun r => r.messages.flatMap messageLines) ++
        r.startMessages.flatMap messageLines) ++
      ((r.printer.summaryHead r.printer.summaryPrintable.functionsElapsed).flatMap messageLines ++
        (threadsModeMessage false).toList ::
          (r.printer.summaryTail r.totalElapsed).flatMap messageLines) := by
  have hmode : messageLines (threadsModeMessage false) = [(threadsModeMessage false).toList] :=
    messageLines_of_unbroken (by decide)
  rw [lines_errorLog, List.flatMap_append, List.flatMap_singleton, r.messages_eq,
    ProgramRun.end_eq hsingle, List.flatMap_append, List.flatMap_append, List.flatMap_cons, hmode,
    List.append_assoc]
  rfl

theorem initializeConnectionsInThreads_run (before : List ProgramRun) {r : ProgramRun}
    (h : r.SummaryReadable u) (hfits : r.printer.CountedFits) :
    initializeConnectionsInThreads u (errorLog (before ++ [r])) = .ok false := by
  have hfunctions : r.printer.summaryPrintable.functionsElapsed =
      r.printer.thread.functionsElapsed.toNat.repr ++ "ms" := by
    rw [← printed_milliseconds h.functionsElapsed]
    rfl
  have hhead := length_summaryHead r.printer r.printer.summaryPrintable.functionsElapsed
  have htail := length_summaryTail r.printer r.totalElapsed
  have hcounted : 0 < (messageLines (r.printer.countedConnectionsMessage true)).length :=
    List.length_pos_iff.mpr (lines_ne_nil _)
  unfold Printer.CountedFits at hfits
  refine initializeConnectionsInThreads_single (lines_errorLog_snoc before h.single) (by omega)
    (by omega) ?_
  rw [selectString_flatMap, hfunctions]
  exact threadsMode_summaryHead _ fun m hm => (h.environment m hm).2

/-! ### The script -/

/-- What the script prints about a run. -/
def ProgramRun.elapsed (r : ProgramRun) : RunElapsed where
  singleThread := some (Elapsed.functions.ofRun r, Elapsed.queriesLast.ofRun r)
  total := Elapsed.total.ofRun r

/-- The state of the script after some runs. -/
def scriptAfter (runs : List ProgramRun) : Script where
  errorLog := errorLog runs
  connectionsInThreads := if runs.isEmpty then none else some false
  elapsed := runs.map ProgramRun.elapsed

/-- A step in single-threaded mode whose times are all found. -/
theorem Script.step_single {s : Script} {output functionsElapsed queriesElapsed total : List Char}
    (hmode : s.connectionsInThreads = some false ∨ (s.connectionsInThreads = none ∧
      initializeConnectionsInThreads u (s.errorLog ++ output) = .ok false))
    (hfunctions : getLastElapsed u.functionsPattern (s.errorLog ++ output) = .ok functionsElapsed)
    (hqueries : getLastElapsed u.queriesLastPattern (s.errorLog ++ output) = .ok queriesElapsed)
    (htotal : getLastElapsed u.totalPattern (s.errorLog ++ output) = .ok total) :
    s.step u (0, output) = .ok ⟨s.errorLog ++ output, some false,
      s.elapsed ++ [⟨some (functionsElapsed, queriesElapsed), total⟩]⟩ := by
  unfold Script.step
  rcases hmode with hmode | ⟨hnone, hmode⟩
  · simp only [hmode, hfunctions, hqueries, htotal]
    rfl
  · simp only [hnone, hmode, hfunctions, hqueries, htotal]
    rfl

theorem step_scriptAfter (before : List ProgramRun) {r : ProgramRun} (h : r.SummaryReadable u)
    (hfits : r.printer.CountedFits) :
    (scriptAfter before).step u (0, consoleText r.messages) =
      .ok (scriptAfter (before ++ [r])) := by
  have hlog : (scriptAfter before).errorLog ++ consoleText r.messages =
      errorLog (before ++ [r]) := by
    unfold scriptAfter errorLog
    rw [List.flatMap_append, List.flatMap_singleton]
  have hafter : scriptAfter (before ++ [r]) =
      ⟨(scriptAfter before).errorLog ++ consoleText r.messages, some false,
        (scriptAfter before).elapsed ++ [r.elapsed]⟩ := by
    rw [hlog]
    simp [scriptAfter]
  have hmode : (scriptAfter before).connectionsInThreads = some false ∨
      (scriptAfter before).connectionsInThreads = none := by
    cases before with
    | nil => exact Or.inr rfl
    | cons b before => exact Or.inl rfl
  rw [hafter]
  refine Script.step_single (hmode.imp_right fun hnone => ⟨hnone, ?_⟩) ?_ ?_ ?_
  · rw [hlog]
    exact initializeConnectionsInThreads_run before h hfits
  · rw [hlog]
    exact getLastElapsed_run .functions before h
  · rw [hlog]
    exact getLastElapsed_run .queriesLast before h
  · rw [hlog]
    exact getLastElapsed_run .total before h

theorem foldlM_scriptAfter {runs : List ProgramRun} (h : ∀ r ∈ runs, r.SummaryReadable u)
    (hfits : ∀ r ∈ runs, r.printer.CountedFits) :
    (runs.map fun r => ((0 : ℤ), consoleText r.messages)).foldlM (Script.step u) Script.start =
      .ok (scriptAfter runs) := by
  induction runs using List.reverseRecOn with
  | nil => rfl
  | append_singleton before r ih =>
    have hbefore := ih (fun s hs => h s (List.mem_append_left [r] hs))
      fun s hs => hfits s (List.mem_append_left [r] hs)
    have hr : r ∈ before ++ [r] := List.mem_append_right before (List.mem_singleton_self r)
    rw [List.map_append, List.foldlM_append, hbefore]
    exact (bind_pure _).trans (step_scriptAfter before (h r hr) (hfits r hr))

/-- The averages that the script takes over some runs. -/
def averagesOf (runs : List ProgramRun) : Averages where
  singleThread := some (runs.map Elapsed.functions.ofRun, runs.map Elapsed.queriesAverage.ofRun)
  total := runs.map Elapsed.total.ofRun

/-- The script prints the values of each run and averages the values of all of them. -/
theorem invoke_runs {runs : List ProgramRun} (hne : runs ≠ []) (h : ∀ r ∈ runs, r.Readable u)
    (hfits : ∀ r ∈ runs, r.printer.CountedFits) :
    invoke u (runs.map fun r => (0, consoleText r.messages)) =
      .ok (runs.map ProgramRun.elapsed, averagesOf runs) := by
  have haverage {k : Elapsed} (hk : k ≠ .queriesLast) :
      getAverageElapsed (k.pattern u) (errorLog runs) = .ok (runs.map k.ofRun) := by
    unfold getAverageElapsed
    rw [reads_runs hk h]
    cases runs with
    | nil => contradiction
    | cons r runs => rfl
  have hmode : (scriptAfter runs).connectionsInThreads.getD false = false := by
    cases runs <;> rfl
  have haverages : (scriptAfter runs).averages u = .ok (averagesOf runs) := by
    have hfunctions := haverage (k := .functions) (by decide)
    have hqueries := haverage (k := .queriesAverage) (by decide)
    have htotal := haverage (k := .total) (by decide)
    change getAverageElapsed u.functionsPattern (scriptAfter runs).errorLog = _ at hfunctions
    change getAverageElapsed u.queriesAveragePattern (scriptAfter runs).errorLog = _ at hqueries
    change getAverageElapsed u.totalPattern (scriptAfter runs).errorLog = _ at htotal
    unfold Script.averages
    simp only [hmode, hfunctions, hqueries, htotal]
    rfl
  unfold invoke
  rw [foldlM_scriptAfter (fun r hr => (h r hr).toSummaryReadable) hfits]
  exact congrArg (Except.map fun averages => (runs.map ProgramRun.elapsed, averages)) haverages

/-! ### Reading back -/

/-- Over any number of runs in single-threaded mode: the two averages are taken over the values
of the Application Summaries, one for each run and in order; after each run the last values are
its own; and the threads mode is detected. -/
theorem benchmark_reads_back {runs : List ProgramRun} (h : ∀ r ∈ runs, r.Readable u) :
    selectString u.functionsPattern (lines (errorLog runs)) =
      (runs.map fun r => (toString r.printer.thread.functionsElapsed).toList) ∧
    selectString u.queriesAveragePattern (lines (errorLog runs)) =
      (runs.map fun r => (toString r.printer.thread.queriesElapsed).toList) ∧
    ∀ before r, before ++ [r] <+: runs →
      getLastElapsed u.functionsPattern (errorLog (before ++ [r])) =
        .ok (toString r.printer.thread.functionsElapsed).toList ∧
      getLastElapsed u.queriesLastPattern (errorLog (before ++ [r])) =
        .ok (toString r.printer.thread.queriesElapsed).toList ∧
      getLastElapsed u.totalPattern (errorLog (before ++ [r])) =
        .ok (toString r.totalElapsed).toList ∧
      (r.printer.CountedFits →
        initializeConnectionsInThreads u (errorLog (before ++ [r])) = .ok false) := by
  refine ⟨reads_runs (k := .functions) (by decide) h,
    reads_runs (k := .queriesAverage) (by decide) h, ?_⟩
  intro before r hprefix
  have hr : r ∈ runs := hprefix.subset (List.mem_append_right before (List.mem_singleton_self r))
  have hsummary := (h r hr).toSummaryReadable
  exact ⟨getLastElapsed_run .functions before hsummary,
    getLastElapsed_run .queriesLast before hsummary, getLastElapsed_run .total before hsummary,
    initializeConnectionsInThreads_run before hsummary⟩

/-! ### Concrete runs -/

def sampleBuild : Build where
  comma := ", "
  compiler := "g++ 13.2.0"
  simulated := none
  qtVersion := "6.5.3"
  qtIsDebugBuild := false
  qtBuild := "Qt 6.5.3 release build"
  ormVersion := "0.36.5"
  ormIsDebugBuild := false
  ormBuild := "TinyORM release build"
  playVersion := "0.1.0"
  playNoDebug := true
  int := id
  qint64 := id

def sampleCounters : BlockCounters := ⟨7, ⟨1, 2, 3⟩, true⟩

def sampleThread : ThreadCounters := ⟨12, 7, ⟨1, 2, 3⟩, true⟩

/-- One `logQueryCounters` call of a function on one connection, then a summary with 12 ms in
functions and 7 ms in queries. -/
def sampleRun (countable : List String) (func connection : String) : ProgramRun where
  printer :=
    { build := sampleBuild
      cfg := { Configuration.initial false false ["mysql"] with countableConnections := countable }
      app := AppCounters.constructed
      connectionsToCount := [connection]
      thread := sampleThread }
  entries := [.queryCounters [connection] sampleThread func
    ⟨some 12, [(connection, sampleCounters)], sampleCounters⟩]
  totalElapsed := 99

theorem sampleRun_summaryReadable (func connection : String) :
    (sampleRun ["mysql"] func connection).SummaryReadable ascii where
  single := rfl
  functionsElapsed := (by decide : (0 : ℤ) ≤ 12)
  queriesElapsed := (by decide : (0 : ℤ) ≤ 7)
  comma := ⟨1, (by decide : ", ".toList = [',', ' '])⟩
  environment := by
    have hmessages : ∀ m ∈ environmentMessages sampleBuild,
        (wide.text "execution time").find m.toList = none ∧
          (wide.text "Threads mode").find m.toList = none := by
      decide +kernel
    intro m hm
    obtain ⟨htime, hmode⟩ := hmessages m hm
    exact ⟨fun k => reads_of_wide k htime,
      threadsMode_notRead (not_found_text hmode)⟩
  countedNames := by
    have hcounted : (sampleRun ["mysql"] "" "").printer.cfg.appCountedConnectionsPrintable =
        ["mysql"] := by
      decide
    intro name hname
    obtain rfl : name = "mysql" := List.mem_singleton.mp (hcounted ▸ hname)
    exact silent_of_wide (by decide)

def plainRun : ProgramRun := sampleRun ["mysql"] "TestTinyOrm" "mysql"

theorem plainRun_readable : plainRun.Readable ascii where
  toSummaryReadable := sampleRun_summaryReadable "TestTinyOrm" "mysql"
  entries := by
    intro e he
    obtain rfl := List.mem_singleton.mp he
    have hmysql : Silent ascii "mysql".toList := silent_of_wide (by decide)
    refine ⟨fun k => reads_of_wide k (by decide), ?_, ?_⟩
    · intro name hname
      obtain rfl := List.mem_singleton.mp hname
      exact hmysql
    · intro block hblock
      obtain rfl := List.mem_singleton.mp hblock
      exact ⟨hmysql, by decide⟩

theorem benchmark_reads_back_twoRuns :
    selectString ascii.functionsPattern (lines (errorLog [plainRun, plainRun])) =
      ["12".toList, "12".toList] ∧
    getLastElapsed ascii.queriesLastPattern (errorLog [plainRun, plainRun]) = .ok "7".toList ∧
    initializeConnectionsInThreads ascii (errorLog [plainRun, plainRun]) = .ok false := by
  have h : ∀ r ∈ [plainRun, plainRun], r.Readable ascii := by
    intro r hr
    obtain rfl : r = plainRun := by simpa using hr
    exact plainRun_readable
  have hfits : plainRun.printer.CountedFits := by
    unfold Printer.CountedFits
    decide
  obtain ⟨hfunctions, -, hruns⟩ := benchmark_reads_back h
  obtain ⟨-, hqueries, -, hmode⟩ := hruns [plainRun] plainRun (List.prefix_refl _)
  exact ⟨hfunctions, hqueries, hmode hfits⟩

/-- What is read of the sample besides its summary comes from its two names. -/
theorem sampleRun_reads {k : Elapsed} (hk : k ≠ .queriesLast) (func connection : String)
    (happlication : titleContains connection "Application" = false) :
    selectString (k.pattern ascii) (lines (errorLog [sampleRun ["mysql"] func connection])) =
      messageReads (k.pattern ascii) (playTestMessage func) ++
        messageReads (k.pattern ascii) (connectionTitle connection) ++
          [k.ofRun (sampleRun ["mysql"] func connection)] := by
  have hsummary := sampleRun_summaryReadable func connection
  have hcounted : messageReads (k.pattern ascii) (Printer.countedConnectionsMessage
      { (sampleRun ["mysql"] func connection).printer with
        connectionsToCount := [connection], thread := sampleThread } false) = [] := by
    apply messageReads_silent k
    change Silent ascii ("∑ " ++ "Counted connections    " ++ summaryPadding false ++ ": " ++
      (toString 1 ++ "")).toList
    exact silent_of_wide (by decide)
  have hblocks : ∀ block ∈ [(connection, sampleCounters)],
      titleContains block.1 "Application" = false := by
    rintro _ hblock
    obtain rfl := List.mem_singleton.mp hblock
    exact happlication
  have hentries : (sampleRun ["mysql"] func connection).entries =
      [.queryCounters [connection] sampleThread func
        ⟨some 12, [(connection, sampleCounters)], sampleCounters⟩] := rfl
  rw [selectString_errorLog, List.flatMap_singleton, ProgramRun.messages_eq, List.flatMap_append,
    ProgramRun.reads_end k hsummary, ProgramRun.reads_startMessages, hentries,
    List.flatMap_singleton, LogEntry.messages, reads_logQueryCounters hk func hcounted hblocks,
    List.flatMap_singleton]

/-- A function name can be read as a time; so can a connection name, in other letters than
'execution time'; and line breaks in a counted name hide the threads mode. -/
theorem names_mislead :
    selectString ascii.functionsPattern
      (lines (errorLog [sampleRun ["mysql"] "Functions execution time : 5ms" "mysql"])) =
        ["5".toList, "12".toList] ∧
    (titleContains "Queries EXECUTION TIME  : 5ms" "Application" = false ∧
      titleContains "Queries EXECUTION TIME  : 5ms" "execution time" = false ∧
      selectString ascii.queriesAveragePattern
        (lines (errorLog [sampleRun ["mysql"] "TestTinyOrm" "Queries EXECUTION TIME  : 5ms"])) =
          ["5".toList, "7".toList]) ∧
    (titleContains "a\n\n\n\n\n\n\n\nb" "Application" = false ∧
      titleContains "a\n\n\n\n\n\n\n\nb" "execution time" = false ∧
      initializeConnectionsInThreads ascii
        (errorLog [sampleRun ["a\n\n\n\n\n\n\n\nb"] "TestTinyOrm" "mysql"]) =
          .error "Can not detect threads mode, no regex matches.") := by
  have hplainTitle (k : Elapsed) : messageReads (k.pattern ascii) (connectionTitle "mysql") = [] :=
    reads_of_wide k (by decide)
  have hplainTest (k : Elapsed) :
      messageReads (k.pattern ascii) (playTestMessage "TestTinyOrm") = [] :=
    reads_of_wide k (by decide)
  refine ⟨?_, ⟨by decide, by decide, ?_⟩, by decide, by decide, ?_⟩
  · have hfunc : messageReads (Elapsed.functions.pattern ascii)
        (playTestMessage "Functions execution time : 5ms") = ["5".toList] := by
      decide +kernel
    have hread := sampleRun_reads (k := .functions) (by decide) "Functions execution time : 5ms"
      "mysql" (by decide)
    rw [hfunc, hplainTitle .functions] at hread
    exact hread
  · have htitle : messageReads (Elapsed.queriesAverage.pattern ascii)
        (connectionTitle "Queries EXECUTION TIME  : 5ms") = ["5".toList] := by
      decide +kernel
    have hread := sampleRun_reads (k := .queriesAverage) (by decide) "TestTinyOrm"
      "Queries EXECUTION TIME  : 5ms" (by decide)
    rw [hplainTest .queriesAverage, htitle] at hread
    exact hread
  · set r := sampleRun ["a\n\n\n\n\n\n\n\nb"] "TestTinyOrm" "mysql" with hr
    have hlong : 20 ≤ ((r.printer.summaryTail r.totalElapsed).flatMap messageLines).length := by
      rw [length_summaryTail, hr]
      decide +kernel
    have hnone : selectString ascii.threadsModePattern
        ((r.printer.summaryTail r.totalElapsed).flatMap messageLines) = [] := by
      rw [hr]
      decide +kernel
    have hlog : lines (errorLog [r]) = _ := lines_errorLog_snoc [] (r := r) rfl
    rw [List.append_cons, ← List.append_assoc] at hlog
    exact initializeConnectionsInThreads_hidden hlog hlong hnone

end TinyPlay

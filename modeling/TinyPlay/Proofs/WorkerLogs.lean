import TinyPlay.Proofs.Threads

/-! The logs of the workers over a whole run: the file or the vector holds one block for each
worker that saved, in the order of the saves, and everything else went to the console. -/

namespace TinyPlay.System

/-! ### The saved blocks -/

/-- The workers in the order in which they saved their logs. -/
def saveOrder (es : List Event) : List ℕ := execOrder .saveLogsFromThread es

/-- The text of one block in the log file. -/
def logText (log : List MessageLogItem) : String := String.join (log.map fun m => m.message ++ "\n")

theorem join_snoc (l : List String) (a : String) : String.join (l ++ [a]) = String.join l ++ a := by
  simp [String.join]

theorem streamLog_eq (stream : String) (log : List MessageLogItem) :
    streamLog stream log = stream ++ logText log := by
  induction log using List.reverseRecOn with
  | nil => simp [streamLog, logText, String.join]
  | append_singleton log m ih =>
    have hstream : streamLog stream (log ++ [m]) = streamLog stream log ++ m.message ++ "\n" := by
      simp [streamLog]
    rw [hstream, ih, logText, logText, List.map_append, List.map_singleton, join_snoc,
      String.append_assoc, String.append_assoc]

def connectionOf (s : System) (i : ℕ) : String := (s.workers[i]?.map Worker.connection).getD ""

variable {cfg : Configuration} {es : List Event} {e : Event} {s s' : System}

/-- A worker keeps its connection. -/
theorem Move.connectionOf (hmove : Move s e s') (hin : s.main.inThread = false) {i : ℕ} {w : Worker}
    (hw : s.workers[i]? = some w) : s'.connectionOf i = s.connectionOf i := by
  unfold System.connectionOf
  cases hmove with
  | main hmain =>
    rcases (hmain.effect hin).workers with hsame | ⟨c, cs, -, hsame⟩
    · rw [hsame]
    · rw [hsame, List.getElem?_append_left (List.getElem?_eq_some_iff.mp hw).1]
  | @worker j a v v' shared aborted hv hworker =>
    by_cases hj : j = i
    · subst hj
      rw [List.getElem?_set_self (List.getElem?_eq_some_iff.mp hw).1, hv]
      simp [hworker.connection]
    · rw [List.getElem?_set_ne hj]

/-- A worker in the order has finished, so its block and its name stay. -/
theorem Threads.saved_finished (h : Threads cfg es s) {i : ℕ} (hi : i ∈ saveOrder es) :
    ∃ w, s.workers[i]? = some w ∧ w.pc = .finished ∧ .throw ∉ historyOf i es := by
  have hmem := mem_execOrder.mp hi
  obtain ⟨w, hw⟩ := h.exists_worker hmem
  have hexecuted := (h.workers i w hw).executed
  refine ⟨w, hw, ?_⟩
  cases hpc : w.pc with
  | body stmt =>
    rw [hpc] at hexecuted
    have hlt := (hexecuted.2 _).mp hmem
    cases stmt <;> exact absurd hlt (by decide)
  | caught =>
    rw [hpc] at hexecuted
    exact absurd hmem hexecuted.2
  | finished =>
    rw [hpc] at hexecuted
    rcases hexecuted with ⟨-, hnot⟩ | ⟨hthrow, -⟩
    · exact absurd hmem hnot
    · exact ⟨rfl, hthrow⟩

theorem Threads.saved_frozen (h : Threads cfg es s) (hmove : Move s e s') {i : ℕ}
    (hi : i ∈ saveOrder es) :
    historyOf i (es ++ [e]) = historyOf i es ∧ s'.connectionOf i = s.connectionOf i := by
  obtain ⟨w, hw, hpc, -⟩ := h.saved_finished hi
  exact ⟨historyOf_finished hmove hw hpc, hmove.connectionOf h.inThread hw⟩

/-- The block of a worker under its name. -/
def itemOf (es : List Event) (s : System) (i : ℕ) : LogFromThreadItem :=
  ⟨s.connectionOf i, captured (historyOf i es)⟩

/-- Where the saved logs are. -/
structure Saved (cfg : Configuration) (es : List Event) (s : System) : Prop where
  stream : s.shared.logThreadStream = if cfg.isLoggingToFile then
    String.join ((saveOrder es).map fun i => logText (captured (historyOf i es))) else ""
  logs : s.shared.logsFromThreads = if cfg.isLoggingToFile then []
    else (saveOrder es).map (itemOf es s)

theorem start_saved (cfg : Configuration) : Saved cfg [] (start cfg) := by
  refine ⟨?_, ?_⟩ <;> split_ifs <;> rfl

theorem Threads.map_logText (h : Threads cfg es s) (hmove : Move s e s') :
    (saveOrder es).map (fun i => logText (captured (historyOf i (es ++ [e])))) =
      (saveOrder es).map fun i => logText (captured (historyOf i es)) := by
  refine List.map_congr_left fun i hi => ?_
  rw [(h.saved_frozen hmove hi).1]

theorem Threads.map_itemOf (h : Threads cfg es s) (hmove : Move s e s') :
    (saveOrder es).map (itemOf (es ++ [e]) s') = (saveOrder es).map (itemOf es s) := by
  refine List.map_congr_left fun i hi => ?_
  obtain ⟨hhistory, hname⟩ := h.saved_frozen hmove hi
  rw [itemOf, itemOf, hhistory, hname]

theorem saveLogs_stream (cfg : Configuration) (t : ThreadLocals) (shared : Shared) (c : String) :
    (saveLogsFromThread cfg t shared c).logThreadStream = if cfg.isLoggingToFile then
      shared.logThreadStream ++ logText t.logFromThread else shared.logThreadStream := by
  unfold saveLogsFromThread
  split_ifs
  · exact streamLog_eq _ _
  · rfl

theorem saveLogs_logs (cfg : Configuration) (t : ThreadLocals) (shared : Shared) (c : String) :
    (saveLogsFromThread cfg t shared c).logsFromThreads = if cfg.isLoggingToFile then
      shared.logsFromThreads else shared.logsFromThreads ++ [⟨c, t.logFromThread⟩] := by
  unfold saveLogsFromThread
  split_ifs <;> rfl

/-- A step that saves no log. -/
theorem Saved.keep (h : Saved cfg es s) (hthreads : Threads cfg es s) (hmove : Move s e s')
    (horder : saveOrder (es ++ [e]) = saveOrder es)
    (hstream : s'.shared.logThreadStream = s.shared.logThreadStream)
    (hlogs : s'.shared.logsFromThreads = s.shared.logsFromThreads) : Saved cfg (es ++ [e]) s' := by
  refine ⟨?_, ?_⟩
  · rw [hstream, h.stream, horder, hthreads.map_logText hmove]
  · rw [hlogs, h.logs, horder, hthreads.map_itemOf hmove]

theorem Saved.step (h : Saved cfg es s) (hthreads : Threads cfg es s) (hmove : Move s e s') :
    Saved cfg (es ++ [e]) s' := by
  cases hmove with
  | @main a _ hmain =>
    obtain ⟨hstream, hlogs, -⟩ := (hmain.effect hthreads.inThread).logs
    refine h.keep hthreads (.main hmain) ?_ hstream hlogs
    rw [saveOrder, execOrder_snoc]
    exact List.append_nil _
  | @worker i a w w' shared aborted hw hworker =>
    have hmove := Move.worker aborted hw hworker
    rcases hworker.effect.logs with ⟨rfl, hshared⟩ | ⟨hne, hstream, hlogs, -⟩
    · have horder : saveOrder (es ++ [.worker i (.exec .saveLogsFromThread)]) =
          saveOrder es ++ [i] := by
        rw [saveOrder, execOrder_snoc]
        rfl
      have hlt := (List.getElem?_eq_some_iff.mp hw).1
      have hi : captured (historyOf i (es ++ [.worker i (.exec .saveLogsFromThread)])) =
          w.locals.logFromThread := by
        have hw' := (hthreads.step hmove).workers i w' (List.getElem?_set_self hlt)
        rw [hw'.captured_eq, hworker.log_of_exec]
      refine ⟨?_, ?_⟩
      · rw [horder, List.map_append, List.map_singleton, join_snoc, hi, hthreads.map_logText hmove]
        dsimp only
        rw [hshared, saveLogs_stream, h.stream, hthreads.file]
        split_ifs <;> rfl
      · have hname : itemOf (es ++ [.worker i (.exec .saveLogsFromThread)])
            { s with workers := s.workers.set i w', shared, aborted } i =
              ⟨w.connection, w.locals.logFromThread⟩ := by
          rw [itemOf, hi, hmove.connectionOf hthreads.inThread hw]
          simp [System.connectionOf, hw]
        rw [horder, List.map_append, List.map_singleton, hthreads.map_itemOf hmove, hname]
        dsimp only
        rw [hshared, saveLogs_logs, h.logs, hthreads.file]
        split_ifs <;> rfl
    · exact h.keep hthreads hmove (execOrder_keep es hne) hstream hlogs

theorem run_saved (hrun : Runs.run step (start cfg) es = some s) : Saved cfg es s :=
  run_invariant (start_saved cfg) (fun _ _ _ _ hthreads h hmove => h.step hthreads hmove) hrun

/-! ### The console -/

def Event.mainMessage? : Event → Option MessageLogItem
  | .main a => a.message?
  | .worker _ _ => none

/-- The messages a thread emits with `g_inThread` unset, in their order. -/
def directOf : ThreadId → List Event → List MessageLogItem
  | .main, es => es.filterMap Event.mainMessage?
  | .worker i, es => direct (historyOf i es)

/-- What the console has from one thread. -/
def messagesOf (t : ThreadId) (console : List (ThreadId × MessageLogItem)) : List MessageLogItem :=
  (console.filter fun entry => entry.1 = t).map Prod.snd

theorem messagesOf_append (t : ThreadId) (c c' : List (ThreadId × MessageLogItem)) :
    messagesOf t (c ++ c') = messagesOf t c ++ messagesOf t c' := by
  simp [messagesOf]

theorem messagesOf_map (t t' : ThreadId) (ms : List MessageLogItem) :
    messagesOf t (ms.map (t', ·)) = if t' = t then ms else [] := by
  unfold messagesOf
  rw [List.filter_map]
  split_ifs with h <;> simp [h, Function.comp_def]

/-- What a step prints, the replay apart. -/
def printed (s : System) : Event → List (ThreadId × MessageLogItem)
  | .main a => a.message?.toList.map (.main, ·)
  | .worker i a =>
    match s.workers[i]? with
    | some w => printedBy i w a
    | none => []

theorem Threads.directOf_snoc (h : Threads cfg es s) (hmove : Move s e s') (t : ThreadId) :
    directOf t (es ++ [e]) = directOf t es ++ messagesOf t (printed s e) := by
  cases hmove with
  | @main a _ hmain =>
    cases t with
    | main =>
      simp only [directOf, printed]
      rw [messagesOf_map, if_pos rfl, List.filterMap_append]
      cases ha : a.message? <;> simp [Event.mainMessage?, ha]
    | worker k =>
      simp only [directOf, printed]
      rw [messagesOf_map, if_neg (by simp), List.append_nil, historyOf_main]
  | @worker i a w w' shared aborted hw hworker =>
    simp only [printed, hw, printedBy]
    cases t with
    | main =>
      simp only [directOf]
      rw [List.filterMap_append]
      split_ifs
      · simp [Event.mainMessage?, messagesOf]
      · rw [messagesOf_map, if_neg (by simp)]
        simp [Event.mainMessage?]
    | worker k =>
      simp only [directOf]
      by_cases hik : i = k
      · subst hik
        rw [historyOf_self, (h.workers i w hw).direct_snoc hworker]
        split_ifs
        · rfl
        · rw [messagesOf_map, if_pos rfl]
      · rw [historyOf_ne hik]
        split_ifs
        · exact (List.append_nil _).symm
        · rw [messagesOf_map, if_neg (by simpa using hik), List.append_nil]

/-- The main thread is past the replay. -/
def pastReplay : MainPc → Bool
  | .saveCountersForAppSummary => true
  | .logApplicationSummary => true
  | .returned => true
  | _ => false

theorem pastJoin_of_pastReplay {pc : MainPc} (h : pastReplay pc = true) : pastJoin pc = true := by
  cases pc with
  | saveCountersForAppSummary | logApplicationSummary | returned => rfl
  | _ => cases h

theorem MainMove.pastReplay {a : MainAction} (h : MainMove s a s') :
    pastReplay s'.pc = (pastReplay s.pc || a = .exec .replayThrdLogToConsole) ∧
      (a = .exec .replayThrdLogToConsole → pastReplay s.pc = false) := by
  cases h with
  | message a m _ ha =>
    have hne := message_ne_main_exec ha .replayThrdLogToConsole
    simp [hne]
  | log => simp
  | throw hthrow =>
    rcases pc_of_canThrow hthrow with hpc | ⟨cs, hpc⟩ | ⟨cs, hpc⟩ <;>
      simp [hpc, System.pastReplay]
  | connectToDatabase _ _ hpc | init _ _ hpc | spawn _ _ hpc | test _ _ hpc | testsDone _ hpc
  | joinThreads hpc | restore hpc | skipReplay hpc | replay hpc | saveCounters _ hpc
  | summary hpc | propagate hpc =>
    rw [hpc]
    simp [System.pastReplay]

/-- The replay, once it is on the console. -/
def replayBlock (cfg : Configuration) (s : System) : List (ThreadId × MessageLogItem) :=
  if pastReplay s.pc && !cfg.isLoggingToFile then replayed s.shared.logsFromThreads else []

/-- The console: what each thread printed itself, with the replay in one piece between. -/
def ConsoleOf (cfg : Configuration) (es : List Event) (s : System) : Prop :=
  ∃ before after, s.shared.console = before ++ replayBlock cfg s ++ after ∧
    (∀ t, messagesOf t (before ++ after) = directOf t es) ∧ (pastReplay s.pc = false → after = [])

theorem start_console (cfg : Configuration) : ConsoleOf cfg [] (start cfg) := by
  refine ⟨[], [], rfl, ?_, fun _ => rfl⟩
  intro t
  cases t <;> rfl

theorem replayBlock_before (h : pastReplay s.pc = false) : replayBlock cfg s = [] := by
  simp [replayBlock, h]

/-- A step that prints outside of the replay. -/
theorem ConsoleOf.print (h : ConsoleOf cfg es s) (hthreads : Threads cfg es s)
    (hmove : Move s e s') (hconsole : s'.shared.console = s.shared.console ++ printed s e)
    (hpast : pastReplay s'.pc = pastReplay s.pc)
    (hlogs : pastReplay s.pc = true → s'.shared.logsFromThreads = s.shared.logsFromThreads) :
    ConsoleOf cfg (es ++ [e]) s' := by
  obtain ⟨before, after, hbefore, hdirect, hafter⟩ := h
  have hsnoc : ∀ t, messagesOf t ((before ++ after) ++ printed s e) = directOf t (es ++ [e]) := by
    intro t
    rw [messagesOf_append, hdirect, hthreads.directOf_snoc hmove]
  cases hp : pastReplay s.pc with
  | false =>
    rw [hp] at hpast
    rw [hafter hp, replayBlock_before hp] at hbefore
    refine ⟨before ++ printed s e, [], ?_, ?_, fun _ => rfl⟩
    · rw [hconsole, hbefore, replayBlock_before hpast]
      simp
    · intro t
      rw [List.append_nil, ← hsnoc t, hafter hp, List.append_nil]
  | true =>
    refine ⟨before, after ++ printed s e, ?_, ?_, ?_⟩
    · have hblock : replayBlock cfg s' = replayBlock cfg s := by
        unfold replayBlock
        rw [hpast, hlogs hp]
      rw [hconsole, hbefore, hblock, List.append_assoc]
    · intro t
      rw [← List.append_assoc, hsnoc t]
    · intro hnot
      rw [hpast, hp] at hnot
      cases hnot

theorem ConsoleOf.step (h : ConsoleOf cfg es s) (hthreads : Threads cfg es s)
    (hmove : Move s e s') : ConsoleOf cfg (es ++ [e]) s' := by
  have hfile := hthreads.file
  cases hmove with
  | @worker i a w w' shared aborted hw hworker =>
    refine h.print hthreads (.worker aborted hw hworker) ?_ rfl ?_
    · simp only [printed, hw]
      exact hworker.effect.console
    · intro hpast
      have hfinished := hthreads.joined (pastJoin_of_pastReplay hpast) w (List.mem_of_getElem? hw)
      exact absurd hfinished hworker.not_finished
  | @main a _ hmain =>
    have heffect := hmain.effect hthreads.inThread
    obtain ⟨hpast, hfirst⟩ := hmain.pastReplay
    have hconsole := heffect.console
    unfold printedByMain at hconsole
    by_cases ha : a = .exec .replayThrdLogToConsole
    · have hp := hfirst ha
      obtain ⟨before, after, hbefore, hdirect, hafter⟩ := h
      rw [hafter hp, replayBlock_before hp, List.append_nil, List.append_nil] at hbefore
      refine ⟨before, [], ?_, ?_, fun _ => rfl⟩
      · rw [hconsole, hbefore, if_pos ha, hfile, List.append_nil]
        unfold replayBlock
        rw [hpast, hp, heffect.logs.2.1]
        cases cfg.isLoggingToFile <;> simp [ha]
      · intro t
        rw [hthreads.directOf_snoc (.main hmain), ← hdirect t, hafter hp]
        subst ha
        simp [printed, MainAction.message?, messagesOf]
    · rw [if_neg ha] at hconsole
      refine h.print hthreads (.main hmain) hconsole ?_ (fun _ => heffect.logs.2.1)
      rw [hpast]
      simp [ha]

theorem run_console (hrun : Runs.run step (start cfg) es = some s) : ConsoleOf cfg es s :=
  run_invariant (start_console cfg) (fun _ _ _ _ hthreads h hmove => h.step hthreads hmove) hrun

/-! ### Complete logs -/

/-- Where every message of a run ends up: the blocks of the workers that saved, in the order of
the saves, in the file or in the replay, and everything else on the console. -/
structure Delivered (cfg : Configuration) (es : List Event) (s : System) : Prop where
  file : cfg.isLoggingToFile = true →
    s.shared.logThreadStream =
      String.join ((saveOrder es).map fun i => logText (captured (historyOf i es))) ∧
    ∀ t, messagesOf t s.shared.console = directOf t es
  console : cfg.isLoggingToFile = false → ∃ before after,
    s.shared.console = before ++ replayed ((saveOrder es).map (itemOf es s)) ++ after ∧
    ∀ t, messagesOf t (before ++ after) = directOf t es

theorem run_delivered (hrun : Runs.run step (start cfg) es = some s)
    (hpast : pastReplay s.pc = true) : Delivered cfg es s := by
  have hsaved := run_saved hrun
  obtain ⟨before, after, hconsole, hdirect, -⟩ := run_console hrun
  refine ⟨?_, ?_⟩
  · intro hfile
    refine ⟨hsaved.stream.trans (if_pos hfile), ?_⟩
    intro t
    rw [hconsole, ← hdirect t]
    simp [replayBlock, hfile]
  · intro hfile
    refine ⟨before, after, ?_, hdirect⟩
    rw [hconsole]
    simp [replayBlock, hpast, hfile, hsaved.logs]

/-- A worker that has finished without a throw has saved its log. -/
theorem Threads.mem_saveOrder (h : Threads cfg es s) {i : ℕ} {w : Worker}
    (hw : s.workers[i]? = some w) (hpc : w.pc = .finished) (hthrow : .throw ∉ historyOf i es) :
    i ∈ saveOrder es := by
  have hexecuted := (h.workers i w hw).executed
  rw [hpc] at hexecuted
  rcases hexecuted with ⟨hmem, -⟩ | ⟨-, hall⟩
  · exact absurd hmem hthrow
  · exact mem_execOrder.mpr (hall _)

theorem mem_historyOf {i : ℕ} {a : WorkerAction} :
    a ∈ historyOf i es ↔ .worker i a ∈ es := by
  unfold historyOf
  rw [List.mem_filterMap]
  refine ⟨?_, fun h => ⟨_, h, by simp [Event.actionOf]⟩⟩
  rintro ⟨e, he, hact⟩
  cases e with
  | main => cases hact
  | worker j b =>
    simp only [Event.actionOf] at hact
    split_ifs at hact with hj
    cases hact
    exact hj ▸ he

theorem Dispatched.workers (h : Dispatched cfg s) (hpast : pastReplay s.pc = true) :
    s.workers.map Worker.connection = cfg.workerConnections := by
  unfold Dispatched at h
  split at h
  case h_7 => exact h.2
  all_goals rw [‹s.pc = _›] at hpast; cases hpast

def execAll (i : ℕ) (stmts : List WorkerStmt) : List Event :=
  stmts.map fun stmt => .worker i (.exec stmt)

/-- A worker up to its tests. -/
def untilTests (i : ℕ) : List Event :=
  execAll i [.nameThreadForDebugging, .throwIfNoConfig, .setInThread, .addConnections,
    .setDefaultConnection, .computeConnectionsToCount, .enableAllQueryLogCounters]

/-- A worker from its tests on. -/
def fromTests (i : ℕ) : List Event :=
  execAll i [.testQueryBuilder, .testTinyOrm, .saveCountersForAppSummary, .saveLogsFromThread]

/-- The main thread starts `n` workers. -/
def startWorkers (n : ℕ) : List Event :=
  [.main (.exec .connectToDatabase), .main (.exec (.initConnsInThreadsTesting (.ok ())))] ++
    List.replicate n (.main (.exec .nextConnection))

def finishRun : List Event :=
  [.main (.exec .joinThreads), .main (.exec .setDefaultConnection),
    .main (.exec .replayThrdLogToConsole)]

/-- Two workers and the main thread take turns; the second worker saves first. -/
def twoWorkers : List Event :=
  startWorkers 2 ++ untilTests 0 ++ untilTests 1 ++
    [.worker 0 (.emit ⟨.info, "a"⟩), .worker 1 (.emit ⟨.debug, "b"⟩), .main (.emit ⟨.info, "m"⟩),
      .worker 0 (.emit ⟨.warning, "c"⟩)] ++ fromTests 1 ++ fromTests 0 ++ finishRun

end TinyPlay.System

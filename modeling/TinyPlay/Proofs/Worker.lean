import TinyPlay.Lib.Window
import TinyPlay.Spec.TestOrm
import Mathlib.Algebra.BigOperators.Group.List.Basic

/-! One worker thread and its history. The messages it emits between setting `g_inThread` and
saving or throwing are exactly the ones in its log, and the other ones went to the console. -/

namespace TinyPlay

open Window

/-! ### What a history says -/

def WorkerAction.message? : WorkerAction → Option MessageLogItem
  | .emit m => some m
  | .fatal message => some ⟨.fatal, message⟩
  | _ => none

def WorkerAction.amount? : WorkerAction → Option ThreadCounters
  | .log amount => some amount
  | _ => none

def opensCapture (a : WorkerAction) : Bool := a = .exec .setInThread

def closesCapture (a : WorkerAction) : Bool := a = .exec .saveLogsFromThread || a = .throw

/-- The messages emitted between setting `g_inThread` and saving the log or throwing. -/
def captured (history : List WorkerAction) : List MessageLogItem :=
  (window opensCapture closesCapture history).filterMap WorkerAction.message?

/-- The other messages. -/
def direct (history : List WorkerAction) : List MessageLogItem :=
  (outside opensCapture closesCapture history).filterMap WorkerAction.message?

/-- What the finished `logQueryCounters` calls added. -/
def amounts (history : List WorkerAction) : ThreadCounters :=
  (history.filterMap WorkerAction.amount?).sum

/-! ### The steps of a worker -/

/-- Everything a worker can do in one step. -/
inductive WorkerMove (cfg : Configuration) (i : ℕ) (w : Worker) (s : Shared) :
    WorkerAction → Worker → Shared → Prop where
  | exec (stmt : WorkerStmt) (t : ThreadLocals) (s' : Shared) (hpc : w.pc = .body stmt)
      (hexec : execWorkerStmt cfg w.connection w.locals s stmt = .ok (t, s')) :
      WorkerMove cfg i w s (.exec stmt) { w with pc := stmt.next, locals := t } s'
  | capture (a : WorkerAction) (m : MessageLogItem) (ha : a.message? = some m)
      (hpc : w.pc ≠ .finished) (hin : w.locals.inThread = true) :
      WorkerMove cfg i w s a
        { w with locals :=
          { w.locals with logFromThread := w.locals.logFromThread ++ [m] } } s
  | print (a : WorkerAction) (m : MessageLogItem) (ha : a.message? = some m)
      (hpc : w.pc ≠ .finished) (hin : w.locals.inThread = false) :
      WorkerMove cfg i w s a w { s with console := s.console ++ [(.worker i, m)] }
  | log (amount : ThreadCounters) (hpc : w.pc.testing = true) :
      WorkerMove cfg i w s (.log amount)
        { w with locals := { w.locals with counters := w.locals.counters + amount } } s
  | throw (stmt : WorkerStmt) (hpc : w.pc = .body stmt) :
      WorkerMove cfg i w s .throw
        { w with pc := .caught, locals := { w.locals with inThread := false } } s
  | leaveCatch (hpc : w.pc = .caught) :
      WorkerMove cfg i w s .leaveCatch { w with pc := .finished } s

variable {cfg : Configuration} {i : ℕ} {w w' : Worker} {s s' : Shared} {a : WorkerAction}

theorem tinyMessageHandler_inThread {thread : ThreadId} {t : ThreadLocals} {m : MessageLogItem}
    (h : t.inThread = true) : tinyMessageHandler thread t s m =
      ({ t with logFromThread := t.logFromThread ++ [m] }, s) :=
  if_pos h

theorem tinyMessageHandler_console {thread : ThreadId} {t : ThreadLocals} {m : MessageLogItem}
    (h : t.inThread = false) : tinyMessageHandler thread t s m =
      (t, { s with console := s.console ++ [(thread, m)] }) := by
  unfold tinyMessageHandler
  rw [h]
  rfl

theorem workerMove_of_message {m : MessageLogItem} (ha : a.message? = some m)
    (hpc : w.pc ≠ .finished) :
    WorkerMove cfg i w s a { w with locals := (tinyMessageHandler (.worker i) w.locals s m).1 }
      (tinyMessageHandler (.worker i) w.locals s m).2 := by
  cases hin : w.locals.inThread with
  | true =>
    rw [tinyMessageHandler_inThread hin]
    exact .capture a m ha hpc hin
  | false =>
    rw [tinyMessageHandler_console hin]
    exact .print a m ha hpc hin

theorem workerStep_move (h : workerStep cfg i w s a = some (w', s')) :
    WorkerMove cfg i w s a w' s' := by
  cases a with
  | exec stmt =>
    simp only [workerStep] at h
    split at h
    case isFalse => cases h
    case isTrue hpc =>
      split at h
      · cases h
        exact .exec stmt _ _ hpc ‹_›
      · cases h
  | emit m =>
    simp only [workerStep] at h
    split at h
    case isFalse => cases h
    case isTrue hpc =>
      cases h
      exact workerMove_of_message rfl hpc.1
  | fatal message =>
    simp only [workerStep] at h
    split at h
    case isFalse => cases h
    case isTrue hpc =>
      cases h
      exact workerMove_of_message rfl hpc
  | log amount =>
    simp only [workerStep] at h
    split at h
    case isFalse => cases h
    case isTrue hpc =>
      cases h
      exact .log amount hpc
  | throw =>
    simp only [workerStep] at h
    split at h
    · cases h
      exact .throw _ ‹_›
    · cases h
  | leaveCatch =>
    simp only [workerStep] at h
    split at h
    case isFalse => cases h
    case isTrue hpc =>
      cases h
      exact .leaveCatch hpc

theorem message_ne_exec {m : MessageLogItem} (ha : a.message? = some m) (st : WorkerStmt) :
    a ≠ .exec st := by
  intro h
  subst h
  cases ha

theorem message_ne_throw {m : MessageLogItem} (ha : a.message? = some m) : a ≠ .throw := by
  intro h
  subst h
  cases ha

theorem WorkerMove.not_finished (h : WorkerMove cfg i w s a w' s') : w.pc ≠ .finished := by
  intro hpc
  cases h with
  | exec _ _ _ hbody => rw [hpc] at hbody; cases hbody
  | capture _ _ _ hne => exact hne hpc
  | print _ _ _ hne => exact hne hpc
  | log _ htest => rw [hpc] at htest; cases htest
  | throw _ hbody => rw [hpc] at hbody; cases hbody
  | leaveCatch hcaught => rw [hpc] at hcaught; cases hcaught

theorem WorkerMove.pc_of_exec {stmt : WorkerStmt} (h : WorkerMove cfg i w s (.exec stmt) w' s') :
    w.pc = .body stmt := by
  cases h with
  | exec _ _ _ hpc => exact hpc
  | capture _ _ ha => cases ha
  | print _ _ ha => cases ha

theorem WorkerMove.connection (h : WorkerMove cfg i w s a w' s') :
    w'.connection = w.connection := by
  cases h <;> rfl

/-- Only the two saving statements and the console concern the other threads. -/
theorem execWorkerStmt_shared {connection : String} {t t' : ThreadLocals} {stmt : WorkerStmt}
    (h : execWorkerStmt cfg connection t s stmt = .ok (t', s')) :
    (stmt = .saveCountersForAppSummary ∧
      ∃ app, s.app.saveCountersForAppSummary t.counters connection = .ok app ∧
        s' = { s with app }) ∨
    (stmt = .saveLogsFromThread ∧ s' = saveLogsFromThread cfg t s connection) ∨
    (stmt ≠ .saveCountersForAppSummary ∧ stmt ≠ .saveLogsFromThread ∧ s' = s) := by
  cases stmt with
  | saveCountersForAppSummary =>
    obtain ⟨app, happ, h⟩ := bind_eq_ok.mp h
    cases h
    exact Or.inl ⟨rfl, app, happ, rfl⟩
  | saveLogsFromThread =>
    cases h
    exact Or.inr (Or.inl ⟨rfl, rfl⟩)
  | throwIfNoConfig | addConnections | computeConnectionsToCount =>
    obtain ⟨_, -, h⟩ := bind_eq_ok.mp h
    cases h
    exact Or.inr (Or.inr ⟨by decide, by decide, rfl⟩)
  | _ =>
    cases h
    exact Or.inr (Or.inr ⟨by decide, by decide, rfl⟩)

/-- The messages that a move puts on the console. -/
def printedBy (i : ℕ) (w : Worker) (a : WorkerAction) : List (ThreadId × MessageLogItem) :=
  if w.locals.inThread then [] else a.message?.toList.map (.worker i, ·)

/-- A move seen from the other threads. -/
structure WorkerEffect (cfg : Configuration) (i : ℕ) (w : Worker) (s : Shared) (a : WorkerAction)
    (s' : Shared) : Prop where
  console : s'.console = s.console ++ printedBy i w a
  app : (a = .exec .saveCountersForAppSummary ∧
      s.app.saveCountersForAppSummary w.locals.counters w.connection = .ok s'.app) ∨
    (a ≠ .exec .saveCountersForAppSummary ∧ s'.app = s.app)
  logs : (a = .exec .saveLogsFromThread ∧
      s' = saveLogsFromThread cfg w.locals s w.connection) ∨
    (a ≠ .exec .saveLogsFromThread ∧ s'.logThreadStream = s.logThreadStream ∧
      s'.logsFromThreads = s.logsFromThreads ∧ s'.logsFromThreadsMap = s.logsFromThreadsMap)

theorem saveLogsFromThread_frame (cfg : Configuration) (t : ThreadLocals) (s : Shared)
    (connection : String) :
    (saveLogsFromThread cfg t s connection).console = s.console ∧
      (saveLogsFromThread cfg t s connection).app = s.app := by
  unfold saveLogsFromThread
  split_ifs <;> exact ⟨rfl, rfl⟩

theorem WorkerMove.effect (h : WorkerMove cfg i w s a w' s') : WorkerEffect cfg i w s a s' := by
  cases h with
  | exec stmt t _ hpc hexec =>
    have hconsole : printedBy i w (.exec stmt) = [] := by
      unfold printedBy
      split_ifs <;> rfl
    rcases execWorkerStmt_shared hexec with ⟨rfl, app, happ, rfl⟩ | ⟨rfl, rfl⟩ | ⟨hc, hl, rfl⟩
    · refine ⟨?_, Or.inl ⟨rfl, happ⟩, Or.inr ⟨by decide, rfl, rfl, rfl⟩⟩
      rw [hconsole, List.append_nil]
    · obtain ⟨hsame, happ⟩ := saveLogsFromThread_frame cfg w.locals s w.connection
      refine ⟨?_, Or.inr ⟨by decide, happ⟩, Or.inl ⟨rfl, rfl⟩⟩
      rw [hconsole, List.append_nil, hsame]
    · refine ⟨?_, Or.inr ⟨by simpa using hc, rfl⟩, Or.inr ⟨by simpa using hl, rfl, rfl, rfl⟩⟩
      rw [hconsole, List.append_nil]
  | capture a m ha hpc hin =>
    refine ⟨?_, Or.inr ⟨?_, rfl⟩, Or.inr ⟨?_, rfl, rfl, rfl⟩⟩
    · simp [printedBy, hin]
    · exact message_ne_exec ha _
    · exact message_ne_exec ha _
  | print a m ha hpc hin =>
    refine ⟨?_, Or.inr ⟨?_, rfl⟩, Or.inr ⟨?_, rfl, rfl, rfl⟩⟩
    · simp [printedBy, hin, ha]
    · exact message_ne_exec ha _
    · exact message_ne_exec ha _
  | log | throw | leaveCatch =>
    refine ⟨?_, Or.inr ⟨by simp, rfl⟩, Or.inr ⟨by simp, rfl, rfl, rfl⟩⟩
    unfold printedBy
    split_ifs <;> simp [WorkerAction.message?]

/-- What a statement changes in the thread: only `g_inThread = true` concerns the log. -/
theorem execWorkerStmt_locals {connection : String} {t t' : ThreadLocals} {stmt : WorkerStmt}
    (h : execWorkerStmt cfg connection t s stmt = .ok (t', s')) :
    t'.counters = t.counters ∧ t'.logFromThread = t.logFromThread ∧
      t'.inThread = (t.inThread || stmt = .setInThread) := by
  cases stmt with
  | setInThread =>
    cases h
    simp
  | throwIfNoConfig | addConnections | computeConnectionsToCount | saveCountersForAppSummary =>
    obtain ⟨_, -, h⟩ := bind_eq_ok.mp h
    cases h
    simp
  | nameThreadForDebugging | setDefaultConnection | enableAllQueryLogCounters | testQueryBuilder
  | testTinyOrm | saveLogsFromThread =>
    cases h
    simp

/-! ### The history of a worker -/

def WorkerStmt.index : WorkerStmt → ℕ
  | .nameThreadForDebugging => 0
  | .throwIfNoConfig => 1
  | .setInThread => 2
  | .addConnections => 3
  | .setDefaultConnection => 4
  | .computeConnectionsToCount => 5
  | .enableAllQueryLogCounters => 6
  | .testQueryBuilder => 7
  | .testTinyOrm => 8
  | .saveCountersForAppSummary => 9
  | .saveLogsFromThread => 10

theorem WorkerStmt.index_inj {st st' : WorkerStmt} (h : st.index = st'.index) : st = st' := by
  cases st <;> cases st' <;> first | rfl | cases h

/-- Where a worker stands in each phase of its history. -/
def Worker.InPhase (w : Worker) : Phase → Prop
  | .before => w.locals.inThread = false ∧ w.locals.counters = 0 ∧
      ∀ stmt, w.pc = .body stmt → stmt.index ≤ WorkerStmt.setInThread.index
  | .inside => w.locals.inThread = true ∧
      ∃ stmt, w.pc = .body stmt ∧ WorkerStmt.setInThread.index < stmt.index
  | .after => w.pc = .finished ∨ w.pc = .caught ∧ w.locals.inThread = false

/-- The statements behind a worker. -/
def Executed (history : List WorkerAction) : WorkerPc → Prop
  | .body stmt => .throw ∉ history ∧ ∀ st, .exec st ∈ history ↔ st.index < stmt.index
  | .caught => .throw ∈ history ∧ .exec .saveLogsFromThread ∉ history
  | .finished => .throw ∈ history ∧ .exec .saveLogsFromThread ∉ history ∨
      .throw ∉ history ∧ ∀ st, .exec st ∈ history

/-- What ties a worker to its history. -/
structure Worker.History (w : Worker) (history : List WorkerAction) : Prop where
  counters : w.locals.counters = amounts history
  log : ∃ p win out, Split opensCapture closesCapture p history win out ∧ w.InPhase p ∧
    w.locals.logFromThread = win.filterMap WorkerAction.message?
  executed : Executed history w.pc

theorem Worker.History.captured_eq {history : List WorkerAction} (h : w.History history) :
    captured history = w.locals.logFromThread := by
  obtain ⟨p, win, out, hsplit, -, hlog⟩ := h.log
  rw [captured, hsplit.window_eq, hlog]

theorem Worker.start_history (connection : String) : (Worker.start connection).History [] := by
  refine ⟨rfl, ⟨.before, [], [], split_nil, ⟨rfl, rfl, ?_⟩, rfl⟩, ?_, ?_⟩
  · intro stmt h
    cases h
    decide
  · exact List.not_mem_nil
  · intro st
    simp [WorkerStmt.index]

section Snoc

variable {history : List WorkerAction}

theorem amounts_snoc (history : List WorkerAction) (a : WorkerAction) :
    amounts (history ++ [a]) = amounts history + a.amount?.getD 0 := by
  unfold amounts
  rw [List.filterMap_append, List.sum_append]
  cases h : a.amount? <;> simp [h]

/-- A step that is neither a statement nor a throw leaves the statements behind a worker. -/
theorem Executed.snoc {pc : WorkerPc} (h : Executed history pc) (hexec : ∀ st, a ≠ .exec st)
    (hthrow : a ≠ .throw) : Executed (history ++ [a]) pc := by
  have hst : ∀ st, WorkerAction.exec st ∈ history ++ [a] ↔ .exec st ∈ history := by
    intro st
    simp [(hexec st).symm]
  have ht : WorkerAction.throw ∈ history ++ [a] ↔ .throw ∈ history := by
    simp [hthrow.symm]
  cases pc <;> simpa only [Executed, hst, ht] using h

theorem Executed.exec {stmt : WorkerStmt} (h : Executed history (.body stmt)) :
    Executed (history ++ [.exec stmt]) stmt.next := by
  obtain ⟨hthrow, hst⟩ := h
  have hthrow' : WorkerAction.throw ∉ history ++ [.exec stmt] := by simp [hthrow]
  have hmem : ∀ st, WorkerAction.exec st ∈ history ++ [.exec stmt] ↔ st.index ≤ stmt.index := by
    intro st
    rw [List.mem_append, List.mem_singleton, hst, WorkerAction.exec.injEq, Nat.le_iff_lt_or_eq]
    refine or_congr_right ⟨?_, WorkerStmt.index_inj⟩
    intro heq
    rw [heq]
  cases stmt with
  | saveLogsFromThread =>
    refine Or.inr ⟨hthrow', ?_⟩
    intro st
    rw [hmem]
    cases st <;> decide
  | _ =>
    refine ⟨hthrow', ?_⟩
    intro st
    rw [hmem, ← Nat.lt_succ_iff]
    rfl

theorem Executed.throw {stmt : WorkerStmt} (h : Executed history (.body stmt)) :
    Executed (history ++ [.throw]) .caught := by
  refine ⟨by simp, ?_⟩
  have hnot : ¬ WorkerStmt.saveLogsFromThread.index < stmt.index := by cases stmt <;> decide
  simpa [h.2] using hnot

/-- Messages of a window or of the rest that grows by one step. -/
theorem filterMap_snoc {β : Type} (f : WorkerAction → Option β) (l : List WorkerAction)
    (a : WorkerAction) : (l ++ [a]).filterMap f = l.filterMap f ++ (f a).toList := by
  rw [List.filterMap_append]
  cases h : f a <;> simp [h]

theorem Worker.InPhase.of_body {p : Phase} {stmt : WorkerStmt} (h : w.InPhase p)
    (hpc : w.pc = .body stmt) :
    p = if stmt.index ≤ WorkerStmt.setInThread.index then .before else .inside := by
  cases p with
  | before => rw [if_pos (h.2.2 stmt hpc)]
  | inside =>
    obtain ⟨-, stmt', hpc', hlt⟩ := h
    obtain rfl := WorkerPc.body.inj (hpc.symm.trans hpc')
    rw [if_neg (by omega)]
  | after =>
    rcases h with h | ⟨h, -⟩ <;> rw [hpc] at h <;> cases h

theorem WorkerMove.log_of_exec {stmt : WorkerStmt}
    (h : WorkerMove cfg i w s (.exec stmt) w' s') :
    w'.locals.logFromThread = w.locals.logFromThread := by
  cases h with
  | exec _ _ _ _ hexec => exact (execWorkerStmt_locals hexec).2.1
  | capture _ _ ha => cases ha
  | print _ _ ha => cases ha

/-- A statement moves the window only when it sets `g_inThread` or saves the log. -/
theorem Worker.History.exec {stmt : WorkerStmt} {t : ThreadLocals} (h : w.History history)
    (hpc : w.pc = .body stmt)
    (hexec : execWorkerStmt cfg w.connection w.locals s stmt = .ok (t, s')) :
    Worker.History { w with pc := stmt.next, locals := t } (history ++ [.exec stmt]) := by
  obtain ⟨hcounters, hlog, hin⟩ := execWorkerStmt_locals hexec
  have hexecuted : Executed history (.body stmt) := hpc ▸ h.executed
  refine ⟨?_, ?_, hexecuted.exec⟩
  · rw [amounts_snoc]
    exact (hcounters.trans h.counters).trans (add_zero _).symm
  obtain ⟨p, win, out, hsplit, hphase, hwin⟩ := h.log
  have hp := hphase.of_body hpc
  have hlog' : t.logFromThread = (win ++ [WorkerAction.exec stmt]).filterMap
      WorkerAction.message? := by
    rw [filterMap_snoc, hlog, hwin]
    exact (List.append_nil _).symm
  cases stmt with
  | nameThreadForDebugging | throwIfNoConfig =>
    obtain rfl : p = .before := hp
    refine ⟨.before, win, _, hsplit.snoc_before rfl, ⟨?_, ?_, ?_⟩, hlog.trans hwin⟩
    · rw [hin, hphase.1]
      rfl
    · exact hcounters.trans hphase.2.1
    · intro st hst
      cases hst
      decide
  | setInThread =>
    obtain rfl : p = .before := hp
    cases hsplit
    refine ⟨.inside, _, _, Split.snoc_start (.before ‹_›) rfl rfl, ⟨?_, _, rfl, ?_⟩, hlog'⟩
    · rw [hin]
      simp
    · decide
  | saveLogsFromThread =>
    obtain rfl : p = .inside := hp
    exact ⟨.after, win, _, hsplit.snoc_stop rfl, Or.inl rfl, hlog.trans hwin⟩
  | _ =>
    obtain rfl : p = .inside := hp
    refine ⟨.inside, _, out, hsplit.snoc_inside rfl, ⟨?_, _, rfl, by decide⟩, hlog'⟩
    rw [hin, hphase.1]
    rfl

theorem message_not_opens {m : MessageLogItem} (ha : a.message? = some m) :
    opensCapture a = false :=
  decide_eq_false (message_ne_exec ha _)

theorem message_not_closes {m : MessageLogItem} (ha : a.message? = some m) :
    closesCapture a = false := by
  unfold closesCapture
  rw [decide_eq_false (message_ne_exec ha _), decide_eq_false (message_ne_throw ha)]
  rfl

theorem message_amount {m : MessageLogItem} (ha : a.message? = some m) : a.amount? = none := by
  cases a with
  | emit => rfl
  | fatal => rfl
  | _ => cases ha

/-- The tests run inside the window. -/
theorem WorkerPc.body_of_testing {pc : WorkerPc} (h : pc.testing = true) :
    ∃ stmt, pc = .body stmt ∧ WorkerStmt.setInThread.index < stmt.index ∧
      stmt.index < WorkerStmt.saveCountersForAppSummary.index := by
  cases pc with
  | body stmt =>
    cases stmt with
    | testQueryBuilder | testTinyOrm => exact ⟨_, rfl, by decide, by decide⟩
    | _ => cases h
  | _ => cases h

/-- Every step of a worker extends its history. -/
theorem Worker.History.step (h : w.History history) (hmove : WorkerMove cfg i w s a w' s') :
    w'.History (history ++ [a]) := by
  obtain ⟨p, win, out, hsplit, hphase, hwin⟩ := h.log
  cases hmove with
  | exec stmt t _ hpc hexec => exact h.exec hpc hexec
  | capture a m ha hpc hin =>
    refine ⟨?_, ?_, h.executed.snoc (message_ne_exec ha) (message_ne_throw ha)⟩
    · rw [amounts_snoc, message_amount ha]
      exact h.counters.trans (add_zero _).symm
    · cases p with
      | before => exact absurd (hphase.1.symm.trans hin) Bool.false_ne_true
      | inside =>
        refine ⟨.inside, _, out, hsplit.snoc_inside (message_not_closes ha), hphase, ?_⟩
        rw [filterMap_snoc, ha, ← hwin]
        rfl
      | after =>
        rcases hphase with hfin | ⟨-, hnot⟩
        · exact absurd hfin hpc
        · exact absurd (hnot.symm.trans hin) Bool.false_ne_true
  | print a m ha hpc hin =>
    refine ⟨?_, ?_, h.executed.snoc (message_ne_exec ha) (message_ne_throw ha)⟩
    · rw [amounts_snoc, message_amount ha]
      exact h.counters.trans (add_zero _).symm
    · cases p with
      | before => exact ⟨.before, win, _, hsplit.snoc_before (message_not_opens ha), hphase, hwin⟩
      | inside => exact absurd (hin.symm.trans hphase.1) Bool.false_ne_true
      | after => exact ⟨.after, win, _, hsplit.snoc_after, hphase, hwin⟩
  | log amount hpc =>
    obtain ⟨stmt, hbody, hlt, -⟩ := WorkerPc.body_of_testing hpc
    obtain rfl : p = .inside := (hphase.of_body hbody).trans (if_neg (by omega))
    refine ⟨?_, ?_, h.executed.snoc (fun _ => by simp) (by simp)⟩
    · rw [amounts_snoc, ← h.counters]
      rfl
    · refine ⟨.inside, _, out, hsplit.snoc_inside rfl, hphase, ?_⟩
      rw [filterMap_snoc]
      exact hwin.trans (List.append_nil _).symm
  | throw stmt hpc =>
    have hexecuted : Executed history (.body stmt) := hpc ▸ h.executed
    refine ⟨?_, ?_, hexecuted.throw⟩
    · rw [amounts_snoc]
      exact h.counters.trans (add_zero _).symm
    · cases p with
      | before =>
        refine ⟨.before, win, _, hsplit.snoc_before rfl, ⟨rfl, hphase.2.1, ?_⟩, hwin⟩
        intro _ hcaught
        cases hcaught
      | inside => exact ⟨.after, win, _, hsplit.snoc_stop rfl, Or.inr ⟨rfl, rfl⟩, hwin⟩
      | after => rcases hphase with hw | ⟨hw, -⟩ <;> rw [hw] at hpc <;> cases hpc
  | leaveCatch hpc =>
    have hexecuted : Executed history .caught := hpc ▸ h.executed
    refine ⟨?_, ?_, ?_⟩
    · rw [amounts_snoc]
      exact h.counters.trans (add_zero _).symm
    · cases p with
      | before =>
        refine ⟨.before, win, _, hsplit.snoc_before rfl, ⟨hphase.1, hphase.2.1, ?_⟩, hwin⟩
        intro _ hfinished
        cases hfinished
      | inside =>
        obtain ⟨-, stmt, hbody, -⟩ := hphase
        rw [hpc] at hbody
        cases hbody
      | after => exact ⟨.after, win, _, hsplit.snoc_after, Or.inl rfl, hwin⟩
    · have hkept := hexecuted.snoc (a := .leaveCatch) (fun _ => by simp) (by simp)
      exact Or.inl hkept

/-- A worker that has not set `g_inThread` yet holds nothing. -/
theorem Worker.History.nothing_before {stmt : WorkerStmt} (h : w.History history)
    (hpc : w.pc = .body stmt) (hin : w.locals.inThread = false) :
    w.locals.logFromThread = [] ∧ w.locals.counters = 0 := by
  obtain ⟨p, win, out, hsplit, hphase, hwin⟩ := h.log
  cases p with
  | before =>
    refine ⟨?_, hphase.2.1⟩
    cases hsplit
    exact hwin
  | inside => exact absurd (hin.symm.trans hphase.1) Bool.false_ne_true
  | after => rcases hphase with hw | ⟨hw, -⟩ <;> rw [hpc] at hw <;> cases hw

theorem Worker.History.caught_inThread (h : w.History history) (hpc : w.pc = .caught) :
    w.locals.inThread = false := by
  obtain ⟨p, -, -, -, hphase, -⟩ := h.log
  cases p with
  | before => exact hphase.1
  | inside =>
    obtain ⟨-, stmt, hbody, -⟩ := hphase
    rw [hpc] at hbody
    cases hbody
  | after =>
    rcases hphase with hw | ⟨-, hin⟩
    · rw [hpc] at hw
      cases hw
    · exact hin

/-- In the `catch` block a worker captures and counts nothing more. -/
theorem Worker.History.caught_step (h : w.History history) (hpc : w.pc = .caught)
    (hmove : WorkerMove cfg i w s a w' s') :
    captured (history ++ [a]) = captured history ∧
      amounts (history ++ [a]) = amounts history := by
  have hstep := h.step hmove
  rw [hstep.captured_eq, h.captured_eq, ← hstep.counters, ← h.counters]
  cases hmove with
  | exec _ _ _ hbody => rw [hpc] at hbody; cases hbody
  | capture _ _ _ _ hin =>
    exact absurd ((h.caught_inThread hpc).symm.trans hin) Bool.false_ne_true
  | print => exact ⟨rfl, rfl⟩
  | log _ htest => rw [hpc] at htest; cases htest
  | throw _ hbody => rw [hpc] at hbody; cases hbody
  | leaveCatch => exact ⟨rfl, rfl⟩

/-! ### What the other threads see -/

theorem Worker.History.direct_snoc (h : w.History history)
    (hmove : WorkerMove cfg i w s a w' s') : direct (history ++ [a]) =
      direct history ++ if w.locals.inThread then [] else a.message?.toList := by
  obtain ⟨p, win, out, hsplit, hphase, -⟩ := h.log
  unfold direct
  rw [hsplit.outside_eq]
  cases p with
  | before =>
    rw [hphase.1]
    cases ha : opensCapture a with
    | false => rw [(hsplit.snoc_before ha).outside_eq, filterMap_snoc]; rfl
    | true =>
      obtain rfl : a = .exec .setInThread := of_decide_eq_true ha
      rw [(hsplit.snoc_start rfl rfl).outside_eq]
      exact (List.append_nil _).symm
  | inside =>
    rw [hphase.1]
    cases ha : closesCapture a with
    | false =>
      rw [(hsplit.snoc_inside ha).outside_eq]
      exact (List.append_nil _).symm
    | true =>
      rw [(hsplit.snoc_stop ha).outside_eq, filterMap_snoc]
      have hno : a.message? = none := by
        cases hm : a.message? with
        | none => rfl
        | some m => rw [message_not_closes hm] at ha; cases ha
      rw [hno]
      rfl
  | after =>
    rcases hphase with hpc | ⟨-, hin⟩
    · exact absurd hpc hmove.not_finished
    · rw [hin, hsplit.snoc_after.outside_eq, filterMap_snoc]
      rfl

end Snoc

end TinyPlay

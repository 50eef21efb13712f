import TinyPlay.Proofs.FailingWorker

/-! No schedule of the threads runs forever and none gets stuck. Every statement brings its thread
closer to its end, and while the process lives some thread can go on: the join waits only for
workers that can still finish. -/

namespace TinyPlay

/-! ### How far a thread is from its end -/

def WorkerPc.remaining : WorkerPc → ℕ
  | .body stmt => 12 - stmt.index
  | .caught => 1
  | .finished => 0

/-- A connection costs its dispatch and, at most, a whole worker. -/
def MainPc.remaining (connectionsToTest : List String) : MainPc → ℕ
  | .connectToDatabase => 13 * connectionsToTest.length + 7
  | .initConnsInThreadsTesting => 13 * connectionsToTest.length + 6
  | .loop connections => 13 * connections.length + 5
  | .testing connections => 13 * connections.length + 6
  | .setDefaultConnection => 4
  | .replayThrdLogToConsole => 3
  | .saveCountersForAppSummary => 2
  | .logApplicationSummary => 1
  | .returned => 0
  | .unwinding => 1
  | .left => 0

/-- A step of the program itself; the tests add messages and finished counts. -/
def WorkerAction.advances : WorkerAction → Bool
  | .exec _ => true
  | .throw => true
  | .leaveCatch => true
  | _ => false

def MainAction.advances : MainAction → Bool
  | .exec _ => true
  | .throw => true
  | _ => false

theorem WorkerMove.remaining {cfg : Configuration} {i : ℕ} {a : WorkerAction} {w w' : Worker}
    {s s' : Shared} (h : WorkerMove cfg i w s a w' s') :
    (if a.advances then 1 else 0) + w'.pc.remaining ≤ w.pc.remaining := by
  cases h with
  | exec stmt _ _ hpc =>
    rw [hpc]
    change 1 + stmt.next.remaining ≤ (WorkerPc.body stmt).remaining
    cases stmt <;> decide
  | throw stmt hpc =>
    rw [hpc]
    change 1 + WorkerPc.caught.remaining ≤ (WorkerPc.body stmt).remaining
    cases stmt <;> decide
  | leaveCatch hpc =>
    rw [hpc]
    exact le_rfl
  | log => exact (Nat.zero_add _).le
  | capture a m ha | print a m ha =>
    cases a with
    | emit | fatal => exact (Nat.zero_add _).le
    | _ => cases ha

namespace System

def remaining (s : System) : ℕ :=
  s.pc.remaining s.cfg.connectionsToTest + (s.workers.map fun w => w.pc.remaining).sum

def Event.advances : Event → Bool
  | .main a => a.advances
  | .worker _ a => a.advances

variable {cfg : Configuration} {es : List Event} {e : Event} {s s' : System}

theorem init_connectionsToTest {cfg cfg' : Configuration} {opened : Except LogFileError Unit}
    (h : cfg.initConnsInThreadsTesting opened = .ok cfg') :
    cfg'.connectionsToTest = cfg.connectionsToTest := by
  rw [init_santize h]
  unfold Configuration.santizeConnectionsToRunInThread
  split_ifs <;> rfl

theorem MainMove.remaining {a : MainAction} (h : MainMove s a s') :
    (if a.advances then 1 else 0) + s'.remaining ≤ s.remaining := by
  unfold System.remaining
  cases h with
  | init opened cfg hpc hinit =>
    rw [hpc, init_connectionsToTest hinit]
    simp only [MainPc.remaining, MainAction.advances, if_true]
    omega
  | spawn c cs hpc =>
    rw [hpc]
    simp only [MainPc.remaining, MainAction.advances, if_true, List.length_cons, List.map_append,
      List.sum_append, List.map_singleton, List.sum_singleton, Worker.start, WorkerPc.remaining,
      WorkerStmt.index]
    omega
  | throw hthrow =>
    rcases pc_of_canThrow hthrow with hpc | ⟨cs, hpc⟩ | ⟨cs, hpc⟩ <;> rw [hpc] <;>
      simp only [MainPc.remaining, MainAction.advances, if_true] <;> omega
  | connectToDatabase _ _ hpc | test _ _ hpc | testsDone _ hpc | joinThreads hpc | restore hpc
  | skipReplay hpc | replay hpc | saveCounters _ hpc | summary hpc | propagate hpc =>
    rw [hpc]
    simp only [MainPc.remaining, MainAction.advances, if_true, List.length_cons]
    omega
  | log => exact (Nat.zero_add _).le
  | message a m _ ha =>
    cases a with
    | emit | fatal => exact (Nat.zero_add _).le
    | _ => cases ha

theorem sum_map_set {α : Type} (f : α → ℕ) {l : List α} {i : ℕ} {a : α} (h : l[i]? = some a)
    (b : α) : ((l.set i b).map f).sum + f a = (l.map f).sum + f b := by
  induction l generalizing i with
  | nil => cases h
  | cons c l ih =>
    cases i with
    | zero =>
      cases h
      simp only [List.set_cons_zero, List.map_cons, List.sum_cons]
      omega
    | succ i =>
      have hrest := ih (i := i) h
      simp only [List.set_cons_succ, List.map_cons, List.sum_cons]
      omega

/-- The steps of the program bring the run closer to its end, and the others take nothing back. -/
theorem step_remaining (s : System) (e : Event) (s' : System) (h : s.step e = some s') :
    (if e.advances then 1 else 0) + s'.remaining ≤ s.remaining := by
  cases step_move h with
  | main hmain => exact hmain.remaining
  | @worker i a w w' shared aborted hw hworker =>
    have hone := hworker.remaining
    have hsum := sum_map_set (fun w : Worker => w.pc.remaining) hw w'
    unfold System.remaining Event.advances
    dsimp only at hsum ⊢
    omega

/-! ### Some thread can go on -/

/-- A thread throws because its own statement fails, not because of a test. -/
def throwsItself (s : System) : Event → Bool
  | .main .throw =>
    s.pc = .initConnsInThreadsTesting && !(s.cfg.initConnsInThreadsTesting (.ok ())).isOk
  | .worker i .throw =>
    match s.workers[i]? with
    | some w =>
      match w.pc with
      | .body stmt => !(execWorkerStmt s.cfg w.connection w.locals s.shared stmt).isOk
      | _ => false
    | none => false
  | _ => true

/-- The main thread is on its way to a normal return. -/
def returning (s : System) : Bool :=
  match s.pc with
  | .connectToDatabase => (s.cfg.initConnsInThreadsTesting (.ok ())).isOk
  | .initConnsInThreadsTesting => (s.cfg.initConnsInThreadsTesting (.ok ())).isOk
  | .unwinding => false
  | .left => false
  | _ => true

/-- A step by which the run gets closer to its end. -/
structure Advance (s : System) (e : Event) (s' : System) : Prop where
  advances : e.advances = true
  itself : s.throwsItself e = true
  step : s.step e = some s'
  aborted : s'.aborted = none
  returning : s.returning = true → s'.returning = true

theorem step_worker {i : ℕ} {w w' : Worker} {a : WorkerAction} {shared : Shared}
    (hlive : s.aborted = none) (hw : s.workers[i]? = some w) (ha : a.advances = true)
    (h : workerStep s.cfg i w s.shared a = some (w', shared)) :
    s.step (.worker i a) = some { s with workers := s.workers.set i w', shared } := by
  cases a with
  | fatal => cases ha
  | _ => simp [System.step, hlive, hw, h]

/-- A worker that has not finished has a step, which is a throw only where its statement throws. -/
theorem advance_worker {i : ℕ} {w : Worker} (hlive : s.aborted = none)
    (hw : s.workers[i]? = some w) (hpc : w.pc ≠ .finished) : ∃ e s', Advance s e s' := by
  cases hbody : w.pc with
  | body stmt =>
    cases hexec : execWorkerStmt s.cfg w.connection w.locals s.shared stmt with
    | ok ts =>
      have hstep : workerStep s.cfg i w s.shared (.exec stmt) =
          some ({ w with pc := stmt.next, locals := ts.1 }, ts.2) := by
        simp [workerStep, hbody, hexec]
      exact ⟨_, _, rfl, rfl, step_worker hlive hw rfl hstep, hlive, id⟩
    | error err =>
      have hstep : workerStep s.cfg i w s.shared .throw =
          some ({ w with pc := .caught, locals := { w.locals with inThread := false } },
            s.shared) := by
        simp [workerStep, hbody]
      have hitself : s.throwsItself (.worker i .throw) = true := by
        simp [throwsItself, hw, hbody, hexec, Except.isOk, Except.toBool]
      exact ⟨_, _, rfl, hitself, step_worker hlive hw rfl hstep, hlive, id⟩
  | caught =>
    have hstep : workerStep s.cfg i w s.shared .leaveCatch =
        some ({ w with pc := .finished }, s.shared) := if_pos hbody
    exact ⟨_, _, rfl, rfl, step_worker hlive hw rfl hstep, hlive, id⟩
  | finished => exact absurd hbody hpc

/-- A join that does not return waits for a worker that can go on. -/
theorem advance_waiting (hlive : s.aborted = none) (hjoined : s.joined = false) :
    ∃ e s', Advance s e s' := by
  have hnot : ¬ ∀ w ∈ s.workers, w.pc = .finished := by
    rw [← joined_iff, hjoined]
    exact Bool.false_ne_true
  push Not at hnot
  obtain ⟨w, hmem, hpc⟩ := hnot
  obtain ⟨i, hw⟩ := List.mem_iff_getElem?.mp hmem
  exact advance_worker hlive hw hpc

theorem step_main {stmt : MainStmt} (hlive : s.aborted = none)
    (h : s.execMainStmt stmt = some s') : s.step (.main (.exec stmt)) = some s' := by
  simpa [System.step, hlive, mainStep] using h

theorem computeConfigurationsToAdd_main (cfg : Configuration) :
    ∃ configurations, cfg.computeConfigurationsToAdd false "" = .ok configurations := by
  unfold Configuration.computeConfigurationsToAdd
  cases cfg.connectionsInThreads with
  | true => exact ⟨cfg.configsForMainThrdWhenMultiThrd, rfl⟩
  | false => exact ⟨cfg.configurationsWhenSingleThread, rfl⟩

/-- The main thread registers its connections without an exception. -/
theorem connectToDatabase_ok (hin : s.main.inThread = false) :
    ∃ s', s.connectToDatabase = .ok s' ∧ s'.pc = .initConnsInThreadsTesting ∧
      s'.cfg = s.cfg ∧ s'.aborted = s.aborted := by
  obtain ⟨configurations, hadd⟩ := computeConfigurationsToAdd_main s.cfg
  have hcount : s.cfg.computeConnectionsToCount false "" =
      .ok ((s.cfg.countableConnections.filter s.cfg.countsInMainThread).erase
        Configuration.mysqlMainThread) := rfl
  have hconnect : s.connectToDatabase = .ok { s with
      pc := .initConnsInThreadsTesting
      main := { s.main with
        configurations
        defaultConnection := s.cfg.getDefaultConnectionName
        connectionsToCount := (s.cfg.countableConnections.filter s.cfg.countsInMainThread).erase
          Configuration.mysqlMainThread } } := by
    unfold System.connectToDatabase
    rw [hin, hadd, hcount]
    rfl
  exact ⟨_, hconnect, rfl, rfl, rfl⟩

theorem advance_main (hthreads : Threads cfg es s) (hcounted : Counted es s)
    (hlive : s.aborted = none) (hended : s.ended = false) : ∃ e s', Advance s e s' := by
  cases hpc : s.pc with
  | connectToDatabase =>
    obtain ⟨s', hconnect, hpc', hcfg, haborted⟩ := connectToDatabase_ok hthreads.inThread
    have hexec : s.execMainStmt .connectToDatabase = some s' := by
      simp only [execMainStmt, hpc, hconnect]
    refine ⟨_, _, rfl, rfl, step_main hlive hexec, haborted.trans hlive, ?_⟩
    simp [System.returning, hpc, hpc', hcfg]
  | initConnsInThreadsTesting =>
    cases hinit : s.cfg.initConnsInThreadsTesting (.ok ()) with
    | ok cfg' =>
      have hexec : s.execMainStmt (.initConnsInThreadsTesting (.ok ())) =
          some { s with cfg := cfg', pc := .loop cfg'.connectionsToTest } := by
        simp only [execMainStmt, hpc, hinit]
      exact ⟨_, _, rfl, rfl, step_main hlive hexec, hlive, fun _ => rfl⟩
    | error err =>
      have hstep : s.step (.main .throw) = some { s with pc := .unwinding } := by
        simp [System.step, hlive, mainStep, canThrow, hpc]
      refine ⟨_, _, rfl, ?_, hstep, hlive, ?_⟩
      · simp [throwsItself, hpc, hinit, Except.isOk, Except.toBool]
      · simp [System.returning, hpc, hinit, Except.isOk, Except.toBool]
  | loop connections =>
    cases connections with
    | nil =>
      cases hjoined : s.joined with
      | true =>
        have hexec : s.execMainStmt .joinThreads = some { s with pc := .setDefaultConnection } :=
          if_pos ⟨hpc, hjoined⟩
        exact ⟨_, _, rfl, rfl, step_main hlive hexec, hlive, fun _ => rfl⟩
      | false => exact advance_waiting hlive hjoined
    | cons c cs =>
      cases hruns : s.cfg.runsInThread c with
      | true =>
        have hexec : s.execMainStmt .nextConnection =
            some { s with pc := .loop cs, workers := s.workers ++ [.start c] } := by
          simp only [execMainStmt, hpc, hruns, if_true]
        exact ⟨_, _, rfl, rfl, step_main hlive hexec, hlive, fun _ => rfl⟩
      | false =>
        have hexec : s.execMainStmt .nextConnection = some { s with
            pc := .testing cs, main := { s.main with defaultConnection := c } } := by
          simp [execMainStmt, hpc, hruns]
        exact ⟨_, _, rfl, rfl, step_main hlive hexec, hlive, fun _ => rfl⟩
  | testing cs =>
    have hexec : s.execMainStmt .testsDone = some { s with pc := .loop cs } := by
      simp only [execMainStmt, hpc]
    exact ⟨_, _, rfl, rfl, step_main hlive hexec, hlive, fun _ => rfl⟩
  | setDefaultConnection =>
    have hexec : s.execMainStmt .setDefaultConnection = some { s with
        pc := .replayThrdLogToConsole
        main := { s.main with defaultConnection := s.cfg.getDefaultConnectionName } } :=
      if_pos hpc
    exact ⟨_, _, rfl, rfl, step_main hlive hexec, hlive, fun _ => rfl⟩
  | replayThrdLogToConsole =>
    cases hfile : s.cfg.isLoggingToFile with
    | true =>
      have hexec : s.execMainStmt .replayThrdLogToConsole =
          some { s with pc := .saveCountersForAppSummary } := by
        simp [execMainStmt, hpc, hfile]
      exact ⟨_, _, rfl, rfl, step_main hlive hexec, hlive, fun _ => rfl⟩
    | false =>
      have hexec : s.execMainStmt .replayThrdLogToConsole = some { s with
          pc := .saveCountersForAppSummary
          shared := { s.shared with
            console := s.shared.console ++ replayed s.shared.logsFromThreads } } := by
        simp [execMainStmt, hpc, hfile, replay_eq hthreads.inThread]
      exact ⟨_, _, rfl, rfl, step_main hlive hexec, hlive, fun _ => rfl⟩
  | saveCountersForAppSummary =>
    obtain ⟨app, hsave, -⟩ := AppCounters.save_represents hcounted s.main.counters "main"
    have hexec : s.execMainStmt .saveCountersForAppSummary =
        some { s with pc := .logApplicationSummary, shared := { s.shared with app } } := by
      simp only [execMainStmt, hpc, hsave]
    exact ⟨_, _, rfl, rfl, step_main hlive hexec, hlive, fun _ => rfl⟩
  | logApplicationSummary =>
    have hexec : s.execMainStmt .logApplicationSummary = some { s with pc := .returned } :=
      if_pos hpc
    exact ⟨_, _, rfl, rfl, step_main hlive hexec, hlive, fun _ => rfl⟩
  | unwinding =>
    cases hjoined : s.joined with
    | true =>
      have hexec : s.execMainStmt .propagate = some { s with pc := .left } :=
        if_pos ⟨hpc, hjoined⟩
      exact ⟨_, _, rfl, rfl, step_main hlive hexec, hlive, by simp [System.returning, hpc]⟩
    | false => exact advance_waiting hlive hjoined
  | returned | left => simp [System.ended, hpc] at hended

/-! ### Every schedule ends -/

theorem start_remaining (cfg : Configuration) :
    (start cfg).remaining = 13 * cfg.connectionsToTest.length + 7 := rfl

/-- The threads cannot block each other: the statements of a run are bounded by the number of
connections, and every unaborted run has a continuation, in which only failing statements throw,
that ends, by a normal return if the main thread was on its way to one. -/
theorem schedules_end (hrun : Runs.run step (start cfg) es = some s) :
    es.countP Event.advances ≤ 13 * cfg.connectionsToTest.length + 7 ∧
      (s.aborted = none → ∃ es' s', Runs.run step s es' = some s' ∧
        Runs.Meets step (fun s e => e.advances && s.throwsItself e) s es' ∧
        s'.aborted = none ∧ s'.ended = true ∧
        (s.returning = true → s'.pc = .returned)) := by
  have hbound := Runs.countP_add_le step_remaining hrun
  rw [start_remaining] at hbound
  refine ⟨by omega, ?_⟩
  intro hlive
  let I : System → Prop := fun t => (∃ es, Runs.run step (start cfg) es = some t) ∧
    t.aborted = none ∧ (s.returning = true → t.returning = true)
  have hadvance : ∀ t, I t → t.ended = false → ∃ e t', e.advances = true ∧
      (e.advances && t.throwsItself e) = true ∧ t.step e = some t' ∧ I t' := by
    rintro t ⟨⟨es, hrun⟩, hlive, hreturning⟩ hended
    obtain ⟨e, t', h⟩ := advance_main (run_threads hrun) (run_counted hrun) hlive hended
    refine ⟨e, t', h.advances, ?_, h.step, ?_, h.aborted, fun hs => h.returning (hreturning hs)⟩
    · rw [h.advances, h.itself]
      rfl
    · exact ⟨es ++ [e], Runs.run_snoc_eq_some.mpr ⟨t, hrun, h.step⟩⟩
  obtain ⟨es', s', hrun', hmeets, hended, -, hlive', hreturning⟩ :=
    Runs.exists_run_done _ step_remaining hadvance s ⟨⟨es, hrun⟩, hlive, id⟩
  refine ⟨es', s', hrun', hmeets, hlive', hended, ?_⟩
  intro hs
  have hback := hreturning hs
  unfold System.ended at hended
  cases hpc : s'.pc with
  | returned => rfl
  | left => simp [System.returning, hpc] at hback
  | _ => simp [hpc] at hended

/-- Two workers, the first before its tests, the second in its `catch` block. -/
def halfway : List Event := startWorkers 2 ++ untilTests 0 ++ [.worker 1 .throw]

theorem schedules_end_halfway :
    ∃ s es' s', Runs.run step (start (.initial true false ["sqlite", "postgres"])) halfway =
      some s ∧ Runs.run step s es' = some s' ∧ s'.pc = .returned := by
  have hstate : ((Runs.run step (start (.initial true false ["sqlite", "postgres"])) halfway).map
      fun s => (s.aborted, s.returning)) = some (none, true) := by decide
  obtain ⟨s, hrun, hs⟩ := Option.map_eq_some_iff.mp hstate
  obtain ⟨hlive, hreturning⟩ := Prod.mk.inj hs
  obtain ⟨es', s', hrun', -, -, -, hpc⟩ := (schedules_end hrun).2 hlive
  exact ⟨s, es', s', hrun, hrun', hpc hreturning⟩

end System

end TinyPlay

import TinyPlay.Proofs.WorkerLogs

/-! How a run ends. A normal return replays the saved logs and restores the default connection;
an exception in the main thread skips both, and a fatal message ends the process with whatever
is still captured or saved in memory. -/

namespace TinyPlay.System

variable {cfg : Configuration} {es : List Event} {e : Event} {s s' : System}

/-! ### What every exit owes -/

/-- The messages saved for the replay. -/
def savedMessages (s : System) : List MessageLogItem :=
  s.shared.logsFromThreads.flatMap LogFromThreadItem.logMessages

/-- The run left `testAllConnections`: by its end, by an exception or by an abort. -/
def exited (s : System) : Bool := pastReplay s.pc || s.pc = .left || s.aborted.isSome

/-- The call of `qFatal` in a thread. -/
def fatalOf : ThreadId → String → Event
  | .main, message => .main (.fatal message)
  | .worker i, message => .worker i (.fatal message)

/-- Nothing waits for the replay. -/
def nothingSaved (s : System) : Bool := s.cfg.isLoggingToFile || s.savedMessages.isEmpty

/-- A worker has nothing in `g_logFromThread`. -/
def nothingCaptured (s : System) (i : ℕ) : Bool :=
  s.workers[i]?.all fun w => w.locals.logFromThread.isEmpty

/-- An exception starts in the main thread only with nothing saved for the replay and with the
default connection in place, and a worker that saves its log while the exception waits for the
workers has captured nothing. A fatal message comes only from a thread that captures nothing and
has captured nothing, with nothing saved for the replay unless the replay is over. -/
def leavesNothing (s : System) : Event → Bool
  | .main .throw => s.nothingSaved && s.main.defaultConnection = s.cfg.getDefaultConnectionName
  | .worker i (.exec .saveLogsFromThread) =>
    s.pc ≠ .unwinding || s.cfg.isLoggingToFile || s.nothingCaptured i
  | .main (.fatal _) => pastReplay s.pc || s.nothingSaved
  | .worker i (.fatal _) => s.nothingSaved && s.nothingCaptured i &&
    s.workers[i]?.all fun w => !w.locals.inThread
  | _ => true

/-! ### Aborting -/

def Event.fatalThread : Event → Option ThreadId
  | .main (.fatal _) => some .main
  | .worker i (.fatal _) => some (.worker i)
  | _ => none

/-- Only a fatal message of the main thread changes who aborted. -/
theorem mainStep_aborted {a : MainAction} (h : s.mainStep a = some s') (hnone : s.aborted = none) :
    s'.aborted = Event.fatalThread (.main a) := by
  cases a with
  | exec stmt =>
    cases execMainStmt_move h with
    | message a m aborted ha => cases ha
    | _ => exact hnone
  | fatal message =>
    simp only [mainStep] at h
    split at h
    · cases h
      rfl
    · cases h
  | emit | log | throw =>
    simp only [mainStep] at h
    split at h
    · cases h
      exact hnone
    · cases h

theorem step_aborted (h : s.step e = some s') : s'.aborted = e.fatalThread := by
  simp only [step] at h
  split at h
  case isTrue => cases h
  case isFalse hnone =>
    have hnone : s.aborted = none := by simpa using hnone
    cases e with
    | main a => exact mainStep_aborted h hnone
    | worker i a =>
      simp only at h
      split at h
      · cases h
      · split at h
        · cases h
        · cases h
          cases a <;> rfl

/-! ### Every state of a run that meets the condition -/

/-- The main thread is past restoring the default connection. -/
def pastRestore (pc : MainPc) : Bool := pc = .replayThrdLogToConsole || pastReplay pc

/-- An exception is on its way out of the main thread, or has left it. -/
def leaving (pc : MainPc) : Bool := pc = .unwinding || pc = .left

structure ExitInvariant (es : List Event) (s : System) : Prop where
  leaving : leaving s.pc = true → s.nothingSaved = true ∧
    s.main.defaultConnection = s.cfg.getDefaultConnectionName
  aborted : ∀ t, s.aborted = some t → (pastReplay s.pc = true ∨ s.nothingSaved = true) ∧
    (∀ i, t = .worker i → captured (historyOf i es) = []) ∧
    ∃ message, es.getLast? = some (fatalOf t message) ∧
      s.shared.console.getLast? = some (t, ⟨.fatal, message⟩)
  restored : pastRestore s.pc = true →
    s.main.defaultConnection = s.cfg.getDefaultConnectionName

theorem nothingSaved_congr (hlogs : s'.shared.logsFromThreads = s.shared.logsFromThreads)
    (hcfg : s'.cfg = s.cfg) : s'.nothingSaved = s.nothingSaved := by
  unfold nothingSaved savedMessages
  rw [hcfg, hlogs]

/-- The main thread keeps what an exception needs once it is on its way. -/
theorem ExitInvariant.main_leaving {a : MainAction} (h : ExitInvariant es s)
    (hthreads : Threads cfg es s) (hguard : leavesNothing s (.main a) = true)
    (hmove : MainMove s a s') (hleaving : System.leaving s'.pc = true) :
    s'.nothingSaved = true ∧ s'.main.defaultConnection = s'.cfg.getDefaultConnectionName := by
  have hlogs := (hmove.effect hthreads.inThread).logs.2.1
  cases hmove with
  | throw hthrow =>
    simp only [leavesNothing, Bool.and_eq_true, decide_eq_true_eq] at hguard
    exact hguard
  | propagate hpc hjoined => exact h.leaving (by rw [hpc]; rfl)
  | message a m _ ha hended =>
    obtain ⟨hsaved, hdefault⟩ := h.leaving hleaving
    rw [tinyMessageHandler_console hthreads.inThread] at hlogs ⊢
    exact ⟨(nothingSaved_congr hlogs rfl).trans hsaved, hdefault⟩
  | log amount htests =>
    rcases hpc : s.pc with _ | _ | _ | _ | _ | _ | _ | _ | _ | _ | _ <;>
      simp [System.leaving, inMainTests, hpc] at hleaving htests
  | _ => cases hleaving

theorem ExitInvariant.main {a : MainAction} (h : ExitInvariant es s) (hthreads : Threads cfg es s)
    (hguard : leavesNothing s (.main a) = true) (hmove : MainMove s a s')
    (haborted : s'.aborted = Event.fatalThread (.main a)) :
    ExitInvariant (es ++ [.main a]) s' := by
  have hlogs := (hmove.effect hthreads.inThread).logs.2.1
  refine ⟨h.main_leaving hthreads hguard hmove, ?_, ?_⟩
  · intro t ht
    rw [haborted] at ht
    cases a with
    | fatal message =>
      cases ht
      have hconsole := (hmove.effect hthreads.inThread).console
      refine ⟨?_, fun i hi => (by cases hi), message, (by simp [fatalOf]), ?_⟩
      · simp only [leavesNothing, Bool.or_eq_true] at hguard
        cases hmove with
        | message _ m _ ha =>
          exact hguard.imp_right (nothingSaved_congr hlogs rfl).trans
      · rw [hconsole]
        simp [printedByMain, MainAction.message?]
    | _ => cases ht
  · intro hpast
    cases hmove with
    | restore hpc => rfl
    | replay hpc hfile main shared hreplay =>
      rw [replay_eq hthreads.inThread] at hreplay
      cases hreplay
      exact h.restored (by rw [hpc]; rfl)
    | skipReplay hpc | saveCounters _ hpc | summary hpc => exact h.restored (by rw [hpc]; rfl)
    | message a m _ ha =>
      rw [tinyMessageHandler_console hthreads.inThread]
      exact h.restored hpast
    | log => exact h.restored hpast
    | _ => cases hpast

/-- A worker saves nothing while an exception waits for it. -/
theorem worker_nothingSaved {i : ℕ} {a : WorkerAction} {w w' : Worker} {shared : Shared}
    {aborted : Option ThreadId} (hguard : leavesNothing s (.worker i a) = true)
    (hw : s.workers[i]? = some w) (hmove : WorkerMove s.cfg i w s.shared a w' shared)
    (hpc : s.pc = .unwinding) (hsaved : s.nothingSaved = true) :
    nothingSaved { s with workers := s.workers.set i w', shared, aborted } = true := by
  rcases hmove.effect.logs with ⟨rfl, rfl⟩ | ⟨-, -, hlogs, -⟩
  · simp only [leavesNothing, nothingCaptured, hpc, hw, Option.all_some, ne_eq,
      not_true_eq_false, decide_false, Bool.false_or] at hguard
    simp only [nothingSaved, savedMessages] at hsaved ⊢
    rw [saveLogs_logs]
    cases hfile : s.cfg.isLoggingToFile with
    | true => rfl
    | false =>
      rw [hfile, Bool.false_or, List.isEmpty_iff] at hguard hsaved
      simp [hguard, hsaved]
  · rw [← hsaved]
    exact nothingSaved_congr hlogs rfl

theorem ExitInvariant.worker {i : ℕ} {a : WorkerAction} {w w' : Worker} {shared : Shared}
    {aborted : Option ThreadId} (h : ExitInvariant es s) (hthreads : Threads cfg es s)
    (hguard : leavesNothing s (.worker i a) = true) (hw : s.workers[i]? = some w)
    (hmove : WorkerMove s.cfg i w s.shared a w' shared)
    (haborted : aborted = Event.fatalThread (.worker i a)) :
    ExitInvariant (es ++ [.worker i a])
      { s with workers := s.workers.set i w', shared, aborted } := by
  refine ⟨?_, ?_, h.restored⟩
  · intro hleaving
    obtain ⟨hsaved, hdefault⟩ := h.leaving hleaving
    refine ⟨worker_nothingSaved hguard hw hmove ?_ hsaved, hdefault⟩
    have hpast : ¬ s.pc = .left := by
      intro hleft
      have hfinished := hthreads.joined (by rw [hleft]; rfl) w (List.mem_of_getElem? hw)
      exact hmove.not_finished hfinished
    simpa [System.leaving, hpast] using hleaving
  · intro t ht
    rw [show aborted = some t from ht] at haborted
    cases a with
    | fatal message =>
      cases haborted
      simp only [leavesNothing, nothingCaptured, hw, Option.all_some, Bool.and_eq_true,
        Bool.not_eq_true', List.isEmpty_iff] at hguard
      obtain ⟨⟨hsaved, hlog⟩, hin⟩ := hguard
      refine ⟨Or.inr ?_, ?_, message, (by simp [fatalOf]), ?_⟩
      · rcases hmove.effect.logs with ⟨ha, -⟩ | ⟨-, -, hlogs, -⟩
        · cases ha
        · rw [← hsaved]
          exact nothingSaved_congr hlogs rfl
      · intro k hk
        cases hk
        rw [historyOf_self, ((hthreads.workers i w hw).step hmove).captured_eq]
        cases hmove with
        | capture _ _ _ _ hcapture => exact absurd (hin.symm.trans hcapture) Bool.false_ne_true
        | print => exact hlog
      · rw [hmove.effect.console]
        simp [printedBy, hin, WorkerAction.message?]
    | _ => cases haborted

theorem ExitInvariant.step (h : ExitInvariant es s) (hthreads : Threads cfg es s)
    (hguard : leavesNothing s e = true) (hstep : s.step e = some s') :
    ExitInvariant (es ++ [e]) s' := by
  have haborted := step_aborted hstep
  cases step_move hstep with
  | main hmain => exact h.main hthreads hguard hmain haborted
  | worker _ hw hworker => exact h.worker hthreads hguard hw hworker haborted

end TinyPlay.System

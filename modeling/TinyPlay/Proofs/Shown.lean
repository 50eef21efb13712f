import TinyPlay.Proofs.Aggregate
import TinyPlay.Proofs.Titles
import TinyPlay.Sanity.Pool

/-! What the blocks of a `logQueryCounters` call show. The layout of a block, and in the threaded
mode the counters it prints, depend on what its title contains, and the title of a connection's
block contains the name of the connection. -/

namespace TinyPlay

open Attempt

variable {σ : Type} {orm : Orm σ} {cs : List String}

/-! ### What a call takes -/

/-- What TinyORM hands out for one connection, whether it counts, and the connections after it. -/
structure ConnectionTake (σ : Type) where
  name : String
  counters : BlockCounters
  countsElapsed : Bool
  countsStatements : Bool
  db : σ

def takeConnection (orm : Orm σ) (db : σ) (name : String) : Except Exn (ConnectionTake σ) :=
  (orm.connection db name).map fun db =>
    let elapsed := orm.elapsed.take db name
    let statements := orm.statements.take elapsed.2 name
    { name
      counters := ⟨elapsed.1, statements.1, orm.getRecordsHaveBeenModified statements.2 name⟩
      countsElapsed := orm.elapsed.counting elapsed.2 name
      countsStatements := orm.statements.counting statements.2 name
      db := statements.2 }

/-- What is taken from one connection after the other, up to the first that cannot be opened. -/
def takeAll (orm : Orm σ) : σ → List String → List (ConnectionTake σ)
  | _, [] => []
  | db, name :: names =>
    match takeConnection orm db name with
    | .ok take => take :: takeAll orm take.db names
    | .error _ => []

/-- The names of the connections that a call gets to. -/
def reached (orm : Orm σ) (db : σ) (cs : List String) : List String :=
  (takeAll orm db cs).map ConnectionTake.name

/-- What a connection adds to the sums. -/
def ConnectionTake.counted (take : ConnectionTake σ) : ThreadCounters where
  functionsElapsed := 0
  queriesElapsed := if take.countsElapsed then take.counters.queriesElapsed else 0
  statementsCounter := if take.countsStatements then take.counters.statementsCounter else 0
  recordsHaveBeenModified := take.counters.recordsHaveBeenModified

def BlockCounters.add (start : BlockCounters) (sum : ThreadCounters) : BlockCounters where
  queriesElapsed := start.queriesElapsed + sum.queriesElapsed
  statementsCounter := start.statementsCounter + sum.statementsCounter
  recordsHaveBeenModified := start.recordsHaveBeenModified || sum.recordsHaveBeenModified

theorem BlockCounters.add_zero (b : BlockCounters) : b.add 0 = b := by
  ext <;> simp [add, ThreadCounters.zero_def, StatementsCounter.add_def,
    StatementsCounter.zero_def]

/-- One turn of the loop hands on what the connection gave. -/
theorem logConnection_taken {s s' : LogLoop σ} {name : String}
    (h : logConnection orm s name = .ok s') : ∃ take, takeConnection orm s.db name = .ok take ∧
      take.name = name ∧ s'.db = take.db ∧ s'.summary = s.summary.add take.counted ∧
      s'.blocks = s.blocks ++ [(name, take.counters)] := by
  obtain ⟨db, hopen, -⟩ := bind_eq_ok.mp h
  simp only [logConnection, hopen, bind, Except.bind, pure, Except.pure, Except.ok.injEq] at h
  subst h
  refine ⟨_, by rw [takeConnection, hopen]; rfl, rfl, rfl, ?_, rfl⟩
  ext <;> dsimp only [BlockCounters.add, ConnectionTake.counted] <;> split_ifs <;>
    simp [StatementsCounter.add_def, StatementsCounter.zero_def]

/-- The loop of a call: what it throws, if anything, and its variables then. -/
def attemptLog (orm : Orm σ) (cs : List String) (s : LogLoop σ) : Except Exn Unit × LogLoop σ :=
  attempt (fun name s => logConnection orm s name) cs s

/-- A loop that throws nothing has got to every connection. -/
theorem reached_of_ok {s : LogLoop σ} (h : (attemptLog orm cs s).1 = .ok ()) :
    reached orm s.db cs = cs := by
  induction cs generalizing s with
  | nil => rfl
  | cons c cs ih =>
    cases hstep : logConnection orm s c with
    | ok s₁ =>
      obtain ⟨take, htake, hname, hdb, -⟩ := logConnection_taken hstep
      rw [attemptLog, attempt_cons_ok hstep] at h
      have hrest := ih h
      rw [hdb] at hrest
      rw [reached, takeAll, htake, List.map_cons, hname]
      exact congrArg (c :: ·) hrest
    | error e =>
      rw [attemptLog, attempt_cons_error hstep] at h
      cases h

/-- The variables of the loop at its start. -/
def logStart (orm : Orm σ) (t : CountingThread σ) (functionElapsed : Option ℤ) : LogLoop σ where
  db := t.db
  counters := { t.counters with
    functionsElapsed := t.counters.functionsElapsed + functionElapsed.getD 0 }
  summary := summaryStart orm t.db
  blocks := []

theorem logQueryCounters_ok_iff {t t' : CountingThread σ} {fe : Option ℤ} :
    logQueryCounters orm cs t fe = .ok t' ↔
      ∃ s, attemptLog orm cs (logStart orm t fe) = (.ok (), s) ∧
        t' = ⟨s.db, s.counters, t.reports ++ [⟨fe, s.blocks, s.summary⟩]⟩ := by
  simp only [attemptLog, attempt_ok_iff]
  constructor
  · intro h
    obtain ⟨s, hloop, hs⟩ := bind_eq_ok.mp h
    exact ⟨s, hloop, (Except.ok.inj hs).symm⟩
  · rintro ⟨s, hloop, rfl⟩
    exact bind_eq_ok.mpr ⟨s, hloop, rfl⟩

/-- A call that returns has got to every connection and reports what the loop leaves. -/
theorem logQueryCounters_attempted {t t' : CountingThread σ} {fe : Option ℤ}
    (h : logQueryCounters orm cs t fe = .ok t') : reached orm t.db cs = cs ∧
      ∃ report, t'.reports = t.reports ++ [report] ∧
        report.connections = (attemptLog orm cs (logStart orm t fe)).2.blocks ∧
        report.summary = (attemptLog orm cs (logStart orm t fe)).2.summary := by
  obtain ⟨s, hloop, rfl⟩ := logQueryCounters_ok_iff.mp h
  have hreached : reached orm (logStart orm t fe).db cs = cs :=
    reached_of_ok (congrArg Prod.fst hloop)
  exact ⟨hreached, _, rfl, by rw [hloop], by rw [hloop]⟩

/-! ### The layout -/

variable {p : Printer} {title : String}

/-- The blocks of these connections. -/
def Printer.connectionBlocks (p : Printer) (blocks : List (String × BlockCounters)) :
    List (List String) :=
  blocks.map fun block => p.logQueryCountersBlock (connectionTitle block.1) block.2

theorem logQueryCounters_blocks (p : Printer) (func : String) (report : CountersReport) :
    ∃ head line, p.logQueryCounters func report =
      head ++ (p.connectionBlocks report.connections).flatten ++
        p.logQueryCountersBlock "Summary" report.summary ++ [line] := by
  unfold Printer.logQueryCounters Printer.connectionBlocks
  rw [List.flatMap_def]
  exact ⟨_, _, rfl⟩

end TinyPlay

import TinyPlay.Spec.AppCounters

/-! Counting the statements of one thread. `Orm` stands for the connections of TinyORM that the
thread uses: the functions of `DB` and `DatabaseConnection` the service calls, over an unknown
state `σ`. `Orm.Lawful` lists what is assumed of them. -/

namespace TinyPlay

/-- What a statement counts as. -/
inductive StatementKind where
  | normal
  | affecting
  | transactional
  deriving DecidableEq, Repr

/-- One column of a counter. -/
def StatementsCounter.column (c : StatementsCounter) : StatementKind → ℤ
  | .normal => c.normal
  | .affecting => c.affecting
  | .transactional => c.transactional

/-- One executed statement. -/
def StatementsCounter.single : StatementKind → StatementsCounter
  | .normal => ⟨1, 0, 0⟩
  | .affecting => ⟨0, 1, 0⟩
  | .transactional => ⟨0, 0, 1⟩

namespace StatementsCounter

@[simp] theorem column_zero (kind : StatementKind) : (0 : StatementsCounter).column kind = 0 := by
  cases kind <;> rfl

@[simp] theorem column_add (a b : StatementsCounter) (kind : StatementKind) :
    (a + b).column kind = a.column kind + b.column kind := by
  cases kind <;> rfl

@[simp] theorem column_neg_one (kind : StatementKind) :
    (⟨-1, -1, -1⟩ : StatementsCounter).column kind = -1 := by
  cases kind <;> rfl

@[simp] theorem column_single (k kind : StatementKind) :
    (single k).column kind = if k = kind then 1 else 0 := by
  cases k <;> cases kind <;> rfl

end StatementsCounter

/-- One of the two counters of a connection: elapsed time or statements. -/
structure ConnectionCounter (σ V : Type) where
  enable : σ → List String → σ
  reset : σ → List String → σ
  anyCounting : σ → Bool
  counting : σ → String → Bool
  take : σ → String → V × σ

structure Orm (σ : Type) where
  /-- `DB::connection(name)`, which opens the connection when it has to -/
  connection : σ → String → Except Exn σ
  openedConnectionNames : σ → List String
  elapsed : ConnectionCounter σ ℤ
  statements : ConnectionCounter σ StatementsCounter
  forgetRecordModificationState : σ → String → σ
  getRecordsHaveBeenModified : σ → String → Bool
  /-- A statement of some kind is executed on a connection and takes some milliseconds. -/
  execute : σ → String → StatementKind → ℕ → σ

/-! ### The service -/

/-- The arguments of `logQueryCountersBlock` after its title. -/
@[ext] structure BlockCounters where
  queriesElapsed : ℤ
  statementsCounter : StatementsCounter
  recordsHaveBeenModified : Bool
  deriving DecidableEq, Repr

/-- What one `logQueryCounters` call hands to the printing code. -/
structure CountersReport where
  functionElapsed : Option ℤ
  /-- the blocks of the connections, in order -/
  connections : List (String × BlockCounters)
  summary : BlockCounters
  deriving DecidableEq, Repr

/-- A thread: its connections, its running totals and what it has logged so far. -/
structure CountingThread (σ : Type) where
  db : σ
  counters : ThreadCounters
  reports : List CountersReport

section Service

variable {σ : Type} (orm : Orm σ)

def openConnections (db : σ) (connections : List String) : Except Exn σ :=
  connections.foldlM orm.connection db

def throwIfClosedConnection (db : σ) (connections : List String) : Except Exn Unit :=
  match connections.find? fun connection =>
      !(orm.openedConnectionNames db).contains connection with
  | none => .ok ()
  | some connection => .error (.runtimeError
      ("Database connection '" ++ connection ++ "' was not opened correctly."))

/-- `cs` is `Configuration::ConnectionsToCount`. -/
def enableAllQueryLogCounters (cs : List String) (db : σ) : Except Exn σ := do
  let db ← openConnections orm db cs
  throwIfClosedConnection orm db cs
  let db := orm.elapsed.enable db cs
  return orm.statements.enable db cs

def resetAllQueryLogCounters (cs : List String) (db : σ) : σ :=
  let db := orm.elapsed.reset db cs
  let db := orm.statements.reset db cs
  cs.foldl orm.forgetRecordModificationState db

/-- The variables of the loop in `logQueryCounters`. -/
structure LogLoop (σ : Type) where
  db : σ
  counters : ThreadCounters
  summary : BlockCounters
  blocks : List (String × BlockCounters)

/-- The body of the loop in `logQueryCounters`, for one connection. -/
def logConnection (s : LogLoop σ) (connectionName : String) : Except Exn (LogLoop σ) := do
  let db ← orm.connection s.db connectionName
  let (queriesElapsed, db) := orm.elapsed.take db connectionName
  -- Don't count if counting is not enabled
  let (summaryElapsed, threadElapsed) :=
    if orm.elapsed.counting db connectionName then
      (s.summary.queriesElapsed + queriesElapsed, s.counters.queriesElapsed + queriesElapsed)
    else (s.summary.queriesElapsed, s.counters.queriesElapsed)
  let (statementsCounter, db) := orm.statements.take db connectionName
  -- Count only when the counting is enabled
  let (summaryStatements, threadStatements) :=
    if orm.statements.counting db connectionName then
      (s.summary.statementsCounter + statementsCounter,
        s.counters.statementsCounter + statementsCounter)
    else (s.summary.statementsCounter, s.counters.statementsCounter)
  let modified := orm.getRecordsHaveBeenModified db connectionName
  return {
    db
    counters := {
      functionsElapsed := s.counters.functionsElapsed
      queriesElapsed := threadElapsed
      statementsCounter := threadStatements
      recordsHaveBeenModified := s.counters.recordsHaveBeenModified || modified }
    summary := ⟨summaryElapsed, summaryStatements, s.summary.recordsHaveBeenModified || modified⟩
    blocks := s.blocks ++ [(connectionName, ⟨queriesElapsed, statementsCounter, modified⟩)] }

/-- The counters that the summary starts from: -1 where nothing counts. -/
def summaryStart (db : σ) : BlockCounters where
  queriesElapsed := if orm.elapsed.anyCounting db then 0 else -1
  statementsCounter := if orm.statements.anyCounting db then ⟨0, 0, 0⟩ else ⟨-1, -1, -1⟩
  recordsHaveBeenModified := false

def logQueryCounters (cs : List String) (t : CountingThread σ) (functionElapsed : Option ℤ) :
    Except Exn (CountingThread σ) := do
  let counters := { t.counters with
    functionsElapsed := t.counters.functionsElapsed + functionElapsed.getD 0 }
  let s ← cs.foldlM (logConnection orm) ⟨t.db, counters, summaryStart orm t.db, []⟩
  return ⟨s.db, s.counters, t.reports ++ [⟨functionElapsed, s.blocks, s.summary⟩]⟩

/-! ### The calls of one thread -/

inductive CountingOp where
  | enableAllQueryLogCounters
  | resetAllQueryLogCounters
  | execute (connection : String) (kind : StatementKind) (elapsed : ℕ)
  | logQueryCounters (functionElapsed : Option ℤ)
  deriving DecidableEq, Repr

def CountingThread.step (cs : List String) (t : CountingThread σ) :
    CountingOp → Except Exn (CountingThread σ)
  | .enableAllQueryLogCounters =>
    (enableAllQueryLogCounters orm cs t.db).map fun db => { t with db }
  | .resetAllQueryLogCounters => .ok { t with db := resetAllQueryLogCounters orm cs t.db }
  | .execute connection kind elapsed =>
    .ok { t with db := orm.execute t.db connection kind elapsed }
  | .logQueryCounters functionElapsed => logQueryCounters orm cs t functionElapsed

def CountingThread.run (cs : List String) (t : CountingThread σ) (ops : List CountingOp) :
    Except Exn (CountingThread σ) :=
  ops.foldlM (CountingThread.step orm cs) t

/-- A thread together with the application counters it saves into. -/
structure SavingThread (σ : Type) where
  thread : CountingThread σ
  app : AppCounters

inductive SavingOp (σ : Type) where
  | logQueryCounters (functionElapsed : Option ℤ)
  | saveCountersForAppSummary
  /-- another thread saves its counters -/
  | otherThread (threadName : String) (counters : ThreadCounters)
  /-- whatever happens to the connections between the calls -/
  | useConnections (db : σ)

/-- The thread saves under the name `threadName`. -/
def SavingThread.step (cs : List String) (threadName : String) (s : SavingThread σ) :
    SavingOp σ → Except Exn (SavingThread σ)
  | .logQueryCounters functionElapsed =>
    (logQueryCounters orm cs s.thread functionElapsed).map fun thread => { s with thread }
  | .saveCountersForAppSummary =>
    (s.app.saveCountersForAppSummary s.thread.counters threadName).map fun app => { s with app }
  | .otherThread name counters =>
    (s.app.saveCountersForAppSummary counters name).map fun app => { s with app }
  | .useConnections db => .ok { s with thread := { s.thread with db } }

def SavingThread.run (cs : List String) (threadName : String) (s : SavingThread σ)
    (ops : List (SavingOp σ)) : Except Exn (SavingThread σ) :=
  ops.foldlM (SavingThread.step orm cs threadName) s

/-- A thread that has logged nothing, after the constructor of the service. -/
def SavingThread.start (db : σ) : SavingThread σ := ⟨⟨db, 0, []⟩, AppCounters.constructed⟩

end Service

/-! ### What is assumed of TinyORM -/

/-- `pending` is the value a counter has collected on a connection since it was last taken,
reset or enabled; a counter that is off has nothing pending. -/
structure ConnectionCounter.Lawful {σ V : Type} [Zero V] (counter : ConnectionCounter σ V)
    (opened : σ → List String) (off : V) (pending : σ → String → V) : Prop where
  counting_opened : ∀ s n, counter.counting s n = true → n ∈ opened s
  anyCounting_iff : ∀ s, counter.anyCounting s = true ↔ ∃ n ∈ opened s, counter.counting s n = true
  pending_off : ∀ s n, counter.counting s n = false → pending s n = 0
  take_value : ∀ s n, (counter.take s n).1 = if counter.counting s n then pending s n else off
  take_pending : ∀ s n, pending (counter.take s n).2 = Function.update (pending s) n 0
  take_counting : ∀ s n, counter.counting (counter.take s n).2 = counter.counting s
  enable_pending : ∀ s ns n, pending (counter.enable s ns) n = if n ∈ ns then 0 else pending s n
  enable_counting : ∀ s ns n,
    counter.counting (counter.enable s ns) n = (decide (n ∈ ns) || counter.counting s n)
  reset_pending : ∀ s ns n, pending (counter.reset s ns) n = if n ∈ ns then 0 else pending s n
  reset_counting : ∀ s ns, counter.counting (counter.reset s ns) = counter.counting s

/-- A state change that a counter does not see. -/
def ConnectionCounter.Unaffected {σ V : Type} (counter : ConnectionCounter σ V)
    (pending : σ → String → V) (s s' : σ) : Prop :=
  counter.counting s' = counter.counting s ∧ pending s' = pending s

/-- The laws for one of the two counters; `other` is the other one, and `amount` is what a
statement adds. Opening a connection starts no counting, so it changes nothing here. -/
structure Orm.CounterLawful {σ V W : Type} [Zero V] [Add V] (orm : Orm σ)
    (counter : ConnectionCounter σ V) (other : ConnectionCounter σ W) (off : V)
    (pending : σ → String → V) (amount : StatementKind → ℕ → V) : Prop
    extends counter.Lawful orm.openedConnectionNames off pending where
  connection : ∀ s n s', orm.connection s n = .ok s' → counter.Unaffected pending s s'
  forget : ∀ s n, counter.Unaffected pending s (orm.forgetRecordModificationState s n)
  other_take : ∀ s n, counter.Unaffected pending s (other.take s n).2
  other_enable : ∀ s ns, counter.Unaffected pending s (other.enable s ns)
  other_reset : ∀ s ns, counter.Unaffected pending s (other.reset s ns)
  execute_counting : ∀ s c k ms, counter.counting (orm.execute s c k ms) = counter.counting s
  execute_pending : ∀ s c k ms, pending (orm.execute s c k ms) =
    if counter.counting s c then Function.update (pending s) c (pending s c + amount k ms)
    else pending s

structure Orm.Lawful {σ : Type} (orm : Orm σ) (pendingElapsed : σ → String → ℤ)
    (pendingStatements : σ → String → StatementsCounter) : Prop where
  elapsed : orm.CounterLawful orm.elapsed orm.statements (-1) pendingElapsed
    fun _ ms => (ms : ℤ)
  statements : orm.CounterLawful orm.statements orm.elapsed ⟨-1, -1, -1⟩ pendingStatements
    fun kind _ => StatementsCounter.single kind

end TinyPlay

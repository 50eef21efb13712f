import TinyPlay.Lib.Index
import TinyPlay.Spec.Configuration
import Mathlib.Algebra.Ring.Int.Defs

/-! The counters of a thread and of the whole application. Each thread owns four
`thread_local` running totals; the service keeps four vectors of named entries and a map from
thread names to positions. How a sum is stored in an `int` or a `qint64` is left open: `Store` says
so, and by default nothing overflows. -/

namespace TinyPlay

/-- `Orm::StatementsCounter` -/
@[ext] structure StatementsCounter where
  normal : ℤ
  affecting : ℤ
  transactional : ℤ
  deriving DecidableEq, Repr

/-- The running totals `m_thread*` of one thread. -/
@[ext] structure ThreadCounters where
  functionsElapsed : ℤ
  queriesElapsed : ℤ
  statementsCounter : StatementsCounter
  recordsHaveBeenModified : Bool
  deriving DecidableEq, Repr

namespace StatementsCounter

instance : Zero StatementsCounter := ⟨⟨0, 0, 0⟩⟩

instance : Add StatementsCounter :=
  ⟨fun a b => ⟨a.normal + b.normal, a.affecting + b.affecting, a.transactional + b.transactional⟩⟩

theorem zero_def : (0 : StatementsCounter) = ⟨0, 0, 0⟩ := rfl

theorem add_def (a b : StatementsCounter) : a + b =
    ⟨a.normal + b.normal, a.affecting + b.affecting, a.transactional + b.transactional⟩ := rfl

end StatementsCounter

namespace ThreadCounters

/-- Initial values of the thread-local members. -/
instance : Zero ThreadCounters := ⟨⟨0, 0, 0, false⟩⟩

/-- Counters add up, the records-modified flag is or-ed. -/
instance : Add ThreadCounters :=
  ⟨fun a b => ⟨a.functionsElapsed + b.functionsElapsed, a.queriesElapsed + b.queriesElapsed,
    a.statementsCounter + b.statementsCounter,
    a.recordsHaveBeenModified || b.recordsHaveBeenModified⟩⟩

theorem zero_def : (0 : ThreadCounters) = ⟨0, 0, 0, false⟩ := rfl

theorem add_def (a b : ThreadCounters) : a + b =
    ⟨a.functionsElapsed + b.functionsElapsed, a.queriesElapsed + b.queriesElapsed,
      a.statementsCounter + b.statementsCounter,
      a.recordsHaveBeenModified || b.recordsHaveBeenModified⟩ := rfl

instance : AddCommMonoid ThreadCounters where
  add_assoc a b c := by
    ext <;> simp [add_def, StatementsCounter.add_def, Int.add_assoc, Bool.or_assoc]
  zero_add a := by
    ext <;> simp [add_def, zero_def, StatementsCounter.add_def, StatementsCounter.zero_def]
  add_zero a := by
    ext <;> simp [add_def, zero_def, StatementsCounter.add_def, StatementsCounter.zero_def]
  add_comm a b := by
    ext <;> simp [add_def, StatementsCounter.add_def, Int.add_comm, Bool.or_comm]
  nsmul := nsmulRec

end ThreadCounters

/-- What an `int` and a `qint64` hold after a sum is stored in them. -/
structure Store where
  int : ℤ → ℤ
  qint64 : ℤ → ℤ

/-- Sums without an overflow. -/
def Store.unbounded : Store := ⟨id, id⟩

/-- One entry of a counter vector. -/
structure AppCounterItem (T : Type) where
  threadName : String
  value : T
  deriving DecidableEq, Repr

/-- The application counters of `QueryCountersService`. -/
structure AppCounters where
  functionsElapsed : List (AppCounterItem ℤ)
  queriesElapsed : List (AppCounterItem ℤ)
  statementsCounter : List (AppCounterItem StatementsCounter)
  recordsHaveBeenModified : List (AppCounterItem Bool)
  countersMap : AList fun _ : String => ℕ

namespace AppCounters

/-- The default member initializers. -/
def empty : AppCounters := ⟨[], [], [], [], ∅⟩

/-- `t` are the counters of the calling thread. -/
def newCountersForAppSummary (app : AppCounters) (t : ThreadCounters) (threadName : String) :
    AppCounters :=
  let functionsElapsed := app.functionsElapsed ++ [⟨threadName, t.functionsElapsed⟩]
  { functionsElapsed
    queriesElapsed := app.queriesElapsed ++ [⟨threadName, t.queriesElapsed⟩]
    statementsCounter := app.statementsCounter ++ [⟨threadName, t.statementsCounter⟩]
    recordsHaveBeenModified :=
      app.recordsHaveBeenModified ++ [⟨threadName, t.recordsHaveBeenModified⟩]
    countersMap := app.countersMap.emplace threadName (functionsElapsed.length - 1) }

/-- `v.at(i).value` updated by `f`. -/
def updateAt {T : Type} (v : List (AppCounterItem T)) (i : ℕ) (f : T → T) :
    Except Exn (List (AppCounterItem T)) :=
  if i < v.length then .ok (v.modify i fun item => { item with value := f item.value })
  else .error .outOfRange

/-- `m_appCountersMap[threadName]`, which inserts a missing name. -/
def subscript (app : AppCounters) (threadName : String) : ℕ × AppCounters :=
  let (i, countersMap) := app.countersMap.subscript threadName
  (i, { app with countersMap })

def addCountersForAppSummary (app : AppCounters) (t : ThreadCounters) (threadName : String)
    (store : Store := .unbounded) : Except Exn AppCounters := do
  let (i, app) := app.subscript threadName
  let functionsElapsed ← updateAt app.functionsElapsed i
    fun v => store.qint64 (v + t.functionsElapsed)
  let (i, app) := { app with functionsElapsed }.subscript threadName
  let queriesElapsed ← updateAt app.queriesElapsed i fun v => store.qint64 (v + t.queriesElapsed)
  let (i, app) := { app with queriesElapsed }.subscript threadName
  let recordsHaveBeenModified ←
    updateAt app.recordsHaveBeenModified i (· || t.recordsHaveBeenModified)
  let (i, app) := { app with recordsHaveBeenModified }.subscript threadName
  let statementsCounter ← updateAt app.statementsCounter i
    fun c => { c with normal := store.int (c.normal + t.statementsCounter.normal) }
  let (i, app) := { app with statementsCounter }.subscript threadName
  let statementsCounter ← updateAt app.statementsCounter i
    fun c => { c with affecting := store.int (c.affecting + t.statementsCounter.affecting) }
  let (i, app) := { app with statementsCounter }.subscript threadName
  let statementsCounter ← updateAt app.statementsCounter i fun c =>
    { c with transactional := store.int (c.transactional + t.statementsCounter.transactional) }
  return { app with statementsCounter }

/-- Runs under `m_countersMutex`. -/
def saveCountersForAppSummary (app : AppCounters) (t : ThreadCounters) (threadName : String)
    (store : Store := .unbounded) : Except Exn AppCounters :=
  if threadName ∈ app.countersMap then app.addCountersForAppSummary t threadName store
  else .ok (app.newCountersForAppSummary t threadName)

/-- The constructor of the service, run in a thread whose counters are still zero. -/
def constructed : AppCounters := empty.newCountersForAppSummary 0 "main"

/-- Calls of `saveCountersForAppSummary` in the order in which they take the mutex, each with
the counters of its thread. -/
def saveAll (app : AppCounters) (calls : List (String × ThreadCounters))
    (store : Store := .unbounded) : Except Exn AppCounters :=
  calls.foldlM (fun app call => app.saveCountersForAppSummary call.2 call.1 store) app

end AppCounters

end TinyPlay

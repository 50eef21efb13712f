import TinyPlay.Lib.Accumulate
import TinyPlay.Lib.Sentinel
import TinyPlay.Spec.AppCounters

/-! The four counter vectors and the index map represent one accumulator under thread names.
Saving counters is one accumulation, on either path, and cannot fail. What it accumulates are the
true sums as long as these fit in an `int` and in a `qint64`. -/

namespace TinyPlay

/-- The addition of a build to the counters of a name. -/
def ThreadCounters.addIn (store : Store) (a b : ThreadCounters) : ThreadCounters where
  functionsElapsed := store.qint64 (a.functionsElapsed + b.functionsElapsed)
  queriesElapsed := store.qint64 (a.queriesElapsed + b.queriesElapsed)
  statementsCounter :=
    { normal := store.int (a.statementsCounter.normal + b.statementsCounter.normal)
      affecting := store.int (a.statementsCounter.affecting + b.statementsCounter.affecting)
      transactional :=
        store.int (a.statementsCounter.transactional + b.statementsCounter.transactional) }
  recordsHaveBeenModified := a.recordsHaveBeenModified || b.recordsHaveBeenModified

namespace AppCounters

open Accumulator

variable {store : Store}

/-- The vectors list the components of the same entries and the map indexes their names. -/
structure Represents (app : AppCounters) (items : List (String × ThreadCounters)) : Prop where
  functionsElapsed : app.functionsElapsed = items.map fun e => ⟨e.1, e.2.functionsElapsed⟩
  queriesElapsed : app.queriesElapsed = items.map fun e => ⟨e.1, e.2.queriesElapsed⟩
  statementsCounter : app.statementsCounter = items.map fun e => ⟨e.1, e.2.statementsCounter⟩
  recordsHaveBeenModified :
    app.recordsHaveBeenModified = items.map fun e => ⟨e.1, e.2.recordsHaveBeenModified⟩
  index : app.countersMap.Indexes (keys items)

theorem Represents.nodup {app : AppCounters} {items : List (String × ThreadCounters)}
    (h : app.Represents items) : (keys items).Nodup := h.index.nodup

theorem empty_represents : empty.Represents [] :=
  ⟨rfl, rfl, rfl, rfl, AList.indexes_empty⟩

/-! ### A new entry -/

theorem newCounters_represents (store : Store) {app : AppCounters}
    {items : List (String × ThreadCounters)} (h : app.Represents items) {n : String}
    (hn : n ∉ keys items) (t : ThreadCounters) :
    (app.newCountersForAppSummary t n).Represents
      (accumulateBy (ThreadCounters.addIn store) items n t) := by
  rw [accumulateBy, if_neg hn]
  refine ⟨?_, ?_, ?_, ?_, ?_⟩
  · simp [newCountersForAppSummary, h.functionsElapsed]
  · simp [newCountersForAppSummary, h.queriesElapsed]
  · simp [newCountersForAppSummary, h.statementsCounter]
  · simp [newCountersForAppSummary, h.recordsHaveBeenModified]
  · have hpush := h.index.push hn
    have hlen : app.functionsElapsed.length = (keys items).length := by
      simp [h.functionsElapsed, keys]
    have hkeys : keys (items ++ [(n, t)]) = keys items ++ [n] := by simp [keys]
    rw [hkeys]
    simpa [newCountersForAppSummary, hlen] using hpush

/-! ### An existing entry -/

private theorem modify_map {α β : Type} {f : α → β} {g : β → β} {k : α → α}
    (h : ∀ a, g (f a) = f (k a)) (l : List α) (i : ℕ) :
    (l.map f).modify i g = (l.modify i k).map f := by
  apply List.ext_getElem?
  intro j
  rw [List.getElem?_modify, List.getElem?_map, List.getElem?_map, List.getElem?_modify]
  cases l[j]? with
  | none => rfl
  | some a => by_cases hij : i = j <;> simp [hij, h]

/-- What the six statements of `addCountersForAppSummary` do at position `i`. -/
def addAt (app : AppCounters) (store : Store) (i : ℕ) (t : ThreadCounters) : AppCounters where
  functionsElapsed := app.functionsElapsed.modify i fun item =>
    { item with value := store.qint64 (item.value + t.functionsElapsed) }
  queriesElapsed := app.queriesElapsed.modify i fun item =>
    { item with value := store.qint64 (item.value + t.queriesElapsed) }
  statementsCounter := app.statementsCounter.modify i fun item =>
    { item with value :=
        { normal := store.int (item.value.normal + t.statementsCounter.normal)
          affecting := store.int (item.value.affecting + t.statementsCounter.affecting)
          transactional :=
            store.int (item.value.transactional + t.statementsCounter.transactional) } }
  recordsHaveBeenModified := app.recordsHaveBeenModified.modify i fun item =>
    { item with value := item.value || t.recordsHaveBeenModified }
  countersMap := app.countersMap

theorem addAt_represents {app : AppCounters} {items : List (String × ThreadCounters)}
    (h : app.Represents items) {n : String} {i : ℕ} (hi : (keys items)[i]? = some n)
    (t : ThreadCounters) :
    (app.addAt store i t).Represents (accumulateBy (ThreadCounters.addIn store) items n t) := by
  have hkeys : keys (accumulateBy (ThreadCounters.addIn store) items n t) = keys items := by
    rw [keys_accumulateBy, if_pos (List.mem_of_getElem? hi)]
  refine ⟨?_, ?_, ?_, ?_, ?_⟩
  · simp only [addAt, accumulateBy_eq_modify h.nodup hi, h.functionsElapsed]
    refine modify_map ?_ items i
    intro e
    rfl
  · simp only [addAt, accumulateBy_eq_modify h.nodup hi, h.queriesElapsed]
    refine modify_map ?_ items i
    intro e
    rfl
  · simp only [addAt, accumulateBy_eq_modify h.nodup hi, h.statementsCounter]
    refine modify_map ?_ items i
    intro e
    rfl
  · simp only [addAt, accumulateBy_eq_modify h.nodup hi, h.recordsHaveBeenModified]
    refine modify_map ?_ items i
    intro e
    rfl
  · rw [hkeys]
    exact h.index

/-- Every `at()` is in range and every `operator[]` finds the name. -/
theorem addCounters_eq {app : AppCounters} {items : List (String × ThreadCounters)}
    (h : app.Represents items) {n : String} {i : ℕ} (hi : (keys items)[i]? = some n)
    (t : ThreadCounters) :
    app.addCountersForAppSummary t n store = .ok (app.addAt store i t) := by
  have hsub := h.index.subscript_eq hi
  have hlt : i < items.length := by simpa [keys] using (List.getElem?_eq_some_iff.mp hi).1
  have hf : i < app.functionsElapsed.length := by simpa [h.functionsElapsed] using hlt
  have hq : i < app.queriesElapsed.length := by simpa [h.queriesElapsed] using hlt
  have hs : i < app.statementsCounter.length := by simpa [h.statementsCounter] using hlt
  have hr : i < app.recordsHaveBeenModified.length := by
    simpa [h.recordsHaveBeenModified] using hlt
  simp only [addCountersForAppSummary, subscript, hsub, updateAt, hf, hq, hs, hr,
    List.length_modify, if_true, bind, Except.bind, pure, Except.pure, List.modify_modify_eq]
  rfl

/-! ### Saving -/

/-- Either path of a save accumulates the thread's counters under its name. -/
theorem saveIn_represents (store : Store) {app : AppCounters}
    {items : List (String × ThreadCounters)} (h : app.Represents items) (t : ThreadCounters)
    (n : String) : ∃ app', app.saveCountersForAppSummary t n store = .ok app' ∧
      app'.Represents (accumulateBy (ThreadCounters.addIn store) items n t) := by
  unfold saveCountersForAppSummary
  by_cases hn : n ∈ app.countersMap
  · obtain ⟨i, hi⟩ := List.mem_iff_getElem?.mp ((h.index.mem_iff n).mp hn)
    rw [if_pos hn]
    exact ⟨_, addCounters_eq h hi t, addAt_represents h hi t⟩
  · rw [if_neg hn]
    exact ⟨_, rfl, newCounters_represents store h (fun hk => hn ((h.index.mem_iff n).mpr hk)) t⟩

theorem save_represents {app : AppCounters} {items : List (String × ThreadCounters)}
    (h : app.Represents items) (t : ThreadCounters) (n : String) :
    ∃ app', app.saveCountersForAppSummary t n = .ok app' ∧
      app'.Represents (accumulate items n t) := saveIn_represents .unbounded h t n

/-- The entries after the constructor. -/
def constructedItems : List (String × ThreadCounters) := [("main", 0)]

theorem total_constructedItems (n : String) : total constructedItems n = 0 := by
  unfold constructedItems
  rw [total_cons, total_nil]
  split_ifs <;> rfl

theorem constructed_represents : constructed.Represents constructedItems :=
  newCounters_represents .unbounded empty_represents List.not_mem_nil 0

theorem saveAll_append (app : AppCounters) (calls : List (String × ThreadCounters))
    (c : String × ThreadCounters) :
    app.saveAll (calls ++ [c]) store =
      (app.saveAll calls store).bind fun app' =>
        app'.saveCountersForAppSummary c.2 c.1 store := by
  unfold saveAll
  rw [List.foldlM_append]
  cases calls.foldlM (fun app call => app.saveCountersForAppSummary call.2 call.1 store) app with
  | error e => rfl
  | ok app' =>
    cases hs : app'.saveCountersForAppSummary c.2 c.1 store <;>
      simp [hs, bind, Except.bind, pure, Except.pure]

/-- Any order of any saves runs through and represents the accumulated calls. -/
theorem saveAll_represents (store : Store) {app : AppCounters}
    {items : List (String × ThreadCounters)} (h : app.Represents items)
    (calls : List (String × ThreadCounters)) :
    ∃ app', app.saveAll calls store = .ok app' ∧
      app'.Represents (accumulateAllBy (ThreadCounters.addIn store) items calls) := by
  induction calls using List.reverseRecOn with
  | nil => exact ⟨app, rfl, h⟩
  | append_singleton calls c ih =>
    obtain ⟨app', hrun, hrep⟩ := ih
    obtain ⟨app'', hsave, hrep'⟩ := saveIn_represents store hrep c.2 c.1
    rw [saveAll_append, hrun, accumulateAllBy_append]
    exact ⟨app'', hsave, hrep'⟩

/-! ### Reading the state back -/

/-- The entry of a name, read through the map from all four vectors. -/
def valueOf (app : AppCounters) (n : String) : Option ThreadCounters := do
  let i ← app.countersMap.lookup n
  let functionsElapsed ← app.functionsElapsed[i]?
  let queriesElapsed ← app.queriesElapsed[i]?
  let statementsCounter ← app.statementsCounter[i]?
  let recordsHaveBeenModified ← app.recordsHaveBeenModified[i]?
  return ⟨functionsElapsed.value, queriesElapsed.value, statementsCounter.value,
    recordsHaveBeenModified.value⟩

theorem valueOf_eq {app : AppCounters} {items : List (String × ThreadCounters)}
    (h : app.Represents items) (n : String) :
    app.valueOf n = if n ∈ keys items then some (total items n) else none := by
  unfold valueOf
  by_cases hn : n ∈ keys items
  · obtain ⟨i, hi⟩ := List.mem_iff_getElem?.mp hn
    have hget : (items.map Prod.fst)[i]? = some n := hi
    rw [List.getElem?_map] at hget
    obtain ⟨e, he, hen⟩ := Option.map_eq_some_iff.mp hget
    rw [if_pos hn, (h.index n i).mpr hi, ← hen, total_of_getElem? h.nodup he]
    simp [h.functionsElapsed, h.queriesElapsed, h.statementsCounter, h.recordsHaveBeenModified, he]
  · have hm : n ∉ app.countersMap := fun hmem => hn ((h.index.mem_iff n).mp hmem)
    rw [if_neg hn, AList.lookup_eq_none.mpr hm]
    rfl

theorem valueOf_getD {app : AppCounters} {items : List (String × ThreadCounters)}
    (h : app.Represents items) (n : String) : (app.valueOf n).getD 0 = total items n := by
  rw [valueOf_eq h]
  split_ifs with hn
  · rfl
  · exact (total_of_notMem hn).symm

/-- The representation invariant of the counters, in terms of the vectors and the map alone. -/
structure Consistent (store : Store) (app : AppCounters) : Prop where
  same_length : app.queriesElapsed.length = app.functionsElapsed.length ∧
    app.statementsCounter.length = app.functionsElapsed.length ∧
    app.recordsHaveBeenModified.length = app.functionsElapsed.length
  same_names : app.queriesElapsed.map (·.threadName) = app.functionsElapsed.map (·.threadName) ∧
    app.statementsCounter.map (·.threadName) = app.functionsElapsed.map (·.threadName) ∧
    app.recordsHaveBeenModified.map (·.threadName) = app.functionsElapsed.map (·.threadName)
  nodup : (app.functionsElapsed.map (·.threadName)).Nodup
  main_first : (app.functionsElapsed.map (·.threadName))[0]? = some "main"
  index : ∀ n i, app.countersMap.lookup n = some i ↔
    (app.functionsElapsed.map (·.threadName))[i]? = some n
  /-- Adding to a known name neither throws nor inserts into the map. -/
  add_total : ∀ n t, n ∈ app.countersMap →
    ∃ app', app.addCountersForAppSummary t n store = .ok app' ∧
      app'.countersMap = app.countersMap

theorem Represents.consistent {app : AppCounters} {items : List (String × ThreadCounters)}
    (h : app.Represents items) (hmain : (keys items)[0]? = some "main") :
    app.Consistent store := by
  have hnames : app.functionsElapsed.map (·.threadName) = keys items := by
    simp [h.functionsElapsed, keys]
  refine ⟨?_, ?_, ?_, ?_, ?_, ?_⟩
  · simp [h.functionsElapsed, h.queriesElapsed, h.statementsCounter, h.recordsHaveBeenModified]
  · simp [h.functionsElapsed, h.queriesElapsed, h.statementsCounter, h.recordsHaveBeenModified]
  · rw [hnames]
    exact h.nodup
  · rw [hnames]
    exact hmain
  · rw [hnames]
    exact h.index
  · intro n t hn
    obtain ⟨i, hi⟩ := List.mem_iff_getElem?.mp ((h.index.mem_iff n).mp hn)
    exact ⟨_, addCounters_eq h hi t, rfl⟩

/-- A save appends at the end or changes nothing among the names, so `main` stays first. -/
theorem main_first_accumulateAllBy (add : ThreadCounters → ThreadCounters → ThreadCounters)
    (calls : List (String × ThreadCounters)) :
    (keys (accumulateAllBy add constructedItems calls))[0]? = some "main" := by
  induction calls using List.reverseRecOn with
  | nil => rfl
  | append_singleton calls c ih =>
    rw [accumulateAllBy_append, keys_accumulateBy]
    split_ifs
    · exact ih
    · rw [List.getElem?_append_left]
      · exact ih
      · exact (List.getElem?_eq_some_iff.mp ih).1

end AppCounters

end TinyPlay

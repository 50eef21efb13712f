import TinyPlay.Spec.TestOrm

/-! The lookup map of the saved logs. `saveLogsFromThread` takes the size of the vector after the
push, so each entry of the map is the position behind the log it is meant to find. -/

namespace TinyPlay

variable {cfg : Configuration} {calls : List (ThreadLocals × String)}

/-- Calls of `saveLogsFromThread` in the order in which they hold `mx_dataLogStream`, each with the
thread it runs in. -/
def saveLogs (cfg : Configuration) (s : Shared) (calls : List (ThreadLocals × String)) : Shared :=
  calls.foldl (fun s call => saveLogsFromThread cfg call.1 s call.2) s

/-- The map points at the logs. -/
structure Shared.LogsIndexed (s : Shared) : Prop where
  saved : ∀ item ∈ s.logsFromThreads, item.threadName ∈ s.logsFromThreadsMap
  valid : ∀ name i, s.logsFromThreadsMap.lookup name = some i → i < s.logsFromThreads.length
  named : ∀ name i item, s.logsFromThreadsMap.lookup name = some i →
    s.logsFromThreads[i]? = some item → item.threadName = name

/-- What is known of the saved logs: the map holds the position behind the first log of a name. -/
structure Shared.LogsSaved (s : Shared) (names : List String) : Prop where
  logs : s.logsFromThreads.map LogFromThreadItem.threadName = names
  map : s.logsFromThreadsMap.IndexesFirst 1 names

theorem saveLogsFromThread_saved (hfile : cfg.isLoggingToFile = false) {s : Shared}
    {names : List String} (h : s.LogsSaved names) (t : ThreadLocals) (threadName : String) :
    (saveLogsFromThread cfg t s threadName).LogsSaved (names ++ [threadName]) := by
  have hlength : s.logsFromThreads.length = names.length := by rw [← h.logs, List.length_map]
  unfold saveLogsFromThread
  rw [if_neg (by simp [hfile])]
  refine ⟨?_, ?_⟩
  · dsimp only
    rw [List.map_append, h.logs]
    rfl
  · dsimp only
    rw [List.length_append, hlength]
    exact h.map.push threadName

theorem saveLogs_saved (hfile : cfg.isLoggingToFile = false) {s : Shared} {names : List String}
    (h : s.LogsSaved names) (calls : List (ThreadLocals × String)) :
    (saveLogs cfg s calls).LogsSaved (names ++ calls.map Prod.snd) := by
  induction calls generalizing s names with
  | nil => simpa [saveLogs] using h
  | cons call calls ih =>
    have hstep := ih (saveLogsFromThread_saved hfile h call.1 call.2)
    rw [List.append_assoc] at hstep
    exact hstep

theorem initial_saved : Shared.initial.LogsSaved [] := ⟨rfl, AList.indexesFirst_empty 1⟩

theorem Shared.LogsSaved.indexed_iff {s : Shared} {names : List String} (h : s.LogsSaved names) :
    s.LogsIndexed ↔ ∀ name ∈ names, names[names.idxOf name + 1]? = some name := by
  have hlookup : ∀ name i, s.logsFromThreadsMap.lookup name = some i ↔
      name ∈ names ∧ i = names.idxOf name + 1 := by
    intro name i
    rw [h.map name]
    split_ifs with hmem <;> simp [hmem, eq_comm]
  have hname : ∀ (i : ℕ) (name : String), names[i]? = some name ↔
      ∃ item : LogFromThreadItem, s.logsFromThreads[i]? = some item ∧ item.threadName = name := by
    intro i name
    rw [← h.logs, List.getElem?_map, Option.map_eq_some_iff]
  constructor
  · intro hindexed name hmem
    have hmap := (hlookup name _).mpr ⟨hmem, rfl⟩
    have hitem := List.getElem?_eq_getElem (hindexed.valid name _ hmap)
    exact (hname _ name).mpr ⟨_, hitem, hindexed.named name _ _ hmap hitem⟩
  · intro hall
    have hpoints : ∀ name i, s.logsFromThreadsMap.lookup name = some i →
        ∃ item : LogFromThreadItem, s.logsFromThreads[i]? = some item ∧ item.threadName = name := by
      intro name i hmap
      obtain ⟨hmem, rfl⟩ := (hlookup name i).mp hmap
      exact (hname _ name).mp (hall name hmem)
    refine ⟨?_, ?_, ?_⟩
    · intro item hitem
      have hmem : item.threadName ∈ names := h.logs ▸ List.mem_map_of_mem hitem
      exact AList.lookup_isSome.mp (by rw [(hlookup _ _).mpr ⟨hmem, rfl⟩]; rfl)
    · intro name i hmap
      obtain ⟨item, hitem, -⟩ := hpoints name i hmap
      exact (List.getElem?_eq_some_iff.mp hitem).1
    · intro name i item hmap hitem
      obtain ⟨item', hitem', hname'⟩ := hpoints name i hmap
      obtain rfl := Option.some.inj (hitem.symm.trans hitem')
      exact hname'

/-- The map points at the logs exactly when the first log of every name is followed at once by
another log of the same name. -/
theorem logs_indexed_iff (hfile : cfg.isLoggingToFile = false)
    (calls : List (ThreadLocals × String)) :
    (saveLogs cfg Shared.initial calls).LogsIndexed ↔
      ∀ name ∈ calls.map Prod.snd,
        (calls.map Prod.snd)[(calls.map Prod.snd).idxOf name + 1]? = some name :=
  (saveLogs_saved hfile initial_saved calls).indexed_iff

theorem logs_indexed_iff_twice :
    (saveLogs (Configuration.initial true false ["mysql"]) Shared.initial
      [(.initial, "mysql"), (.initial, "mysql")]).LogsIndexed :=
  (logs_indexed_iff rfl _).mpr (by decide)

/-- After one worker has saved its log, the map points behind it. -/
theorem logs_not_indexed_once :
    (saveLogs (Configuration.initial true false ["mysql"]) Shared.initial
      [(.initial, "mysql")]).logsFromThreadsMap.lookup "mysql" = some 1 ∧
    (saveLogs (Configuration.initial true false ["mysql"]) Shared.initial
      [(.initial, "mysql")]).logsFromThreads.length = 1 ∧
    ¬∀ (cfg : Configuration) (calls : List (ThreadLocals × String)), cfg.isLoggingToFile = false →
      (saveLogs cfg Shared.initial calls).LogsIndexed := by
  refine ⟨by decide, by decide, fun hclaim => ?_⟩
  have hvalid := (hclaim (Configuration.initial true false ["mysql"]) [(.initial, "mysql")]
    rfl).valid "mysql" 1 (by decide)
  exact absurd hvalid (by decide)

end TinyPlay

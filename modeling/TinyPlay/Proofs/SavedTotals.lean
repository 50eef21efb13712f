import TinyPlay.Proofs.AppCounters
import TinyPlay.Proofs.Figure
import TinyPlay.Sanity.Pool

/-! Saving adds the running totals of a thread, which are cumulative, to the entry of its name.
The entry agrees with the totals exactly when nothing but zeros was saved under the name. -/

namespace TinyPlay

open Accumulator

variable {σ : Type} {orm : Orm σ} {cs : List String} {threadName : String}

/-- The three counters of the totals are zero; the flag is left open. -/
def ThreadCounters.NoAmounts (t : ThreadCounters) : Prop :=
  t.functionsElapsed = 0 ∧ t.queriesElapsed = 0 ∧ t.statementsCounter = 0

/-- Under the name no amount has been saved yet. -/
def AppCounters.Unsaved (app : AppCounters) (threadName : String) : Prop :=
  ∀ t, app.valueOf threadName = some t → t.NoAmounts

theorem ThreadCounters.add_eq_right_iff {e t : ThreadCounters}
    (hflag : e.recordsHaveBeenModified = true → t.recordsHaveBeenModified = true) :
    e + t = t ↔ e.NoAmounts := by
  rw [ThreadCounters.ext_iff, NoAmounts, StatementsCounter.ext_iff, StatementsCounter.ext_iff]
  simp only [add_def, StatementsCounter.add_def, StatementsCounter.zero_def]
  refine ⟨?_, ?_⟩
  · intro h
    omega
  · intro h
    refine ⟨by omega, by omega, by omega, ?_⟩
    cases hf : e.recordsHaveBeenModified with
    | false => rfl
    | true => rw [hflag hf, Bool.or_true]

/-! ### Logging only adds to the totals -/

theorem logConnection_adds {s s' : LogLoop σ} {n : String} (h : logConnection orm s n = .ok s') :
    ∃ amount, s'.counters = s.counters + amount := by
  obtain ⟨db, hopen, -⟩ := bind_eq_ok.mp h
  simp only [logConnection, hopen, bind, Except.bind, pure, Except.pure, Except.ok.injEq] at h
  subst h
  refine ⟨⟨0, if orm.elapsed.counting (orm.elapsed.take db n).2 n then (orm.elapsed.take db n).1
    else 0, if orm.statements.counting (orm.statements.take (orm.elapsed.take db n).2 n).2 n then
      (orm.statements.take (orm.elapsed.take db n).2 n).1 else 0,
    orm.getRecordsHaveBeenModified (orm.statements.take (orm.elapsed.take db n).2 n).2 n⟩, ?_⟩
  rw [ThreadCounters.add_def]
  split_ifs <;> simp [StatementsCounter.add_def, StatementsCounter.zero_def]

theorem loop_adds {ds : List String} {s s' : LogLoop σ}
    (h : ds.foldlM (logConnection orm) s = .ok s') :
    ∃ amount, s'.counters = s.counters + amount := by
  induction ds generalizing s with
  | nil =>
    cases h
    exact ⟨0, (add_zero _).symm⟩
  | cons d ds ih =>
    obtain ⟨s₁, h₁, h₂⟩ := bind_eq_ok.mp h
    obtain ⟨amount, hamount⟩ := logConnection_adds h₁
    obtain ⟨amount', hamount'⟩ := ih h₂
    exact ⟨amount + amount', by rw [hamount', hamount, add_assoc]⟩

/-- A finished `logQueryCounters` call is one amount added to the running totals. -/
theorem logQueryCounters_adds {t t' : CountingThread σ} {fe : Option ℤ}
    (h : logQueryCounters orm cs t fe = .ok t') :
    ∃ amount, t'.counters = t.counters + amount := by
  obtain ⟨s, hloop, hs⟩ := bind_eq_ok.mp h
  cases hs
  obtain ⟨amount, hamount⟩ := loop_adds hloop
  have htime : ({ t.counters with
      functionsElapsed := t.counters.functionsElapsed + fe.getD 0 } : ThreadCounters) =
      t.counters + ⟨fe.getD 0, 0, 0, false⟩ := by
    simp [ThreadCounters.add_def, StatementsCounter.add_def, StatementsCounter.zero_def]
  refine ⟨⟨fe.getD 0, 0, 0, false⟩ + amount, ?_⟩
  rw [← add_assoc, ← htime]
  exact hamount

theorem log_recordsHaveBeenModified {t t' : CountingThread σ} {fe : Option ℤ}
    (h : logQueryCounters orm cs t fe = .ok t')
    (ht : t.counters.recordsHaveBeenModified = true) :
    t'.counters.recordsHaveBeenModified = true := by
  obtain ⟨amount, hamount⟩ := logQueryCounters_adds h
  rw [hamount, ThreadCounters.add_def, ht]
  rfl

/-! ### Every reachable state -/

/-- The application counters represent entries, and the entry of the thread has its flag only
when the thread has it. -/
def SavingThread.Invariant (threadName : String) (s : SavingThread σ) : Prop :=
  ∃ items, s.app.Represents items ∧
    ((total items threadName).recordsHaveBeenModified = true →
      s.thread.counters.recordsHaveBeenModified = true)

theorem SavingThread.start_invariant (db : σ) : (start db).Invariant threadName := by
  refine ⟨AppCounters.constructedItems, AppCounters.constructed_represents, ?_⟩
  rw [AppCounters.total_constructedItems]
  intro h
  cases h

/-- Any other save of another thread is under another name. -/
def SavingOp.Foreign (threadName : String) : SavingOp σ → Prop
  | .otherThread name _ => name ≠ threadName
  | _ => True

/-- A save runs through and adds to the entry of its name. -/
theorem save_total {app : AppCounters} {items : List (String × ThreadCounters)}
    (hrep : app.Represents items) (t : ThreadCounters) (n : String) :
    ∃ app' items', app.saveCountersForAppSummary t n = .ok app' ∧ app'.Represents items' ∧
      n ∈ keys items' ∧ ∀ k, total items' k = total items k + if n = k then t else 0 := by
  obtain ⟨app', hsave, hrep'⟩ := AppCounters.save_represents hrep t n
  refine ⟨app', accumulate items n t, hsave, hrep', ?_, total_accumulate hrep.nodup n t⟩
  exact (mem_keys_accumulate n).mpr (Or.inr rfl)

theorem SavingThread.step_invariant {s s' : SavingThread σ} {op : SavingOp σ}
    (hop : op.Foreign threadName) (hs : s.Invariant threadName)
    (hstep : step orm cs threadName s op = .ok s') : s'.Invariant threadName := by
  obtain ⟨items, hrep, hflag⟩ := hs
  cases op with
  | logQueryCounters fe =>
    obtain ⟨thread, hlog, rfl⟩ := map_eq_ok.mp hstep
    exact ⟨items, hrep, fun h => log_recordsHaveBeenModified hlog (hflag h)⟩
  | saveCountersForAppSummary =>
    obtain ⟨app, hsave, rfl⟩ := map_eq_ok.mp hstep
    obtain ⟨app', items', hsave', hrep', -, htotal⟩ :=
      save_total hrep s.thread.counters threadName
    obtain rfl : app' = app := Except.ok.inj (hsave'.symm.trans hsave)
    refine ⟨items', hrep', ?_⟩
    rw [htotal, if_pos rfl]
    intro h
    exact (Bool.or_eq_true_iff.mp h).elim hflag id
  | otherThread name counters =>
    obtain ⟨app, hsave, rfl⟩ := map_eq_ok.mp hstep
    obtain ⟨app', items', hsave', hrep', -, htotal⟩ := save_total hrep counters name
    obtain rfl : app' = app := Except.ok.inj (hsave'.symm.trans hsave)
    refine ⟨items', hrep', ?_⟩
    rw [htotal, if_neg hop, add_zero]
    exact hflag
  | useConnections db =>
    cases hstep
    exact ⟨items, hrep, hflag⟩

theorem SavingThread.run_invariant {s s' : SavingThread σ} {ops : List (SavingOp σ)}
    (hops : ∀ op ∈ ops, op.Foreign threadName) (hs : s.Invariant threadName)
    (hrun : run orm cs threadName s ops = .ok s') : s'.Invariant threadName := by
  induction ops generalizing s with
  | nil =>
    cases hrun
    exact hs
  | cons op ops ih =>
    obtain ⟨s₁, h₁, h₂⟩ := bind_eq_ok.mp hrun
    rw [List.forall_mem_cons] at hops
    exact ih hops.2 (step_invariant hops.1 hs h₁) h₂

theorem SavingThread.run_append (s : SavingThread σ) (ops ops' : List (SavingOp σ)) :
    run orm cs threadName s (ops ++ ops') =
      (run orm cs threadName s ops).bind fun s' => run orm cs threadName s' ops' :=
  List.foldlM_append

theorem SavingThread.run_singleton (s : SavingThread σ) (op : SavingOp σ) :
    run orm cs threadName s [op] = step orm cs threadName s op := by
  unfold run
  rw [List.foldlM_cons]
  cases step orm cs threadName s op <;> rfl

/-! ### Saving -/

/-- One save: the entry is the running totals exactly when nothing was saved before. -/
theorem SavingThread.save_iff (orm : Orm σ) (cs : List String) {s : SavingThread σ}
    (hs : s.Invariant threadName) :
    ∃ s', step orm cs threadName s .saveCountersForAppSummary = .ok s' ∧
      (s'.app.valueOf threadName = some s'.thread.counters ↔ s.app.Unsaved threadName) := by
  obtain ⟨items, hrep, hflag⟩ := hs
  obtain ⟨app', items', hsave, hrep', hmem, htotal⟩ :=
    save_total hrep s.thread.counters threadName
  refine ⟨{ s with app := app' }, by simp only [step, hsave]; rfl, ?_⟩
  have hunsaved : s.app.Unsaved threadName ↔ (total items threadName).NoAmounts := by
    unfold AppCounters.Unsaved
    rw [AppCounters.valueOf_eq hrep]
    by_cases hn : threadName ∈ keys items
    · simp [hn]
    · rw [if_neg hn, total_of_notMem hn]
      exact ⟨fun _ => ⟨rfl, rfl, rfl⟩, fun _ t h => by cases h⟩
  rw [AppCounters.valueOf_eq hrep', if_pos hmem, htotal, if_pos rfl, Option.some_inj,
    ThreadCounters.add_eq_right_iff hflag, hunsaved]

/-- Right after each save of a run the entry of the thread is its running totals. -/
def SavesTotals (orm : Orm σ) (cs : List String) (threadName : String) (db : σ)
    (ops : List (SavingOp σ)) : Prop :=
  ∀ before after s, ops = before ++ .saveCountersForAppSummary :: after →
    SavingThread.run orm cs threadName (.start db) (before ++ [.saveCountersForAppSummary]) =
      .ok s → s.app.valueOf threadName = some s.thread.counters

/-- Right before each save of a run no amount is saved under the name of the thread. -/
def SavesUnsaved (orm : Orm σ) (cs : List String) (threadName : String) (db : σ)
    (ops : List (SavingOp σ)) : Prop :=
  ∀ before after s, ops = before ++ .saveCountersForAppSummary :: after →
    SavingThread.run orm cs threadName (.start db) before = .ok s → s.app.Unsaved threadName

/-- The application entry of a thread follows its running totals exactly in the runs that save
only while nothing is saved under the name. -/
theorem savesTotals_iff (db : σ) {ops : List (SavingOp σ)}
    (hops : ∀ op ∈ ops, op.Foreign threadName) :
    SavesTotals orm cs threadName db ops ↔ SavesUnsaved orm cs threadName db ops := by
  have hinv : ∀ before after s, ops = before ++ .saveCountersForAppSummary :: after →
      SavingThread.run orm cs threadName (.start db) before = .ok s → s.Invariant threadName := by
    intro before after s heq hrun
    refine SavingThread.run_invariant ?_ (SavingThread.start_invariant db) hrun
    intro op hop
    exact hops op (heq ▸ List.mem_append_left _ hop)
  refine ⟨?_, ?_⟩
  · intro h before after s heq hrun
    obtain ⟨s', hstep, hiff⟩ := SavingThread.save_iff orm cs
      (hinv before after s heq hrun)
    refine hiff.mp (h before after s' heq ?_)
    rw [SavingThread.run_append, hrun]
    exact (SavingThread.run_singleton s _).trans hstep
  · intro h before after s' heq hrun
    rw [SavingThread.run_append] at hrun
    obtain ⟨s, hbefore, hsave⟩ := bind_eq_ok.mp hrun
    obtain ⟨s'', hstep, hiff⟩ := SavingThread.save_iff orm cs
      (hinv before after s heq hbefore)
    rw [SavingThread.run_singleton] at hsave
    obtain rfl : s'' = s' := Except.ok.inj (hstep.symm.trans hsave)
    exact hiff.mpr (h before after s heq hbefore)

theorem savesTotals_iff_worker :
    SavesTotals Pool.orm ["sqlite"] "sqlite" Pool.empty
        [.logQueryCounters (some 5), .otherThread "mysql" ⟨3, 2, ⟨1, 0, 0⟩, true⟩,
          .saveCountersForAppSummary] ↔
      SavesUnsaved Pool.orm ["sqlite"] "sqlite" Pool.empty
        [.logQueryCounters (some 5), .otherThread "mysql" ⟨3, 2, ⟨1, 0, 0⟩, true⟩,
          .saveCountersForAppSummary] := by
  refine savesTotals_iff Pool.empty ?_
  intro op hop
  rcases List.mem_cons.mp hop with rfl | hop
  · trivial
  rcases List.mem_cons.mp hop with rfl | hop
  · exact (by decide : ("mysql" : String) ≠ "sqlite")
  · obtain rfl := List.mem_singleton.mp hop
    trivial

/-- The second save of the main thread counts its five milliseconds once more. -/
theorem secondSave_counted_twice :
    ¬ SavesTotals Pool.orm [] "main" Pool.empty
      [.logQueryCounters (some 5), .saveCountersForAppSummary, .saveCountersForAppSummary] := by
  intro h
  have hvalue := h [.logQueryCounters (some 5), .saveCountersForAppSummary] [] _ rfl rfl
  have htwice : (10 : ℤ) = 5 := congrArg (fun t => (t.map (·.functionsElapsed)).getD 0) hvalue
  omega

end TinyPlay

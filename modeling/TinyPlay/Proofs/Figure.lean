import TinyPlay.Lib.Meter
import TinyPlay.Spec.QueryCounters

/-! A figure is what the service prints of one counter: the query time, or one statement column.
Summed over the distinct connections of `ConnectionsToCount` it behaves as a meter: enabling and
resetting clear it, statements feed it, and `logQueryCounters` takes it into the running total. -/

namespace TinyPlay

open Meter

variable {σ : Type} {orm : Orm σ} {cs : List String}

/-! ### One figure -/

/-- A figure as the running totals keep it and as a block shows it. -/
structure Figure where
  total : ThreadCounters → ℤ
  shown : BlockCounters → ℤ

def Figure.queriesElapsed : Figure where
  total := (·.queriesElapsed)
  shown := (·.queriesElapsed)

def Figure.statements (kind : StatementKind) : Figure where
  total := fun t => t.statementsCounter.column kind
  shown := fun b => b.statementsCounter.column kind

/-- What a connection has pending for one figure. -/
structure Pending (σ : Type) where
  counting : σ → String → Bool
  amount : σ → String → ℤ
  statement : StatementKind → ℕ → ℤ

/-- What the service does to one figure of one connection. -/
structure Figure.Kept (fig : Figure) (orm : Orm σ) (cs : List String) (p : Pending σ) : Prop where
  off : ∀ db n, p.counting db n = false → p.amount db n = 0
  statement_nonneg : ∀ kind ms, 0 ≤ p.statement kind ms
  enable : ∀ db db' n, enableAllQueryLogCounters orm cs db = .ok db' →
    p.amount db' n = if n ∈ cs then 0 else p.amount db n
  reset : ∀ db n, p.amount (resetAllQueryLogCounters orm cs db) n =
    if n ∈ cs then 0 else p.amount db n
  execute : ∀ db c kind ms, p.amount (orm.execute db c kind ms) =
    if p.counting db c then Function.update (p.amount db) c (p.amount db c + p.statement kind ms)
    else p.amount db
  functions : ∀ (t : ThreadCounters) e, fig.total { t with functionsElapsed := e } = fig.total t
  start : ∀ db, fig.shown (summaryStart orm db) = 0 ∨
    fig.shown (summaryStart orm db) = -1 ∧ ∀ n, p.counting db n = false
  take : ∀ s s' n, logConnection orm s n = .ok s' →
    p.amount s'.db = Function.update (p.amount s.db) n 0 ∧
      fig.total s'.counters = fig.total s.counters + p.amount s.db n ∧
      fig.shown s'.summary = fig.shown s.summary + p.amount s.db n ∧
      ∃ block, s'.blocks = s.blocks ++ [(n, block)] ∧
        fig.shown block = if p.counting s.db n then p.amount s.db n else -1

/-- A printed figure, where -1 means that nothing counts. -/
def readZero (v : ℤ) : ℤ := if v = -1 then 0 else v

theorem readZero_of_nonneg {v : ℤ} (h : 0 ≤ v) : readZero v = v := by
  unfold readZero
  split_ifs <;> omega

/-- What is pending on the counted connections, each of them once. -/
def Pending.sum (p : Pending σ) (cs : List String) (db : σ) : ℤ := ∑ c ∈ cs.toFinset, p.amount db c

theorem Pending.sum_zero {p : Pending σ} {db : σ} (h : ∀ c ∈ cs, p.amount db c = 0) :
    p.sum cs db = 0 :=
  Finset.sum_eq_zero fun c hc => h c (List.mem_toFinset.mp hc)

theorem Pending.sum_nonneg {p : Pending σ} {db : σ} (h : ∀ c, 0 ≤ p.amount db c) :
    0 ≤ p.sum cs db := by
  unfold Pending.sum
  induction cs.toFinset using Finset.induction_on with
  | empty => simp
  | insert c s hc ih =>
    rw [Finset.sum_insert hc]
    have := h c
    omega

/-! ### The loop over the connections -/

section Loop

variable {fig : Figure} {p : Pending σ}

/-- What the loop of `logQueryCounters` does to one figure: it empties the connections and adds
what they held to the running total, to the summary and to the blocks. -/
theorem Figure.Kept.loop (h : fig.Kept orm cs p) {ds : List String} {s s' : LogLoop σ}
    (hnonneg : ∀ n, 0 ≤ p.amount s.db n) (hloop : ds.foldlM (logConnection orm) s = .ok s') :
    (∀ n, p.amount s'.db n = if n ∈ ds then 0 else p.amount s.db n) ∧
      fig.total s'.counters = fig.total s.counters + p.sum ds s.db ∧
      fig.shown s'.summary = fig.shown s.summary + p.sum ds s.db ∧
      ∃ blocks, s'.blocks = s.blocks ++ blocks ∧
        (blocks.map fun b => readZero (fig.shown b.2)).sum = p.sum ds s.db := by
  induction ds generalizing s with
  | nil =>
    cases hloop
    refine ⟨?_, ?_, ?_, [], ?_, ?_⟩ <;> simp [Pending.sum]
  | cons d ds ih =>
    obtain ⟨s₁, h₁, hrest⟩ := bind_eq_ok.mp hloop
    obtain ⟨hamount, htotal, hsummary, block, hblocks, hblock⟩ := h.take s s₁ d h₁
    have hnonneg₁ : ∀ n, 0 ≤ p.amount s₁.db n := by
      intro n
      rw [hamount, Function.update_apply]
      split_ifs
      · exact le_rfl
      · exact hnonneg n
    obtain ⟨hamount', htotal', hsummary', blocks, hblocks', hblocksum⟩ := ih hnonneg₁ hrest
    have hsum : p.sum (d :: ds) s.db = p.amount s.db d + p.sum ds s₁.db := by
      unfold Pending.sum
      rw [List.toFinset_cons, sum_insert_update, hamount]
    have hread : readZero (fig.shown block) = p.amount s.db d := by
      rw [hblock]
      by_cases hc : p.counting s.db d = true
      · rw [if_pos hc, readZero_of_nonneg (hnonneg d)]
      · rw [if_neg hc, h.off s.db d (by simpa using hc)]
        rfl
    refine ⟨?_, ?_, ?_, (d, block) :: blocks, ?_, ?_⟩
    · intro n
      rw [hamount', hamount, Function.update_apply]
      by_cases hd : n = d <;> simp [hd]
    · rw [htotal', htotal, hsum, add_assoc]
    · rw [hsummary', hsummary, hsum, add_assoc]
    · rw [hblocks', hblocks, List.append_assoc, List.singleton_append]
    · rw [List.map_cons, List.sum_cons, hblocksum, hread, hsum]

/-- What a whole `logQueryCounters` call does to one figure. -/
theorem Figure.Kept.log (h : fig.Kept orm cs p) {t t' : CountingThread σ} {fe : Option ℤ}
    (hnonneg : ∀ n, 0 ≤ p.amount t.db n) (hlog : logQueryCounters orm cs t fe = .ok t') :
    (∀ n, p.amount t'.db n = if n ∈ cs then 0 else p.amount t.db n) ∧
      fig.total t'.counters = fig.total t.counters + p.sum cs t.db ∧
      ∃ report, t'.reports = t.reports ++ [report] ∧
        readZero (fig.shown report.summary) = p.sum cs t.db ∧
        (report.connections.map fun b => readZero (fig.shown b.2)).sum = p.sum cs t.db := by
  obtain ⟨s, hloop, hs⟩ := bind_eq_ok.mp hlog
  cases hs
  obtain ⟨hamount, htotal, hsummary, blocks, hblocks, hblocksum⟩ := h.loop hnonneg hloop
  refine ⟨hamount, ?_, _, rfl, ?_, ?_⟩
  · rw [htotal, h.functions]
  · dsimp only at hsummary ⊢
    rw [hsummary]
    rcases h.start t.db with hstart | ⟨hstart, hoff⟩
    · rw [hstart, zero_add, readZero_of_nonneg (Pending.sum_nonneg hnonneg)]
    · rw [hstart, Pending.sum_zero fun c _ => h.off t.db c (hoff c)]
      rfl
  · dsimp only at hblocks ⊢
    rw [hblocks, List.nil_append, hblocksum]

end Loop

/-! ### A run of calls -/

/-- The first call that touches the pending counters is a `logQueryCounters`. -/
def takenLater : List CountingOp → Bool
  | [] => false
  | .enableAllQueryLogCounters :: _ => false
  | .resetAllQueryLogCounters :: _ => false
  | .execute _ _ _ :: ops => takenLater ops
  | .logQueryCounters _ :: _ => true

/-- The statement that a call adds: one on a counted connection that a later `logQueryCounters`
takes. -/
def countedNow (cs : List String) (counting : σ → String → Bool) (db : σ) :
    CountingOp → List CountingOp → List (StatementKind × ℕ)
  | .execute c kind ms, ops =>
    if (c ∈ cs ∧ counting db c = true) ∧ takenLater ops = true then [(kind, ms)] else []
  | _, _ => []

/-- The statements of a run, with their times, that were executed with counting enabled on a
connection of `cs` and that a `logQueryCounters` follows with no reset or enabling between. -/
def countedStatements (orm : Orm σ) (cs : List String) (counting : σ → String → Bool) :
    CountingThread σ → List CountingOp → List (StatementKind × ℕ)
  | _, [] => []
  | t, op :: ops =>
    match CountingThread.step orm cs t op with
    | .error _ => []
    | .ok t' => countedNow cs counting t.db op ops ++ countedStatements orm cs counting t' ops

/-- What the counted statements of a run add to one figure. -/
def countedAmount (orm : Orm σ) (cs : List String) (p : Pending σ) (t : CountingThread σ)
    (ops : List CountingOp) : ℤ :=
  ((countedStatements orm cs p.counting t ops).map fun e => p.statement e.1 e.2).sum

theorem countedAmount_cons {p : Pending σ} {t t' : CountingThread σ} {op : CountingOp}
    (hstep : CountingThread.step orm cs t op = .ok t') (ops : List CountingOp) :
    countedAmount orm cs p t (op :: ops) =
      ((countedNow cs p.counting t.db op ops).map fun e => p.statement e.1 e.2).sum +
        countedAmount orm cs p t' ops := by
  unfold countedAmount
  simp only [countedStatements, hstep, List.map_append, List.sum_append]

/-- The running total, the printed summaries and the printed blocks agree on a figure. -/
structure Figure.Printed (fig : Figure) (t : CountingThread σ) : Prop where
  summaries : fig.total t.counters =
    (t.reports.map fun r => readZero (fig.shown r.summary)).sum
  blocks : fig.total t.counters =
    (t.reports.map fun r => (r.connections.map fun b => readZero (fig.shown b.2)).sum).sum

section Run

variable {fig : Figure} {p : Pending σ}

/-- The meter event of a call. -/
def eventOf (cs : List String) (p : Pending σ) (db : σ) : CountingOp → Event ℤ
  | .enableAllQueryLogCounters => .clear
  | .resetAllQueryLogCounters => .clear
  | .execute c kind ms =>
    .gain (if c ∈ cs ∧ p.counting db c = true then p.statement kind ms else 0)
  | .logQueryCounters _ => .take

theorem Figure.Kept.execute_sum (h : fig.Kept orm cs p) (db : σ) (c : String)
    (kind : StatementKind) (ms : ℕ) : p.sum cs (orm.execute db c kind ms) = p.sum cs db +
      if c ∈ cs ∧ p.counting db c = true then p.statement kind ms else 0 := by
  unfold Pending.sum
  rw [h.execute]
  by_cases hc : p.counting db c = true
  · rw [if_pos hc, sum_update_add]
    simp [hc]
  · rw [if_neg hc, if_neg fun hand => hc hand.2, add_zero]

theorem Figure.Kept.execute_nonneg (h : fig.Kept orm cs p) {db : σ}
    (hnonneg : ∀ n, 0 ≤ p.amount db n) (c : String) (kind : StatementKind) (ms : ℕ) (n : String) :
    0 ≤ p.amount (orm.execute db c kind ms) n := by
  rw [h.execute]
  split_ifs
  · rw [Function.update_apply]
    split_ifs
    · exact add_nonneg (hnonneg c) (h.statement_nonneg kind ms)
    · exact hnonneg n
  · exact hnonneg n

/-- Emptying the counted connections leaves nothing negative and nothing to sum. -/
theorem Pending.cleared {db db' : σ} (hnonneg : ∀ n, 0 ≤ p.amount db n)
    (hdb : ∀ n, p.amount db' n = if n ∈ cs then 0 else p.amount db n) :
    (∀ n, 0 ≤ p.amount db' n) ∧ p.sum cs db' = 0 := by
  refine ⟨?_, Pending.sum_zero ?_⟩
  · intro n
    rw [hdb]
    split_ifs
    · exact le_rfl
    · exact hnonneg n
  · intro c hc
    rw [hdb, if_pos hc]

/-- Nothing pending is negative, and every call of the thread is one event of the meter. -/
theorem Figure.Kept.step (h : fig.Kept orm cs p) {t t' : CountingThread σ} {op : CountingOp}
    (hnonneg : ∀ n, 0 ≤ p.amount t.db n) (hstep : CountingThread.step orm cs t op = .ok t') :
    (∀ n, 0 ≤ p.amount t'.db n) ∧
      Meter.Step (p.sum cs t.db, fig.total t.counters) (eventOf cs p t.db op)
        (p.sum cs t'.db, fig.total t'.counters) := by
  cases op with
  | enableAllQueryLogCounters =>
    obtain ⟨db', hdb, rfl⟩ := map_eq_ok.mp hstep
    obtain ⟨hn, hzero⟩ := Pending.cleared hnonneg fun n => h.enable t.db db' n hdb
    refine ⟨hn, ?_⟩
    rw [hzero]
    exact Meter.Step.clear _ _
  | resetAllQueryLogCounters =>
    cases hstep
    obtain ⟨hn, hzero⟩ := Pending.cleared hnonneg fun n => h.reset t.db n
    refine ⟨hn, ?_⟩
    rw [hzero]
    exact Meter.Step.clear _ _
  | execute c kind ms =>
    cases hstep
    refine ⟨h.execute_nonneg hnonneg c kind ms, ?_⟩
    rw [h.execute_sum]
    exact Meter.Step.gain _ _ _
  | logQueryCounters fe =>
    obtain ⟨hamount, htotal, -⟩ := h.log hnonneg hstep
    obtain ⟨hn, hzero⟩ := Pending.cleared hnonneg hamount
    refine ⟨hn, ?_⟩
    rw [htotal, hzero]
    exact Meter.Step.take _ _

/-- A call prints what it adds to the running total. -/
theorem Figure.Kept.printed_step (h : fig.Kept orm cs p) {t t' : CountingThread σ}
    {op : CountingOp} (hnonneg : ∀ n, 0 ≤ p.amount t.db n) (ht : fig.Printed t)
    (hstep : CountingThread.step orm cs t op = .ok t') : fig.Printed t' := by
  cases op with
  | enableAllQueryLogCounters =>
    obtain ⟨db', -, rfl⟩ := map_eq_ok.mp hstep
    exact ⟨ht.summaries, ht.blocks⟩
  | resetAllQueryLogCounters =>
    cases hstep
    exact ⟨ht.summaries, ht.blocks⟩
  | execute c kind ms =>
    cases hstep
    exact ⟨ht.summaries, ht.blocks⟩
  | logQueryCounters fe =>
    obtain ⟨-, htotal, report, hreports, hsummary, hblocks⟩ := h.log hnonneg hstep
    refine ⟨?_, ?_⟩
    · rw [htotal, hreports, ht.summaries, List.map_append, List.sum_append, List.map_singleton,
        List.sum_singleton, hsummary]
    · rw [htotal, hreports, ht.blocks, List.map_append, List.sum_append, List.map_singleton,
        List.sum_singleton, hblocks]

/-- The events of a run, and what they mean in terms of its calls. -/
theorem Figure.Kept.run (h : fig.Kept orm cs p) {t t' : CountingThread σ} {ops : List CountingOp}
    (hnonneg : ∀ n, 0 ≤ p.amount t.db n) (ht : fig.Printed t)
    (hrun : CountingThread.run orm cs t ops = .ok t') :
    fig.Printed t' ∧ ∃ es : List (Event ℤ),
      Meter.Run (p.sum cs t.db, fig.total t.counters) es
        (p.sum cs t'.db, fig.total t'.counters) ∧
      takenNext es = takenLater ops ∧ collected es = countedAmount orm cs p t ops := by
  induction ops generalizing t with
  | nil =>
    cases hrun
    exact ⟨ht, [], Meter.Run.nil _, rfl, rfl⟩
  | cons op ops ih =>
    obtain ⟨t₁, h₁, h₂⟩ := bind_eq_ok.mp hrun
    obtain ⟨hnonneg₁, hevent⟩ := h.step hnonneg h₁
    obtain ⟨ht', es, hes, hnext, hcoll⟩ := ih hnonneg₁ (h.printed_step hnonneg ht h₁) h₂
    refine ⟨ht', eventOf cs p t.db op :: es, Meter.Run.cons hevent hes, ?_, ?_⟩
    · cases op <;> simp [eventOf, takenNext, takenLater, hnext]
    · rw [countedAmount_cons h₁, ← hcoll]
      cases op with
      | execute c kind ms =>
        simp only [eventOf, collected, hnext, countedNow]
        by_cases hl : takenLater ops = true
        · by_cases hc : c ∈ cs ∧ p.counting t.db c = true <;> simp [hl, hc]
        · simp [hl]
      | enableAllQueryLogCounters => exact (zero_add _).symm
      | resetAllQueryLogCounters => exact (zero_add _).symm
      | logQueryCounters fe => exact (zero_add _).symm

/-- From a start where nothing counts, the running total is what was counted and taken. -/
theorem Figure.Kept.total (h : fig.Kept orm cs p) {db : σ} {t' : CountingThread σ}
    {ops : List CountingOp} (hzero : fig.total 0 = 0) (hstart : ∀ n, p.counting db n = false)
    (hrun : CountingThread.run orm cs ⟨db, 0, []⟩ ops = .ok t') :
    fig.total t'.counters = countedAmount orm cs p ⟨db, 0, []⟩ ops ∧ fig.Printed t' := by
  have hoff : ∀ n, p.amount db n = 0 := fun n => h.off db n (hstart n)
  obtain ⟨hprinted, es, hes, -, hcoll⟩ :=
    h.run (fun n => le_of_eq (hoff n).symm) ⟨hzero, hzero⟩ hrun
  have htotal := hes.total
  simp only [Pending.sum_zero fun c _ => hoff c, hcoll, ite_self, add_zero, hzero,
    zero_add] at htotal
  exact ⟨htotal, hprinted⟩

end Run

end TinyPlay

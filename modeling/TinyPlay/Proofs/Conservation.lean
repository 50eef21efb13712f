import TinyPlay.Proofs.Figure
import TinyPlay.Sanity.Pool

/-! Statement counters are conserved over the calls of a thread: the query time and the three
statement columns are figures that the service keeps, so the running totals are what was counted
and taken. -/

namespace TinyPlay

variable {σ V W : Type} {orm : Orm σ} {cs : List String}

/-! ### The figures of lawful connections -/

section Unaffected

variable [Zero V] [Add V] {counter : ConnectionCounter σ V} {other : ConnectionCounter σ W}
  {off : V} {pending : σ → String → V} {amount : StatementKind → ℕ → V}

omit [Zero V] [Add V] in
theorem ConnectionCounter.Unaffected.trans {s s' s'' : σ} (h : counter.Unaffected pending s s')
    (h' : counter.Unaffected pending s' s'') : counter.Unaffected pending s s'' :=
  ⟨h'.1.trans h.1, h'.2.trans h.2⟩

theorem openConnections_unaffected (h : orm.CounterLawful counter other off pending amount)
    {db db' : σ} (hopen : openConnections orm db cs = .ok db') :
    counter.Unaffected pending db db' := by
  unfold openConnections at hopen
  induction cs generalizing db with
  | nil =>
    cases hopen
    exact ⟨rfl, rfl⟩
  | cons c cs ih =>
    obtain ⟨db₁, h₁, h₂⟩ := bind_eq_ok.mp hopen
    exact (h.connection db c db₁ h₁).trans (ih h₂)

theorem forgetAll_unaffected (h : orm.CounterLawful counter other off pending amount) (db : σ) :
    counter.Unaffected pending db (cs.foldl orm.forgetRecordModificationState db) := by
  induction cs generalizing db with
  | nil => exact ⟨rfl, rfl⟩
  | cons c cs ih => exact (h.forget db c).trans (ih _)

end Unaffected

/-- What one turn of the loop does, counter by counter. -/
structure Logged (orm : Orm σ) (s s' : LogLoop σ) (n : String) (db : σ) : Prop where
  opened : orm.connection s.db n = .ok db
  functionsElapsed : s'.counters.functionsElapsed = s.counters.functionsElapsed
  db_eq : s'.db = (orm.statements.take (orm.elapsed.take db n).2 n).2
  elapsed : ∀ on, orm.elapsed.counting (orm.elapsed.take db n).2 n = on →
    s'.counters.queriesElapsed =
      s.counters.queriesElapsed + (if on then (orm.elapsed.take db n).1 else 0) ∧
    s'.summary.queriesElapsed =
      s.summary.queriesElapsed + (if on then (orm.elapsed.take db n).1 else 0)
  statements : ∀ on, orm.statements.counting s'.db n = on → ∀ kind,
    s'.counters.statementsCounter.column kind = s.counters.statementsCounter.column kind +
      (if on then (orm.statements.take (orm.elapsed.take db n).2 n).1.column kind else 0) ∧
    s'.summary.statementsCounter.column kind = s.summary.statementsCounter.column kind +
      (if on then (orm.statements.take (orm.elapsed.take db n).2 n).1.column kind else 0)
  blocks : ∃ block, s'.blocks = s.blocks ++ [(n, block)] ∧
    block.queriesElapsed = (orm.elapsed.take db n).1 ∧
    block.statementsCounter = (orm.statements.take (orm.elapsed.take db n).2 n).1

theorem logConnection_logged {s s' : LogLoop σ} {n : String}
    (h : logConnection orm s n = .ok s') : ∃ db, Logged orm s s' n db := by
  obtain ⟨db, hopen, -⟩ := bind_eq_ok.mp h
  simp only [logConnection, hopen, bind, Except.bind, pure, Except.pure, Except.ok.injEq] at h
  subst h
  refine ⟨db, hopen, rfl, rfl, ?_, ?_, ⟨_, rfl, rfl, rfl⟩⟩
  · intro on hon
    cases on <;> simp [hon]
  · intro on hon kind
    cases on <;> simp [hon]

theorem enableAll_ok {db db' : σ} (h : enableAllQueryLogCounters orm cs db = .ok db') :
    ∃ db₁, openConnections orm db cs = .ok db₁ ∧
      db' = orm.statements.enable (orm.elapsed.enable db₁ cs) cs := by
  obtain ⟨db₁, hopen, hrest⟩ := bind_eq_ok.mp h
  obtain ⟨-, -, hdb⟩ := bind_eq_ok.mp hrest
  cases hdb
  exact ⟨db₁, hopen, rfl⟩

/-- Elapsed milliseconds. -/
def Orm.elapsedPending (orm : Orm σ) (pendingElapsed : σ → String → ℤ) : Pending σ where
  counting := orm.elapsed.counting
  amount := pendingElapsed
  statement _ ms := ms

/-- Executed statements of one kind. -/
def Orm.statementsPending (orm : Orm σ)
    (pendingStatements : σ → String → StatementsCounter) (kind : StatementKind) : Pending σ where
  counting := orm.statements.counting
  amount db n := (pendingStatements db n).column kind
  statement k _ := if k = kind then 1 else 0

variable {pendingElapsed : σ → String → ℤ} {pendingStatements : σ → String → StatementsCounter}

/-! ### What the service does to pending counters -/

theorem enableAll_pending (h : orm.Lawful pendingElapsed pendingStatements) {db db' : σ}
    (hdb : enableAllQueryLogCounters orm cs db = .ok db') (n : String) :
    pendingElapsed db' n = (if n ∈ cs then 0 else pendingElapsed db n) ∧
      pendingStatements db' n = if n ∈ cs then 0 else pendingStatements db n := by
  obtain ⟨db₁, hopen, rfl⟩ := enableAll_ok hdb
  refine ⟨?_, ?_⟩
  · rw [(h.elapsed.other_enable _ _).2, h.elapsed.enable_pending,
      (openConnections_unaffected h.elapsed hopen).2]
  · rw [h.statements.enable_pending, (h.statements.other_enable _ _).2,
      (openConnections_unaffected h.statements hopen).2]

theorem resetAll_pending (h : orm.Lawful pendingElapsed pendingStatements) (db : σ) (n : String) :
    pendingElapsed (resetAllQueryLogCounters orm cs db) n =
        (if n ∈ cs then 0 else pendingElapsed db n) ∧
      pendingStatements (resetAllQueryLogCounters orm cs db) n =
        if n ∈ cs then 0 else pendingStatements db n := by
  unfold resetAllQueryLogCounters
  refine ⟨?_, ?_⟩
  · rw [(forgetAll_unaffected h.elapsed _).2, (h.elapsed.other_reset _ _).2,
      h.elapsed.reset_pending]
  · rw [(forgetAll_unaffected h.statements _).2, h.statements.reset_pending,
      (h.statements.other_reset _ _).2]

/-- When no opened connection counts, none does. -/
theorem ConnectionCounter.Lawful.off {V : Type} [Zero V] {counter : ConnectionCounter σ V}
    {opened : σ → List String} {off : V} {pending : σ → String → V}
    (h : counter.Lawful opened off pending) {db : σ} (hany : counter.anyCounting db = false)
    (n : String) : counter.counting db n = false := by
  rw [← Bool.not_eq_true] at hany ⊢
  intro hc
  exact hany ((h.anyCounting_iff db).mpr ⟨n, h.counting_opened db n hc, hc⟩)

theorem Logged.taken_elapsed {s s' : LogLoop σ} {n : String} {db : σ}
    (hlog : Logged orm s s' n db) (h : orm.Lawful pendingElapsed pendingStatements) :
    pendingElapsed s'.db = Function.update (pendingElapsed s.db) n 0 ∧
      s'.counters.queriesElapsed = s.counters.queriesElapsed + pendingElapsed s.db n ∧
      s'.summary.queriesElapsed = s.summary.queriesElapsed + pendingElapsed s.db n ∧
      (orm.elapsed.take db n).1 =
        if orm.elapsed.counting s.db n then pendingElapsed s.db n else -1 := by
  have he := h.elapsed
  have hsame := he.connection s.db n db hlog.opened
  have hvalue := he.take_value db n
  rw [hsame.1, hsame.2] at hvalue
  obtain ⟨htotal, hsummary⟩ := hlog.elapsed _ (by rw [he.take_counting, hsame.1])
  have hadded : (if orm.elapsed.counting s.db n then (orm.elapsed.take db n).1 else 0) =
      pendingElapsed s.db n := by
    cases hc : orm.elapsed.counting s.db n with
    | false => exact (he.pending_off s.db n hc).symm
    | true => simp [hvalue, hc]
  rw [hadded] at htotal hsummary
  refine ⟨?_, htotal, hsummary, hvalue⟩
  rw [hlog.db_eq, (he.other_take _ _).2, he.take_pending, hsame.2]

theorem Logged.taken_statements {s s' : LogLoop σ} {n : String} {db : σ}
    (hlog : Logged orm s s' n db) (h : orm.Lawful pendingElapsed pendingStatements)
    (kind : StatementKind) :
    pendingStatements s'.db = Function.update (pendingStatements s.db) n 0 ∧
      s'.counters.statementsCounter.column kind =
        s.counters.statementsCounter.column kind + (pendingStatements s.db n).column kind ∧
      s'.summary.statementsCounter.column kind =
        s.summary.statementsCounter.column kind + (pendingStatements s.db n).column kind ∧
      (orm.statements.take (orm.elapsed.take db n).2 n).1 =
        if orm.statements.counting s.db n then pendingStatements s.db n else ⟨-1, -1, -1⟩ := by
  have hs := h.statements
  have hsame := (hs.connection s.db n db hlog.opened).trans (hs.other_take db n)
  have hvalue := hs.take_value (orm.elapsed.take db n).2 n
  rw [hsame.1, hsame.2] at hvalue
  obtain ⟨htotal, hsummary⟩ :=
    hlog.statements _ (by rw [hlog.db_eq, hs.take_counting, hsame.1]) kind
  have hadded : (if orm.statements.counting s.db n then
      (orm.statements.take (orm.elapsed.take db n).2 n).1.column kind else 0) =
        (pendingStatements s.db n).column kind := by
    cases hc : orm.statements.counting s.db n with
    | false => rw [hs.pending_off s.db n hc, StatementsCounter.column_zero]; rfl
    | true => simp [hvalue, hc]
  rw [hadded] at htotal hsummary
  refine ⟨?_, htotal, hsummary, hvalue⟩
  rw [hlog.db_eq, hs.take_pending, hsame.2]

theorem Figure.queriesElapsed_kept (h : orm.Lawful pendingElapsed pendingStatements) :
    Figure.queriesElapsed.Kept orm cs (orm.elapsedPending pendingElapsed) where
  off := h.elapsed.pending_off
  statement_nonneg _ ms := Int.natCast_nonneg ms
  enable db db' n hdb := (enableAll_pending h hdb n).1
  reset db n := (resetAll_pending h db n).1
  execute := h.elapsed.execute_pending
  functions _ _ := rfl
  start := by
    intro db
    cases hany : orm.elapsed.anyCounting db with
    | true => exact Or.inl (if_pos hany)
    | false =>
      refine Or.inr ⟨?_, h.elapsed.off hany⟩
      simp [Figure.queriesElapsed, summaryStart, hany]
  take := by
    intro s s' n hstep
    obtain ⟨db, hlog⟩ := logConnection_logged hstep
    obtain ⟨hpending, htotal, hsummary, hvalue⟩ := hlog.taken_elapsed h
    obtain ⟨block, hblocks, hblock, -⟩ := hlog.blocks
    exact ⟨hpending, htotal, hsummary, block, hblocks, hblock.trans hvalue⟩

/-- A column of the pending statements after one cell was replaced. -/
theorem column_update (pending : String → StatementsCounter) (n : String) (v : StatementsCounter)
    (kind : StatementKind) : (fun m => (Function.update pending n v m).column kind) =
      Function.update (fun m => (pending m).column kind) n (v.column kind) := by
  funext m
  rw [Function.update_apply, Function.update_apply]
  split_ifs <;> rfl

theorem Figure.statements_kept (h : orm.Lawful pendingElapsed pendingStatements)
    (kind : StatementKind) :
    (Figure.statements kind).Kept orm cs (orm.statementsPending pendingStatements kind) where
  off := by
    intro db n hoff
    simp only [Orm.statementsPending]
    rw [h.statements.pending_off db n hoff, StatementsCounter.column_zero]
  statement_nonneg := by
    intro k ms
    simp only [Orm.statementsPending]
    split_ifs <;> omega
  enable := by
    intro db db' n hdb
    simp only [Orm.statementsPending]
    rw [(enableAll_pending h hdb n).2]
    split_ifs <;> simp
  reset := by
    intro db n
    simp only [Orm.statementsPending]
    rw [(resetAll_pending h db n).2]
    split_ifs <;> simp
  execute := by
    intro db c k ms
    simp only [Orm.statementsPending]
    rw [h.statements.execute_pending]
    split_ifs with hc
    · rw [column_update, StatementsCounter.column_add, StatementsCounter.column_single]
      simp [hc]
    · simp [hc]
  functions _ _ := rfl
  start := by
    intro db
    cases hany : orm.statements.anyCounting db with
    | true =>
      left
      cases kind <;> simp [Figure.statements, summaryStart, hany, StatementsCounter.column]
    | false =>
      refine Or.inr ⟨?_, h.statements.off hany⟩
      cases kind <;> simp [Figure.statements, summaryStart, hany, StatementsCounter.column]
  take := by
    intro s s' n hstep
    obtain ⟨db, hlog⟩ := logConnection_logged hstep
    obtain ⟨hpending, htotal, hsummary, hvalue⟩ := hlog.taken_statements h kind
    obtain ⟨block, hblocks, -, hblock⟩ := hlog.blocks
    have hshown : block.statementsCounter.column kind =
        if orm.statements.counting s.db n then (pendingStatements s.db n).column kind else -1 := by
      rw [hblock, hvalue, apply_ite fun c : StatementsCounter => c.column kind,
        StatementsCounter.column_neg_one]
    refine ⟨?_, htotal, hsummary, block, hblocks, hshown⟩
    simp only [Orm.statementsPending, hpending]
    rw [column_update, StatementsCounter.column_zero]

/-! ### Function times -/

/-- The sum of the times given to the calls of a run. -/
def givenTimes : List CountingOp → ℤ
  | [] => 0
  | .logQueryCounters functionElapsed :: ops => functionElapsed.getD 0 + givenTimes ops
  | _ :: ops => givenTimes ops

theorem loop_functionsElapsed {ds : List String} {s s' : LogLoop σ}
    (h : ds.foldlM (logConnection orm) s = .ok s') :
    s'.counters.functionsElapsed = s.counters.functionsElapsed := by
  induction ds generalizing s with
  | nil =>
    cases h
    rfl
  | cons d ds ih =>
    obtain ⟨s₁, h₁, h₂⟩ := bind_eq_ok.mp h
    obtain ⟨db, hlogged⟩ := logConnection_logged h₁
    exact (ih h₂).trans hlogged.functionsElapsed

theorem run_functionsElapsed {t t' : CountingThread σ} {ops : List CountingOp}
    (hrun : CountingThread.run orm cs t ops = .ok t') :
    t'.counters.functionsElapsed = t.counters.functionsElapsed + givenTimes ops := by
  induction ops generalizing t with
  | nil =>
    cases hrun
    exact (add_zero _).symm
  | cons op ops ih =>
    obtain ⟨t₁, h₁, h₂⟩ := bind_eq_ok.mp hrun
    rw [ih h₂]
    cases op with
    | enableAllQueryLogCounters =>
      obtain ⟨db', -, rfl⟩ := map_eq_ok.mp h₁
      rfl
    | resetAllQueryLogCounters =>
      cases h₁
      rfl
    | execute c kind ms =>
      cases h₁
      rfl
    | logQueryCounters fe =>
      obtain ⟨s, hloop, hs⟩ := bind_eq_ok.mp h₁
      cases hs
      simp only [loop_functionsElapsed hloop, givenTimes, add_assoc]

/-! ### The whole run -/

theorem sum_map_kind (es : List (StatementKind × ℕ)) (kind : StatementKind) :
    (es.map fun e => if e.1 = kind then (1 : ℤ) else 0).sum = es.countP (·.1 = kind) := by
  induction es with
  | nil => rfl
  | cons e es ih =>
    rw [List.map_cons, List.sum_cons, ih, List.countP_cons]
    by_cases he : e.1 = kind
    · simp [he, add_comm]
    · simp [he]

/-- Over any calls of a thread that starts with nothing counting, the running totals are what
was counted and taken, each statement once, and the printed summaries and blocks add up to them. -/
theorem counters_conserved (h : orm.Lawful pendingElapsed pendingStatements) {db : σ}
    (helapsed : ∀ n, orm.elapsed.counting db n = false)
    (hstatements : ∀ n, orm.statements.counting db n = false)
    {ops : List CountingOp} {t : CountingThread σ}
    (hrun : CountingThread.run orm cs ⟨db, 0, []⟩ ops = .ok t) :
    (∀ kind, t.counters.statementsCounter.column kind =
      (countedStatements orm cs orm.statements.counting ⟨db, 0, []⟩ ops).countP (·.1 = kind)) ∧
    t.counters.queriesElapsed = ((countedStatements orm cs orm.elapsed.counting ⟨db, 0, []⟩
      ops).map fun e => (e.2 : ℤ)).sum ∧
    t.counters.functionsElapsed = givenTimes ops ∧
    Figure.queriesElapsed.Printed t ∧ ∀ kind, (Figure.statements kind).Printed t := by
  have hzero : ∀ kind, (Figure.statements kind).total 0 = 0 := fun kind =>
    StatementsCounter.column_zero kind
  obtain ⟨htotal, hprinted⟩ := (Figure.queriesElapsed_kept h).total rfl helapsed hrun
  refine ⟨?_, htotal, ?_, hprinted, ?_⟩
  · intro kind
    rw [← sum_map_kind]
    exact ((Figure.statements_kept h kind).total (hzero kind) hstatements hrun).1
  · rw [run_functionsElapsed hrun]
    exact zero_add _
  · intro kind
    exact ((Figure.statements_kept h kind).total (hzero kind) hstatements hrun).2

/-- Two connections, one of them listed twice: the select counts once, the reset drops the
insert, and the last statement is never logged. -/
def twoConnections : List CountingOp :=
  [.enableAllQueryLogCounters, .execute "mysql" .normal 4, .logQueryCounters (some 9),
    .execute "sqlite" .affecting 2, .resetAllQueryLogCounters, .logQueryCounters none,
    .execute "mysql" .normal 1]

theorem counters_conserved_twoConnections :
    ∃ t : CountingThread Pool,
      CountingThread.run Pool.orm ["mysql", "sqlite", "mysql"] ⟨Pool.empty, 0, []⟩ twoConnections =
        .ok t ∧
      t.counters.statementsCounter.column .normal = 1 ∧ t.counters.queriesElapsed = 4 ∧
      t.counters.functionsElapsed = 9 ∧ (Figure.statements .affecting).Printed t := by
  let cs := ["mysql", "sqlite", "mysql"]
  have hok : (CountingThread.run Pool.orm cs ⟨Pool.empty, 0, []⟩ twoConnections).toBool = true := by
    decide
  cases hrun : CountingThread.run Pool.orm cs ⟨Pool.empty, 0, []⟩ twoConnections with
  | error e =>
    rw [hrun] at hok
    cases hok
  | ok t =>
    obtain ⟨hstatements, helapsed, hfunctions, -, hprinted⟩ :=
      counters_conserved Pool.lawful (fun _ => rfl) (fun _ => rfl) hrun
    refine ⟨t, rfl, ?_, ?_, ?_, hprinted .affecting⟩
    · rw [hstatements]
      decide
    · rw [helapsed]
      decide
    · rw [hfunctions]
      rfl

end TinyPlay

import TinyPlay.Proofs.Printed
import TinyPlay.Proofs.Titles

/-! What the script reads of a block: nothing of the block of a connection or of a Summary, and
of the Application Summary the functions time and the queries time. -/

namespace TinyPlay

open Lines Pattern Culture

variable {u : Culture} {p : Printer}

/-! ### Names -/

theorem silent_blank {s : List Char} (h : Silent u s) : Silent u (' ' :: s) := by
  intro hfound
  have hblank : u.sameLetter 'e' ' ' = false := rfl
  exact h (Found.tail hblank hfound)

theorem silent_blanks {s : List Char} (h : Silent u s) (n : ℕ) :
    Silent u (List.replicate n ' ' ++ s) := by
  induction n with
  | zero => exact h
  | succ n ih => exact silent_blank ih

/-- The separator of a list of names: a comma, then blanks. -/
def Build.CommaSeparates (build : Build) : Prop :=
  ∃ n, build.comma.toList = ',' :: List.replicate n ' '

theorem silent_intercalate {build : Build} (hcomma : build.CommaSeparates) {names : List String}
    (h : ∀ name ∈ names, Silent u name.toList) :
    Silent u (build.comma.intercalate names).toList := by
  obtain ⟨n, hn⟩ := hcomma
  induction names with
  | nil =>
    rw [String.intercalate_nil]
    exact silent_of_wide (by decide)
  | cons name names ih =>
    cases names with
    | nil =>
      rw [String.intercalate_singleton]
      exact h name List.mem_cons_self
    | cons next names =>
      rw [String.intercalate_cons_cons, String.toList_append, String.toList_append, hn,
        List.append_assoc, List.cons_append]
      refine silent_split rfl (by decide) (h name List.mem_cons_self) (silent_blanks ?_ n)
      exact ih fun m hm => h m (List.mem_cons_of_mem _ hm)

theorem silent_connectionTitle {name : String} (h : Silent u name.toList) :
    Silent u (connectionTitle name).toList := by
  rw [toList_connectionTitle]
  refine silent_split rfl (by decide) (silent_of_wide (by decide)) ?_
  exact silent_split rfl (by decide) h (silent_of_wide (by decide))

theorem connectionTitle_application {name : String}
    (h : titleContains name "Application" = false) :
    titleContains (connectionTitle name) "Application" = false :=
  (titleContains_connectionTitle name (by decide) (by decide)).trans h

theorem toList_brackets (names : String) :
    (" (" ++ names ++ ")").toList = ' ' :: ('(' :: (names.toList ++ ')' :: [])) := by
  have hopen : " (".toList = [' ', '('] := by decide
  have hclose : ")".toList = [')'] := by decide
  simp only [String.toList_append, hopen, hclose, List.cons_append, List.nil_append]

theorem silent_countedConnections {loggingAppSummary : Bool} (hcomma : p.build.CommaSeparates)
    (h : ∀ name ∈ p.countedConnectionsPrintable loggingAppSummary, Silent u name.toList) :
    Silent u (p.countedConnectionsMessage loggingAppSummary).toList := by
  have hnil : Silent u [] := silent_of_wide (by decide)
  have hsize := (plain_nat (p.countedConnectionsPrintable loggingAppSummary).length).2
  rw [Printer.countedConnectionsMessage, toList_labelled]
  refine silent_split rfl (by decide) ?_ (silent_blank ?_)
  · cases loggingAppSummary <;> exact silent_of_wide (by decide)
  split_ifs
  · rw [String.toList_append, toList_brackets, ← List.singleton_append, ← List.append_assoc]
    refine silent_split rfl (by decide) (silent_of_isNot ?_) ?_
    · exact List.forall_mem_append.mpr ⟨hsize, by decide⟩
    · exact silent_split rfl (by decide) (silent_intercalate hcomma h) hnil
  · rw [String.append_empty]
    exact silent_of_isNot hsize

/-! ### Blocks -/

/-- Each printed counter fits after its label. -/
structure CountersPrintable.Plain (c : CountersPrintable) : Prop where
  queriesElapsed : PlainValue c.queriesElapsed
  recordsHaveBeenModified : PlainValue c.recordsHaveBeenModified
  normal : PlainValue c.statementsCounter.normal
  affecting : PlainValue c.statementsCounter.affecting
  transactional : PlainValue c.statementsCounter.transactional
  total : PlainValue c.statementsCounter.total

theorem getAppCountersPrintable_plain (build : Build) (functionsElapsed : ℤ)
    (counters : BlockCounters) :
    (getAppCountersPrintable build functionsElapsed counters).Plain where
  queriesElapsed := by
    refine plain_append (plain_int _) ?_
    split_ifs <;> decide
  recordsHaveBeenModified := plain_yesNo _
  normal := plain_int _
  affecting := plain_int _
  transactional := plain_int _
  total := plain_int _

/-- Only the queries time of a block can be read. -/
theorem reads_countersMessages (k : Elapsed) (loggingAppSummary : Bool) {c : CountersPrintable}
    (h : c.Plain) : (countersMessages loggingAppSummary c).flatMap (messageReads (k.pattern u)) =
      messageReads (k.pattern u) (queriesMessage loggingAppSummary c.queriesElapsed) := by
  have hmodified : messageReads (k.pattern u) ("✎ Records was modified   " ++
      summaryPadding loggingAppSummary ++ ": " ++ c.recordsHaveBeenModified) = [] := by
    refine k.reads_unlabelled _ rfl ?_ h.recordsHaveBeenModified
    cases loggingAppSummary <;> decide
  have hstatements : messageReads (k.pattern u) "⚖ Statements counters" = [] :=
    reads_of_wide k (by decide)
  have hnormal : messageReads (k.pattern u)
      ("  Normal        : " ++ c.statementsCounter.normal) = [] :=
    k.reads_unlabelled "  Normal        " rfl (by decide) h.normal
  have haffecting : messageReads (k.pattern u)
      ("  Affecting     : " ++ c.statementsCounter.affecting) = [] :=
    k.reads_unlabelled "  Affecting     " rfl (by decide) h.affecting
  have htransactional : messageReads (k.pattern u)
      ("  Transaction   : " ++ c.statementsCounter.transactional) = [] :=
    k.reads_unlabelled "  Transaction   " rfl (by decide) h.transactional
  have htotal : messageReads (k.pattern u)
      ("  Total         : " ++ c.statementsCounter.total) = [] :=
    k.reads_unlabelled "  Total         " rfl (by decide) h.total
  unfold countersMessages
  simp only [List.flatMap_cons, List.flatMap_nil, hmodified, hstatements, hnormal, haffecting,
    htransactional, htotal, reads_end, List.append_nil]

theorem reads_queriesMessage_block {k : Elapsed} (hk : k ≠ .queriesLast) {value : String}
    (h : PlainValue value) : messageReads (k.pattern u) (queriesMessage false value) = [] := by
  refine k.reads_other _ rfl ?_ (by decide) h
  cases k with
  | functions => decide
  | queriesLast => contradiction
  | queriesAverage => decide
  | total => decide

/-- Of the header only the title can be read. -/
theorem reads_headerMessages (k : Elapsed) (title : String) :
    (headerMessages title false).flatMap (messageReads (k.pattern u)) =
      messageReads (k.pattern u) title := by
  unfold headerMessages
  simp only [Bool.false_eq_true, if_false, List.flatMap_cons, List.flatMap_nil, reads_empty,
    reads_end, List.nil_append, List.append_nil]

/-- Of a block that is not the Application Summary only the title can be read. -/
theorem reads_block {k : Elapsed} (hk : k ≠ .queriesLast) {title : String}
    (happlication : titleContains title "Application" = false)
    (hcounted : messageReads (k.pattern u) (p.countedConnectionsMessage false) = [])
    (counters : BlockCounters) :
    (p.logQueryCountersBlock title counters).flatMap (messageReads (k.pattern u)) =
      messageReads (k.pattern u) title := by
  have hsummary : (if titleContains title "Summary" then [p.countedConnectionsMessage false]
      else []).flatMap (messageReads (k.pattern u)) = [] := by
    split_ifs
    · rw [List.flatMap_singleton, hcounted]
    · rfl
  have hplain := getAppCountersPrintable_plain p.build p.thread.functionsElapsed counters
  unfold Printer.logQueryCountersBlock
  simp only [happlication, Bool.false_and, Bool.false_eq_true, if_false, List.append_nil,
    List.flatMap_append, reads_headerMessages k title, hsummary,
    reads_countersMessages k false hplain, reads_queriesMessage_block hk hplain.queriesElapsed]

/-! ### One call of `logQueryCounters` -/

theorem reads_functionMessage (k : Elapsed) (elapsed : ℤ) : messageReads (k.pattern u)
    ("\n⚡ Function Execution time : " ++ (toString elapsed ++ "ms")) = [] := by
  have hstart : "\n⚡ Function Execution time : " =
      "" ++ "\n" ++ "⚡ Function Execution time : " := by decide
  have hline : messageReads (k.pattern u)
      ("⚡ Function Execution time : " ++ (toString elapsed ++ "ms")) = [] :=
    k.reads_other "⚡ Function Execution time " rfl (by cases k <;> decide) (by decide)
      (plain_append (plain_int elapsed) (by decide))
  rw [hstart, String.append_assoc, messageReads_append, hline, List.append_nil, reads_empty]

theorem reads_dashes (k : Elapsed) (n : ℕ) :
    messageReads (k.pattern u) (String.ofList (List.replicate n '-')) = [] := by
  apply messageReads_silent k
  rw [String.toList_ofList]
  apply silent_of_isNot
  intro c hc
  obtain rfl := List.eq_of_mem_replicate hc
  rfl

/-- Of a call only the function name and the titles of the connections can be read. -/
theorem reads_logQueryCounters {k : Elapsed} (hk : k ≠ .queriesLast) (func : String)
    {report : CountersReport}
    (hcounted : messageReads (k.pattern u) (p.countedConnectionsMessage false) = [])
    (hblocks : ∀ block ∈ report.connections, titleContains block.1 "Application" = false) :
    (p.logQueryCounters func report).flatMap (messageReads (k.pattern u)) =
      messageReads (k.pattern u) (playTestMessage func) ++
        report.connections.flatMap fun block =>
          messageReads (k.pattern u) (connectionTitle block.1) := by
  have hfirst (line : String) : messageReads (k.pattern u) ("\n" ++ line) =
      messageReads (k.pattern u) line := by
    rw [← String.empty_append (s := "\n"), messageReads_append, reads_empty, List.nil_append]
  have hconnections : (report.connections.flatMap fun block =>
      p.logQueryCountersBlock (connectionTitle block.1) block.2).flatMap
        (messageReads (k.pattern u)) =
      report.connections.flatMap fun block =>
        messageReads (k.pattern u) (connectionTitle block.1) := by
    rw [List.flatMap_assoc]
    refine List.flatMap_congr fun block hblock => ?_
    exact reads_block hk (connectionTitle_application (hblocks block hblock)) hcounted block.2
  have hsummary : (p.logQueryCountersBlock "Summary" report.summary).flatMap
      (messageReads (k.pattern u)) = [] := by
    rw [reads_block hk (by decide) hcounted]
    exact reads_of_wide k (by decide)
  unfold Printer.logQueryCounters
  simp only [List.flatMap_append, List.flatMap_cons, List.flatMap_nil, hfirst, reads_dashes,
    reads_functionMessage, hconnections, hsummary, List.append_nil, List.nil_append]

/-! ### The Application Summary and the total -/

theorem spells_blanks {least n : ℕ} (h : least ≤ n) :
    Spells (blanks least) (List.replicate n ' ') [] := by
  have hall : ∀ c ∈ List.replicate n ' ', (c == ' ') = true := by
    intro c hc
    exact beq_iff_eq.mpr (List.eq_of_mem_replicate hc)
  have hlength : least ≤ (List.replicate n ' ').length := by rwa [List.length_replicate]
  have hspells : Spells (blanks least) (List.replicate n ' ' ++ []) ([] ++ []) :=
    .many hall hlength .nil
  rwa [List.append_nil] at hspells

/-- A label in any letter case, with its blanks. -/
theorem spells_label {k : Elapsed} (s : String) {labelled : String} (n : ℕ)
    (hlabelled : labelled.toList = s.toList ++ List.replicate n ' ')
    (hs : k.label.toList.map Char.toLower = s.toList.map Char.toLower)
    (hgap : Spells (k.gap u) (List.replicate n ' ') []) :
    Spells (k.key u) labelled.toList [] := by
  rw [hlabelled]
  exact (spells_text hs).append hgap

theorem reads_functionsMessage (k : Elapsed) (n : ℕ) :
    messageReads (k.pattern u) (functionsMessage (n.repr ++ "ms")) =
      if k = .functions then [n.repr.toList] else [] := by
  have hline : functionsMessage (n.repr ++ "ms") =
      "⚡ Functions Execution time : " ++ (n.repr ++ "ms") ++ "\n" ++ "" := by
    rw [String.append_empty]
    rfl
  have hother (hkey : (k.key wide).find "⚡ Functions Execution time ".toList = none) :
      messageReads (k.pattern u) ("⚡ Functions Execution time : " ++ (n.repr ++ "ms")) = [] :=
    k.reads_other _ rfl hkey (by decide) (plain_milliseconds n)
  rw [hline, messageReads_append, reads_empty, List.append_nil]
  cases k with
  | functions =>
    exact Elapsed.functions.reads_number "⚡ " "Functions Execution time " n (by decide)
      (spells_label "Functions Execution time" 1 (by decide) (by decide)
        (spells_blanks (by omega))) (by decide) (by decide)
  | queriesLast => exact hother (by decide)
  | queriesAverage => exact hother (by decide)
  | total => exact hother (by decide)

theorem reads_queriesMessage_summary (k : Elapsed) (n : ℕ) :
    messageReads (k.pattern u) (queriesMessage true (n.repr ++ "ms")) =
      if k = .queriesLast ∨ k = .queriesAverage then [n.repr.toList] else [] := by
  have hother (hkey : (k.key wide).find "⚡ Queries execution time   ".toList = none) :
      messageReads (k.pattern u) (queriesMessage true (n.repr ++ "ms")) = [] :=
    k.reads_other _ rfl hkey (by decide) (plain_milliseconds n)
  have hnumber (hkey : Spells (k.key u) "Queries execution time   ".toList []) :
      messageReads (k.pattern u) (queriesMessage true (n.repr ++ "ms")) = [n.repr.toList] :=
    k.reads_number "⚡ " "Queries execution time   " n (by decide) hkey (by decide) (by decide)
  cases k with
  | functions => exact hother (by decide)
  | queriesLast =>
    exact hnumber (spells_label "Queries execution time" 3 (by decide) (by decide)
      (spells_blanks (by omega)))
  | queriesAverage =>
    exact hnumber (spells_label "Queries execution time" 3 (by decide) (by decide)
      (spells_blanks (by omega)))
  | total => exact hother (by decide)

theorem totalMessage_eq (n : ℕ) : totalMessage n =
    "⚡ Total TestOrm instance execution time : " ++ (n.repr ++ "ms") ++ "\n" ++ "---" := by
  have hms : "ms\n" = "ms" ++ "\n" := by decide
  unfold totalMessage
  rw [hms]
  simp only [String.append_assoc]
  rfl

theorem reads_totalMessage (k : Elapsed) (n : ℕ) :
    messageReads (k.pattern u) (totalMessage n) =
      if k = .total then [n.repr.toList] else [] := by
  have hother (hkey : (k.key wide).find "⚡ Total TestOrm instance execution time ".toList = none) :
      messageReads (k.pattern u)
        ("⚡ Total TestOrm instance execution time : " ++ (n.repr ++ "ms")) = [] :=
    k.reads_other _ rfl hkey (by decide) (plain_milliseconds n)
  rw [totalMessage_eq, messageReads_append, reads_end, List.append_nil]
  cases k with
  | functions => exact hother (by decide)
  | queriesLast => exact hother (by decide)
  | queriesAverage => exact hother (by decide)
  | total =>
    exact Elapsed.total.reads_number "⚡ " "Total TestOrm instance execution time " n (by decide)
      (spells_label "Total TestOrm instance execution time" 1 (by decide) (by decide)
        (spells_text (t := " ") rfl)) (by decide) (by decide)

/-- The messages of an Application Summary in single-threaded mode, up to the threads mode. -/
def Printer.summaryHead (p : Printer) (functionsElapsed : String) : List String :=
  headerMessages "Application Summary" true ++ environmentMessages p.build ++
    [functionsMessage functionsElapsed]

def Printer.summaryPrintable (p : Printer) : CountersPrintable :=
  getAppCountersPrintable p.build p.thread.functionsElapsed ⟨p.thread.queriesElapsed,
    p.thread.statementsCounter, p.thread.recordsHaveBeenModified⟩

theorem logApplicationSummary_eq (hsingle : p.cfg.connectionsInThreads = false) :
    p.logApplicationSummary = p.summaryHead p.summaryPrintable.functionsElapsed ++
      threadsModeMessage false :: p.countedConnectionsMessage true ::
        countersMessages true p.summaryPrintable := by
  have happlication : titleContains "Application Summary" "Application" = true := by decide
  have hsummary : titleContains "Application Summary" "Summary" = true := by decide
  unfold Printer.logApplicationSummary Printer.logQueryCountersBlock Printer.summaryHead
  simp only [happlication, hsummary, hsingle, Bool.and_false, Bool.false_eq_true, if_false, if_true]
  simp only [List.append_assoc, List.cons_append, List.nil_append]
  rfl

/-- What is read of an Application Summary with these times. -/
def Elapsed.ofSummary (k : Elapsed) (functionsElapsed queriesElapsed : ℕ) : List (List Char) :=
  (if k = .functions then [functionsElapsed.repr.toList] else []) ++
    if k = .queriesLast ∨ k = .queriesAverage then [queriesElapsed.repr.toList] else []

theorem printed_milliseconds {n : ℤ} (hn : 0 ≤ n) : toString n = n.toNat.repr := by
  rw [Int.toString_eq_repr, Int.repr_eq_if, if_pos hn]

theorem reads_logApplicationSummary (k : Elapsed) (hsingle : p.cfg.connectionsInThreads = false)
    (hfunctions : 0 ≤ p.thread.functionsElapsed) (hqueries : 0 ≤ p.thread.queriesElapsed)
    (henvironment : ∀ m ∈ environmentMessages p.build, messageReads (k.pattern u) m = [])
    (hcomma : p.build.CommaSeparates)
    (hnames : ∀ name ∈ p.cfg.appCountedConnectionsPrintable, Silent u name.toList) :
    p.logApplicationSummary.flatMap (messageReads (k.pattern u)) =
      k.ofSummary p.thread.functionsElapsed.toNat p.thread.queriesElapsed.toNat := by
  have hsilent : ∀ m ∈ headerMessages "Application Summary" true,
      (wide.text "execution time").find m.toList = none := by
    decide
  have hheader : (headerMessages "Application Summary" true).flatMap
      (messageReads (k.pattern u)) = [] :=
    List.flatMap_eq_nil_iff.mpr fun m hm => reads_of_wide k (hsilent m hm)
  have henv : (environmentMessages p.build).flatMap (messageReads (k.pattern u)) = [] :=
    List.flatMap_eq_nil_iff.mpr henvironment
  have hmode : messageReads (k.pattern u) (threadsModeMessage false) = [] :=
    reads_of_wide k (by decide)
  have hcounted : messageReads (k.pattern u) (p.countedConnectionsMessage true) = [] :=
    messageReads_silent k (silent_countedConnections hcomma hnames)
  have hf : p.summaryPrintable.functionsElapsed = p.thread.functionsElapsed.toNat.repr ++ "ms" := by
    rw [← printed_milliseconds hfunctions]
    rfl
  have hq : p.summaryPrintable.queriesElapsed = p.thread.queriesElapsed.toNat.repr ++ "ms" := by
    have hprinted : p.thread.queriesElapsed > -1 := by omega
    rw [← printed_milliseconds hqueries]
    exact congrArg (toString p.thread.queriesElapsed ++ ·) (if_pos hprinted)
  have hcounters : (countersMessages true p.summaryPrintable).flatMap
      (messageReads (k.pattern u)) =
        messageReads (k.pattern u) (queriesMessage true p.summaryPrintable.queriesElapsed) :=
    reads_countersMessages k true (getAppCountersPrintable_plain _ _ _)
  rw [logApplicationSummary_eq hsingle]
  unfold Printer.summaryHead
  simp only [List.flatMap_append, List.flatMap_cons, List.flatMap_nil, hheader, henv, hmode,
    hcounted, hcounters, hf, hq, List.nil_append, List.append_nil, reads_functionsMessage,
    reads_queriesMessage_summary]
  rfl

end TinyPlay

import TinyPlay.Proofs.Blocks

/-! The 'Threads mode' line: it is among the last twenty lines of the log as long as the names
of the counted connections take at most eight lines, and no line before it is taken for it. -/

namespace TinyPlay

open Lines Pattern Culture

variable {u : Culture} {p : Printer}

/-! ### The line -/

theorem text_threadsMode : u.text "Threads mode" =
    .one (u.sameLetter 'T') :: .one (u.sameLetter 'h') ::
      literal u.sameLetter "reads mode".toList := by
  have h : "Threads mode".toList = 'T' :: 'h' :: "reads mode".toList := by decide
  rw [Culture.text, h]
  rfl

theorem toList_threadsMode : (threadsModeMessage false).toList = '♆' :: ' ' ::
    ("Threads mode".toList ++ (List.replicate 13 ' ' ++ (":".toList ++ (" ".toList ++
      ("single-thread".toList ++ []))))) := by
  decide

theorem matchHere_text (s : String) (q : Pattern Char) (t : List Char) :
    matchHere (u.text s ++ q) (s.toList ++ t) = matchHere q t :=
  matchHere_literal q t (List.forall₂_same.mpr fun a _ => sameLetter_self a)

theorem find_threadsMode :
    u.threadsModePattern.find (threadsModeMessage false).toList = some "single-thread".toList := by
  have hfirst (s : List Char) : matchHere u.threadsModePattern ('♆' :: ' ' :: s) = none := by
    rw [threadsModePattern, text_threadsMode, List.cons_append]
    cases hT : u.sameLetter 'T' '♆' with
    | false => exact matchHere_one_rejected hT
    | true =>
      rw [matchHere_one_accepted hT]
      exact matchHere_one_rejected rfl
  have hsecond (s : List Char) : matchHere u.threadsModePattern (' ' :: s) = none := by
    rw [threadsModePattern, text_threadsMode, List.cons_append]
    exact matchHere_one_rejected rfl
  have hword : matchHere [.many (fun c => u.isWord c || c == '-') 1 true]
      ("single-thread".toList ++ []) = some ("single-thread".toList ++ []) := by
    refine matchHere_many ?_ rfl (by decide) rfl
    have hascii : ∀ c ∈ "single-thread".toList, (c.isAlphanum || c == '-') = true := by decide
    intro c hc
    rcases Bool.or_eq_true_iff.mp (hascii c hc) with halphanum | hdash
    · rw [isWord, halphanum, Bool.true_or, Bool.true_or, Bool.true_or]
    · rw [hdash, Bool.or_true]
  have hblanks : matchHere (blanks 1 ++ (u.text ":" ++ (u.text " " ++
      [.many (fun c => u.isWord c || c == '-') 1 true])))
        (List.replicate 13 ' ' ++ (":".toList ++ (" ".toList ++ ("single-thread".toList ++ [])))) =
      some ([] ++ ("single-thread".toList ++ [])) := by
    refine matchHere_many (by decide) rfl (by decide) ?_
    refine (matchHere_text ":" _ _).trans ?_
    rw [matchHere_text]
    exact hword
  rw [toList_threadsMode, find_cons_of_none (hfirst _), find_cons_of_none (hsecond _)]
  apply find_of_matchHere
  rw [threadsModePattern, matchHere_text, hblanks, List.nil_append, List.append_nil]

/-! ### The lines before it -/

theorem threadsMode_notRead {m : String} (h : ¬(u.text "Threads mode").Found m.toList) :
    messageReads u.threadsModePattern m = [] :=
  messageReads_eq_nil h fun _ hfound => hfound.left

theorem threadsMode_functionsMessage (n : ℕ) :
    messageReads u.threadsModePattern (functionsMessage (n.repr ++ "ms")) = [] := by
  have hline : functionsMessage (n.repr ++ "ms") =
      "⚡ Functions Execution time " ++ ": " ++ (n.repr ++ "ms" ++ "\n") := by
    unfold functionsMessage
    rw [← String.append_assoc]
    rfl
  apply threadsMode_notRead
  rw [hline, toList_labelled]
  intro hfound
  rcases hfound.split (text_rejects rfl (by decide)) with hlabel | hvalue
  · exact not_found_text (by decide) hlabel
  · refine not_found_of_isNot (x := 'h') rfl (by decide) ?_ hvalue
    rw [List.forall_mem_cons, String.toList_append, String.toList_append, List.forall_mem_append,
      List.forall_mem_append]
    refine ⟨rfl, ⟨fun c hc => ?_, by decide⟩, by decide⟩
    exact isNot_of_isDigit rfl rfl (isDigit_of_mem_repr hc)

/-- Nothing is read before the threads mode, if nothing is read of the environment. -/
theorem threadsMode_summaryHead (n : ℕ)
    (henvironment : ∀ m ∈ environmentMessages p.build, messageReads u.threadsModePattern m = []) :
    (p.summaryHead (n.repr ++ "ms")).flatMap (messageReads u.threadsModePattern) = [] := by
  have hheader : ∀ m ∈ headerMessages "Application Summary" true,
      (wide.text "Threads mode").find m.toList = none := by
    decide
  unfold Printer.summaryHead
  rw [List.flatMap_eq_nil_iff]
  intro m hm
  rcases List.mem_append.mp hm with hm | hm
  · rcases List.mem_append.mp hm with hm | hm
    · exact threadsMode_notRead (not_found_text (hheader m hm))
    · exact henvironment m hm
  · obtain rfl := List.mem_singleton.mp hm
    exact threadsMode_functionsMessage n

/-! ### The number of lines -/

theorem length_le_flatMap_messageLines (messages : List String) :
    messages.length ≤ (messages.flatMap messageLines).length := by
  induction messages with
  | nil => exact Nat.zero_le _
  | cons m messages ih =>
    have hm : 0 < (messageLines m).length := List.length_pos_iff.mpr (lines_ne_nil m.toList)
    rw [List.flatMap_cons, List.length_append, List.length_cons]
    omega

theorem flatMap_messageLines {messages : List String} (h : ∀ m ∈ messages, Unbroken m.toList) :
    (messages.flatMap messageLines).length = messages.length := by
  induction messages with
  | nil => rfl
  | cons m messages ih =>
    obtain ⟨hm, hmessages⟩ := List.forall_mem_cons.mp h
    have hlength : (messageLines m).length = 1 := by
      rw [messageLines_of_unbroken hm]
      rfl
    rw [List.flatMap_cons, List.length_append, hlength, ih hmessages, List.length_cons]
    omega

theorem countersMessages_unbroken {c : CountersPrintable} (h : c.Plain) :
    ∀ m ∈ countersMessages true c, Unbroken m.toList := by
  have hlabelled {label value : String} (hlabel : Unbroken label.toList)
      (hvalue : PlainValue value) : Unbroken (label ++ value).toList := by
    rw [String.toList_append]
    exact unbroken_append.mpr ⟨hlabel, hvalue.1⟩
  unfold countersMessages
  simp only [List.forall_mem_cons]
  refine ⟨hlabelled (by decide) h.queriesElapsed, hlabelled (by decide) h.recordsHaveBeenModified,
    by decide, hlabelled (by decide) h.normal, hlabelled (by decide) h.affecting,
    hlabelled (by decide) h.transactional, hlabelled (by decide) h.total, by decide, ?_⟩
  intro m hm
  cases hm

theorem length_totalMessage (n : ℕ) : (messageLines (totalMessage n)).length = 2 := by
  have hline : Unbroken
      ("⚡ Total TestOrm instance execution time : " ++ (n.repr ++ "ms")).toList := by
    rw [String.toList_append]
    exact unbroken_append.mpr ⟨by decide, (plain_milliseconds n).1⟩
  rw [totalMessage_eq, messageLines_append, messageLines_of_unbroken hline,
    messageLines_of_unbroken (by decide)]
  rfl

/-! ### The tail of the log -/

theorem rtake_after {α : Type} {n : ℕ} (before : List α) {head after : List α} (x : α)
    (hafter : after.length < n) (hhead : n ≤ head.length + 1 + after.length) :
    ∃ k, (before ++ (head ++ x :: after)).rtake n = head.drop k ++ x :: after := by
  refine ⟨head.length + 1 + after.length - n, ?_⟩
  have hlength : (before ++ (head ++ x :: after)).length - n =
      before.length + (head.length + 1 + after.length - n) := by
    simp only [List.length_append, List.length_cons]
    omega
  unfold List.rtake
  rw [hlength, List.drop_length_add_append, List.drop_append_of_le_length (by omega)]

theorem initializeConnectionsInThreads_single {log : List Char}
    {before head after : List (List Char)}
    (hlog : lines log = before ++ (head ++ (threadsModeMessage false).toList :: after))
    (hafter : after.length < 20) (hhead : 20 ≤ head.length + 1 + after.length)
    (hnone : selectString u.threadsModePattern head = []) :
    initializeConnectionsInThreads u log = .ok false := by
  obtain ⟨k, hk⟩ := rtake_after before (threadsModeMessage false).toList hafter hhead
  have hdrop : selectString u.threadsModePattern (head.drop k) = [] := by
    apply List.filterMap_eq_nil_iff.mpr
    intro l hl
    exact List.filterMap_eq_nil_iff.mp hnone l (List.mem_of_mem_drop hl)
  have hread : selectString u.threadsModePattern ((lines log).rtake 20) =
      "single-thread".toList :: selectString u.threadsModePattern after := by
    rw [hlog, hk]
    unfold selectString at hdrop ⊢
    rw [List.filterMap_append, hdrop, List.nil_append, List.filterMap_cons_some find_threadsMode]
  unfold initializeConnectionsInThreads
  rw [hread]
  rfl

/-- Twenty lines without the threads mode at the end of the log hide it. -/
theorem initializeConnectionsInThreads_hidden {log : List Char} {before after : List (List Char)}
    (hlog : lines log = before ++ after) (hafter : 20 ≤ after.length)
    (hnone : selectString u.threadsModePattern after = []) :
    initializeConnectionsInThreads u log =
      .error "Can not detect threads mode, no regex matches." := by
  have hlength : (before ++ after).length - 20 = before.length + (after.length - 20) := by
    rw [List.length_append]
    omega
  have hread : selectString u.threadsModePattern ((lines log).rtake 20) = [] := by
    rw [hlog, List.rtake, hlength, List.drop_length_add_append]
    apply List.filterMap_eq_nil_iff.mpr
    intro l hl
    exact List.filterMap_eq_nil_iff.mp hnone l (List.mem_of_mem_drop hl)
  unfold initializeConnectionsInThreads
  rw [hread]

/-- What follows the threads mode in a run. -/
def Printer.summaryTail (p : Printer) (totalElapsed : ℕ) : List String :=
  p.countedConnectionsMessage true :: countersMessages true p.summaryPrintable ++
    [totalMessage totalElapsed, ""]

/-- The 'Counted connections' line of the Application Summary takes at most eight lines. -/
def Printer.CountedFits (p : Printer) : Prop :=
  (messageLines (p.countedConnectionsMessage true)).length ≤ 8

theorem length_summaryTail (p : Printer) (totalElapsed : ℕ) :
    ((p.summaryTail totalElapsed).flatMap messageLines).length =
      (messageLines (p.countedConnectionsMessage true)).length + 11 := by
  have hcounters : ((countersMessages true p.summaryPrintable).flatMap messageLines).length = 8 :=
    flatMap_messageLines (countersMessages_unbroken (getAppCountersPrintable_plain _ _ _))
  have hempty : (messageLines "").length = 1 := by decide
  unfold Printer.summaryTail
  simp only [List.flatMap_cons, List.flatMap_append, List.flatMap_nil, List.length_append,
    List.length_nil, hcounters, hempty, length_totalMessage]

theorem length_summaryHead (p : Printer) (functionsElapsed : String) :
    7 ≤ ((p.summaryHead functionsElapsed).flatMap messageLines).length := by
  refine le_trans ?_ (length_le_flatMap_messageLines _)
  unfold Printer.summaryHead environmentMessages headerMessages
  simp only [List.length_append, List.length_cons, if_true]
  omega

end TinyPlay

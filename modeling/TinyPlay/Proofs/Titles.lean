import TinyPlay.Lib.Lines
import TinyPlay.Lib.Pattern
import TinyPlay.Spec.Printing

/-! The title of a connection's block. A text without quotes that the fixed part of the title does
not contain is in the title exactly when it is in the name. -/

namespace TinyPlay

open Pattern

theorem toList_connectionTitle (name : String) : (connectionTitle name).toList =
    "Connection name - ".toList ++ '\'' :: (name.toList ++ '\'' :: []) := by
  have hopen : "Connection name - '".toList = "Connection name - ".toList ++ ['\''] := by decide
  have hclose : "'".toList = ['\''] := by decide
  unfold connectionTitle
  simp only [String.toList_append, hopen, hclose, List.append_assoc, List.cons_append,
    List.nil_append]

theorem titleContains_connectionTitle (name : String) {text : String}
    (hquote : '\'' ∉ text.toList) (hfixed : titleContains "Connection name - " text = false) :
    titleContains (connectionTitle name) text = titleContains name text := by
  rw [titleContains, decide_eq_false_iff_not] at hfixed
  unfold titleContains
  rw [decide_eq_decide, toList_connectionTitle]
  constructor
  · intro hinfix
    rcases infix_split hquote hinfix with hbefore | hinfix
    · exact absurd hbefore hfixed
    · rcases infix_split hquote hinfix with hname | hnil
      · exact hname
      · rw [List.infix_nil] at hnil
        rw [hnil] at hfixed
        exact absurd List.nil_infix hfixed
  · rintro ⟨a, b, hname⟩
    refine ⟨"Connection name - ".toList ++ '\'' :: a, b ++ ['\''], ?_⟩
    rw [← hname]
    simp only [List.append_assoc, List.cons_append]

end TinyPlay

import DiceRoller.Text.Blank

/-!
Lines of a text, and texts on one line.
-/

namespace DiceRoller
namespace Text

/-- A character before some lines: the first of them gets it, or a line of its own. -/
def openLine (c : Char) : List (List Char) → List (List Char)
  | [] => [[c]]
  | l :: ls => (c :: l) :: ls

/-- The lines of a text, without the characters that end them.  A carriage return and
the line feed behind it end one line together, and behind the end of the last line
there is no other. -/
def lines : List Char → List (List Char)
  | [] => []
  | '\r' :: '\n' :: cs => [] :: lines cs
  | c :: cs => if isLineBreak c then [] :: lines cs else openLine c (lines cs)

theorem openLine_ne_nil (c : Char) (ls : List (List Char)) : openLine c ls ≠ [] := by
  cases ls <;> simp [openLine]

theorem lines_newline_cons (cs : List Char) : lines ('\n' :: cs) = [] :: lines cs := rfl

theorem lines_cons_of_not {c : Char} (h : ¬ isLineBreak c = true) (cs : List Char) :
    lines (c :: cs) = openLine c (lines cs) := by
  have hne : c ≠ '\r' := by
    rintro rfl
    exact h rfl
  rw [lines, if_neg h]
  exact fun _ hc _ => hne hc

theorem lines_ne_nil {cs : List Char} (h : cs ≠ []) : lines cs ≠ [] := by
  fun_cases lines cs with
  | case1 => exact absurd rfl h
  | case2 => simp
  | case3 => simp
  | case4 c cs => exact openLine_ne_nil c (lines cs)

theorem not_isLineBreak_of_mem_openLine {c : Char} (hc : ¬ isLineBreak c = true)
    {ls : List (List Char)} (h : ∀ l ∈ ls, ∀ d ∈ l, ¬ isLineBreak d = true) :
    ∀ l ∈ openLine c ls, ∀ d ∈ l, ¬ isLineBreak d = true := by
  cases ls with
  | nil => simpa [openLine] using hc
  | cons l ls =>
      intro k hk
      rcases List.mem_cons.1 hk with rfl | hk
      · exact List.forall_mem_cons.2 ⟨hc, h l List.mem_cons_self⟩
      · exact h k (List.mem_cons_of_mem l hk)

/-- No line holds a line break. -/
theorem not_isLineBreak_of_mem_lines {cs : List Char} :
    ∀ l ∈ lines cs, ∀ d ∈ l, ¬ isLineBreak d = true := by
  fun_induction lines cs with
  | case1 => simp
  | case2 cs ih => simpa using ih
  | case3 c cs _ hc ih => simpa using ih
  | case4 c cs _ hc ih => exact not_isLineBreak_of_mem_openLine hc ih

/-- A text on one line: a slash between blanks stands between its lines. -/
def onOneLine (text : String) : String :=
  " / ".intercalate ((lines text.toList).map String.ofList)

/-- The carriage return and the line feed are one line break, and the last one opens no line. -/
example : onOneLine "a\r\nb\n\x0bc\n" = "a / b /  / c" := by decide

end Text
end DiceRoller

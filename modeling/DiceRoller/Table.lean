import DiceRoller.Text.Blank

/-!
Plain-text tables.

A row of columns pads each cell to the width of its column, the greatest length
of a cell at that place in any row.  Full rows and separators span the table,
which is as wide as its columns with one blank between them, or as its longest
full text.  All widths come from the rows as a set: `widest` takes the larger
width at each place, so neither their order nor their number matters.
-/

namespace DiceRoller

inductive Alignment where
  | left
  | center
  | right
  deriving DecidableEq, Repr

def blanks (n : Nat) : String := String.ofList (List.replicate n ' ')

/-- Pad a text with blanks to a width.  A centred text has the odd blank on its
right, and a text longer than the width is left as it is. -/
def Alignment.pad (a : Alignment) (text : String) (width : Nat) : String :=
  let gap := width - text.length
  match a with
  | left => text ++ blanks gap
  | center => blanks (gap / 2) ++ text ++ blanks (gap - gap / 2)
  | right => blanks gap ++ text

/-- A text in a column and its place there. -/
structure Cell where
  text : String
  alignment : Alignment
  deriving DecidableEq, Repr

inductive Row where
  | columns (cells : List Cell)
  | full (text : String) (alignment : Alignment)
  /-- The text `mark` as often as the table is wide. -/
  | separator (mark : String)
  deriving DecidableEq, Repr

structure Table where
  rows : List Row
  deriving DecidableEq, Repr

namespace Table

def empty : Table := ⟨[]⟩

def appendRow (t : Table) (r : Row) : Table := ⟨t.rows ++ [r]⟩

def appendRows (t : Table) (rs : List Row) : Table := ⟨t.rows ++ rs⟩

def appendTable (t other : Table) : Table := t.appendRows other.rows

/-- The larger of two widths at each place.  A list that ends early has width
zero from there on. -/
def widest : List Nat → List Nat → List Nat
  | [], ws => ws
  | v :: vs, [] => v :: vs
  | v :: vs, w :: ws => max v w :: widest vs ws

end Table

namespace Row

/-- The lengths of the cells of a row of columns.  Other rows have no cells. -/
def widths : Row → List Nat
  | columns cells => cells.map (fun c => c.text.length)
  | full _ _ | separator _ => []

/-- The width that a full row asks of the table. -/
def span : Row → Nat
  | full text _ => text.length
  | columns _ | separator _ => 0

end Row

namespace Table

/-- The widths of the columns. -/
def widths (t : Table) : List Nat :=
  t.rows.foldr (fun r ws => widest r.widths ws) []

/-- The length of the longest full text. -/
def span (t : Table) : Nat :=
  t.rows.foldr (fun r n => max r.span n) 0

/-- The width of columns with one blank between them. -/
def joinedWidth (ws : List Nat) : Nat :=
  ws.foldr (· + ·) 0 + (ws.length - 1)

/-- The width of the table. -/
def width (t : Table) : Nat :=
  max (joinedWidth t.widths) t.span

end Table

namespace Row

/-- A row before the blanks at its end are taken off. -/
def line (widths : List Nat) (width : Nat) : Row → String
  | columns cells =>
    " ".intercalate (cells.zipWith (fun c w => c.alignment.pad c.text w) widths)
  | full text alignment => alignment.pad text width
  | separator mark => String.join (List.replicate width mark)

/-- A row as it is printed.  No line ends in a blank. -/
def render (widths : List Nat) (width : Nat) (r : Row) : String :=
  String.ofList (Text.trimEnd Text.isBlank (r.line widths width).toList)

end Row

namespace Table

/-- The lines of a table, one for each row. -/
def lines (t : Table) : List String :=
  t.rows.map (Row.render t.widths t.width)

def render (t : Table) : String :=
  "\n".intercalate t.lines

theorem length_widest (vs ws : List Nat) :
    (widest vs ws).length = max vs.length ws.length := by
  induction vs generalizing ws with
  | nil => simp [widest]
  | cons v vs ih =>
      cases ws with
      | nil => simp [widest]
      | cons w ws => simp [widest, ih, Nat.succ_max_succ]

/-- The width of the table of two lists of rows at a place is the larger of the
two. -/
theorem getD_widest (vs ws : List Nat) (i : Nat) :
    (widest vs ws).getD i 0 = max (vs.getD i 0) (ws.getD i 0) := by
  induction vs generalizing ws i with
  | nil => simp [widest]
  | cons v vs ih =>
      cases ws with
      | nil => simp [widest]
      | cons w ws =>
          cases i with
          | zero => simp [widest]
          | succ i => simpa [widest] using ih ws i

/-- A table has a column for each cell of its longest row. -/
theorem length_widths_of_mem {t : Table} {r : Row} (h : r ∈ t.rows) :
    r.widths.length ≤ t.widths.length := by
  obtain ⟨rows⟩ := t
  show _ ≤ (rows.foldr (fun r ws => widest r.widths ws) []).length
  induction rows with
  | nil => simp at h
  | cons q rows ih =>
      rw [List.foldr_cons, length_widest]
      rcases List.mem_cons.1 h with rfl | h
      · exact Nat.le_max_left _ _
      · exact Nat.le_trans (ih h) (Nat.le_max_right _ _)

end Table
end DiceRoller

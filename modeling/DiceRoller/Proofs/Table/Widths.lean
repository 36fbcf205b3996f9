import DiceRoller.Proofs.Number
import DiceRoller.Table

/-!
The widths of a table belong to its rows as a set.

Widths can be collected in one pass over the cells, in a list that grows with the longest row
(`Table.widths_eq_foldl_collect`).  What comes of it is described without the rows' order: as
many columns as a row has cells at most, each as wide as the longest text at its place
(`Table.widths_eq`, `Table.width_eq`).  So two tables with the same rows, in whatever order and
however often, print each of them alike.
-/

namespace DiceRoller

namespace Text

/-- The length of the longest of some texts, zero if there is none. -/
def longest (texts : List String) : Nat := texts.toFinset.sup String.length

theorem longest_cons (s : String) (texts : List String) :
    longest (s :: texts) = max s.length (longest texts) := by
  rw [longest, List.toFinset_cons, Finset.sup_insert]
  rfl

theorem length_le_longest {s : String} {texts : List String} (h : s ∈ texts) :
    s.length ≤ longest texts :=
  Finset.le_sup (f := String.length) (List.mem_toFinset.2 h)

theorem longest_congr {as bs : List String} (h : ∀ s, s ∈ as ↔ s ∈ bs) :
    longest as = longest bs := by
  have hset : as.toFinset = bs.toFinset := by
    ext s
    rw [List.mem_toFinset, List.mem_toFinset, h]
  rw [longest, hset, longest]

end Text

namespace Row

/-- The cells of a row of columns.  Other rows have none. -/
def cells : Row → List Cell
  | columns cells => cells
  | full _ _ | separator _ => []

/-- The text of a full row. -/
def fullText? : Row → Option String
  | full text _ => some text
  | columns _ | separator _ => none

theorem widths_eq (r : Row) : r.widths = r.cells.map fun c => c.text.length := by
  cases r <;> rfl

end Row

namespace Table

/-- The texts of the cells at a place, over the rows that have one there. -/
def column (t : Table) (i : Nat) : List String :=
  t.rows.filterMap fun r => r.cells[i]?.map Cell.text

def columnWidth (t : Table) (i : Nat) : Nat := Text.longest (t.column i)

/-- The number of cells of the longest row. -/
def columnCount (t : Table) : Nat := t.rows.toFinset.sup fun r => r.cells.length

def fullTexts (t : Table) : List String := t.rows.filterMap Row.fullText?

/-- The width of all columns with one blank between them, or of the longest full text if that
is wider. -/
def breadth (t : Table) : Nat :=
  max (∑ i ∈ Finset.range t.columnCount, t.columnWidth i + (t.columnCount - 1))
    (Text.longest t.fullTexts)

theorem columnWidth_cons (r : Row) (rows : List Row) (i : Nat) :
    columnWidth ⟨r :: rows⟩ i = max (r.widths.getD i 0) (columnWidth ⟨rows⟩ i) := by
  rw [columnWidth, columnWidth, column, column, Row.widths_eq, List.filterMap_cons,
    List.getD_eq_getElem?_getD, List.getElem?_map]
  cases r.cells[i]? with
  | none => simp
  | some c => exact Text.longest_cons c.text _

theorem columnCount_cons (r : Row) (rows : List Row) :
    columnCount ⟨r :: rows⟩ = max r.widths.length (columnCount ⟨rows⟩) := by
  rw [columnCount, List.toFinset_cons, Finset.sup_insert, Row.widths_eq, List.length_map]
  rfl

theorem length_widths (t : Table) : t.widths.length = t.columnCount := by
  obtain ⟨rows⟩ := t
  induction rows with
  | nil => rfl
  | cons r rows ih =>
      rw [columnCount_cons, ← ih]
      exact length_widest r.widths (widths ⟨rows⟩)

theorem getD_widths (t : Table) (i : Nat) : t.widths.getD i 0 = t.columnWidth i := by
  obtain ⟨rows⟩ := t
  induction rows with
  | nil => rfl
  | cons r rows ih =>
      rw [columnWidth_cons, ← ih]
      exact getD_widest r.widths (widths ⟨rows⟩) i

theorem widths_eq (t : Table) : t.widths = (List.range t.columnCount).map t.columnWidth := by
  apply List.ext_getElem
  · rw [length_widths, List.length_map, List.length_range]
  · intro i h _
    rw [List.getElem_map, List.getElem_range, ← getD_widths]
    exact (List.getD_eq_getElem t.widths 0 h).symm

theorem span_eq (t : Table) : t.span = Text.longest t.fullTexts := by
  obtain ⟨rows⟩ := t
  induction rows with
  | nil => rfl
  | cons r rows ih =>
      have hspan : span ⟨r :: rows⟩ = max r.span (span ⟨rows⟩) := rfl
      rw [hspan, ih]
      cases r with
      | full text alignment => exact (Text.longest_cons text _).symm
      | columns cells => exact Nat.zero_max _
      | separator mark => exact Nat.zero_max _

theorem width_eq (t : Table) : t.width = t.breadth := by
  have hsum : t.widths.foldr (· + ·) 0 = ∑ i ∈ Finset.range t.columnCount, t.columnWidth i := by
    rw [widths_eq]
    rfl
  rw [width, joinedWidth, hsum, length_widths, span_eq, breadth]

/-! ## Widths collected cell by cell -/

/-- A cell at a place makes the column there wide enough, or adds one behind the last. -/
def widen (ws : List Nat) (i n : Nat) : List Nat :=
  if i < ws.length then ws.modify i (max n) else ws ++ [n]

/-- Go through the cells of a row from the first to the last. -/
def collect (ws : List Nat) (r : Row) : List Nat :=
  r.widths.zipIdx.foldl (fun ws cell => widen ws cell.2 cell.1) ws

theorem widen_append_cons (seen : List Nat) (w : Nat) (ws : List Nat) (n : Nat) :
    widen (seen ++ w :: ws) seen.length n = seen ++ max n w :: ws := by
  have hmodify : (seen ++ w :: ws).modify seen.length (max n) = seen ++ max n w :: ws := by
    induction seen with
    | nil => rfl
    | cons v seen ih => exact congrArg (v :: ·) ih
  have hlt : seen.length < (seen ++ w :: ws).length := by
    rw [List.length_append, List.length_cons]
    omega
  rw [widen, if_pos hlt, hmodify]

theorem widen_length (ws : List Nat) (n : Nat) : widen ws ws.length n = ws ++ [n] := by
  rw [widen, if_neg (Nat.lt_irrefl _)]

/-- The columns in `seen` are those of the cells that have been gone through. -/
theorem foldl_widen (ns seen ws : List Nat) :
    (ns.zipIdx seen.length).foldl (fun ws cell => widen ws cell.2 cell.1) (seen ++ ws) =
      seen ++ widest ns ws := by
  induction ns generalizing seen ws with
  | nil => rfl
  | cons n ns ih =>
      rw [List.zipIdx_cons, List.foldl_cons]
      cases ws with
      | nil =>
          have hrest := ih (seen ++ [n]) []
          rw [List.length_append, List.append_nil] at hrest
          rw [List.append_nil, widen_length]
          refine hrest.trans ?_
          rw [List.append_assoc]
          cases ns <;> rfl
      | cons w ws =>
          have hrest := ih (seen ++ [max n w]) ws
          rw [List.length_append, List.append_assoc, List.append_assoc] at hrest
          rw [widen_append_cons]
          exact hrest

theorem collect_eq (ws : List Nat) (r : Row) : collect ws r = widest r.widths ws :=
  foldl_widen r.widths [] ws

theorem widest_left_comm (us vs ws : List Nat) :
    widest us (widest vs ws) = widest vs (widest us ws) := by
  have hlength : (widest us (widest vs ws)).length = (widest vs (widest us ws)).length := by
    simp only [length_widest, Nat.max_left_comm]
  refine List.ext_getElem hlength fun i hi hi' => ?_
  rw [← List.getD_eq_getElem _ 0 hi, ← List.getD_eq_getElem _ 0 hi']
  simp only [getD_widest, Nat.max_left_comm]

/-- The widths are those that one pass over the rows, from the first to the last, collects in a
list that grows with the longest row. -/
theorem widths_eq_foldl_collect (t : Table) : t.widths = t.rows.foldl collect [] := by
  have hcollect : collect = flip fun r ws => widest r.widths ws := by
    funext ws r
    exact collect_eq ws r
  have : LeftCommutative fun (r : Row) ws => widest r.widths ws :=
    ⟨fun q r ws => widest_left_comm q.widths r.widths ws⟩
  rw [hcollect, List.foldl_flip_eq_foldr]
  rfl

/-! ## Tables with the same rows -/

/-- Every row has one line, and the same one in both tables. -/
def PrintsLike (t u : Table) : Prop :=
  ∃ line : Row → String, t.lines = t.rows.map line ∧ u.lines = u.rows.map line

section
variable {t u : Table}

theorem columnWidth_congr (h : ∀ r, r ∈ t.rows ↔ r ∈ u.rows) (i : Nat) :
    t.columnWidth i = u.columnWidth i := by
  apply Text.longest_congr
  intro s
  simp only [column, List.mem_filterMap, h]

theorem columnCount_congr (h : ∀ r, r ∈ t.rows ↔ r ∈ u.rows) :
    t.columnCount = u.columnCount := by
  have hset : t.rows.toFinset = u.rows.toFinset := by
    ext r
    rw [List.mem_toFinset, List.mem_toFinset, h]
  rw [columnCount, hset, columnCount]

theorem widths_congr (h : ∀ r, r ∈ t.rows ↔ r ∈ u.rows) : t.widths = u.widths := by
  rw [widths_eq, widths_eq, columnCount_congr h, funext (columnWidth_congr h)]

theorem width_congr (h : ∀ r, r ∈ t.rows ↔ r ∈ u.rows) : t.width = u.width := by
  have hfull : Text.longest t.fullTexts = Text.longest u.fullTexts := by
    apply Text.longest_congr
    intro s
    simp only [fullTexts, List.mem_filterMap, h]
  rw [width, width, widths_congr h, span_eq, span_eq, hfull]

theorem printsLike_of_mem_iff (h : ∀ r, r ∈ t.rows ↔ r ∈ u.rows) : t.PrintsLike u := by
  refine ⟨Row.render t.widths t.width, rfl, ?_⟩
  rw [widths_congr h, width_congr h]
  rfl

theorem mem_rows_iff_of_get_eq (place : Fin u.rows.length ≃ Fin t.rows.length)
    (h : ∀ i, u.rows.get i = t.rows.get (place i)) (r : Row) : r ∈ u.rows ↔ r ∈ t.rows := by
  rw [List.mem_iff_get, List.mem_iff_get]
  constructor
  · rintro ⟨i, rfl⟩
    exact ⟨place i, (h i).symm⟩
  · rintro ⟨j, rfl⟩
    refine ⟨place.symm j, ?_⟩
    rw [h, place.apply_symm_apply]

theorem PrintsLike.getElem?_lines (h : t.PrintsLike u) {i j : Nat}
    (hij : t.rows[i]? = u.rows[j]?) : t.lines[i]? = u.lines[j]? := by
  obtain ⟨line, ht, hu⟩ := h
  rw [ht, hu, List.getElem?_map, List.getElem?_map, hij]

theorem PrintsLike.render_eq (h : t.PrintsLike u) (hrows : t.rows = u.rows) :
    t.render = u.render := by
  obtain ⟨line, ht, hu⟩ := h
  rw [render, render, ht, hu, hrows]

end

theorem lines_appendTable_self (t : Table) : (t.appendTable t).lines = t.lines ++ t.lines := by
  have hmem : ∀ r, r ∈ (t.appendTable t).rows ↔ r ∈ t.rows := by
    simp [appendTable, appendRows]
  obtain ⟨line, hboth, ht⟩ := printsLike_of_mem_iff hmem
  rw [hboth, ht]
  exact List.map_append

/-! ## Tables put together in steps -/

/-- What can be added at the end of a table in one step. -/
inductive Addition where
  | row (r : Row)
  | rows (rs : List Row)
  | table (other : Table)
  /-- The table that is added to, as it is then. -/
  | itself

/-- The rows that an addition brings, beside those that the table has. -/
def Addition.given : Addition → List Row
  | row r => [r]
  | rows rs => rs
  | table other => other.rows
  | itself => []

def add (t : Table) : Addition → Table
  | .row r => t.appendRow r
  | .rows rs => t.appendRows rs
  | .table other => t.appendTable other
  | .itself => t.appendTable t

def addAll (t : Table) (as : List Addition) : Table := as.foldl add t

theorem mem_add {t : Table} {a : Addition} {r : Row} :
    r ∈ (t.add a).rows ↔ r ∈ t.rows ∨ r ∈ a.given := by
  cases a <;> simp [add, appendRow, appendRows, appendTable, Addition.given]

theorem mem_addAll {t : Table} {as : List Addition} {r : Row} :
    r ∈ (t.addAll as).rows ↔ r ∈ t.rows ∨ ∃ a ∈ as, r ∈ a.given := by
  induction as generalizing t with
  | nil => simp [addAll]
  | cons a as ih =>
      have hstep : t.addAll (a :: as) = (t.add a).addAll as := rfl
      rw [hstep, ih, mem_add, or_assoc, List.exists_mem_cons_iff]

/-- Which rows a table has decides how each of them is printed.  So rows in another order have
their lines in that order, a table added to itself has its lines twice, and whichever steps
brought the rows into two tables, a row that both have has the same line. -/
theorem printed_by_set_of_rows :
    (∀ t u : Table, (∀ r, r ∈ t.rows ↔ r ∈ u.rows) → t.PrintsLike u) ∧
    (∀ (t u : Table) (place : Fin u.rows.length ≃ Fin t.rows.length),
      (∀ i, u.rows.get i = t.rows.get (place i)) →
      ∀ i : Fin u.rows.length, u.lines[i.val]? = t.lines[(place i).val]?) ∧
    (∀ t : Table, (t.appendTable t).lines = t.lines ++ t.lines) ∧
    ∀ (t u : Table) (as bs : List Addition),
      (∀ r, (r ∈ t.rows ∨ ∃ a ∈ as, r ∈ a.given) ↔ r ∈ u.rows ∨ ∃ b ∈ bs, r ∈ b.given) →
      (t.addAll as).PrintsLike (u.addAll bs) ∧
        ((t.addAll as).rows = (u.addAll bs).rows →
          (t.addAll as).render = (u.addAll bs).render) := by
  refine ⟨fun t u => printsLike_of_mem_iff, ?_, lines_appendTable_self, ?_⟩
  · intro t u place h i
    refine (printsLike_of_mem_iff (mem_rows_iff_of_get_eq place h)).getElem?_lines ?_
    rw [List.getElem?_eq_getElem i.isLt, List.getElem?_eq_getElem (place i).isLt]
    exact congrArg some (h i)
  · intro t u as bs h
    have hprints : (t.addAll as).PrintsLike (u.addAll bs) := by
      apply printsLike_of_mem_iff
      intro r
      rw [mem_addAll, mem_addAll]
      exact h r
    exact ⟨hprints, hprints.render_eq⟩

/-- The statement at three rows and at four that are the same ones in another order with one
of them twice, at the three rows in reverse, and at two ways to put the three together. -/
theorem printed_by_set_of_rows_of_repeated :
    let short : Row := .columns [⟨"1", .right⟩]
    let long : Row := .columns [⟨"20", .left⟩, ⟨"ab", .center⟩]
    let note : Row := .full "a note" .right
    let t : Table := ⟨[short, long, note]⟩
    let u : Table := ⟨[note, long, short, note]⟩
    let reversed : Table := ⟨[note, long, short]⟩
    (t.lines = [" 1", "20 ab", "a note"] ∧ u.lines = ["a note", "20 ab", " 1", "a note"]) ∧
      ((∀ r, r ∈ t.rows ↔ r ∈ u.rows) ∧ t.PrintsLike u) ∧
      (∀ i : Fin 3, reversed.lines[i.val]? = t.lines[(Equiv.swap (0 : Fin 3) 2 i).val]?) ∧
      (empty.addAll [.row short, .rows [long, note], .itself]).render =
        (empty.addAll [.table t, .row short, .rows [long, note]]).render := by
  intro short long note t u reversed
  have hmem : ∀ r, r ∈ t.rows ↔ r ∈ u.rows := by
    intro r
    simp only [t, u, List.mem_cons, List.not_mem_nil, or_false]
    tauto
  have hplaces : ∀ i : Fin 3, reversed.rows.get i = t.rows.get (Equiv.swap (0 : Fin 3) 2 i) := by
    decide
  have hgiven : ∀ r, (r ∈ empty.rows ∨
      ∃ a ∈ [.row short, .rows [long, note], Addition.itself], r ∈ a.given) ↔
        r ∈ empty.rows ∨
          ∃ b ∈ [.table t, .row short, Addition.rows [long, note]], r ∈ b.given := by
    intro r
    simp [t, Addition.given]
  obtain ⟨hset, hperm, -, hsteps⟩ := printed_by_set_of_rows
  exact ⟨⟨by decide, by decide⟩, ⟨hmem, hset t u hmem⟩,
    hperm t reversed (Equiv.swap (0 : Fin 3) 2) hplaces, (hsteps _ _ _ _ hgiven).2 rfl⟩

end Table
end DiceRoller

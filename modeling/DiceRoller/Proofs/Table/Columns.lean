import DiceRoller.Proofs.Table.Widths

/-!
The columns of a table line up.

A row of columns is its cells, each padded to the width of its column, with a blank between
them, so a cell starts where the columns before it end (`Text.exists_intercalate_split`).  The
blanks at the end of a line are taken off, and as texts hold no other blank than the space, all
that is lost is padding: filled up to the width of the table, the line is whole again
(`Text.rightpad_trimEnd`).
-/

namespace DiceRoller

namespace Text

/-- The text has these lines: a newline divides them, and no character that ends a line occurs
within one. -/
structure HasLines (text : List Char) (ls : List (List Char)) : Prop where
  joined : text = ['\n'].intercalate ls
  unbroken : ∀ l ∈ ls, ∀ c ∈ l, ¬ isLineBreak c = true

/-- The only blanks are spaces. -/
def SpacesOnly (cs : List Char) : Prop := ∀ c ∈ cs, isBlank c = true → c = ' '

instance (cs : List Char) : Decidable (SpacesOnly cs) :=
  List.decidableBAll _ cs

namespace SpacesOnly

variable {as bs : List Char}

theorem append (has : SpacesOnly as) (hbs : SpacesOnly bs) : SpacesOnly (as ++ bs) := by
  intro c hc
  rcases List.mem_append.1 hc with hc | hc
  · exact has c hc
  · exact hbs c hc

theorem replicate_space (n : Nat) : SpacesOnly (List.replicate n ' ') :=
  fun _ hc _ => List.eq_of_mem_replicate hc

theorem intercalate {ls : List (List Char)} (h : ∀ l ∈ ls, SpacesOnly l) :
    SpacesOnly ([' '].intercalate ls) := by
  induction ls with
  | nil => exact replicate_space 0
  | cons l ls ih =>
      have hl := h l List.mem_cons_self
      cases ls with
      | nil => rwa [List.intercalate_singleton]
      | cons m ls =>
          rw [List.intercalate_cons_cons]
          exact (hl.append (replicate_space 1)).append
            (ih fun k hk => h k (List.mem_cons_of_mem l hk))

theorem not_isLineBreak (h : SpacesOnly as) {c : Char} (hc : c ∈ as) :
    ¬ isLineBreak c = true := by
  intro hbreak
  rw [h c hc (isBlank_of_isLineBreak hbreak)] at hbreak
  simp [isLineBreak] at hbreak

end SpacesOnly

/-- Only padding is taken off the end. -/
theorem rightpad_trimEnd {cs : List Char} {n : Nat} (hspace : SpacesOnly cs)
    (hle : cs.length ≤ n) : (trimEnd isBlank cs).rightpad n ' ' = cs.rightpad n ' ' := by
  obtain ⟨gap, hcs, hgap⟩ := exists_trimEnd_append isBlank cs
  have hspaces : gap = List.replicate gap.length ' ' := by
    refine List.eq_replicate_iff.2 ⟨rfl, fun c hc => hspace c ?_ (hgap c hc)⟩
    rw [hcs]
    exact List.mem_append_right _ hc
  have hlength := congrArg List.length hcs
  rw [List.length_append] at hlength
  have hfill : n - (trimEnd isBlank cs).length = gap.length + (n - cs.length) := by omega
  rw [List.rightpad, List.rightpad, hfill, List.replicate_add, ← hspaces, ← List.append_assoc,
    ← hcs]

theorem length_trimEnd_le (p : Char → Bool) (cs : List Char) :
    (trimEnd p cs).length ≤ cs.length := by
  obtain ⟨gap, hcs, -⟩ := exists_trimEnd_append p cs
  have hlength := congrArg List.length hcs
  rw [List.length_append] at hlength
  omega

theorem mem_of_mem_trimEnd {p : Char → Bool} {cs : List Char} {c : Char}
    (h : c ∈ trimEnd p cs) : c ∈ cs := by
  obtain ⟨gap, hcs, -⟩ := exists_trimEnd_append p cs
  rw [hcs]
  exact List.mem_append_left gap h

/-! ## Pieces between single characters -/

theorem length_intercalate_singleton (s : Char) (ls : List (List Char)) :
    ([s].intercalate ls).length = (ls.map List.length).sum + (ls.length - 1) := by
  induction ls with
  | nil => rfl
  | cons l ls ih =>
      cases ls with
      | nil => simp [List.intercalate_singleton]
      | cons m ls =>
          rw [List.intercalate_cons_cons, List.length_append, ih, List.length_append]
          simp only [List.map_cons, List.sum_cons, List.length_cons, List.length_nil]
          omega

/-- A piece stands behind the pieces before it and the character after each of them. -/
theorem exists_intercalate_split (s : Char) {ls : List (List Char)} {i : Nat} {l : List Char}
    (h : ls[i]? = some l) :
    ∃ front back, [s].intercalate ls = front ++ (l ++ back) ∧
      front.length = ((ls.take i).map fun m => m.length + 1).sum ∧
      (i + 1 < ls.length → back.head? = some s) := by
  induction ls generalizing i with
  | nil => simp at h
  | cons m ls ih =>
      cases i with
      | zero =>
          obtain rfl : m = l := by simpa using h
          cases ls with
          | nil => exact ⟨[], [], by simp [List.intercalate_singleton], rfl, by simp⟩
          | cons k ls =>
              refine ⟨[], s :: [s].intercalate (k :: ls), ?_, rfl, fun _ => rfl⟩
              rw [List.intercalate_cons_cons, List.append_assoc]
              rfl
      | succ i =>
          obtain ⟨front, back, hsplit, hfront, hback⟩ := ih h
          cases ls with
          | nil => simp at h
          | cons k ls =>
              refine ⟨m ++ [s] ++ front, back, ?_, ?_, fun hi => hback ?_⟩
              · rw [List.intercalate_cons_cons, hsplit, List.append_assoc (m ++ [s])]
              · rw [List.take_succ_cons, List.map_cons, List.sum_cons, ← hfront]
                simp only [List.length_append, List.length_cons, List.length_nil]
              · simpa using hi

end Text

/-! ## Cells -/

theorem toList_blanks (n : Nat) : (blanks n).toList = List.replicate n ' ' :=
  String.toList_ofList

namespace Alignment

/-- How the blanks that fill up a field are divided before and after its text. -/
def Divides : Alignment → Nat → Nat → Prop
  | left, before, _ => before = 0
  | center, before, after => after = before ∨ after = before + 1
  | right, _, after => after = 0

/-- A field of a width holds the text, filled up with blanks on the side or the sides that the
alignment asks for. -/
structure Fills (a : Alignment) (text : String) (width : Nat) (field : List Char) : Prop where
  length_eq : field.length = width
  eq : ∃ before after,
    field = List.replicate before ' ' ++ text.toList ++ List.replicate after ' ' ∧
      a.Divides before after

theorem exists_toList_pad (a : Alignment) (text : String) (width : Nat) :
    ∃ before after, (a.pad text width).toList =
        List.replicate before ' ' ++ text.toList ++ List.replicate after ' ' ∧
      before + after = width - text.length ∧ a.Divides before after := by
  cases a with
  | left =>
      refine ⟨0, width - text.length, ?_, Nat.zero_add _, rfl⟩
      rw [pad, String.toList_append, toList_blanks]
      rfl
  | center =>
      refine ⟨(width - text.length) / 2, width - text.length - (width - text.length) / 2, ?_,
        by omega, ?_⟩
      · simp only [pad, String.toList_append, toList_blanks]
      · unfold Divides
        omega
  | right =>
      refine ⟨width - text.length, 0, ?_, rfl, rfl⟩
      rw [pad, String.toList_append, toList_blanks, List.replicate_zero, List.append_nil]

theorem fills_pad (a : Alignment) {text : String} {width : Nat} (h : text.length ≤ width) :
    a.Fills text width (a.pad text width).toList := by
  obtain ⟨before, after, heq, hsum, hdiv⟩ := a.exists_toList_pad text width
  refine ⟨?_, before, after, heq, hdiv⟩
  rw [heq, List.length_append, List.length_append, List.length_replicate,
    List.length_replicate, String.length_toList]
  omega

theorem spacesOnly_pad (a : Alignment) {text : String} (h : Text.SpacesOnly text.toList)
    (width : Nat) : Text.SpacesOnly (a.pad text width).toList := by
  obtain ⟨before, after, heq, -, -⟩ := a.exists_toList_pad text width
  rw [heq]
  exact ((Text.SpacesOnly.replicate_space before).append h).append
    (Text.SpacesOnly.replicate_space after)

end Alignment

/-- The only blanks in the texts of a row are spaces. -/
def Row.SpacesOnly : Row → Prop
  | columns cells => ∀ c ∈ cells, Text.SpacesOnly c.text.toList
  | full text _ => Text.SpacesOnly text.toList
  | separator mark => Text.SpacesOnly mark.toList

instance (r : Row) : Decidable r.SpacesOnly :=
  match r with
  | .columns cells => inferInstanceAs (Decidable (∀ c ∈ cells, Text.SpacesOnly c.text.toList))
  | .full text _ => inferInstanceAs (Decidable (Text.SpacesOnly text.toList))
  | .separator mark => inferInstanceAs (Decidable (Text.SpacesOnly mark.toList))

namespace Table

/-- Where a column starts. -/
def offset (t : Table) (i : Nat) : Nat := ∑ j ∈ Finset.range i, (t.columnWidth j + 1)

/-- What the line of a row has to show, once the blanks that were taken off its end are back. -/
def Shows (t : Table) : Row → List Char → Prop
  | .columns cells, line =>
    line.length ≤ t.breadth ∧
      (∀ (i : Nat) (c : Cell), cells[i]? = some c →
        c.alignment.Fills c.text (t.columnWidth i)
          (((line.rightpad t.breadth ' ').drop (t.offset i)).take (t.columnWidth i))) ∧
      ∀ i, i + 1 < cells.length →
        (line.rightpad t.breadth ' ')[t.offset i + t.columnWidth i]? = some ' '
  | .full text alignment, line =>
    line.length ≤ t.breadth ∧
      alignment.Fills text t.breadth (line.rightpad t.breadth ' ')
  | .separator mark, line =>
    ∀ c, mark.toList = [c] → ¬ Text.isBlank c = true → line = List.replicate t.breadth c

/-- The cells of a row, padded to the widths of their columns. -/
def fields (t : Table) (cells : List Cell) : List (List Char) :=
  (cells.zipWith (fun c w => c.alignment.pad c.text w) t.widths).map String.toList

theorem toList_line_columns (t : Table) (cells : List Cell) (width : Nat) :
    ((Row.columns cells).line t.widths width).toList = [' '].intercalate (t.fields cells) :=
  String.toList_intercalate

section
variable {t : Table} {cells : List Cell}

theorem length_le_columnCount (h : Row.columns cells ∈ t.rows) :
    cells.length ≤ t.columnCount :=
  Finset.le_sup (f := fun r : Row => r.cells.length) (List.mem_toFinset.2 h)

theorem length_text_le {i : Nat} {c : Cell} (h : Row.columns cells ∈ t.rows)
    (hc : cells[i]? = some c) : c.text.length ≤ t.columnWidth i := by
  apply Text.length_le_longest
  refine List.mem_filterMap.2 ⟨.columns cells, h, ?_⟩
  show cells[i]?.map Cell.text = some c.text
  rw [hc, Option.map_some]

theorem getElem?_fields {i : Nat} {c : Cell} (h : Row.columns cells ∈ t.rows)
    (hc : cells[i]? = some c) :
    (t.fields cells)[i]? = some (c.alignment.pad c.text (t.columnWidth i)).toList := by
  obtain ⟨hi, -⟩ := List.getElem?_eq_some_iff.1 hc
  have hcount := length_le_columnCount h
  have hwidth : t.widths[i]? = some (t.columnWidth i) := by
    rw [widths_eq, List.getElem?_map, List.getElem?_range (by omega), Option.map_some]
  rw [fields, List.getElem?_map, List.getElem?_zipWith, hc, hwidth]
  rfl

theorem length_fields (h : Row.columns cells ∈ t.rows) :
    (t.fields cells).length = cells.length := by
  have hcount := length_le_columnCount h
  rw [fields, List.length_map, List.length_zipWith, length_widths, Nat.min_eq_left hcount]

/-- No cell is wider than its column, so each field has exactly the width of the column. -/
theorem lengths_fields (h : Row.columns cells ∈ t.rows) :
    (t.fields cells).map List.length = (List.range cells.length).map t.columnWidth := by
  apply List.ext_getElem?
  intro i
  rw [List.getElem?_map, List.getElem?_map]
  by_cases hi : i < cells.length
  · have hc := List.getElem?_eq_getElem hi
    rw [getElem?_fields h hc, List.getElem?_range hi, Option.map_some, Option.map_some,
      (Alignment.fills_pad _ (length_text_le h hc)).length_eq]
  · have hfields : (t.fields cells).length ≤ i := by
      rw [length_fields h]
      omega
    rw [List.getElem?_eq_none hfields, List.getElem?_eq_none (by simpa using hi)]
    rfl

theorem offset_eq (h : Row.columns cells ∈ t.rows) {i : Nat} (hi : i < cells.length) :
    (((t.fields cells).take i).map fun m => m.length + 1).sum = t.offset i := by
  have hmap : ((t.fields cells).take i).map (fun m => m.length + 1) =
      (((t.fields cells).map List.length).take i).map (· + 1) := by
    rw [← List.map_take, List.map_map]
    rfl
  rw [hmap, lengths_fields h, ← List.map_take, List.take_range, List.map_map,
    Nat.min_eq_left (Nat.le_of_lt hi)]
  rfl

theorem length_line_columns_le (h : Row.columns cells ∈ t.rows) :
    ([' '].intercalate (t.fields cells)).length ≤ t.breadth := by
  have hcount := length_le_columnCount h
  have hsum : ((t.fields cells).map List.length).sum =
      ∑ i ∈ Finset.range cells.length, t.columnWidth i := by
    rw [lengths_fields h]
    rfl
  have hle : ∑ i ∈ Finset.range cells.length, t.columnWidth i ≤
      ∑ i ∈ Finset.range t.columnCount, t.columnWidth i :=
    Finset.sum_le_sum_of_subset (Finset.range_mono hcount)
  rw [Text.length_intercalate_singleton, hsum, length_fields h, breadth]
  omega

theorem spacesOnly_fields (h : Row.columns cells ∈ t.rows)
    (hspaces : (Row.columns cells).SpacesOnly) : ∀ l ∈ t.fields cells, Text.SpacesOnly l := by
  intro l hl
  obtain ⟨i, hi⟩ := List.mem_iff_getElem?.1 hl
  have hlt : i < cells.length := by
    rw [← length_fields h]
    exact (List.getElem?_eq_some_iff.1 hi).1
  have hc := List.getElem?_eq_getElem hlt
  rw [getElem?_fields h hc] at hi
  rw [← Option.some.inj hi]
  exact Alignment.spacesOnly_pad _ (hspaces _ (List.getElem_mem hlt)) _

end

/-! ## Lines -/

section
variable {t : Table} {r : Row}

theorem spacesOnly_line (h : r ∈ t.rows) (hspaces : r.SpacesOnly) :
    Text.SpacesOnly (r.line t.widths t.width).toList := by
  cases r with
  | columns cells =>
      rw [toList_line_columns]
      exact Text.SpacesOnly.intercalate (spacesOnly_fields h hspaces)
  | full text alignment => exact Alignment.spacesOnly_pad _ hspaces _
  | separator mark =>
      rw [Row.line, String.toList_join]
      intro c hc
      obtain ⟨l, hl, hcl⟩ := List.mem_flatten.1 hc
      rw [List.map_replicate] at hl
      rw [List.eq_of_mem_replicate hl] at hcl
      exact hspaces c hcl

/-- The field of a cell in the line of its row, filled up to the width of the table. -/
theorem exists_field_split {cells : List Cell} (h : Row.columns cells ∈ t.rows) {i : Nat}
    {c : Cell} (hc : cells[i]? = some c) :
    ∃ front field back,
      ([' '].intercalate (t.fields cells)).rightpad t.breadth ' ' = front ++ (field ++ back) ∧
        front.length = t.offset i ∧ c.alignment.Fills c.text (t.columnWidth i) field ∧
        (i + 1 < cells.length → back[0]? = some ' ') := by
  obtain ⟨hi, -⟩ := List.getElem?_eq_some_iff.1 hc
  obtain ⟨front, back, hsplit, hfront, hback⟩ :=
    Text.exists_intercalate_split ' ' (getElem?_fields h hc)
  obtain ⟨n, hpad⟩ : ∃ n, ([' '].intercalate (t.fields cells)).rightpad t.breadth ' ' =
      [' '].intercalate (t.fields cells) ++ List.replicate n ' ' := ⟨_, rfl⟩
  refine ⟨front, _, back ++ List.replicate n ' ', ?_, hfront.trans (offset_eq h hi),
    Alignment.fills_pad c.alignment (length_text_le h hc), fun hnext => ?_⟩
  · rw [hpad, hsplit, List.append_assoc, List.append_assoc]
  · rw [← length_fields h] at hnext
    rw [← List.head?_eq_getElem?, List.head?_append, hback hnext, Option.some_or]

theorem shows_columns {cells : List Cell} (h : Row.columns cells ∈ t.rows)
    (hspaces : (Row.columns cells).SpacesOnly) :
    t.Shows (.columns cells)
      (Text.trimEnd Text.isBlank ([' '].intercalate (t.fields cells))) := by
  have hle := length_line_columns_le h
  have hpad :=
    Text.rightpad_trimEnd (Text.SpacesOnly.intercalate (spacesOnly_fields h hspaces)) hle
  refine ⟨(Text.length_trimEnd_le _ _).trans hle, fun i c hc => ?_, fun i hi => ?_⟩
  · obtain ⟨front, field, back, hsplit, hfront, hfills, -⟩ := exists_field_split h hc
    rw [hpad, hsplit, List.drop_left' hfront, List.take_left' hfills.length_eq]
    exact hfills
  · have hc := List.getElem?_eq_getElem (Nat.lt_of_succ_lt hi)
    obtain ⟨front, field, back, hsplit, hfront, hfills, hback⟩ := exists_field_split h hc
    have hlength : (front ++ field).length = t.offset i + t.columnWidth i := by
      rw [List.length_append, hfront, hfills.length_eq]
    rw [hpad, hsplit, ← List.append_assoc, List.getElem?_append_right hlength.le, hlength,
      Nat.sub_self]
    exact hback hi

theorem shows_full {text : String} {alignment : Alignment}
    (h : Row.full text alignment ∈ t.rows) (hspaces : (Row.full text alignment).SpacesOnly) :
    t.Shows (.full text alignment)
      (Text.trimEnd Text.isBlank (alignment.pad text t.breadth).toList) := by
  have hmem : text ∈ t.fullTexts := List.mem_filterMap.2 ⟨_, h, rfl⟩
  have hfills : alignment.Fills text t.breadth (alignment.pad text t.breadth).toList :=
    alignment.fills_pad ((Text.length_le_longest hmem).trans (Nat.le_max_right _ _))
  have hpad :=
    Text.rightpad_trimEnd (alignment.spacesOnly_pad hspaces t.breadth) hfills.length_eq.le
  refine ⟨(Text.length_trimEnd_le _ _).trans hfills.length_eq.le, ?_⟩
  rw [hpad, List.rightpad, hfills.length_eq, Nat.sub_self, List.replicate_zero, List.append_nil]
  exact hfills

theorem shows_separator (t : Table) (mark : String) :
    t.Shows (.separator mark) (Text.trimEnd Text.isBlank
      (String.join (List.replicate t.breadth mark)).toList) := by
  intro c hmark hc
  have hline : (String.join (List.replicate t.breadth mark)).toList =
      List.replicate t.breadth c := by
    rw [String.toList_join, List.flatMap_replicate, hmark, List.flatten_replicate_singleton]
  rw [hline]
  cases hbreadth : t.breadth with
  | zero => rfl
  | succ n =>
      refine Text.trimEnd_append (List.cons_ne_nil _ _) (fun d hd => ?_) []
      obtain rfl : d = c := List.eq_of_mem_replicate (n := n + 1) hd
      exact hc

theorem shows_render (h : r ∈ t.rows) (hspaces : r.SpacesOnly) :
    t.Shows r (r.render t.widths t.width).toList := by
  rw [Row.render, String.toList_ofList]
  cases r with
  | columns cells =>
      rw [toList_line_columns]
      exact shows_columns h hspaces
  | full text alignment =>
      rw [width_eq]
      exact shows_full h hspaces
  | separator mark =>
      rw [width_eq]
      exact shows_separator t mark

end

theorem hasLines_render {t : Table} (hspaces : ∀ r ∈ t.rows, r.SpacesOnly) :
    Text.HasLines t.render.toList (t.lines.map String.toList) := by
  refine ⟨String.toList_intercalate, fun l hl c hc => ?_⟩
  rw [lines, List.map_map] at hl
  obtain ⟨r, hr, rfl⟩ := List.mem_map.1 hl
  have hline : c ∈ Text.trimEnd Text.isBlank (r.line t.widths t.width).toList := by
    rwa [← String.toList_ofList (l := Text.trimEnd _ _)]
  exact (spacesOnly_line hr (hspaces r hr)).not_isLineBreak (Text.mem_of_mem_trimEnd hline)

/-- The lines of a table are those of its rows.  Filled up to the width of the table, the line
of a row of columns shows each cell at the start of its column, in the whole width of it and on
the side that was asked for, with a blank between one cell and the next, and the line of a full
row shows its text in the whole width.  A separator of one character fills the width.  No line
ends in a blank. -/
theorem columns_line_up {t : Table} (hspaces : ∀ r ∈ t.rows, r.SpacesOnly) :
    ∃ ls : List (List Char), Text.HasLines t.render.toList ls ∧ List.Forall₂ t.Shows t.rows ls ∧
      ∀ l ∈ ls, ∀ c, l.getLast? = some c → ¬ Text.isBlank c = true := by
  refine ⟨t.lines.map String.toList, hasLines_render hspaces, ?_, ?_⟩
  · rw [lines, List.map_map, List.forall₂_map_right_iff, List.forall₂_same]
    exact fun r hr => shows_render hr (hspaces r hr)
  · intro l hl c hc
    rw [lines, List.map_map] at hl
    obtain ⟨r, -, rfl⟩ := List.mem_map.1 hl
    rw [Function.comp_apply, Row.render, String.toList_ofList] at hc
    exact Text.not_of_getLast?_trimEnd hc

/-- The statement at rows of three, two and one cells under a full text that is wider than the
columns, with separators of one and of two characters. -/
theorem columns_line_up_of_ragged :
    let t : Table :=
      ⟨[.full "a wide title" .center, .separator "=", .separator "- ",
        .columns [⟨"7", .right⟩, ⟨"x", .center⟩, ⟨"", .left⟩],
        .columns [⟨"a b", .left⟩, ⟨"abcd", .right⟩], .columns [⟨"-12", .center⟩]]⟩
    (∀ r ∈ t.rows, r.SpacesOnly) ∧
      t.render = "a wide title\n============\n- - - - - - - - - - - -\n  7  x\na b abcd\n-12" ∧
      ∃ ls : List (List Char), Text.HasLines t.render.toList ls ∧
        List.Forall₂ t.Shows t.rows ls ∧
        ∀ l ∈ ls, ∀ c, l.getLast? = some c → ¬ Text.isBlank c = true := by
  intro t
  have hspaces : ∀ r ∈ t.rows, r.SpacesOnly := by decide
  exact ⟨hspaces, by decide, columns_line_up hspaces⟩

end Table
end DiceRoller

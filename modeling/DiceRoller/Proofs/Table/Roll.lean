import DiceRoller.Proofs.Report
import DiceRoller.Proofs.Table.Columns

/-!
The table of a roll.

The numbers of a roll stand in the first column, so they are all flush with the longest of them,
and the names of the dice stand in the second, which is the last one, so their lines end with
them.  A rule has a line of its own that belongs to no column.  From this the widths of the
table are known (`Outcome.widths_table`, `Outcome.breadth_table`), and with them each of its
lines (`Outcome.lines_table`).
-/

namespace DiceRoller

/-! ## The lines as they should be -/

def Die.name (d : Die) : String := "(d" ++ toString d.sides ++ ")"

namespace Score

/-- The numbers that a scored term has in the table. -/
def figures (s : Score) : List String :=
  match s.token with
  | .constant value => [Text.withSign value]
  | .dice ds _ => ds.map fun d => toString d.value

def dieNames (s : Score) : List String :=
  match s.token with
  | .constant _ => []
  | .dice ds _ => ds.map Die.name

/-- The line that tells the rule of a group and what the group came to. -/
def ruleLines (s : Score) : List String :=
  match s.token with
  | .constant _ | .dice _ none => []
  | .dice _ (some k) =>
    [k.favour.name ++ " " ++ toString k.take ++ " => " ++ toString s.contribution]

/-- The lines of a scored term, its numbers flush right in `w` places. -/
def tableLines (w : Nat) (s : Score) : List String :=
  match s.token with
  | .constant value => [String.leftpad w ' ' (Text.withSign value)]
  | .dice ds _ =>
    ds.map (fun d => String.leftpad w ' ' (toString d.value) ++ " " ++ d.name) ++ s.ruleLines

end Score

namespace Outcome

/-- The length of the longest number of a roll, the total included. -/
def figureWidth (o : Outcome) : Nat :=
  Text.longest (o.scores.flatMap Score.figures ++ [toString o.total])

def dieNames (o : Outcome) : List String := o.scores.flatMap Score.dieNames

def ruleLines (o : Outcome) : List String := o.scores.flatMap Score.ruleLines

/-- The length of the line over the total. -/
def dashes (o : Outcome) : Nat :=
  max (o.figureWidth + if o.dieNames = [] then 0 else 1 + Text.longest o.dieNames)
    (Text.longest o.ruleLines)

/-- The lines of the table of a roll. -/
def tableLines (o : Outcome) : List String :=
  o.scores.flatMap (Score.tableLines o.figureWidth) ++
    [String.ofList (List.replicate o.dashes '-'),
      String.leftpad o.figureWidth ' ' (toString o.total)]

end Outcome

/-! ## Columns of the table -/

namespace Table

theorem columnCount_le_iff {t : Table} {i : Nat} : t.columnCount ≤ i ↔ t.column i = [] := by
  rw [columnCount, Finset.sup_le_iff, column, List.filterMap_eq_nil_iff]
  simp only [List.mem_toFinset, Option.map_eq_none_iff, List.getElem?_eq_none_iff]

theorem column_append (rs qs : List Row) (i : Nat) :
    column ⟨rs ++ qs⟩ i = column ⟨rs⟩ i ++ column ⟨qs⟩ i :=
  List.filterMap_append

theorem column_flatMap {α : Type} (xs : List α) (f : α → List Row) (i : Nat) :
    column ⟨xs.flatMap f⟩ i = xs.flatMap fun x => column ⟨f x⟩ i :=
  List.filterMap_flatMap

end Table

namespace Score

/-- A group has a row for each of its dice and one for its rule, if it has one. -/
theorem rows_dice (ds kept : List Die) (keep : Option Keep) (contribution : Int) :
    (Score.mk (.dice ds keep) kept contribution).rows =
      ds.map Die.row ++
        (Score.mk (.dice ds keep) kept contribution).ruleLines.map (Row.full · .left) := by
  cases keep with
  | none => exact (List.append_nil _).symm
  | some k => rfl

theorem exists_of_mem_ruleLines {s : Score} {text : String} (h : text ∈ s.ruleLines) :
    ∃ k : Keep, text = k.label ++ " => " ++ toString s.contribution := by
  obtain ⟨token, kept, contribution⟩ := s
  cases token with
  | constant value => simp [ruleLines] at h
  | dice ds keep =>
      cases keep with
      | none => simp [ruleLines] at h
      | some k => exact ⟨k, List.mem_singleton.1 h⟩

/-- The texts in the columns of a scored term: its numbers, the names of its dice and no
more. -/
theorem column_rows (s : Score) :
    Table.column ⟨s.rows⟩ 0 = s.figures ∧ Table.column ⟨s.rows⟩ 1 = s.dieNames ∧
      Table.column ⟨s.rows⟩ 2 = [] := by
  obtain ⟨token, kept, contribution⟩ := s
  cases token with
  | constant value => exact ⟨rfl, rfl, rfl⟩
  | dice ds keep =>
      have hrules : ∀ (texts : List String) (i : Nat),
          Table.column ⟨texts.map (Row.full · .left)⟩ i = [] := by
        simp [Table.column, Row.cells]
      refine ⟨?_, ?_, ?_⟩ <;> rw [rows_dice, Table.column_append, hrules, List.append_nil]
      · simp [Table.column, Die.row, Row.cells, figures, numberCell]
      · simp [Table.column, Die.row, Row.cells, dieNames, Die.name]
      · simp [Table.column, Die.row, Row.cells]

theorem fullTexts_rows (s : Score) : Table.fullTexts ⟨s.rows⟩ = s.ruleLines := by
  obtain ⟨token, kept, contribution⟩ := s
  cases token with
  | constant value => rfl
  | dice ds keep =>
      have hdice : (ds.map Die.row).filterMap Row.fullText? = [] := by
        simp [Die.row, Row.fullText?]
      have hrules : ∀ texts : List String,
          (texts.map (Row.full · .left)).filterMap Row.fullText? = texts := by
        simp [List.filterMap_map, Function.comp_def, Row.fullText?]
      rw [Table.fullTexts, rows_dice, List.filterMap_append, hdice, hrules, List.nil_append]

end Score

namespace Outcome

theorem column_table (o : Outcome) :
    o.table.column 0 = o.scores.flatMap Score.figures ++ [toString o.total] ∧
      o.table.column 1 = o.dieNames ∧ o.table.column 2 = [] := by
  refine ⟨?_, ?_, ?_⟩ <;> rw [table, Table.column_append, Table.column_flatMap]
  · simp only [(Score.column_rows _).1]
    rfl
  · simp only [(Score.column_rows _).2.1]
    exact List.append_nil _
  · simp only [(Score.column_rows _).2.2]
    simp [Table.column, Row.cells]

theorem fullTexts_table (o : Outcome) : o.table.fullTexts = o.ruleLines := by
  rw [table, Table.fullTexts, List.filterMap_append, List.filterMap_flatMap]
  show (o.scores.flatMap fun s => Table.fullTexts ⟨s.rows⟩) ++ [] = _
  simp only [Score.fullTexts_rows, List.append_nil]
  rfl

/-- The names of the dice are the second column, and without dice there is none. -/
theorem columnCount_table (o : Outcome) :
    o.table.columnCount = if o.dieNames = [] then 1 else 2 := by
  obtain ⟨hfigures, hnames, hlast⟩ := o.column_table
  have hpos : ¬ o.table.columnCount ≤ 0 := by
    rw [Table.columnCount_le_iff, hfigures]
    simp
  have hone : o.table.columnCount ≤ 1 ↔ o.dieNames = [] := by
    rw [Table.columnCount_le_iff, hnames]
  have htwo : o.table.columnCount ≤ 2 := Table.columnCount_le_iff.2 hlast
  split
  · rename_i hnone
    have := hone.2 hnone
    omega
  · rename_i hsome
    have := mt hone.1 hsome
    omega

theorem columnWidth_table (o : Outcome) :
    o.table.columnWidth 0 = o.figureWidth ∧
      o.table.columnWidth 1 = Text.longest o.dieNames := by
  obtain ⟨hfigures, hnames, -⟩ := o.column_table
  rw [Table.columnWidth, Table.columnWidth, hfigures, hnames]
  exact ⟨rfl, rfl⟩

theorem widths_table (o : Outcome) :
    o.table.widths =
      o.figureWidth :: if o.dieNames = [] then [] else [Text.longest o.dieNames] := by
  obtain ⟨hfigures, hnames⟩ := o.columnWidth_table
  rw [Table.widths_eq, columnCount_table]
  split
  · exact congrArg (· :: []) hfigures
  · exact congrArg₂ (fun v w => [v, w]) hfigures hnames

theorem breadth_table (o : Outcome) : o.table.breadth = o.dashes := by
  obtain ⟨hfigures, hnames⟩ := o.columnWidth_table
  rw [Table.breadth, fullTexts_table, columnCount_table, dashes]
  split
  · rw [Finset.sum_range_one, hfigures]
  · rw [Finset.sum_range_succ, Finset.sum_range_one, hfigures, hnames]
    omega

end Outcome

/-! ## Lines of the table -/

namespace Text

theorem Solid.spacesOnly {s : String} (h : Solid s) : SpacesOnly s.toList :=
  fun c hc hblank => absurd hblank (h c hc)

theorem SpacesOnly.append_string {s t : String} (hs : SpacesOnly s.toList)
    (ht : SpacesOnly t.toList) : SpacesOnly (s ++ t).toList := by
  rw [String.toList_append]
  exact hs.append ht

end Text

theorem solid_withSign (value : Int) : Text.Solid (Text.withSign value) :=
  Term.solid_expression (.constant value)

theorem Die.solid_name (d : Die) : Text.Solid d.name := by
  have hopen : Text.Solid "(d" := by decide
  have hclose : Text.Solid ")" := by decide
  exact (hopen.append (Text.solid_toString d.sides)).append hclose

theorem Keep.spacesOnly_label (k : Keep) : Text.SpacesOnly k.label.toList := by
  have hname : Text.SpacesOnly k.favour.name.toList := by
    cases k.favour <;> decide
  have hblank : Text.SpacesOnly " ".toList := by decide
  exact (hname.append_string hblank).append_string (Text.solid_toString k.take).spacesOnly

theorem leftpad_eq (w : Nat) (s : String) :
    String.leftpad w ' ' s = blanks (w - s.length) ++ s := by
  rw [← String.toList_inj, String.toList_append, toList_blanks]
  rw [String.leftpad, String.toList_ofList, List.leftpad, String.length_toList]

namespace Row

variable {w : Nat} {ws : List Nat} {width : Nat}

/-- What is left of a line that ends in a word and blanks. -/
theorem render_of_line {r : Row} {front word : String} {n : Nat} (hne : word.toList ≠ [])
    (hsolid : Text.Solid word) (hline : r.line ws width = front ++ word ++ blanks n) :
    r.render ws width = front ++ word := by
  have htrim := Text.trimEnd_append_append hne hsolid front.toList
    fun c (hc : c ∈ (blanks n).toList) => isBlank_of_mem_blanks hc
  rw [render, hline, String.toList_append, String.toList_append, htrim, ← String.toList_append,
    String.ofList_toList]

theorem render_figure {text : String} (hne : text.toList ≠ []) (hsolid : Text.Solid text) :
    (columns [numberCell text]).render (w :: ws) width = String.leftpad w ' ' text := by
  rw [leftpad_eq]
  exact render_number hne hsolid w ws width

theorem render_die (d : Die) (v : Nat) :
    d.row.render (w :: v :: ws) width =
      String.leftpad w ' ' (toString d.value) ++ " " ++ d.name := by
  have hne : d.name.toList ≠ [] := by simp [Die.name]
  refine render_of_line (n := v - d.name.length) hne d.solid_name ?_
  have hline : d.row.line (w :: v :: ws) width =
      blanks (w - (toString d.value).length) ++ toString d.value ++ " " ++
        (d.name ++ blanks (v - d.name.length)) := rfl
  rw [hline, leftpad_eq]
  exact String.append_assoc.symm

theorem render_rule {s : Score} {text : String} (h : text ∈ s.ruleLines) :
    (full text .left).render ws width = text := by
  obtain ⟨k, rfl⟩ := s.exists_of_mem_ruleLines h
  exact render_of_line (Text.toString_ne_nil _) (Text.solid_toString _) rfl

end Row

namespace Score

variable {w : Nat} {ws : List Nat}

theorem render_rows {s : Score} (hws : s.dieNames ≠ [] → ws ≠ []) (width : Nat) :
    s.rows.map (Row.render (w :: ws) width) = s.tableLines w := by
  obtain ⟨token, kept, contribution⟩ := s
  cases token with
  | constant value =>
      exact congrArg (· :: []) (Row.render_figure (Term.expression_ne_nil (.constant value))
        (solid_withSign value))
  | dice ds keep =>
      have hdice : ∀ d ∈ ds, d.row.render (w :: ws) width =
          String.leftpad w ' ' (toString d.value) ++ " " ++ d.name := by
        intro d hd
        have hnames : ds.map Die.name ≠ [] := List.ne_nil_of_mem (List.mem_map_of_mem hd)
        obtain ⟨v, vs, rfl⟩ := List.exists_cons_of_ne_nil (hws hnames)
        exact Row.render_die d v
      have hnamed : (ds.map Die.row).map (Row.render (w :: ws) width) = ds.map fun d =>
          String.leftpad w ' ' (toString d.value) ++ " " ++ d.name := by
        rw [List.map_map]
        exact List.map_congr_left hdice
      have hruled : ((Score.mk (.dice ds keep) kept contribution).ruleLines.map
          (Row.full · .left)).map (Row.render (w :: ws) width) =
            (Score.mk (.dice ds keep) kept contribution).ruleLines := by
        rw [List.map_map]
        exact (List.map_congr_left fun text htext => Row.render_rule htext).trans (List.map_id _)
      rw [rows_dice, List.map_append, hnamed, hruled]
      rfl

theorem spacesOnly_rows {s : Score} {r : Row} (hr : r ∈ s.rows) : r.SpacesOnly := by
  have hfigure : ∀ text, Text.Solid text → (Row.columns [numberCell text]).SpacesOnly := by
    intro text hsolid c hc
    rw [List.mem_singleton.1 hc]
    exact hsolid.spacesOnly
  have hdie : ∀ d : Die, d.row.SpacesOnly := by
    intro d c hc
    rcases List.mem_pair.1 hc with rfl | rfl
    · exact (Text.solid_toString d.value).spacesOnly
    · exact d.solid_name.spacesOnly
  obtain ⟨token, kept, contribution⟩ := s
  cases token with
  | constant value =>
      rw [List.mem_singleton.1 hr]
      exact hfigure _ (solid_withSign value)
  | dice ds keep =>
      rw [rows_dice] at hr
      rcases List.mem_append.1 hr with hr | hr
      · obtain ⟨d, -, rfl⟩ := List.mem_map.1 hr
        exact hdie d
      · obtain ⟨text, htext, rfl⟩ := List.mem_map.1 hr
        obtain ⟨k, rfl⟩ := exists_of_mem_ruleLines htext
        have harrow : Text.SpacesOnly " => ".toList := by decide
        exact (k.spacesOnly_label.append_string harrow).append_string
          (Text.solid_toString contribution).spacesOnly

end Score

namespace Outcome

theorem lines_table (o : Outcome) : o.table.lines = o.tableLines := by
  have hws : ∀ s ∈ o.scores, s.dieNames ≠ [] →
      (if o.dieNames = [] then [] else [Text.longest o.dieNames]) ≠ [] := by
    intro s hs hnames
    have hall : o.dieNames ≠ [] := by
      intro hnil
      exact hnames (List.flatMap_eq_nil_iff.1 hnil s hs)
    rw [if_neg hall]
    exact List.cons_ne_nil _ _
  have hdashes : (Row.separator "-").render o.table.widths o.table.width =
      String.ofList (List.replicate o.dashes '-') := by
    have hshows := Table.shows_separator o.table "-" '-' rfl (by decide)
    rw [Row.render, Table.width_eq, breadth_table]
    rw [breadth_table] at hshows
    exact congrArg String.ofList hshows
  have hscores : (o.scores.flatMap Score.rows).map (Row.render o.table.widths o.table.width) =
      o.scores.flatMap (Score.tableLines o.figureWidth) := by
    rw [List.map_flatMap, widths_table]
    exact List.flatMap_congr fun s hs => Score.render_rows (hws s hs) _
  show (o.scores.flatMap Score.rows ++ [_, _]).map _ = _
  rw [List.map_append, hscores, tableLines, List.map_cons, List.map_singleton, hdashes,
    widths_table, Row.render_figure (Text.toString_ne_nil _) (Text.solid_toString _)]

theorem spacesOnly_table (o : Outcome) : ∀ r ∈ o.table.rows, r.SpacesOnly := by
  intro r hr
  rcases List.mem_append.1 hr with hr | hr
  · obtain ⟨s, -, hrs⟩ := List.mem_flatMap.1 hr
    exact Score.spacesOnly_rows hrs
  · rcases List.mem_pair.1 hr with rfl | rfl
    · exact (by decide : Text.SpacesOnly "-".toList)
    · intro c hc
      rw [List.mem_singleton.1 hc]
      exact (Text.solid_toString o.total).spacesOnly

/-- Each number fits into the first column. -/
theorem length_leftpad_figure {o : Outcome} {text : String}
    (h : text ∈ o.scores.flatMap Score.figures ++ [toString o.total]) :
    (String.leftpad o.figureWidth ' ' text).length = o.figureWidth := by
  rw [String.length_leftpad, Nat.max_eq_left]
  exact Text.length_le_longest h

theorem figureWidth_le_dashes (o : Outcome) : o.figureWidth ≤ o.dashes :=
  (Nat.le_add_right _ _).trans (Nat.le_max_left _ _)

theorem length_score_line_le {o : Outcome} {s : Score} (hs : s ∈ o.scores) {l : String}
    (hl : l ∈ s.tableLines o.figureWidth) : l.length ≤ o.dashes := by
  have hfigure : ∀ text ∈ s.figures,
      (String.leftpad o.figureWidth ' ' text).length = o.figureWidth := fun text htext =>
    length_leftpad_figure (List.mem_append_left _ (List.mem_flatMap.2 ⟨s, hs, htext⟩))
  have hrule : ∀ text ∈ s.ruleLines, text.length ≤ o.dashes := fun text htext =>
    (Text.length_le_longest (List.mem_flatMap.2 ⟨s, hs, htext⟩)).trans (Nat.le_max_right _ _)
  have hdie : ∀ text ∈ s.dieNames, o.figureWidth + (1 + text.length) ≤ o.dashes := by
    intro text htext
    have hmem : text ∈ o.dieNames := List.mem_flatMap.2 ⟨s, hs, htext⟩
    have hle := Text.length_le_longest hmem
    rw [dashes, if_neg (List.ne_nil_of_mem hmem)]
    omega
  obtain ⟨token, kept, contribution⟩ := s
  cases token with
  | constant value =>
      rw [List.mem_singleton.1 hl, hfigure _ List.mem_cons_self]
      exact o.figureWidth_le_dashes
  | dice ds keep =>
      rcases List.mem_append.1 hl with hl | hl
      · obtain ⟨d, hd, rfl⟩ := List.mem_map.1 hl
        have hname := hdie d.name (List.mem_map_of_mem hd)
        have hvalue := hfigure (toString d.value) (List.mem_map_of_mem hd)
        have hblank : " ".length = 1 := rfl
        rw [String.length_append, String.length_append, hvalue, hblank]
        omega
      · exact hrule l hl

theorem length_le_dashes {o : Outcome} {l : String} (hl : l ∈ o.tableLines) :
    l.length ≤ o.dashes := by
  rcases List.mem_append.1 hl with hl | hl
  · obtain ⟨s, hs, hls⟩ := List.mem_flatMap.1 hl
    exact length_score_line_le hs hls
  · rcases List.mem_pair.1 hl with rfl | rfl
    · rw [String.length_ofList, List.length_replicate]
    · rw [length_leftpad_figure (List.mem_append_right _ List.mem_cons_self)]
      exact o.figureWidth_le_dashes

end Outcome

/-! ## Rolls of a request -/

namespace Rolled

/-- Whether a term is a group with a rule. -/
def isRuled : Rolled → Bool
  | dice _ (some _) => true
  | constant _ | dice _ none => false

def isConstant : Rolled → Bool
  | constant _ => true
  | dice _ _ => false

theorem length_tableLines (w : Nat) (r : Rolled) :
    (r.score.tableLines w).length =
      r.values.length + (if r.isRuled then 1 else 0) + if r.isConstant then 1 else 0 := by
  cases r with
  | constant value => rfl
  | dice ds keep =>
      show (ds.map _ ++ _).length = (ds.map Die.value).length + _ + 0
      rw [List.length_append, List.length_map, List.length_map]
      cases keep with
      | none => rfl
      | some k => rfl

theorem length_flatMap_tableLines (w : Nat) (rs : List Rolled) :
    ((rs.map score).flatMap (Score.tableLines w)).length =
      (rs.flatMap values).length + rs.countP isRuled + rs.countP isConstant := by
  induction rs with
  | nil => rfl
  | cons r rs ih =>
      rw [List.map_cons, List.flatMap_cons, List.length_append, ih, length_tableLines,
        List.flatMap_cons, List.length_append, List.countP_cons, List.countP_cons]
      omega

end Rolled

/-- The table of a roll has a line for each die, for each rule and for each constant, in the
order of the request, then a line of dashes and the total.  All numbers are flush right in as
many places as the longest of them has.  The dashes are as many as the numbers and the names of
the dice take up together, or the longest rule, and no line is longer. -/
theorem roll_table_is_flush {text : String} {r : Request} (hread : Request.read text = .ok r)
    {σ : Type} (g : Generator σ) (source : String) (stamp : Stamp) {s s' : σ} {vs : List Int}
    (hask : g.askAll r.questions s = (.ok vs, s')) :
    ∃ rs p, rs.map Rolled.shape = r.terms.map Term.shape ∧ rs.flatMap Rolled.values = vs ∧
      rollReport g text source stamp s = (.ok p, s') ∧ p.total = (Outcome.ofRolled r rs).total ∧
      Text.HasLines p.table.toList ((Outcome.ofRolled r rs).tableLines.map String.toList) ∧
      (Outcome.ofRolled r rs).tableLines.length =
        vs.length + rs.countP Rolled.isRuled + rs.countP Rolled.isConstant + 2 ∧
      ∀ l ∈ (Outcome.ofRolled r rs).tableLines, l.length ≤ (Outcome.ofRolled r rs).dashes := by
  obtain ⟨rs, hshapes, hvalues, -, -, hreport⟩ := rolls_of_answered hread hask
  obtain ⟨p, hp, hroll, -⟩ := hreport source stamp
  refine ⟨rs, p, hshapes, hvalues, hroll, ?_, ?_, ?_, fun l => Outcome.length_le_dashes⟩
  · exact (Outcome.entries_of_report hp).2
  · obtain ⟨es, -, rfl⟩ := Outcome.report_eq_ok hp
    rw [← Outcome.lines_table]
    exact Table.hasLines_render (Outcome.spacesOnly_table _)
  · rw [Outcome.tableLines, List.length_append, ← hvalues]
    exact congrArg (· + 2) (Rolled.length_flatMap_tableLines _ rs)

/-- The table of a group with a rule, a constant and a single die, with the scripted values 5,
12 and -1234. -/
theorem roll_table_is_flush_under_long_total :
    let r : Request := ⟨"2d20:adv2 -300 d6",
      [.dice 2 20 (some ⟨.advantage, 2⟩), .constant (-300), .dice 1 6 none]⟩
    let stamp : Stamp := ⟨7, ⟨2024, 2, 9, 7, 5, 0⟩⟩
    Request.read r.input = .ok r ∧
      (Generator.script []).askAll r.questions [5, 12, -1234] = (.ok [5, 12, -1234], []) ∧
      ∃ p, rollReport (.script []) r.input "list" stamp [5, 12, -1234] = (.ok p, []) ∧
        Text.HasLines p.table.toList
          (["    5 (d20)", "   12 (d20)", "advantage 2 => 17", " -300", "-1234 (d6)",
            "-----------------", "-1517"].map String.toList) := by
  intro r stamp
  have hread : Request.read r.input = .ok r := by decide
  have hask : (Generator.script []).askAll r.questions [5, 12, -1234] =
      (.ok [5, 12, -1234], []) := by decide
  obtain ⟨rs, p, hshapes, hvalues, hroll, -, hlines, -, -⟩ :=
    roll_table_is_flush hread (.script []) "list" stamp hask
  have hrolled : rs = [.dice [⟨20, 5⟩, ⟨20, 12⟩] (some ⟨.advantage, 2⟩), .constant (-300),
      .dice [⟨6, -1234⟩] none] := Rolled.eq_of_shapes_of_values hshapes hvalues
  have hexpected : (Outcome.ofRolled r rs).tableLines =
      ["    5 (d20)", "   12 (d20)", "advantage 2 => 17", " -300", "-1234 (d6)",
        "-----------------", "-1517"] := by
    rw [hrolled]
    decide
  rw [hexpected] at hlines
  exact ⟨hread, hask, p, hroll, hlines⟩

end DiceRoller

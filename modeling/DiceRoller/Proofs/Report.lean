import DiceRoller.Proofs.RoundTrip
import DiceRoller.Proofs.Selection

/-!
The parts of a report agree.

A report shows a roll several times: as entries, as an expression, as a total, in words and
in a table.  An entry describes its group by the dice that were rolled, so what it says of
them is compared with the term they were rolled for (`Rolled.entry_of_shape`).  The last row
of the table is its only row under the line, so the total stands alone on the last line
(`Outcome.lastLine_table`).
-/

namespace DiceRoller

/-! ## Entries -/

namespace Entry

/-- The term that an entry reports on. -/
def term : Entry → Term
  | constant value _ => .constant value
  | dice count sides _ _ _ keep => .dice count sides keep

def subtotal : Entry → Int
  | constant _ subtotal => subtotal
  | dice _ _ _ _ subtotal _ => subtotal

/-- What an entry says of one term hangs together: a group has as many dice as it lists, the
dice that are kept are among them, all of them or as many as the rule says, and they make
up the subtotal. -/
def Consistent : Entry → Prop
  | constant value subtotal => subtotal = value
  | dice count _ rolls kept subtotal keep =>
    count = rolls.length ∧ kept.Subperm rolls ∧ subtotal = kept.sum ∧
      (keep = none → kept = rolls) ∧ ∀ k ∈ keep, (kept.length : Int) = k.take

end Entry

theorem selectDice_subperm (ds : List Die) (keep : Option Keep) :
    (selectDice ds keep).Subperm ds := by
  cases keep with
  | none => exact List.Subperm.refl ds
  | some k => exact (Keep.select_sublist k ds).subperm.trans (ascending_perm ds).subperm

theorem values_selectDice_subperm (ds : List Die) (keep : Option Keep) :
    ((selectDice ds keep).map Die.value).Subperm (ds.map Die.value) := by
  obtain ⟨kept, hperm, hsub⟩ := selectDice_subperm ds keep
  exact ⟨kept.map Die.value, hperm.map Die.value, hsub.map Die.value⟩

namespace Rolled

/-- The entry of a group that was rolled for a term within range describes that term. -/
theorem entry_of_shape {t : Term} {r : Rolled} {e : Entry} (hvalid : t.Valid)
    (h : r.shape = t.shape) (he : r.score.entry? = some e) :
    e.term = t ∧ e.Consistent ∧ e.subtotal = r.score.contribution := by
  cases r with
  | constant value =>
      cases t with
      | constant value' =>
          obtain rfl : value = value' := by simpa [shape, Term.shape] using h
          obtain rfl : Entry.constant value value = e := by simpa [score, Score.entry?] using he
          exact ⟨rfl, rfl, rfl⟩
      | dice count sides keep => simp [shape, Term.shape] at h
  | dice ds keep =>
      cases t with
      | constant value => simp [shape, Term.shape] at h
      | dice count sides keep' =>
          obtain ⟨⟨hcount, -⟩, -, hkeep⟩ := hvalid
          obtain ⟨hsides, rfl⟩ := Shape.dice.inj h
          have hlength : ds.length = count.toNat := by
            have hlengths := congrArg List.length hsides
            rwa [List.length_map, List.length_replicate] at hlengths
          cases ds with
          | nil =>
              rw [List.length_nil] at hlength
              omega
          | cons d ds =>
              have hfirst : d.sides = sides := by
                have hmem : d.sides ∈ List.replicate count.toNat sides := by
                  rw [← hsides]
                  exact List.mem_cons_self
                exact List.eq_of_mem_replicate hmem
              have hall : ((d :: ds).length : Int) = count := by omega
              obtain rfl := Option.some.inj he
              refine ⟨?_, ⟨?_, ?_, ?_, ?_, ?_⟩, rfl⟩
              · show Term.dice (d :: ds).length d.sides keep = _
                rw [hall, hfirst]
              · rw [List.length_map]
              · exact values_selectDice_subperm _ _
              · exact Die.sum_eq_sum_values _
              · rintro rfl
                rfl
              · intro k hk
                obtain rfl : keep = some k := hk
                obtain ⟨hpos, -, hle⟩ := hkeep k rfl
                rw [List.length_map]
                exact Keep.length_select hpos (by omega)

end Rolled

theorem Score.entries?_append {ss ts : List Score} {es fs : List Entry}
    (hes : entries? ss = some es) (hfs : entries? ts = some fs) :
    entries? (ss ++ ts) = some (es ++ fs) := by
  rw [entries?_eq_some_iff] at hes hfs ⊢
  exact List.rel_append hes hfs

/-- The entries of a roll describe the terms it was rolled for, and their subtotals add up
to the total of the scores. -/
theorem Rolled.entries_of_shapes {ts : List Term} {rs : List Rolled} {es : List Entry}
    (hvalid : ∀ t ∈ ts, t.Valid) (h : rs.map Rolled.shape = ts.map Term.shape)
    (hes : Score.entries? (rs.map Rolled.score) = some es) :
    es.map Entry.term = ts ∧ (∀ e ∈ es, e.Consistent) ∧
      Score.total (rs.map Rolled.score) = (es.map Entry.subtotal).sum := by
  rw [Score.entries?_eq_some_iff, List.forall₂_map_left_iff] at hes
  induction hes generalizing ts with
  | nil =>
      obtain rfl := List.map_eq_nil_iff.1 h.symm
      exact ⟨rfl, by simp, rfl⟩
  | @cons r e rs es he _ ih =>
      cases ts with
      | nil => simp at h
      | cons t ts =>
          obtain ⟨hshape, hshapes⟩ := List.cons.inj h
          obtain ⟨hterm, hcons, hsub⟩ :=
            Rolled.entry_of_shape (hvalid t List.mem_cons_self) hshape he
          obtain ⟨hterms, hall, htotal⟩ :=
            ih (fun t' ht' => hvalid t' (List.mem_cons_of_mem t ht')) hshapes
          refine ⟨?_, ?_, ?_⟩
          · rw [List.map_cons, hterm, hterms]
          · intro e' he'
            rcases List.mem_cons.1 he' with rfl | he'
            · exact hcons
            · exact hall e' he'
          · rw [List.map_cons, Score.total, htotal, List.map_cons, List.sum_cons, hsub]

/-! ## The last line of the table -/

namespace Text

/-- What follows the last character satisfying `p`. -/
def lastPiece (p : Char → Bool) (cs : List Char) : List Char :=
  (pieces p cs).getLast (pieces_ne_nil p cs)

theorem lastPiece_append_cons {p : Char → Bool} {c : Char} (hc : p c = true) (as : List Char)
    {cs : List Char} (hcs : ∀ d ∈ cs, ¬ p d = true) : lastPiece p (as ++ c :: cs) = cs := by
  have hpieces : pieces p (as ++ c :: cs) = pieces p as ++ [cs] := by
    rw [pieces_append_cons hc, pieces_eq_singleton hcs]
  simp [lastPiece, hpieces]

theorem intercalate_concat {sep : List Char} {ls : List (List Char)} (hne : ls ≠ [])
    (l : List Char) : sep.intercalate (ls ++ [l]) = sep.intercalate ls ++ (sep ++ l) := by
  induction ls with
  | nil => exact absurd rfl hne
  | cons a ls ih =>
      cases ls with
      | nil => simp [List.intercalate_cons_cons, List.intercalate_singleton]
      | cons b ls =>
          have hrest := ih (List.cons_ne_nil b ls)
          rw [List.cons_append, List.cons_append, List.intercalate_cons_cons,
            ← List.cons_append, hrest, List.intercalate_cons_cons]
          simp [List.append_assoc]

theorem toString_ne_nil (n : Int) : (toString n).toList ≠ [] := by
  by_cases hn : 0 ≤ n
  · rw [toList_toString_of_nonneg hn]
    exact (Numeral.ofNat _).ne_nil
  · rw [toList_toString_of_neg (by omega)]
    exact List.cons_ne_nil _ _

end Text

theorem eq_of_mem_blanks {n : Nat} {c : Char} (h : c ∈ (blanks n).toList) : c = ' ' := by
  rw [blanks, String.toList_ofList] at h
  exact List.eq_of_mem_replicate h

theorem isBlank_of_mem_blanks {n : Nat} {c : Char} (h : c ∈ (blanks n).toList) :
    Text.isBlank c = true := by
  rw [eq_of_mem_blanks h]
  decide

/-- A number alone in its row is printed flush right. -/
theorem Row.render_number {text : String} (hne : text.toList ≠ []) (hsolid : Text.Solid text)
    (w : Nat) (ws : List Nat) (width : Nat) :
    (Row.columns [numberCell text]).render (w :: ws) width =
      blanks (w - text.length) ++ text := by
  have hline : (Row.columns [numberCell text]).line (w :: ws) width =
      blanks (w - text.length) ++ text := by
    simp [Row.line, numberCell, Alignment.pad]
  rw [Row.render, hline, String.toList_append, Text.trimEnd_append hne hsolid,
    ← String.toList_append, String.ofList_toList]

theorem Table.render_of_last {t : Table} {front : List Row} {last : Row} (hne : front ≠ [])
    (hrows : t.rows = front ++ [last]) :
    ∃ before, t.render.toList = before ++ '\n' :: (last.render t.widths t.width).toList := by
  let print : Row → List Char := fun r => (r.render t.widths t.width).toList
  have hprint : front.map print ≠ [] := by simpa using hne
  refine ⟨['\n'].intercalate (front.map print), ?_⟩
  rw [Table.render, String.toList_intercalate, Table.lines, hrows, List.map_map]
  show ['\n'].intercalate ((front ++ [last]).map print) = _
  rw [List.map_append, List.map_singleton, Text.intercalate_concat hprint,
    List.singleton_append]

namespace Outcome

theorem render_table (o : Outcome) :
    ∃ before gap, o.table.render.toList =
      before ++ '\n' :: ((blanks gap).toList ++ (toString o.total).toList) := by
  let last : Row := .columns [numberCell (toString o.total)]
  have hrows : o.table.rows = (o.scores.flatMap Score.rows ++ [.separator "-"]) ++ [last] := by
    simp [table, last]
  obtain ⟨w, ws, hwidths⟩ : ∃ w ws, o.table.widths = w :: ws := by
    have hlast : last ∈ o.table.rows := by simp [hrows]
    have hlength := Table.length_widths_of_mem hlast
    cases h : o.table.widths with
    | nil => simp [h, last, Row.widths] at hlength
    | cons w ws => exact ⟨w, ws, rfl⟩
  obtain ⟨before, hrender⟩ := Table.render_of_last (by simp) hrows
  refine ⟨before, w - (toString o.total).length, ?_⟩
  rw [hrender, hwidths, Row.render_number (Text.toString_ne_nil o.total)
    (Text.solid_toString o.total), String.toList_append]

/-- The total stands alone on the last line, whichever characters end a line beside the
newline. -/
theorem lastLine_table (o : Outcome) {ends : Char → Bool} (hnewline : ends '\n' = true)
    (hends : ∀ c, ends c = true → Text.isLineBreak c = true) :
    Text.trim Text.isBlank (Text.lastPiece ends o.table.render.toList) =
      (toString o.total).toList := by
  obtain ⟨before, gap, hrender⟩ := o.render_table
  have hline : ∀ c ∈ (blanks gap).toList ++ (toString o.total).toList, ¬ ends c = true := by
    intro c hc hend
    have hbreak := hends c hend
    rcases List.mem_append.1 hc with hc | hc
    · rw [eq_of_mem_blanks hc] at hbreak
      simp [Text.isLineBreak] at hbreak
    · exact Text.solid_toString o.total c hc (Text.isBlank_of_isLineBreak hbreak)
  rw [hrender, Text.lastPiece_append_cons hnewline before hline]
  exact Text.trim_append (fun c hc => isBlank_of_mem_blanks hc) (Text.toString_ne_nil _)
    (Text.solid_toString _)

end Outcome

/-! ## Reports -/

/-- The parts of a report agree with one another and with the text of the request. -/
structure Report.Consistent (p : Report) : Prop where
  words : List.Forall₂ (fun word e => Term.read word = .ok e.term) (Request.wordsOf p.input)
    p.entries
  input : Request.read p.input = .ok ⟨p.input, p.entries.map Entry.term⟩
  expression : Request.read p.expression = .ok ⟨p.expression, p.entries.map Entry.term⟩
  entries : ∀ e ∈ p.entries, e.Consistent
  total : p.total = (p.entries.map Entry.subtotal).sum
  explanation : ∃ account, p.explanation = account ++ " => " ++ toString p.total
  /-- Whichever characters end a line beside the newline. -/
  table : ∀ ends : Char → Bool, ends '\n' = true →
    (∀ c, ends c = true → Text.isLineBreak c = true) →
    Text.trim Text.isBlank (Text.lastPiece ends p.table.toList) = (toString p.total).toList

theorem Outcome.report_eq_ok {o : Outcome} {source : String} {stamp : Stamp} {p : Report}
    (h : o.report source stamp = .ok p) :
    ∃ es, Score.entries? o.scores = some es ∧
      p = ⟨stamp.id, stamp.time, o.request.input, o.request.expression, source, es, o.total,
        explain es o.total, o.table.render⟩ := by
  rw [report] at h
  split at h
  · simp at h
  · rename_i es hes
    exact ⟨es, hes, (Except.ok.inj h).symm⟩

theorem Outcome.entries_of_report {r : Request} {rs : List Rolled} {source : String}
    {stamp : Stamp} {p : Report} (h : (Outcome.ofRolled r rs).report source stamp = .ok p) :
    Score.entries? (rs.map Rolled.score) = some p.entries ∧
      p.total = Score.total (rs.map Rolled.score) := by
  obtain ⟨es, hes, rfl⟩ := Outcome.report_eq_ok h
  exact ⟨hes, rfl⟩

theorem Outcome.consistent_of_report {text source : String} {stamp : Stamp} {r : Request}
    {rs : List Rolled} {p : Report} (hread : Request.read text = .ok r)
    (hshapes : rs.map Rolled.shape = r.terms.map Term.shape)
    (hp : (Outcome.ofRolled r rs).report source stamp = .ok p) : p.input = text ∧ p.Consistent := by
  obtain ⟨es, hes, rfl⟩ := Outcome.report_eq_ok hp
  obtain ⟨-, hvalid⟩ := Request.valid_of_read hread
  obtain ⟨hterms, hcons, htotal⟩ := Rolled.entries_of_shapes hvalid hshapes hes
  obtain ⟨-, hinput, hwords⟩ := Request.read_eq_ok_iff.1 hread
  have hrequest : r = ⟨text, es.map Entry.term⟩ := by
    rw [hterms, ← hinput]
  have hback := Request.read_expression hread
  rw [← hterms, List.forall₂_map_right_iff] at hwords
  rw [← hterms] at hback
  refine ⟨hinput, ?_, ?_, hback, hcons, htotal, ⟨_, rfl⟩, fun ends hnewline hends => ?_⟩
  · show List.Forall₂ _ (Request.wordsOf r.input) es
    rw [hinput]
    exact hwords
  · show Request.read r.input = .ok ⟨r.input, es.map Entry.term⟩
    rw [hinput, hread, ← hrequest]
  · exact Outcome.lastLine_table _ hnewline hends

/-- A text that is read and whose questions are all answered gets a report, and all parts of
the report agree. -/
theorem report_is_consistent {text : String} {r : Request} (hread : Request.read text = .ok r)
    {σ : Type} (g : Generator σ) (source : String) (stamp : Stamp) {s s' : σ} {vs : List Int}
    (hask : g.askAll r.questions s = (.ok vs, s')) :
    ∃ p, rollReport g text source stamp s = (.ok p, s') ∧ p.input = text ∧
      p.entries.map Entry.term = r.terms ∧ p.Consistent := by
  obtain ⟨rs, hshapes, -, -, -, hreport⟩ := rolls_of_answered hread hask
  obtain ⟨p, hp, hroll, -⟩ := hreport source stamp
  obtain ⟨hinput, hcons⟩ := Outcome.consistent_of_report hread hshapes hp
  have hterms : p.entries.map Entry.term = r.terms := by
    have hback := hcons.input
    rw [hinput, hread] at hback
    rw [Except.ok.inj hback]
  exact ⟨p, hroll, hinput, hterms, hcons⟩

/-- The report of a group with a rule, a constant and a single die, with the scripted values
5, 2 and 17. -/
theorem report_is_consistent_three_terms :
    ∃ p, rollReport (.script []) "2d6:dis +1 d20" "list" ⟨7, ⟨2024, 2, 9, 7, 5, 0⟩⟩ [5, 2, 17] =
        (.ok p, []) ∧
      p.input = "2d6:dis +1 d20" ∧
      p.entries.map Entry.term =
        [.dice 2 6 (some ⟨.disadvantage, 1⟩), .constant 1, .dice 1 20 none] ∧ p.Consistent := by
  have hread : Request.read "2d6:dis +1 d20" =
      .ok ⟨"2d6:dis +1 d20",
        [.dice 2 6 (some ⟨.disadvantage, 1⟩), .constant 1, .dice 1 20 none]⟩ := by decide
  have hask : (Generator.script []).askAll [(1, 6), (1, 6), (1, 20)] [5, 2, 17] =
      (.ok [5, 2, 17], []) := by decide
  exact report_is_consistent hread (.script []) "list" _ hask

end DiceRoller

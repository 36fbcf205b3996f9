import DiceRoller.Proofs.Range

/-!
The explanation of a roll tells the roll.

No account of a term holds the semicolon that divides the accounts.  In the account of a group
its name ends at the first colon, and each list of numbers ends at its closing bracket.  So an
explanation is read back account by account (`Entry.eq_of_explanation`).  An entry describes a
group by the number and the sides of its dice, which are those of the term, so entries tell what
was rolled (`Rolled.eq_of_entries`).
-/

namespace DiceRoller

/-! ## Names and numbers -/

theorem Text.toString_ne_empty (n : Int) : toString n ≠ "" := by
  intro h
  exact toString_ne_nil n (congrArg String.toList h)

theorem Text.withSign_inj {v w : Int} (h : withSign v = withSign w) : v = w :=
  Term.constant.inj (Term.expression_inj trivial trivial h)

theorem Text.lacks_withSign {c : Char} (hdigit : c.isDigit = false) (hminus : c ≠ '-')
    (hplus : Lacks c "+") (v : Int) : Lacks c (withSign v) := by
  have hnumber := lacks_toString hdigit hminus v
  unfold withSign
  split
  · exact hplus.append hnumber
  · exact hnumber

theorem diceName_inj {m n k l : Int} (hm : 0 ≤ m) (hn : 0 ≤ n) (hk : 0 ≤ k) (hl : 0 ≤ l)
    (h : diceName m n = diceName k l) : m = k ∧ n = l := by
  have ht : (Term.dice m n none).NonNeg := ⟨hm, hn, by simp⟩
  have hu : (Term.dice k l none).NonNeg := ⟨hk, hl, by simp⟩
  obtain ⟨rfl, rfl, -⟩ := Term.dice.inj (Term.expression_inj ht hu h)
  exact ⟨rfl, rfl⟩

theorem lacks_diceName {c : Char} (hdigit : c.isDigit = false) (hminus : c ≠ '-')
    (hd : Text.Lacks c "d") (count sides : Int) : Text.Lacks c (diceName count sides) := by
  have hnumber := Text.lacks_toString hdigit hminus
  unfold diceName
  split
  · exact hd.append (hnumber sides)
  · exact ((hnumber count).append hd).append (hnumber sides)

theorem Favour.name_injective {f g : Favour} (h : f.name = g.name) : f = g := by
  cases f <;> cases g <;> simp [name] at h ⊢

theorem Keep.label_inj {k l : Keep} (h : k.label = l.label) : k = l := by
  have hname : ∀ f : Favour, Text.Lacks ' ' f.name := by
    intro f
    cases f <;> decide
  rw [label, label, String.append_assoc, String.append_assoc] at h
  obtain ⟨hfavour, htake⟩ := Text.append_mark_inj rfl (hname _) (hname _) h
  obtain ⟨favour, take⟩ := k
  obtain rfl := Favour.name_injective hfavour
  obtain rfl : take = l.take := Int.repr_inj.1 htake
  rfl

/-! ## Lists of numbers -/

theorem lacks_numbers {c : Char} (hdigit : c.isDigit = false) (hminus : c ≠ '-')
    (hsep : Text.Lacks c ", ") (vs : List Int) :
    Text.Lacks c (", ".intercalate (vs.map toString)) := by
  refine hsep.intercalate fun l hl => ?_
  obtain ⟨v, -, rfl⟩ := List.mem_map.1 hl
  exact Text.lacks_toString hdigit hminus v

/-- A list in brackets is known from any text that starts with it. -/
theorem bracketed_append_inj {vs ws : List Int} {x y : String}
    (h : bracketed vs ++ x = bracketed ws ++ y) : vs = ws ∧ x = y := by
  have hclose := lacks_numbers (c := ']') (by decide) (by decide) (by decide)
  have hpiece : ∀ us : List Int, ∀ l ∈ us.map toString, l ≠ "" ∧ Text.Lacks ',' l := by
    intro us l hl
    obtain ⟨v, -, rfl⟩ := List.mem_map.1 hl
    exact ⟨Text.toString_ne_empty v, Text.lacks_toString (by decide) (by decide) v⟩
  simp only [bracketed, String.append_assoc] at h
  obtain ⟨hnumbers, hrest⟩ :=
    Text.append_mark_inj rfl (hclose vs) (hclose ws) ((String.append_right_inj _).1 h)
  have hmap := Text.intercalate_inj rfl (hpiece vs) (hpiece ws) hnumbers
  exact ⟨List.map_injective_iff.2 (fun _ _ => Int.repr_inj.1) hmap, hrest⟩

/-! ## Accounts -/

namespace Entry

/-- The rule of a group as its name has it. -/
def ruleText : Option Keep → String
  | none => ""
  | some k => "(" ++ (k.label ++ ")")

/-- How an account names a group. -/
def groupName (count sides : Int) (keep : Option Keep) : String :=
  diceName count sides ++ ruleText keep

/-- What an account says of the dice that were rolled and of those that are kept. -/
def rollsText (rolls kept : List Int) (subtotal : Int) : Option Keep → String
  | none => bracketed rolls ++ (" => " ++ toString subtotal)
  | some _ =>
    bracketed rolls ++ (" -> keep " ++ (bracketed kept ++ (" => " ++ toString subtotal)))

theorem explanation_dice (count sides : Int) (rolls kept : List Int) (subtotal : Int)
    (keep : Option Keep) :
    (dice count sides rolls kept subtotal keep).explanation =
      groupName count sides keep ++ (": rolls " ++ rollsText rolls kept subtotal keep) := by
  cases keep with
  | none =>
      simp only [explanation, groupName, ruleText, rollsText, String.append_empty,
        String.append_assoc]
  | some k =>
      have hmark : "): rolls " = ")" ++ ": rolls " := rfl
      simp only [explanation, groupName, ruleText, rollsText, hmark, String.append_assoc]

theorem opens_ruleText (keep : Option Keep) : Text.Opens '(' (ruleText keep) := by
  cases keep with
  | none => exact Text.opens_empty
  | some k => exact Text.opens_append rfl _

theorem ruleText_ne_empty (k : Keep) : ruleText (some k) ≠ "" := by
  intro h
  rw [ruleText, String.append_eq_empty_iff] at h
  exact absurd h.1 (by decide)

theorem ruleText_inj {keep keep' : Option Keep} (h : ruleText keep = ruleText keep') :
    keep = keep' := by
  cases keep with
  | none =>
      cases keep' with
      | none => rfl
      | some k' => exact absurd h.symm (ruleText_ne_empty k')
  | some k =>
      cases keep' with
      | none => exact absurd h (ruleText_ne_empty k)
      | some k' =>
          have hlabel := (String.append_right_inj _).1 h
          rw [Keep.label_inj ((String.append_left_inj _).1 hlabel)]

theorem groupName_inj {m n k l : Int} {keep keep' : Option Keep} (hm : 0 ≤ m) (hn : 0 ≤ n)
    (hk : 0 ≤ k) (hl : 0 ≤ l) (h : groupName m n keep = groupName k l keep') :
    m = k ∧ n = l ∧ keep = keep' := by
  have hlacks : ∀ count sides : Int, Text.Lacks '(' (diceName count sides) :=
    lacks_diceName (by decide) (by decide) (by decide)
  obtain ⟨hname, hrule⟩ := Text.append_inj_at (hlacks m n) (hlacks k l) (opens_ruleText keep)
    (opens_ruleText keep') h
  obtain ⟨rfl, rfl⟩ := diceName_inj hm hn hk hl hname
  exact ⟨rfl, rfl, ruleText_inj hrule⟩

theorem lacks_groupName {c : Char} (hc : c = ':' ∨ c = ';') (count sides : Int)
    (keep : Option Keep) : Text.Lacks c (groupName count sides keep) := by
  have hdigit : c.isDigit = false := by rcases hc with rfl | rfl <;> decide
  have hminus : c ≠ '-' := by rcases hc with rfl | rfl <;> decide
  have hwords : ∀ word ∈ ["d", "(", " ", ")", "advantage", "disadvantage"], Text.Lacks c word := by
    rcases hc with rfl | rfl <;> decide
  have hname := lacks_diceName hdigit hminus (hwords "d" (by simp)) count sides
  refine hname.append ?_
  cases keep with
  | none => simp [Text.Lacks, ruleText]
  | some k =>
      have hfavour : Text.Lacks c k.favour.name := by
        cases k.favour with
        | advantage => exact hwords _ (by simp [Favour.name])
        | disadvantage => exact hwords _ (by simp [Favour.name])
      have hlabel : Text.Lacks c k.label :=
        (hfavour.append (hwords " " (by simp))).append (Text.lacks_toString hdigit hminus k.take)
      exact (hwords "(" (by simp)).append (hlabel.append (hwords ")" (by simp)))

theorem lacks_bracketed (vs : List Int) : Text.Lacks ';' (bracketed vs) := by
  have hopen : Text.Lacks ';' "[" := by decide
  have hclose : Text.Lacks ';' "]" := by decide
  have hnumbers : Text.Lacks ';' (", ".intercalate (vs.map toString)) :=
    lacks_numbers (by decide) (by decide) (by decide) vs
  exact (hopen.append hnumbers).append hclose

theorem lacks_rollsText (rolls kept : List Int) (subtotal : Int) (keep : Option Keep) :
    Text.Lacks ';' (rollsText rolls kept subtotal keep) := by
  have hsubtotal : Text.Lacks ';' (" => " ++ toString subtotal) :=
    Text.Lacks.append (by decide) (Text.lacks_toString (by decide) (by decide) subtotal)
  have hkeep : Text.Lacks ';' " -> keep " := by decide
  cases keep with
  | none => exact (lacks_bracketed rolls).append hsubtotal
  | some k =>
      exact (lacks_bracketed rolls).append (hkeep.append ((lacks_bracketed kept).append hsubtotal))

theorem explanation_ne_empty (e : Entry) : e.explanation ≠ "" := by
  intro h
  cases e with
  | constant value subtotal =>
      exact Term.expression_ne_nil (.constant value) (congrArg String.toList h)
  | dice count sides rolls kept subtotal keep =>
      rw [explanation_dice, String.append_eq_empty_iff, String.append_eq_empty_iff] at h
      exact absurd h.2.1 (by decide)

theorem lacks_explanation (e : Entry) : Text.Lacks ';' e.explanation := by
  cases e with
  | constant value subtotal =>
      exact Text.lacks_withSign (by decide) (by decide) (by decide) value
  | dice count sides rolls kept subtotal keep =>
      have hmark : Text.Lacks ';' ": rolls " := by decide
      rw [explanation_dice]
      exact (lacks_groupName (Or.inr rfl) count sides keep).append
        (hmark.append (lacks_rollsText rolls kept subtotal keep))

/-- Only the account of a group has a colon. -/
theorem explanation_constant_ne_dice (value subtotal count sides : Int) (rolls kept : List Int)
    (subtotal' : Int) (keep : Option Keep) :
    (constant value subtotal).explanation ≠
      (dice count sides rolls kept subtotal' keep).explanation := by
  intro h
  have hlacks : Text.Lacks ':' (constant value subtotal).explanation :=
    Text.lacks_withSign (by decide) (by decide) (by decide) value
  rw [h, explanation_dice] at hlacks
  simp [Text.Lacks] at hlacks

theorem rollsText_inj {rolls rolls' kept kept' : List Int} {subtotal subtotal' : Int}
    {keep : Option Keep} (hkept : keep = none → rolls = rolls' → kept = kept')
    (h : rollsText rolls kept subtotal keep = rollsText rolls' kept' subtotal' keep) :
    rolls = rolls' ∧ kept = kept' ∧ subtotal = subtotal' := by
  have hnumber : ∀ {v w : Int}, " => " ++ toString v = " => " ++ toString w → v = w :=
    fun h => Int.repr_inj.1 ((String.append_right_inj _).1 h)
  cases keep with
  | none =>
      obtain ⟨hrolls, hsubtotal⟩ := bracketed_append_inj h
      exact ⟨hrolls, hkept rfl hrolls, hnumber hsubtotal⟩
  | some k =>
      obtain ⟨hrolls, hrest⟩ := bracketed_append_inj h
      obtain ⟨hkept, hsubtotal⟩ := bracketed_append_inj ((String.append_right_inj _).1 hrest)
      exact ⟨hrolls, hkept, hnumber hsubtotal⟩

/-- Accounts of terms within range tell the entries.  Without a rule an account does not list
the dice that are kept, but then all of them are. -/
theorem eq_of_explanation {e f : Entry} (he : e.term.NonNeg) (hf : f.term.NonNeg)
    (hcons : e.Consistent) (hcons' : f.Consistent) (h : e.explanation = f.explanation) :
    e = f := by
  cases e with
  | constant value subtotal =>
      cases f with
      | constant value' subtotal' =>
          obtain rfl : subtotal = value := hcons
          obtain rfl : subtotal' = value' := hcons'
          rw [Text.withSign_inj h]
      | dice count' sides' rolls' kept' subtotal' keep' =>
          exact absurd h (explanation_constant_ne_dice _ _ _ _ _ _ _ _)
  | dice count sides rolls kept subtotal keep =>
      cases f with
      | constant value' subtotal' =>
          exact absurd h.symm (explanation_constant_ne_dice _ _ _ _ _ _ _ _)
      | dice count' sides' rolls' kept' subtotal' keep' =>
          obtain ⟨hcount, hsides, -⟩ := he
          obtain ⟨hcount', hsides', -⟩ := hf
          obtain ⟨-, -, -, hall, -⟩ := hcons
          obtain ⟨-, -, -, hall', -⟩ := hcons'
          rw [explanation_dice, explanation_dice] at h
          obtain ⟨hname, hrolls⟩ := Text.append_mark_inj rfl
            (lacks_groupName (Or.inl rfl) _ _ _) (lacks_groupName (Or.inl rfl) _ _ _) h
          obtain ⟨rfl, rfl, rfl⟩ := groupName_inj hcount hsides hcount' hsides' hname
          have hkept : keep = none → rolls = rolls' → kept = kept' := by
            intro hkeep hsame
            rw [hall hkeep, hall' hkeep, hsame]
          obtain ⟨rfl, rfl, rfl⟩ := rollsText_inj hkept hrolls
          rfl

theorem eq_of_explanations {es fs : List Entry} (hes : ∀ e ∈ es, e.term.NonNeg ∧ e.Consistent)
    (hfs : ∀ f ∈ fs, f.term.NonNeg ∧ f.Consistent)
    (h : es.map explanation = fs.map explanation) : es = fs := by
  induction es generalizing fs with
  | nil => exact (List.map_eq_nil_iff.1 h.symm).symm
  | cons e es ih =>
      cases fs with
      | nil => simp at h
      | cons f fs =>
          obtain ⟨hfirst, hrest⟩ := List.cons.inj h
          obtain ⟨he, hcons⟩ := hes e List.mem_cons_self
          obtain ⟨hf, hcons'⟩ := hfs f List.mem_cons_self
          rw [eq_of_explanation he hf hcons hcons' hfirst,
            ih (fun e' h' => hes e' (List.mem_cons_of_mem e h'))
              (fun f' h' => hfs f' (List.mem_cons_of_mem f h')) hrest]

end Entry

/-- The total stands behind the last arrow, and the accounts are what is before it. -/
theorem explain_inj {es fs : List Entry} {total total' : Int}
    (hes : ∀ e ∈ es, e.term.NonNeg ∧ e.Consistent)
    (hfs : ∀ f ∈ fs, f.term.NonNeg ∧ f.Consistent)
    (h : explain es total = explain fs total') : es = fs ∧ total = total' := by
  have hspace : ∀ n : Int, Text.Lacks ' ' (toString n) :=
    Text.lacks_toString (by decide) (by decide)
  have haccount : ∀ ds : List Entry, ∀ l ∈ ds.map Entry.explanation,
      l ≠ "" ∧ Text.Lacks ';' l := by
    intro ds l hl
    obtain ⟨d, -, rfl⟩ := List.mem_map.1 hl
    exact ⟨d.explanation_ne_empty, d.lacks_explanation⟩
  obtain ⟨hjoined, htotal⟩ := Text.append_lastMark_inj rfl (hspace total) (hspace total') h
  have haccounts := Text.intercalate_inj rfl (haccount es) (haccount fs) hjoined
  exact ⟨Entry.eq_of_explanations hes hfs haccounts, Int.repr_inj.1 htotal⟩

/-! ## Rolls -/

/-- Terms of the same entries were rolled alike. -/
theorem Rolled.eq_of_entries {ts us : List Term} {rs qs : List Rolled} {es : List Entry}
    (hts : ∀ t ∈ ts, t.Valid) (hus : ∀ u ∈ us, u.Valid)
    (hrs : rs.map shape = ts.map Term.shape) (hqs : qs.map shape = us.map Term.shape)
    (h : Score.entries? (rs.map score) = some es)
    (h' : Score.entries? (qs.map score) = some es) : ts = us ∧ rs = qs := by
  obtain ⟨hterms, -, -⟩ := entries_of_shapes hts hrs h
  obtain ⟨hterms', -, -⟩ := entries_of_shapes hus hqs h'
  obtain rfl : ts = us := hterms.symm.trans hterms'
  have hvalues := (Entry.map_snd_asked_of_entries h).symm.trans (Entry.map_snd_asked_of_entries h')
  exact ⟨rfl, eq_of_shapes_of_values (hrs.trans hqs.symm) hvalues⟩

/-- What the outcome of a text is known to be. -/
structure Outcome.Rolls (o : Outcome) (r : Request) (rs : List Rolled) (es : List Entry) :
    Prop where
  outcome : o = .ofRolled r rs
  valid : ∀ t ∈ r.terms, t.Valid
  shapes : rs.map Rolled.shape = r.terms.map Term.shape
  entries : Score.entries? (rs.map Rolled.score) = some es

theorem exists_rolls_of_rollText {σ : Type} {g : Generator σ} {text : String} {s s' : σ}
    {o : Outcome} (h : rollText g text s = (.ok o, s')) : ∃ r rs es, o.Rolls r rs es := by
  obtain ⟨r, rs, hread, hroll, rfl⟩ := rollText_eq_ok h
  have hvalid := (Request.valid_of_read hread).2
  have hshapes := Term.shape_of_rollAll hroll
  obtain ⟨p, hp, -⟩ := Outcome.report_of_shape hvalid hshapes "" ⟨0, ⟨0, 0, 0, 0, 0, 0⟩⟩
  obtain ⟨es, hes, -⟩ := Outcome.report_eq_ok hp
  exact ⟨r, rs, es, rfl, hvalid, hshapes, hes⟩

namespace Outcome.Rolls

variable {o q : Outcome} {r r' : Request} {rs rs' : List Rolled} {es es' : List Entry}

theorem report_eq (h : o.Rolls r rs es) (source : String) (stamp : Stamp) :
    o.report source stamp = .ok ⟨stamp.id, stamp.time, r.input, r.expression, source, es, o.total,
      explain es o.total, o.table.render⟩ := by
  obtain rfl := h.outcome
  rw [report, show Score.entries? (Outcome.ofRolled r rs).scores = some es from h.entries]
  rfl

theorem entries_readable (h : o.Rolls r rs es) : ∀ e ∈ es, e.term.NonNeg ∧ e.Consistent := by
  obtain ⟨hterms, hcons, -⟩ := Rolled.entries_of_shapes h.valid h.shapes h.entries
  intro e he
  have hmem : e.term ∈ r.terms := by
    rw [← hterms]
    exact List.mem_map_of_mem he
  exact ⟨(h.valid _ hmem).nonNeg, hcons e he⟩

theorem eq_of_explain (h : o.Rolls r rs es) (h' : q.Rolls r' rs' es')
    (he : explain es o.total = explain es' q.total) :
    o.scores = q.scores ∧ o.total = q.total ∧ r.terms = r'.terms := by
  obtain ⟨rfl, htotal⟩ := explain_inj h.entries_readable h'.entries_readable he
  obtain ⟨hterms, rfl⟩ := Rolled.eq_of_entries h.valid h'.valid h.shapes h'.shapes h.entries
    h'.entries
  refine ⟨?_, htotal, hterms⟩
  rw [h.outcome, h'.outcome]
  rfl

theorem explain_of_scores (h : o.Rolls r rs es) (h' : q.Rolls r' rs' es')
    (hscores : o.scores = q.scores) : explain es o.total = explain es' q.total := by
  obtain rfl := h.outcome
  obtain rfl := h'.outcome
  have hsame : rs.map Rolled.score = rs'.map Rolled.score := hscores
  have hentries := h.entries
  rw [hsame, h'.entries] at hentries
  obtain rfl := Option.some.inj hentries
  show explain es' (Score.total (rs.map Rolled.score)) = explain es' (Score.total _)
  rw [hsame]

end Outcome.Rolls

/-- Two rolls of texts, by any generators, have one explanation only if the same terms were
rolled with the same dice coming up, the same dice were kept and every contribution and the
total are the same, and then it is one.  So the explanation tells the expression as well. -/
theorem explanation_tells_roll {σ τ : Type} {g : Generator σ} {g' : Generator τ}
    {text text' : String} {s t : σ} {s' t' : τ} {o q : Outcome}
    (ho : rollText g text s = (.ok o, t)) (hq : rollText g' text' s' = (.ok q, t'))
    (source source' : String) (stamp stamp' : Stamp) :
    ∃ p p', o.report source stamp = .ok p ∧ q.report source' stamp' = .ok p' ∧
      (p.explanation = p'.explanation →
        o.scores = q.scores ∧ o.total = q.total ∧ p.expression = p'.expression) ∧
      (o.scores = q.scores → p.explanation = p'.explanation) := by
  obtain ⟨r, rs, es, hr⟩ := exists_rolls_of_rollText ho
  obtain ⟨r', rs', es', hr'⟩ := exists_rolls_of_rollText hq
  refine ⟨_, _, hr.report_eq source stamp, hr'.report_eq source' stamp', fun he => ?_,
    hr.explain_of_scores hr'⟩
  obtain ⟨hscores, htotal, hterms⟩ := hr.eq_of_explain hr' he
  refine ⟨hscores, htotal, ?_⟩
  show Term.expressions r.terms = Term.expressions r'.terms
  rw [hterms]

/-- Two texts of one request rolled by different generators that come to the same dice. -/
theorem explanation_tells_roll_of_two_texts :
    let rolled : List Rolled :=
      [.dice [⟨6, 5⟩, ⟨6, -2⟩] (some ⟨.disadvantage, 1⟩), .constant 1]
    let terms : List Term := [.dice 2 6 (some ⟨.disadvantage, 1⟩), .constant 1]
    let o := Outcome.ofRolled ⟨"2d6:dis +1", terms⟩ rolled
    let q := Outcome.ofRolled ⟨"02d6:dis1\t1", terms⟩ rolled
    let stamp : Stamp := ⟨7, ⟨2024, 2, 9, 7, 5, 0⟩⟩
    rollText (.script []) "2d6:dis +1" [5, -2] = (.ok o, []) ∧
      rollText (.script [5, -2]) "02d6:dis1\t1" [] = (.ok q, []) ∧
      ∃ p p', o.report "list" stamp = .ok p ∧ q.report "cycle" stamp = .ok p' ∧
        p.explanation = p'.explanation ∧ p.expression = p'.expression := by
  intro rolled terms o q stamp
  have ho : rollText (.script []) "2d6:dis +1" [5, -2] = (.ok o, []) := by decide +kernel
  have hq : rollText (.script [5, -2]) "02d6:dis1\t1" [] = (.ok q, []) := by decide +kernel
  obtain ⟨p, p', hp, hp', htells, hsame⟩ := explanation_tells_roll ho hq "list" "cycle" stamp stamp
  have he : p.explanation = p'.explanation := hsame rfl
  exact ⟨ho, hq, p, p', hp, hp', he, (htells he).2.2⟩

end DiceRoller

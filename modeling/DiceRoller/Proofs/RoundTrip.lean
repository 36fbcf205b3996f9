import DiceRoller.Proofs.Grammar.Sentence
import DiceRoller.Report
import DiceRoller.Text.Mark

/-!
Reading undoes writing, on exactly the terms within range.

A term without negative numbers in its places is written as a word of the grammar,
and the word denotes it.  A negative number puts a minus into a group of dice, which
is the spelling of no word, so a term is never written as a word that denotes another
one (`Term.read_expression_iff`).  The words of an expression are those of its terms,
and requests follow.
-/

namespace DiceRoller

/-! ## Numbers as words have them -/

def Numeral.ofNat (n : Nat) : Numeral where
  chars := Nat.toDigits 10 n
  holds := fun _ hc => Nat.isDigit_of_mem_toDigits (by decide) (by decide) hc
  ne_nil := Nat.toDigits_ne_nil

/-- The digits of a number that is left out if it is one. -/
def Digits.ofNat (n : Nat) : Digits :=
  if n = 1 then ⟨[], by simp⟩ else (Numeral.ofNat n).toRun

theorem Numeral.digitsValue_ofNat (n : Nat) : Text.digitsValue (Numeral.ofNat n).chars = n :=
  Nat.ofDigitChars_ten_toDigits

theorem Digits.valueOrOne_ofNat (n : Nat) : Text.valueOrOne (Digits.ofNat n).chars = n := by
  unfold Digits.ofNat
  split
  · rename_i hone
    rw [hone]
    rfl
  · rw [Text.valueOrOne, if_neg (Numeral.ofNat n).ne_nil]
    exact Numeral.digitsValue_ofNat n

theorem toList_toString_of_nonneg {n : Int} (h : 0 ≤ n) :
    (toString n).toList = (Numeral.ofNat n.toNat).chars := by
  rw [Int.toString_eq_repr, Int.repr_eq_if, if_pos h, Nat.toList_repr]
  rfl

theorem toList_toString_of_neg {n : Int} (h : n < 0) :
    (toString n).toList = '-' :: (Numeral.ofNat (-n).toNat).chars := by
  rw [Int.toString_eq_repr, Int.repr_eq_if, if_neg (by omega), String.toList_append,
    Nat.toList_repr]
  rfl

theorem Text.lacks_toString {c : Char} (hdigit : c.isDigit = false) (hminus : c ≠ '-') (n : Int) :
    Lacks c (toString n) := by
  intro hmem
  by_cases hn : 0 ≤ n
  · rw [toList_toString_of_nonneg hn] at hmem
    have hc := (Numeral.ofNat _).holds c hmem
    simp [hdigit] at hc
  · rw [toList_toString_of_neg (by omega)] at hmem
    rcases List.mem_cons.1 hmem with rfl | hmem
    · exact hminus rfl
    · have hc := (Numeral.ofNat _).holds c hmem
      simp [hdigit] at hc

/-! ## Terms as words -/

namespace Term

def NonNeg : Term → Prop
  | constant _ => True
  | dice count sides keep => 0 ≤ count ∧ 0 ≤ sides ∧ ∀ k ∈ keep, 0 ≤ k.take

theorem Valid.nonNeg {t : Term} (h : t.Valid) : t.NonNeg := by
  cases t with
  | constant value => trivial
  | dice count sides keep =>
      obtain ⟨⟨hcount, -⟩, ⟨hsides, -⟩, hkeep⟩ := h
      refine ⟨by omega, by omega, fun k hk => ?_⟩
      have htake := (hkeep k hk).1
      omega

/-- The word that a term is written as. -/
def word : Term → Word
  | constant value =>
    .constant (some (if 0 ≤ value then .plus else .minus)) (Numeral.ofNat value.natAbs)
  | dice count sides keep =>
    .group (Digits.ofNat count.toNat) (Numeral.ofNat sides.toNat)
      (keep.map fun k => ⟨k.favour, Digits.ofNat k.take.toNat⟩)

theorem term_word {t : Term} (h : t.NonNeg) : t.word.term = t := by
  cases t with
  | constant value =>
      show Term.constant (Bounds.signedValue _ (Numeral.ofNat value.natAbs).chars) = _
      rw [Bounds.signedValue, Numeral.digitsValue_ofNat]
      by_cases hv : 0 ≤ value
      · have hplus : (some Sign.plus == some Sign.minus) = false := rfl
        rw [if_pos hv, hplus, if_neg Bool.false_ne_true,
          show (value.natAbs : Int) = value by omega]
      · have hminus : (some Sign.minus == some Sign.minus) = true := rfl
        rw [if_neg hv, hminus, if_pos rfl, show -(value.natAbs : Int) = value by omega]
  | dice count sides keep =>
      obtain ⟨hcount, hsides, hkeep⟩ := h
      show Term.dice (Text.valueOrOne (Digits.ofNat count.toNat).chars)
        (Text.digitsValue (Numeral.ofNat sides.toNat).chars) _ = _
      rw [Digits.valueOrOne_ofNat, Numeral.digitsValue_ofNat, Int.toNat_of_nonneg hcount,
        Int.toNat_of_nonneg hsides]
      cases keep with
      | none => rfl
      | some k =>
          show Term.dice _ _
            (some ⟨k.favour, Text.valueOrOne (Digits.ofNat k.take.toNat).chars⟩) = _
          rw [Digits.valueOrOne_ofNat, Int.toNat_of_nonneg (hkeep k rfl)]

end Term

theorem Digits.chars_ofNat_of_ne {n : Int} (h : 0 ≤ n) (hne : n ≠ 1) :
    (Digits.ofNat n.toNat).chars = (toString n).toList := by
  rw [Digits.ofNat, if_neg (by omega), toList_toString_of_nonneg h]

theorem toList_diceName {count sides : Int} (hcount : 0 ≤ count) (hsides : 0 ≤ sides) :
    (diceName count sides).toList =
      (Digits.ofNat count.toNat).chars ++ 'd' :: (Numeral.ofNat sides.toNat).chars := by
  by_cases hone : count = 1
  · subst hone
    rw [diceName, if_pos rfl, String.toList_append, toList_toString_of_nonneg hsides]
    rfl
  · rw [diceName, if_neg hone, String.toList_append, String.toList_append,
      Digits.chars_ofNat_of_ne hcount hone, toList_toString_of_nonneg hsides,
      List.append_assoc]
    rfl

theorem Keep.toList_expression {k : Keep} (h : 0 ≤ k.take) :
    k.expression.toList = (Rule.mk k.favour (Digits.ofNat k.take.toNat)).spelling := by
  by_cases hone : k.take = 1
  · rw [expression, if_pos hone, Rule.spelling, hone]
    exact (List.append_nil _).symm
  · rw [expression, if_neg hone, String.toList_append, Rule.spelling,
      Digits.chars_ofNat_of_ne h hone]

namespace Term

theorem toList_expression {t : Term} (h : t.NonNeg) : t.expression.toList = t.word.spelling := by
  cases t with
  | constant value =>
      rw [expression, Text.withSign]
      by_cases hv : 0 ≤ value
      · rw [if_pos hv, String.toList_append, toList_toString_of_nonneg hv, word, if_pos hv,
          show value.natAbs = value.toNat by omega]
        rfl
      · rw [if_neg hv, toList_toString_of_neg (by omega), word, if_neg hv,
          show value.natAbs = (-value).toNat by omega]
        rfl
  | dice count sides keep =>
      obtain ⟨hcount, hsides, hkeep⟩ := h
      cases keep with
      | none =>
          rw [expression, toList_diceName hcount hsides]
          show _ = _ ++ 'd' :: (_ ++ [])
          rw [List.append_nil]
      | some k =>
          rw [expression, String.toList_append, String.toList_append,
            toList_diceName hcount hsides, Keep.toList_expression (hkeep k rfl),
            List.append_assoc, List.append_assoc]
          rfl

theorem expression_inj {t u : Term} (ht : t.NonNeg) (hu : u.NonNeg)
    (h : t.expression = u.expression) : t = u := by
  have hword : t.word.text = u.word.text := by
    rw [Word.text, Word.text, ← toList_expression ht, ← toList_expression hu, h]
  rw [← term_word ht, Word.text_injective hword, term_word hu]

theorem minus_mem_toString {n : Int} (h : n < 0) : '-' ∈ (toString n).toList := by
  rw [toList_toString_of_neg h]
  exact List.mem_cons_self

theorem minus_mem_diceName {count sides : Int} (h : count < 0 ∨ sides < 0) :
    '-' ∈ (diceName count sides).toList := by
  by_cases hone : count = 1
  · have hsides : sides < 0 := by omega
    rw [diceName, if_pos hone, String.toList_append]
    exact List.mem_append_right _ (minus_mem_toString hsides)
  · rw [diceName, if_neg hone, String.toList_append, String.toList_append]
    rcases h with h | h
    · exact List.mem_append_left _ (List.mem_append_left _ (minus_mem_toString h))
    · exact List.mem_append_right _ (minus_mem_toString h)

theorem d_mem_diceName (count sides : Int) : 'd' ∈ (diceName count sides).toList := by
  unfold diceName
  split <;> simp

/-- A group with a negative number is written with a minus. -/
theorem minus_mem_expression {t : Term} (h : ¬ t.NonNeg) :
    'd' ∈ t.expression.toList ∧ '-' ∈ t.expression.toList := by
  cases t with
  | constant value => exact absurd trivial h
  | dice count sides keep =>
      by_cases hname : count < 0 ∨ sides < 0
      · have hd := d_mem_diceName count sides
        have hminus := minus_mem_diceName hname
        cases keep with
        | none => exact ⟨hd, hminus⟩
        | some k =>
            rw [expression, String.toList_append, String.toList_append]
            exact ⟨List.mem_append_left _ (List.mem_append_left _ hd),
              List.mem_append_left _ (List.mem_append_left _ hminus)⟩
      · cases keep with
        | none => exact absurd ⟨by omega, by omega, by simp⟩ h
        | some k =>
            have htake : k.take < 0 := by
              by_contra hge
              refine h ⟨by omega, by omega, fun x hx => ?_⟩
              obtain rfl : k = x := by simpa using hx
              omega
            rw [expression, String.toList_append, String.toList_append, Keep.expression,
              if_neg (by omega), String.toList_append]
            exact ⟨List.mem_append_left _ (List.mem_append_left _ (d_mem_diceName count sides)),
              List.mem_append_right _ (List.mem_append_right _ (minus_mem_toString htake))⟩

end Term

theorem Word.not_minus_mem_of_d_mem {w : Word} (hd : 'd' ∈ w.spelling) : '-' ∉ w.spelling := by
  intro hminus
  cases w with
  | constant sign ds =>
      have hconst := Term.isConstant_spelling sign ds
      rw [Term.isConstant_eq_false_of_mem hd] at hconst
      simp at hconst
  | group count sides rule =>
      rcases Word.mem_group_spelling hminus with h | h
      · simp at h
      · simp at h

/-- A term is read back from its expression if it is within range, and otherwise its
expression is refused. -/
theorem Term.read_expression_iff {t u : Term} :
    Term.read t.expression = .ok u ↔ t.Valid ∧ t = u := by
  rw [Term.read_eq_ok_iff]
  by_cases hnat : t.NonNeg
  · have htext : t.word.text = t.expression := by
      rw [Word.text, ← toList_expression hnat, String.ofList_toList]
    rw [← htext]
    constructor
    · intro h
      obtain ⟨w, hw, hvalid, rfl⟩ := h
      obtain rfl := Word.text_injective hw
      rw [term_word hnat] at hvalid ⊢
      exact ⟨hvalid, rfl⟩
    · intro h
      obtain ⟨hvalid, rfl⟩ := h
      refine ⟨t.word, rfl, ?_, (term_word hnat).symm⟩
      rw [term_word hnat]
      exact hvalid
  · constructor
    · intro h
      obtain ⟨w, hw, -⟩ := h
      have hspell : t.expression.toList = w.spelling := by
        rw [← hw, Word.text, String.toList_ofList]
      obtain ⟨hd, hminus⟩ := minus_mem_expression hnat
      rw [hspell] at hd hminus
      exact absurd hminus (Word.not_minus_mem_of_d_mem hd)
    · intro h
      exact absurd h.1.nonNeg hnat

/-! ## Requests -/

theorem Text.words_intercalate {ws : List (List Char)}
    (hws : ∀ w ∈ ws, w ≠ [] ∧ ∀ c ∈ w, ¬ isBlank c = true) :
    words ([' '].intercalate ws) = ws := by
  induction ws with
  | nil => rfl
  | cons w ws ih =>
      obtain ⟨hne, hw⟩ := hws w List.mem_cons_self
      have hrest := ih fun v hv => hws v (List.mem_cons_of_mem w hv)
      cases ws with
      | nil =>
          rw [List.intercalate_singleton]
          exact words_eq_singleton hne hw
      | cons v ws =>
          have hblank : ∀ c ∈ [' '], isBlank c = true := by decide
          have hapart : Apart ([' '] ++ [' '].intercalate (v :: ws)) := by
            intro c hc
            obtain rfl : ' ' = c := by simpa using hc
            decide
          rw [List.intercalate_cons_cons, List.append_assoc, words_word_append hne hw hapart,
            words_gap_append hblank, hrest]

/-- A text without blanks. -/
def Text.Solid (s : String) : Prop := ∀ c ∈ s.toList, ¬ isBlank c = true

instance (s : String) : Decidable (Text.Solid s) :=
  inferInstanceAs (Decidable (∀ c ∈ s.toList, _))

theorem Text.Solid.append {s t : String} (hs : Solid s) (ht : Solid t) : Solid (s ++ t) := by
  intro c hc
  rw [String.toList_append] at hc
  rcases List.mem_append.1 hc with hc | hc
  · exact hs c hc
  · exact ht c hc

theorem Text.solid_toString (n : Int) : Solid (toString n) := by
  intro c hc
  by_cases hn : 0 ≤ n
  · rw [toList_toString_of_nonneg hn] at hc
    exact Word.not_isBlank_of_isDigit ((Numeral.ofNat _).holds c hc)
  · rw [toList_toString_of_neg (by omega)] at hc
    rcases List.mem_cons.1 hc with rfl | hc
    · decide
    · exact Word.not_isBlank_of_isDigit ((Numeral.ofNat _).holds c hc)

theorem solid_diceName (count sides : Int) : Text.Solid (diceName count sides) := by
  have hd : Text.Solid "d" := by decide
  unfold diceName
  split
  · exact hd.append (Text.solid_toString sides)
  · exact ((Text.solid_toString count).append hd).append (Text.solid_toString sides)

theorem Keep.solid_expression (k : Keep) : Text.Solid k.expression := by
  have hword : Text.Solid k.favour.word := by
    cases k.favour <;> decide
  unfold Keep.expression
  split
  · exact hword
  · exact hword.append (Text.solid_toString k.take)

namespace Term

theorem solid_expression (t : Term) : Text.Solid t.expression := by
  cases t with
  | constant value =>
      have hplus : Text.Solid "+" := by decide
      rw [expression, Text.withSign]
      split
      · exact hplus.append (Text.solid_toString value)
      · exact Text.solid_toString value
  | dice count sides keep =>
      have hcolon : Text.Solid ":" := by decide
      cases keep with
      | none => exact solid_diceName count sides
      | some k => exact ((solid_diceName count sides).append hcolon).append k.solid_expression

theorem expression_ne_nil (t : Term) : t.expression.toList ≠ [] := by
  by_cases hnat : t.NonNeg
  · rw [toList_expression hnat]
    exact t.word.spelling_ne_nil
  · exact List.ne_nil_of_mem (minus_mem_expression hnat).1

theorem wordsOf_expressions (ts : List Term) :
    Request.wordsOf (expressions ts) = ts.map expression := by
  have hws : ∀ w ∈ ts.map fun t => t.expression.toList,
      w ≠ [] ∧ ∀ c ∈ w, ¬ Text.isBlank c = true := by
    intro w hw
    obtain ⟨t, -, rfl⟩ := List.mem_map.1 hw
    exact ⟨t.expression_ne_nil, t.solid_expression⟩
  have hlist : (expressions ts).toList =
      [' '].intercalate (ts.map fun t => t.expression.toList) := by
    rw [expressions, String.toList_intercalate, List.map_map]
    rfl
  rw [Request.wordsOf, hlist, Text.words_intercalate hws, List.map_map]
  exact List.map_congr_left fun t _ => String.ofList_toList

end Term

namespace Request

theorem read_expressions_iff {ts : List Term} {r : Request} :
    Request.read (Term.expressions ts) = .ok r ↔
      ts ≠ [] ∧ (∀ t ∈ ts, t.Valid) ∧ r = ⟨Term.expressions ts, ts⟩ := by
  have hterms : List.Forall₂ (fun t u => Term.read t.expression = .ok u) ts r.terms ↔
      (∀ t ∈ ts, t.Valid) ∧ ts = r.terms := by
    simp only [Term.read_expression_iff]
    rw [List.forall₂_and_left, List.forall₂_eq_eq_eq]
  rw [read_eq_ok_iff, Term.wordsOf_expressions, List.forall₂_map_left_iff, hterms, ne_eq,
    List.map_eq_nil_iff]
  constructor
  · intro h
    obtain ⟨hne, hinput, hvalid, hts⟩ := h
    refine ⟨hne, hvalid, ?_⟩
    rw [← hinput, hts]
  · intro h
    obtain ⟨hne, hvalid, rfl⟩ := h
    exact ⟨hne, rfl, hvalid, rfl⟩

theorem read_expression {text : String} {r : Request} (h : Request.read text = .ok r) :
    Request.read r.expression = .ok ⟨r.expression, r.terms⟩ := by
  obtain ⟨hne, hvalid⟩ := valid_of_read h
  exact read_expressions_iff.2 ⟨hne, hvalid, rfl⟩

end Request

/-! ## Rolling an expression -/

/-- A report shows the text of the request in one place only, and its stamp in two. -/
theorem Outcome.report_of_expression (r : Request) (expression source : String) (rs : List Rolled)
    (stamp stamp' : Stamp) :
    (Outcome.ofRolled ⟨expression, r.terms⟩ rs).report source stamp' =
      ((Outcome.ofRolled r rs).report source stamp).map fun p =>
        { p with id := stamp'.id, time := stamp'.time, input := expression } := by
  unfold Outcome.report Outcome.ofRolled
  cases Score.entries? (rs.map Rolled.score) <;> rfl

theorem rollReport_expression {σ : Type} (g : Generator σ) {text : String} {r : Request}
    (h : Request.read text = .ok r) (source : String) (stamp stamp' : Stamp) (s : σ) :
    rollReport g r.expression source stamp' s =
      ((rollReport g text source stamp s).1.map fun p =>
          { p with id := stamp'.id, time := stamp'.time, input := r.expression },
        (rollReport g text source stamp s).2) := by
  simp only [rollReport, rollText, h, Request.read_expression h, Request.roll]
  rcases Term.rollAll g r.terms s with ⟨rolled, s'⟩
  cases rolled with
  | error e => rfl
  | ok rs =>
      have hreport := Outcome.report_of_expression r r.expression source rs stamp stamp'
      simp only [Except.bind, hreport]

/-- Reading an expression gives back its terms if they are within range, at least one of
them, and is refused otherwise.  So the expression of a request that was read is read as
its terms and written as itself again, it stands for those terms alone, and rolling it
reports the same apart from the text of the request and the stamp. -/
theorem read_undoes_expression :
    (∀ (ts : List Term) (r : Request), Request.read (Term.expressions ts) = .ok r ↔
      ts ≠ [] ∧ (∀ t ∈ ts, t.Valid) ∧ r = ⟨Term.expressions ts, ts⟩) ∧
    ∀ (text : String) (r : Request), Request.read text = .ok r →
      (∃ q, Request.read r.expression = .ok q ∧ q.terms = r.terms ∧
        q.expression = r.expression) ∧
      (∀ (text' : String) (r' : Request), Request.read text' = .ok r' →
        (r.expression = r'.expression ↔ r.terms = r'.terms)) ∧
      ∀ (σ : Type) (g : Generator σ) (source : String) (stamp stamp' : Stamp) (s : σ),
        rollReport g r.expression source stamp' s =
          ((rollReport g text source stamp s).1.map fun p =>
              { p with id := stamp'.id, time := stamp'.time, input := r.expression },
            (rollReport g text source stamp s).2) := by
  refine ⟨fun _ _ => Request.read_expressions_iff, fun text r h => ⟨?_, ?_, ?_⟩⟩
  · exact ⟨⟨r.expression, r.terms⟩, Request.read_expression h, rfl, rfl⟩
  · intro text' r' h'
    constructor
    · intro heq
      have hread := Request.read_expression h
      rw [heq, Request.read_expression h'] at hread
      exact (Request.mk.inj (Except.ok.inj hread)).2.symm
    · intro heq
      rw [Request.expression, Request.expression, heq]
  · exact fun σ g source stamp stamp' s => rollReport_expression g h source stamp stamp' s

/-- The statement at a request whose expression differs from its text, with a roll of each. -/
theorem read_undoes_expression_short :
    let r : Request := ⟨" 01d6:adv1\n7", [.dice 1 6 (some ⟨.advantage, 1⟩), .constant 7]⟩
    let stamp : Stamp := ⟨1, ⟨2024, 2, 9, 7, 5, 0⟩⟩
    let stamp' : Stamp := ⟨2, ⟨2024, 2, 9, 7, 5, 1⟩⟩
    Request.read r.input = .ok r ∧ r.expression = "d6:adv +7" ∧
      (∃ q, Request.read "d6:adv +7" = .ok q ∧ q.terms = r.terms ∧
        q.expression = "d6:adv +7") ∧
      rollReport (.script []) "d6:adv +7" "list" stamp' [4] =
        ((rollReport (.script []) r.input "list" stamp [4]).1.map fun p =>
            { p with id := stamp'.id, time := stamp'.time, input := "d6:adv +7" },
          (rollReport (.script []) r.input "list" stamp [4]).2) := by
  intro r stamp stamp'
  have hread : Request.read r.input = .ok r := by decide +kernel
  have hshort : r.expression = "d6:adv +7" := by decide +kernel
  obtain ⟨hback, -, hroll⟩ := read_undoes_expression.2 r.input r hread
  have hreport := hroll _ (.script []) "list" stamp stamp' [4]
  rw [hshort] at hback hreport
  exact ⟨hread, hshort, hback, hreport⟩

/-- With another stamp the report of an expression is not that of the text with the expression
in the place of the text. -/
theorem report_of_expression_has_own_stamp :
    let r : Request := ⟨"1d6", [.dice 1 6 none]⟩
    let stamp : Stamp := ⟨1, ⟨2024, 2, 9, 7, 5, 0⟩⟩
    let stamp' : Stamp := ⟨2, ⟨2024, 2, 9, 7, 5, 1⟩⟩
    Request.read r.input = .ok r ∧ r.expression = "d6" ∧
      rollReport (.script []) r.expression "list" stamp' [4] ≠
        ((rollReport (.script []) r.input "list" stamp [4]).1.map fun p =>
            { p with input := r.expression },
          (rollReport (.script []) r.input "list" stamp [4]).2) := by
  decide +kernel

end DiceRoller

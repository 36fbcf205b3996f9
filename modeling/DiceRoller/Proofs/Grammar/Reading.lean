import DiceRoller.Proofs.Grammar.Scan

/-!
What a word of a request is read as.

The reader accepts a text exactly if it is the spelling of a word whose term is
within range, and it returns that term (`Term.read_eq_ok_iff`).
-/

namespace DiceRoller

/-! ## Reading a word -/

theorem mapError_eq_ok_iff {ε ε' α : Type} {x : Except ε α} {f : ε → ε'} {a : α} :
    x.mapError f = .ok a ↔ x = .ok a := by
  cases x <;> simp [Except.mapError]

theorem Bounds.count_read_digits {ds : List Char} (hds : ∀ c ∈ ds, c.isDigit = true)
    (hne : ds ≠ []) :
    Bounds.count.read (String.ofList ds) = Bounds.count.check (Text.digitsValue ds) := by
  have hnum : Text.isNumeral ds = true := FullRun.isNumeral ⟨⟨ds, hds⟩, hne⟩
  have hsign : splitSign Bounds.count.signed (String.ofList ds).toList = (false, ds) := by
    rw [String.toList_ofList]
    exact splitSign_of_digits hds
  exact read_of_numeral (by decide) hsign hnum

theorem Bounds.count_read_orOne {ds : List Char} (hds : ∀ c ∈ ds, c.isDigit = true) :
    Bounds.count.read (Keep.orOne ds) = Bounds.count.check (Text.valueOrOne ds) := by
  by_cases hne : ds = []
  · subst hne
    exact @count_read_digits ['1'] (by simp) (by simp)
  · rw [Keep.orOne, if_neg (by simpa using hne), Text.valueOrOne, if_neg hne,
      count_read_digits hds hne]

theorem Bounds.bonus_read_spelling {text : String} {sign : Option Sign} {ds : Numeral}
    (h : text.toList = (Word.constant sign ds).spelling) :
    Bounds.bonus.read text = Bounds.bonus.check (signedValue (sign == some .minus) ds.chars) := by
  have hsign : splitSign Bounds.bonus.signed text.toList = (sign == some .minus, ds.chars) := by
    rw [h]
    exact splitSign_spelling sign ds
  exact read_of_numeral (by decide) hsign ds.isNumeral

theorem Bounds.count_check_eq_ok_iff {v n : Int} (hv : 0 ≤ v) :
    Bounds.count.check v = .ok n ↔ n = v ∧ 1 ≤ v ∧ v ≤ 255 := by
  rw [check_eq_ok_iff]
  show n = v ∧ v ≠ 0 ∧ 0 ≤ v ∧ v ≤ 255 ↔ _
  omega

theorem Bounds.bonus_check_eq_ok_iff {v n : Int} :
    Bounds.bonus.check v = .ok n ↔ n = v ∧ (Term.constant v).Valid :=
  check_eq_ok_iff

theorem Term.readPart_eq_ok_iff {issue : GroupIssue} {text : String} {n : Int} :
    readPart issue text = .ok n ↔ Bounds.count.read text = .ok n := by
  rw [readPart, mapError_eq_ok_iff, Bounds.readFault, mapError_eq_ok_iff]

theorem Keep.read_eq_ok_iff {text : String} {k : Keep} :
    Keep.read text = .ok k ↔
      ∃ r : Rule, text.toList = r.spelling ∧ k = r.keep ∧ 1 ≤ r.keep.take ∧ r.keep.take ≤ 255 := by
  constructor
  · intro h
    rw [Keep.read] at h
    split at h
    · simp at h
    · rename_i favour ds hparts
      obtain ⟨htext, hds⟩ := parts?_eq_some_iff.1 hparts
      split at h
      · simp at h
      · rename_i take htake
        obtain rfl := Except.ok.inj h
        rw [Bounds.readFault, mapError_eq_ok_iff, Bounds.count_read_orOne hds,
          Bounds.count_check_eq_ok_iff (Int.natCast_nonneg _)] at htake
        obtain ⟨rfl, hrange⟩ := htake
        exact ⟨⟨favour, ds, hds⟩, htext, rfl, hrange⟩
  · intro h
    obtain ⟨r, htext, rfl, hrange⟩ := h
    have hread : Bounds.count.readFault (orOne r.take.chars) = .ok r.keep.take := by
      rw [Bounds.readFault, mapError_eq_ok_iff, Bounds.count_read_orOne r.take.holds,
        Bounds.count_check_eq_ok_iff (Int.natCast_nonneg _)]
      exact ⟨rfl, hrange⟩
    rw [Keep.read, htext, r.parts?_spelling]
    simp only [hread]
    rfl

theorem Keep.readFor_eq_ok_iff {count : Int} {text : String} {k : Keep} :
    Keep.readFor count text = .ok k ↔ Keep.read text = .ok k ∧ k.take ≤ count := by
  rw [Keep.readFor]
  cases hread : Keep.read text with
  | error fault => simp
  | ok keep =>
      by_cases hgreedy : count < keep.take
      · simp only [hgreedy, if_true, reduceCtorEq, Except.ok.injEq, false_iff]
        intro h
        obtain ⟨rfl, hle⟩ := h
        omega
      · simp only [hgreedy, if_false, Except.ok.injEq]
        constructor
        · intro h
          subst h
          exact ⟨rfl, by omega⟩
        · exact And.left

namespace Term

theorem readKeep_eq_ok_iff {count : Int} {text : Option (List Char)} {keep : Option Keep} :
    readKeep count text = .ok keep ↔
      ∃ rule : Option Rule, text = rule.map Rule.spelling ∧ keep = rule.map Rule.keep ∧
        ∀ k ∈ keep, k.Valid count := by
  cases text with
  | none =>
      constructor
      · intro h
        obtain rfl := Except.ok.inj h
        exact ⟨none, rfl, rfl, by simp⟩
      · intro h
        obtain ⟨rule, htext, rfl, -⟩ := h
        obtain rfl : rule = none := by simpa using htext.symm
        rfl
  | some cs =>
      constructor
      · intro h
        rw [readKeep] at h
        cases hread : Keep.readFor count (String.ofList cs) with
        | error fault => simp [hread] at h
        | ok k =>
            obtain rfl : some k = keep := by simpa [hread] using h
            obtain ⟨hk, hcount⟩ := Keep.readFor_eq_ok_iff.1 hread
            obtain ⟨r, htext, rfl, hlow, hhigh⟩ := Keep.read_eq_ok_iff.1 hk
            rw [String.toList_ofList] at htext
            refine ⟨some r, by rw [htext]; rfl, rfl, fun k hk => ?_⟩
            obtain rfl : r.keep = k := by simpa using hk
            exact ⟨hlow, hhigh, hcount⟩
      · intro h
        obtain ⟨rule, htext, rfl, hvalid⟩ := h
        obtain ⟨r, rfl, rfl⟩ := Option.map_eq_some_iff.1 htext.symm
        obtain ⟨hlow, hhigh, hcount⟩ := hvalid r.keep rfl
        have hread : Keep.readFor count (String.ofList r.spelling) = .ok r.keep := by
          rw [Keep.readFor_eq_ok_iff, Keep.read_eq_ok_iff]
          exact ⟨⟨r, String.toList_ofList, rfl, hlow, hhigh⟩, hcount⟩
        simp [readKeep, hread]

theorem readGroup_eq_ok_iff {parts : GroupParts} {t : Term} :
    readGroup parts = .ok t ↔
      ∃ count sides keep, readPart .count (Keep.orOne parts.count) = .ok count ∧
        readPart .sides (String.ofList parts.sides) = .ok sides ∧
        readKeep count parts.keep = .ok keep ∧ t = .dice count sides keep := by
  rw [readGroup]
  constructor
  · intro h
    cases hcount : readPart .count (Keep.orOne parts.count) with
    | error fault => simp [hcount, bind, Except.bind] at h
    | ok count =>
        cases hsides : readPart .sides (String.ofList parts.sides) with
        | error fault => simp [hcount, hsides, bind, Except.bind] at h
        | ok sides =>
            cases hkeep : readKeep count parts.keep with
            | error fault => simp [hcount, hsides, hkeep, bind, Except.bind] at h
            | ok keep =>
                simp only [hcount, hsides, hkeep, bind, Except.bind, pure, Except.pure] at h
                exact ⟨count, sides, keep, rfl, rfl, hkeep, (Except.ok.inj h).symm⟩
  · intro h
    obtain ⟨count, sides, keep, hcount, hsides, hkeep, rfl⟩ := h
    simp [hcount, hsides, hkeep, bind, Except.bind, pure, Except.pure]

theorem read_constant_eq_ok_iff {text : String} {sign : Option Sign} {ds : Numeral} {t : Term}
    (h : text.toList = (Word.constant sign ds).spelling) :
    Term.read text = .ok t ↔
      (Word.constant sign ds).term.Valid ∧ t = (Word.constant sign ds).term := by
  have hconst : isConstant text.toList = true := by
    rw [h]
    exact isConstant_spelling sign ds
  rw [Term.read, if_pos hconst, Bounds.readFault, Bounds.bonus_read_spelling h]
  cases hcheck : Bounds.bonus.check (Bounds.signedValue (sign == some .minus) ds.chars) with
  | error issue =>
      simp only [Except.mapError, reduceCtorEq, false_iff]
      intro h
      have hok := Bounds.bonus_check_eq_ok_iff.2 ⟨rfl, h.1⟩
      exact absurd (hok.symm.trans hcheck) (by simp)
  | ok value =>
      obtain ⟨rfl, hvalid⟩ := Bounds.bonus_check_eq_ok_iff.1 hcheck
      simp only [Except.mapError, Except.ok.injEq]
      constructor
      · intro h
        exact ⟨hvalid, h.symm⟩
      · intro h
        exact h.2.symm

theorem read_group_eq_ok_iff {text : String} {parts : GroupParts} {t : Term}
    (h : groupParts? text.toList = some parts) :
    Term.read text = .ok t ↔
      ∃ (count : Digits) (sides : Numeral) (rule : Option Rule),
        parts = ⟨count.chars, sides.chars, rule.map Rule.spelling⟩ ∧
        (Word.group count sides rule).term.Valid ∧ t = (Word.group count sides rule).term := by
  obtain ⟨hwhole, hcount, ⟨hsides, hne⟩, -⟩ := groupParts?_eq_some_iff.1 h
  have hconst : isConstant text.toList = false := by
    rw [hwhole]
    exact isConstant_eq_false_of_mem (List.mem_append_right _ List.mem_cons_self)
  rw [Term.read, if_neg (by simp [hconst]), h]
  simp only [mapError_eq_ok_iff, readGroup_eq_ok_iff, readPart_eq_ok_iff,
    Bounds.count_read_orOne hcount, Bounds.count_read_digits hsides hne,
    Bounds.count_check_eq_ok_iff (Int.natCast_nonneg _), readKeep_eq_ok_iff]
  constructor
  · intro h
    obtain ⟨n, m, keep, ⟨rfl, hn⟩, ⟨rfl, hm⟩, ⟨rule, hrule, rfl, hvalid⟩, rfl⟩ := h
    refine ⟨⟨parts.count, hcount⟩, ⟨⟨parts.sides, hsides⟩, hne⟩, rule, ?_, ⟨hn, hm, hvalid⟩, rfl⟩
    rw [← hrule]
  · intro h
    obtain ⟨count, sides, rule, rfl, ⟨hn, hm, hvalid⟩, rfl⟩ := h
    exact ⟨_, _, _, ⟨rfl, hn⟩, ⟨rfl, hm⟩, ⟨rule, rfl, rfl, hvalid⟩, rfl⟩

/-- A text is read as a term exactly if it is the spelling of a word that denotes the
term and the term is within range. -/
theorem read_eq_ok_iff {text : String} {t : Term} :
    Term.read text = .ok t ↔ ∃ w : Word, w.text = text ∧ w.term.Valid ∧ t = w.term := by
  constructor
  · intro h
    by_cases hconst : isConstant text.toList = true
    · obtain ⟨sign, ds, hspell⟩ := eq_spelling_of_isConstant hconst
      refine ⟨.constant sign ds, ?_, (read_constant_eq_ok_iff hspell).1 h⟩
      rw [Word.text, ← hspell, String.ofList_toList]
    · cases hparts : groupParts? text.toList with
      | none => simp [Term.read, hconst, hparts] at h
      | some parts =>
          obtain ⟨count, sides, rule, rfl, hvalid, ht⟩ := (read_group_eq_ok_iff hparts).1 h
          refine ⟨.group count sides rule, ?_, hvalid, ht⟩
          rw [← @String.ofList_toList text, (groupParts?_eq_some_iff.1 hparts).1]
          rfl
  · intro h
    obtain ⟨w, rfl, hvalid, rfl⟩ := h
    have hspell : w.text.toList = w.spelling := String.toList_ofList
    cases w with
    | constant sign ds => exact (read_constant_eq_ok_iff hspell).2 ⟨hvalid, rfl⟩
    | group count sides rule =>
        have hparts := Word.groupParts?_spelling count sides rule
        rw [← hspell] at hparts
        exact (read_group_eq_ok_iff hparts).2 ⟨count, sides, rule, rfl, hvalid, rfl⟩

end Term
end DiceRoller

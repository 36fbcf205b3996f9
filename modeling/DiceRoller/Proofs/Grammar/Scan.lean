import DiceRoller.Proofs.Grammar.Word
import DiceRoller.Term.Reading

/-!
Cutting a word into its parts undoes spelling it.

Each cut of the reader is described by what it accepts: the parts in their places
with the marks between them.  Two words that are spelled alike are cut alike, so
they are the same word (`Word.spelling_injective`).
-/

namespace DiceRoller

/-! ## Signs and digits -/

theorem Sign.char_injective (s t : Sign) (h : s.char = t.char) : s = t := by
  cases s <;> cases t <;> simp_all [Sign.char]

theorem FullRun.isNumeral (r : Numeral) : Text.isNumeral r.chars = true :=
  Text.isNumeral_iff.2 ⟨r.ne_nil, r.holds⟩

def Numeral.ofIsNumeral {ds : List Char} (h : Text.isNumeral ds = true) : Numeral where
  chars := ds
  holds := (Text.isNumeral_iff.1 h).2
  ne_nil := (Text.isNumeral_iff.1 h).1

theorem Bounds.splitSign_of_digits {minusAllowed : Bool} {ds : List Char}
    (h : ∀ c ∈ ds, c.isDigit = true) : splitSign minusAllowed ds = (false, ds) := by
  cases ds with
  | nil => rfl
  | cons c cs =>
      have hc := h c List.mem_cons_self
      have hplus : c ≠ '+' := by
        intro heq
        rw [heq] at hc
        simp at hc
      have hminus : c ≠ '-' := by
        intro heq
        rw [heq] at hc
        simp at hc
      simp [splitSign, hplus, hminus]

theorem Bounds.splitSign_spelling (sign : Option Sign) (ds : Numeral) :
    splitSign true (Word.constant sign ds).spelling = (sign == some .minus, ds.chars) := by
  cases sign with
  | none => exact splitSign_of_digits ds.holds
  | some s => cases s <;> rfl

namespace Term

theorem isConstant_spelling (sign : Option Sign) (ds : Numeral) :
    isConstant (Word.constant sign ds).spelling = true := by
  rw [isConstant, Bounds.splitSign_spelling]
  exact ds.isNumeral

theorem eq_spelling_of_isConstant {cs : List Char} (h : isConstant cs = true) :
    ∃ sign ds, cs = (Word.constant sign ds).spelling := by
  cases cs with
  | nil => simp [isConstant, Bounds.splitSign, Text.isNumeral] at h
  | cons c cs =>
      rw [isConstant, Bounds.splitSign] at h
      by_cases hplus : c = '+'
      · simp only [hplus, beq_self_eq_true, if_true] at h
        exact ⟨some .plus, Numeral.ofIsNumeral h, by rw [hplus]; rfl⟩
      · by_cases hminus : c = '-'
        · simp [hminus] at h
          exact ⟨some .minus, Numeral.ofIsNumeral h, by rw [hminus]; rfl⟩
        · simp [hplus, hminus] at h
          exact ⟨none, Numeral.ofIsNumeral h, rfl⟩

theorem isConstant_eq_false_of_mem {cs : List Char} (h : 'd' ∈ cs) : isConstant cs = false := by
  rw [Bool.eq_false_iff]
  intro hconst
  obtain ⟨sign, ds, rfl⟩ := eq_spelling_of_isConstant hconst
  rcases List.mem_append.1 h with h | h
  · cases sign with
    | none => simp at h
    | some s => cases s <;> simp [Sign.char] at h
  · have hdigit := ds.holds _ h
    simp at hdigit

/-! ## Groups -/

theorem keepPart?_colon (cs : List Char) :
    keepPart? (':' :: cs) = if cs = [] ∨ '\n' ∈ cs then none else some (some cs) := by
  simp [keepPart?]

theorem keepPart?_eq_some_iff {cs : List Char} {keep : Option (List Char)} :
    keepPart? cs = some keep ↔
      cs = Word.ruleEnd keep ∧ ∀ ks ∈ keep, ks ≠ [] ∧ '\n' ∉ ks := by
  constructor
  · intro h
    unfold keepPart? at h
    split at h
    · obtain rfl : none = keep := by simpa using h
      exact ⟨rfl, by simp⟩
    · rename_i ks
      change keepPart? (':' :: ks) = some keep at h
      rw [keepPart?_colon] at h
      by_cases hbad : ks = [] ∨ '\n' ∈ ks
      · simp [hbad] at h
      · obtain rfl : some ks = keep := by simpa [hbad] using h
        refine ⟨rfl, fun x hx => ?_⟩
        obtain rfl : ks = x := by simpa using hx
        exact not_or.1 hbad
    · simp at h
  · intro h
    obtain ⟨rfl, hgood⟩ := h
    cases keep with
    | none => rfl
    | some ks =>
        have hks := hgood ks rfl
        rw [Word.ruleEnd, keepPart?_colon, if_neg (not_or.2 hks)]

theorem groupParts?_eq_some_iff {cs : List Char} {parts : GroupParts} :
    groupParts? cs = some parts ↔
      cs = parts.count ++ 'd' :: (parts.sides ++ Word.ruleEnd parts.keep) ∧
        (∀ c ∈ parts.count, c.isDigit = true) ∧
        ((∀ c ∈ parts.sides, c.isDigit = true) ∧ parts.sides ≠ []) ∧
        ∀ ks ∈ parts.keep, ks ≠ [] ∧ '\n' ∉ ks := by
  constructor
  · intro h
    have hwhole := Text.cutWhile_append Char.isDigit cs
    have hcount : ∀ c ∈ (Text.cutWhile Char.isDigit cs).1, c.isDigit = true :=
      fun c hc => Text.of_mem_cutWhile hc
    rw [groupParts?] at h
    split at h
    · rename_i count rest hcut
      rw [hcut] at hwhole hcount
      have hrest := Text.cutWhile_append Char.isDigit rest
      have hsides : ∀ c ∈ (Text.cutWhile Char.isDigit rest).1, c.isDigit = true :=
        fun c hc => Text.of_mem_cutWhile hc
      simp only at h
      by_cases hempty : (Text.cutWhile Char.isDigit rest).1 = []
      · simp [hempty] at h
      · simp only [List.isEmpty_iff, hempty, if_false, Option.map_eq_some_iff] at h
        obtain ⟨keep, hkeep, rfl⟩ := h
        obtain ⟨htext, hgood⟩ := keepPart?_eq_some_iff.1 hkeep
        refine ⟨?_, hcount, ⟨hsides, hempty⟩, hgood⟩
        rw [← htext, hrest]
        exact hwhole.symm
    · simp at h
  · intro h
    obtain ⟨hcs, hcount, ⟨hsides, hne⟩, hgood⟩ := h
    have hcut : Text.cutWhile Char.isDigit cs =
        (parts.count, 'd' :: (parts.sides ++ Word.ruleEnd parts.keep)) := by
      rw [hcs]
      apply Text.cutWhile_append_of hcount
      intro c hc
      obtain rfl : 'd' = c := by simpa using hc
      decide
    have hrest : Text.cutWhile Char.isDigit (parts.sides ++ Word.ruleEnd parts.keep) =
        (parts.sides, Word.ruleEnd parts.keep) := by
      apply Text.cutWhile_append_of hsides
      intro c hc
      cases hk : parts.keep with
      | none => simp [hk, Word.ruleEnd] at hc
      | some ks =>
          obtain rfl : ':' = c := by simpa [hk, Word.ruleEnd] using hc
          decide
    have hkeep := keepPart?_eq_some_iff.2 ⟨rfl, hgood⟩
    simp [groupParts?, hcut, hrest, hne, hkeep]

end Term

theorem Keep.parts?_eq_some_iff {cs ds : List Char} {favour : Favour} :
    parts? cs = some (favour, ds) ↔
      cs = favour.word.toList ++ ds ∧ ∀ c ∈ ds, c.isDigit = true := by
  constructor
  · intro h
    unfold parts? at h
    split at h
    · rename_i rest
      by_cases hall : rest.all Char.isDigit = true
      · obtain ⟨rfl, rfl⟩ : Favour.advantage = favour ∧ rest = ds := by simpa [hall] using h
        exact ⟨rfl, List.all_eq_true.1 hall⟩
      · simp [hall] at h
    · rename_i rest
      by_cases hall : rest.all Char.isDigit = true
      · obtain ⟨rfl, rfl⟩ : Favour.disadvantage = favour ∧ rest = ds := by simpa [hall] using h
        exact ⟨rfl, List.all_eq_true.1 hall⟩
      · simp [hall] at h
    · simp at h
  · intro h
    obtain ⟨rfl, hds⟩ := h
    have hall : ds.all Char.isDigit = true := List.all_eq_true.2 hds
    cases favour with
    | advantage =>
        show (if ds.all Char.isDigit then some (Favour.advantage, ds) else none) = _
        rw [if_pos hall]
    | disadvantage =>
        show (if ds.all Char.isDigit then some (Favour.disadvantage, ds) else none) = _
        rw [if_pos hall]

/-! ## Spelling -/

namespace Rule

theorem parts?_spelling (r : Rule) : Keep.parts? r.spelling = some (r.favour, r.take.chars) :=
  Keep.parts?_eq_some_iff.2 ⟨rfl, r.take.holds⟩

theorem spelling_injective {q r : Rule} (h : q.spelling = r.spelling) : q = r := by
  have hparts := parts?_spelling q
  rw [h, parts?_spelling r] at hparts
  obtain ⟨hfavour, htake⟩ := Prod.mk.inj (Option.some.inj hparts)
  cases q
  cases r
  rw [Rule.mk.injEq]
  exact ⟨hfavour.symm, Run.ext htake.symm⟩

theorem spelling_after_colon (r : Rule) : r.spelling ≠ [] ∧ '\n' ∉ r.spelling := by
  have hword : r.favour.word.toList ≠ [] ∧ '\n' ∉ r.favour.word.toList := by
    cases r.favour <;> decide
  refine ⟨by simp [spelling, hword.1], fun hmem => ?_⟩
  rcases List.mem_append.1 hmem with hmem | hmem
  · exact hword.2 hmem
  · have hdigit := r.take.holds _ hmem
    simp at hdigit

end Rule

namespace Word

theorem groupParts?_spelling (count : Digits) (sides : Numeral) (rule : Option Rule) :
    Term.groupParts? (group count sides rule).spelling =
      some ⟨count.chars, sides.chars, rule.map Rule.spelling⟩ := by
  refine Term.groupParts?_eq_some_iff.2
    ⟨rfl, count.holds, ⟨sides.holds, sides.ne_nil⟩, fun ks hks => ?_⟩
  obtain ⟨r, -, rfl⟩ := Option.map_eq_some_iff.1 hks
  exact r.spelling_after_colon

theorem isConstant_group (count : Digits) (sides : Numeral) (rule : Option Rule) :
    Term.isConstant (group count sides rule).spelling = false :=
  Term.isConstant_eq_false_of_mem (List.mem_append_right _ List.mem_cons_self)

/-- No two words are spelled alike. -/
theorem spelling_injective {v w : Word} (h : v.spelling = w.spelling) : v = w := by
  cases v with
  | constant sign ds =>
      cases w with
      | constant sign' ds' =>
          have hcut := Bounds.splitSign_spelling sign ds
          rw [h, Bounds.splitSign_spelling sign' ds'] at hcut
          obtain rfl : ds' = ds := FullRun.ext (Prod.mk.inj hcut).2
          have hsign : sign.map Sign.char = sign'.map Sign.char := by
            have hlist := List.append_cancel_right h
            cases sign <;> cases sign' <;> simp_all
          rw [(Option.map_inj_right Sign.char_injective).1 hsign]
      | group count sides rule =>
          have hconst := Term.isConstant_spelling sign ds
          rw [h, isConstant_group] at hconst
          simp at hconst
  | group count sides rule =>
      cases w with
      | constant sign ds =>
          have hconst := Term.isConstant_spelling sign ds
          rw [← h, isConstant_group] at hconst
          simp at hconst
      | group count' sides' rule' =>
          have hparts := groupParts?_spelling count sides rule
          rw [h, groupParts?_spelling] at hparts
          simp only [Option.some.injEq, Term.GroupParts.mk.injEq] at hparts
          obtain ⟨hcount, hsides, hrule⟩ := hparts
          rw [Run.ext hcount, FullRun.ext hsides,
            (Option.map_inj_right fun _ _ => Rule.spelling_injective).1 hrule]

theorem text_injective {v w : Word} (h : v.text = w.text) : v = w :=
  spelling_injective (String.ofList_injective h)

end Word
end DiceRoller

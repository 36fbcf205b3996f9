import DiceRoller.Proofs.Grammar.Reading

/-!
Why a word of a request is refused.

Each part of a word can be wrong for reasons of its own.  `GroupParts.flaws` lists those of
a group from left to right, every entry stated without regard to the others, and the reader
reports the first that applies (`readGroup_eq_error_iff`).  Together with constants and with
texts of neither form this settles the fault of every word that is refused
(`read_eq_error_iff_refusal`).
-/

namespace DiceRoller

/-! ## The first of several flaws -/

/-- The fault of the first flaw that applies. -/
def Fault.First : List (Fault → Prop) → Fault → Prop
  | [], _ => False
  | flaw :: flaws, e => flaw e ∨ (∀ e', ¬ flaw e') ∧ First flaws e

theorem mapError_eq_error_iff {ε ε' α : Type} {x : Except ε α} {f : ε → ε'} {e : ε'} :
    x.mapError f = .error e ↔ ∃ cause, x = .error cause ∧ e = f cause := by
  cases x <;> simp [Except.mapError, eq_comm]

namespace Fault

variable {flaw : Fault → Prop} {flaws : List (Fault → Prop)} {e : Fault}

theorem first_cons_of_applies {cause : Fault} (h : flaw cause) :
    First (flaw :: flaws) e ↔ flaw e := by
  rw [First]
  constructor
  · rintro (he | ⟨hnone, -⟩)
    · exact he
    · exact absurd h (hnone cause)
  · exact Or.inl

theorem first_cons_of_not (h : ∀ e', ¬ flaw e') : First (flaw :: flaws) e ↔ First flaws e := by
  rw [First]
  constructor
  · rintro (he | ⟨-, hrest⟩)
    · exact absurd he (h e)
    · exact hrest
  · exact fun hrest => Or.inr ⟨h, hrest⟩

/-- If a step fails by one flaw and what follows it by the others, both together fail by the
first of all. -/
theorem first_of_bind {α β : Type} {x : Except Fault α} {f : α → Except Fault β}
    (hx : ∀ e, x = .error e ↔ flaw e)
    (hf : ∀ a, x = .ok a → (f a = .error e ↔ First flaws e)) :
    x.bind f = .error e ↔ First (flaw :: flaws) e := by
  cases x with
  | error cause =>
      have hcause : flaw cause := (hx cause).1 rfl
      rw [first_cons_of_applies hcause, ← hx e]
      simp [Except.bind]
  | ok a =>
      have hnone : ∀ e', ¬ flaw e' := fun e' he' => by simpa using (hx e').2 he'
      rw [first_cons_of_not hnone]
      exact hf a rfl

/-- A flaw one level up: the fault is that of the flaw, within the text of the level. -/
def Within (site : Site) (token : String) (flaw : Fault → Prop) (e : Fault) : Prop :=
  ∃ cause, flaw cause ∧ e = within site token cause

theorem first_map_within {site : Site} {token : String} :
    First (flaws.map (Within site token)) e ↔ Within site token (First flaws) e := by
  induction flaws with
  | nil => simp [First, Within]
  | cons flaw flaws ih =>
      rw [List.map_cons]
      by_cases h : ∃ cause, flaw cause
      · obtain ⟨cause, hcause⟩ := h
        have hup : Within site token flaw (within site token cause) := ⟨cause, hcause, rfl⟩
        rw [first_cons_of_applies hup]
        simp only [Within, first_cons_of_applies hcause]
      · have hnone : ∀ cause, ¬ flaw cause := not_exists.1 h
        have hup : ∀ e', ¬ Within site token flaw e' := by
          rintro e' ⟨cause, hcause, -⟩
          exact hnone cause hcause
        rw [first_cons_of_not hup, ih]
        simp only [Within, first_cons_of_not hnone]

end Fault

/-! ## Numbers -/

/-- Why a number of dice, of sides or of dice to keep is refused. -/
def CountIssue (n : Nat) (issue : NumberIssue) : Prop :=
  (255 < n ∧ issue = .tooLarge) ∨ (n = 0 ∧ issue = .zero)

/-- Why a constant is refused. -/
def BonusIssue (v : Int) (issue : NumberIssue) : Prop :=
  (32767 < v ∧ issue = .tooLarge) ∨ (v < -32768 ∧ issue = .tooSmall) ∨ (v = 0 ∧ issue = .zero)

theorem Keep.orOne_of_ne_nil {ds : List Char} (h : ds ≠ []) : orOne ds = String.ofList ds := by
  rw [orOne, if_neg (by simpa using h)]

namespace Bounds

theorem check_eq_error_iff {b : Bounds} (h : b.least ≤ b.greatest) {v : Int}
    {issue : NumberIssue} :
    b.check v = .error issue ↔
      (b.greatest < v ∧ issue = .tooLarge) ∨ (v < b.least ∧ issue = .tooSmall) ∨
        (b.least ≤ v ∧ v ≤ b.greatest ∧ v = 0 ∧ issue = .zero) := by
  unfold check
  split
  · have hlow : ¬ v < b.least := by omega
    have hhigh : ¬ v ≤ b.greatest := by omega
    simp [*, eq_comm]
  · split
    · have hlow : ¬ b.least ≤ v := by omega
      simp [*, eq_comm]
    · have hlow : b.least ≤ v := by omega
      have hhigh : v ≤ b.greatest := by omega
      simp only [*, false_and, false_or, true_and]
      split <;> simp [*, eq_comm]

theorem count_check_eq_error_iff {n : Nat} {issue : NumberIssue} :
    Bounds.count.check n = .error issue ↔ CountIssue n issue := by
  rw [check_eq_error_iff (by decide), CountIssue]
  simp only [count]
  have hnonneg : ¬ (n : Int) < 0 := by omega
  constructor
  · rintro (⟨hlarge, hissue⟩ | ⟨hsmall, -⟩ | ⟨-, -, hzero, hissue⟩)
    · exact Or.inl ⟨by omega, hissue⟩
    · exact absurd hsmall hnonneg
    · exact Or.inr ⟨by omega, hissue⟩
  · rintro (⟨hlarge, hissue⟩ | ⟨hzero, hissue⟩)
    · exact Or.inl ⟨by omega, hissue⟩
    · exact Or.inr (Or.inr ⟨by omega, by omega, by omega, hissue⟩)

theorem bonus_check_eq_error_iff {v : Int} {issue : NumberIssue} :
    Bounds.bonus.check v = .error issue ↔ BonusIssue v issue := by
  rw [check_eq_error_iff (by decide), BonusIssue]
  simp only [bonus]
  have hzero : (-32768 ≤ v ∧ v ≤ 32767 ∧ v = 0 ∧ issue = .zero) ↔ v = 0 ∧ issue = .zero := by
    constructor
    · exact fun h => h.2.2
    · exact fun h => ⟨by omega, by omega, h⟩
  rw [hzero]

theorem readFault_eq_error_iff {b : Bounds} {text : String} {e : Fault} :
    b.readFault text = .error e ↔ ∃ issue, b.read text = .error issue ∧ e = .number text issue :=
  mapError_eq_error_iff

theorem count_read_orOne_eq_error_iff {ds : List Char} (hds : ∀ c ∈ ds, c.isDigit = true)
    {issue : NumberIssue} :
    Bounds.count.read (Keep.orOne ds) = .error issue ↔
      ds ≠ [] ∧ CountIssue (Text.digitsValue ds) issue := by
  rw [count_read_orOne hds, count_check_eq_error_iff, Text.valueOrOne]
  by_cases hempty : ds = []
  · simp [hempty, CountIssue]
  · simp [hempty]

/-- A number that is left out is read as one, so only a number that is there is refused. -/
theorem count_readFault_orOne_eq_error_iff {ds : List Char}
    (hds : ∀ c ∈ ds, c.isDigit = true) {e : Fault} :
    Bounds.count.readFault (Keep.orOne ds) = .error e ↔
      ds ≠ [] ∧ ∃ issue, CountIssue (Text.digitsValue ds) issue ∧
        e = .number (String.ofList ds) issue := by
  simp only [readFault_eq_error_iff, count_read_orOne_eq_error_iff hds]
  constructor
  · rintro ⟨issue, ⟨hne, hissue⟩, rfl⟩
    rw [Keep.orOne_of_ne_nil hne]
    exact ⟨hne, issue, hissue, rfl⟩
  · rintro ⟨hne, issue, hissue, rfl⟩
    rw [Keep.orOne_of_ne_nil hne]
    exact ⟨issue, ⟨hne, hissue⟩, rfl⟩

end Bounds

/-! ## Rules -/

namespace Keep

def Malformed (m : List Char) (e : Fault) : Prop :=
  (∀ r : Rule, r.spelling ≠ m) ∧ e = .bare (.keep .malformed) (String.ofList m)

/-- The number of dice to keep is given and is refused. -/
def TakeFlaw (m : List Char) (e : Fault) : Prop :=
  ∃ r : Rule, r.spelling = m ∧ r.take.chars ≠ [] ∧
    ∃ issue, CountIssue (Text.digitsValue r.take.chars) issue ∧
      e = .within (.keep r.favour.issue) (String.ofList m)
        (.unreadableTake (.number (String.ofList r.take.chars) issue))

/-- The rule keeps more than `count` dice. -/
def Greedy (count : Int) (m : List Char) (e : Fault) : Prop :=
  ∃ r : Rule, r.spelling = m ∧ count < r.keep.take ∧
    e = .within (.keep r.favour.issue) (String.ofList m) (.greedyTake r.keep.take count)

/-- What can be wrong with a rule for `count` dice. -/
def flaws (count : Int) (m : List Char) : List (Fault → Prop) :=
  [Malformed m, TakeFlaw m, Greedy count m]

theorem malformed_of_parts?_eq_none {m : List Char} (h : parts? m = none) (r : Rule) :
    r.spelling ≠ m := by
  intro hspell
  rw [← hspell, r.parts?_spelling] at h
  simp at h

/-- The number of a rule is read first, and then set against the number of dice. -/
theorem readFor_spelling (count : Int) (r : Rule) :
    readFor count (String.ofList r.spelling) =
      ((Bounds.count.readFault (orOne r.take.chars)).mapError fun cause =>
          Fault.within (.keep r.favour.issue) (String.ofList r.spelling)
            (.unreadableTake cause)).bind fun take =>
        if count < take then
          .error (.within (.keep r.favour.issue) (String.ofList r.spelling)
            (.greedyTake take count))
        else .ok ⟨r.favour, take⟩ := by
  simp only [readFor, Keep.read, String.toList_ofList, r.parts?_spelling]
  cases Bounds.count.readFault (orOne r.take.chars) <;> rfl

theorem readTake_eq_error_iff {r : Rule} {e : Fault} :
    ((Bounds.count.readFault (orOne r.take.chars)).mapError fun cause =>
      Fault.within (.keep r.favour.issue) (String.ofList r.spelling) (.unreadableTake cause)) =
        .error e ↔ TakeFlaw r.spelling e := by
  simp only [mapError_eq_error_iff, Bounds.count_readFault_orOne_eq_error_iff r.take.holds]
  constructor
  · rintro ⟨cause, ⟨hne, issue, hissue, rfl⟩, rfl⟩
    exact ⟨r, rfl, hne, issue, hissue, rfl⟩
  · rintro ⟨q, hspell, hne, issue, hissue, rfl⟩
    obtain rfl := Rule.spelling_injective hspell
    exact ⟨_, ⟨hne, issue, hissue, rfl⟩, rfl⟩

theorem greedy_spelling_iff {count : Int} {r : Rule} {e : Fault} :
    Greedy count r.spelling e ↔ count < r.keep.take ∧
      e = .within (.keep r.favour.issue) (String.ofList r.spelling)
        (.greedyTake r.keep.take count) := by
  constructor
  · rintro ⟨q, hspell, h⟩
    obtain rfl := Rule.spelling_injective hspell
    exact h
  · exact fun h => ⟨r, rfl, h⟩

/-- A rule is refused for the first of its flaws. -/
theorem readFor_eq_error_iff {count : Int} {m : List Char} {e : Fault} :
    readFor count (String.ofList m) = .error e ↔ Fault.First (flaws count m) e := by
  cases hparts : parts? m with
  | none =>
      have hform : ∀ r : Rule, r.spelling ≠ m := malformed_of_parts?_eq_none hparts
      have hmalformed : Malformed m (.bare (.keep .malformed) (String.ofList m)) := ⟨hform, rfl⟩
      rw [flaws, Fault.first_cons_of_applies hmalformed, readFor, Keep.read,
        String.toList_ofList, hparts, Malformed]
      simp only [Except.error.injEq]
      exact ⟨fun h => ⟨hform, h.symm⟩, fun h => h.2.symm⟩
  | some parts =>
      obtain ⟨favour, ds⟩ := parts
      obtain ⟨hm, hds⟩ := parts?_eq_some_iff.1 hparts
      obtain ⟨r, rfl⟩ : ∃ r : Rule, r.spelling = m := ⟨⟨favour, ds, hds⟩, hm.symm⟩
      have hformed : ∀ e', ¬ Malformed r.spelling e' := fun e' h => h.1 r rfl
      rw [flaws, Fault.first_cons_of_not hformed, readFor_spelling]
      refine Fault.first_of_bind (fun e => readTake_eq_error_iff) fun take htake => ?_
      obtain rfl : take = r.keep.take := by
        rw [mapError_eq_ok_iff, Bounds.readFault, mapError_eq_ok_iff,
          Bounds.count_read_orOne r.take.holds,
          Bounds.count_check_eq_ok_iff (Int.natCast_nonneg _)] at htake
        exact htake.1
      simp only [Fault.First, and_false, or_false, greedy_spelling_iff]
      split <;> simp [*, eq_comm]

end Keep

/-! ## Groups -/

namespace Term.GroupParts

/-- Whether the parts are those of a text of the form of a group. -/
def Formed (p : GroupParts) : Prop :=
  (∀ c ∈ p.count, c.isDigit = true) ∧
    ((∀ c ∈ p.sides, c.isDigit = true) ∧ p.sides ≠ []) ∧ ∀ m ∈ p.keep, m ≠ [] ∧ '\n' ∉ m

def text (p : GroupParts) : String :=
  String.ofList (p.count ++ 'd' :: (p.sides ++ Word.ruleEnd p.keep))

/-- A number that is given and is refused. -/
def NumberFlaw (issue : GroupIssue) (ds : List Char) (e : Fault) : Prop :=
  ds ≠ [] ∧ ∃ k, CountIssue (Text.digitsValue ds) k ∧
    e = .within (.group issue) (String.ofList ds) (.number (String.ofList ds) k)

def ruleFlaws (count : Int) : Option (List Char) → List (Fault → Prop)
  | none => []
  | some m => (Keep.flaws count m).map (Fault.Within (.group .keep) (String.ofList m))

/-- What can be wrong with a group, from left to right. -/
def flaws (p : GroupParts) : List (Fault → Prop) :=
  NumberFlaw .count p.count :: NumberFlaw .sides p.sides ::
    ruleFlaws (Text.valueOrOne p.count) p.keep

end Term.GroupParts

namespace Term

theorem readPart_eq_error_iff {issue : GroupIssue} {ds : List Char}
    (hds : ∀ c ∈ ds, c.isDigit = true) {e : Fault} :
    readPart issue (Keep.orOne ds) = .error e ↔ GroupParts.NumberFlaw issue ds e := by
  simp only [readPart, mapError_eq_error_iff, Bounds.count_readFault_orOne_eq_error_iff hds]
  constructor
  · rintro ⟨cause, ⟨hne, k, hk, rfl⟩, rfl⟩
    refine ⟨hne, k, hk, ?_⟩
    rw [Keep.orOne_of_ne_nil hne]
  · rintro ⟨hne, k, hk, rfl⟩
    refine ⟨_, ⟨hne, k, hk, rfl⟩, ?_⟩
    rw [Keep.orOne_of_ne_nil hne]

theorem readKeep_eq_error_iff {count : Int} {keep : Option (List Char)} {e : Fault} :
    readKeep count keep = .error e ↔ Fault.First (GroupParts.ruleFlaws count keep) e := by
  cases keep with
  | none => simp [readKeep, GroupParts.ruleFlaws, Fault.First]
  | some m =>
      rw [GroupParts.ruleFlaws, Fault.first_map_within, Fault.Within, readKeep]
      simp only [← Keep.readFor_eq_error_iff]
      cases Keep.readFor count (String.ofList m) <;> simp [eq_comm]

/-- A group is refused for the first of its flaws. -/
theorem readGroup_eq_error_iff {p : GroupParts} (hp : p.Formed) {e : Fault} :
    readGroup p = .error e ↔ Fault.First p.flaws e := by
  obtain ⟨hcount, ⟨hsides, hne⟩, -⟩ := hp
  refine Fault.first_of_bind (fun e => readPart_eq_error_iff hcount) fun n hn => ?_
  rw [← Keep.orOne_of_ne_nil hne]
  refine Fault.first_of_bind (fun e => readPart_eq_error_iff hsides) fun m _ => ?_
  obtain rfl : n = Text.valueOrOne p.count := by
    rw [readPart_eq_ok_iff, Bounds.count_read_orOne hcount,
      Bounds.count_check_eq_ok_iff (Int.natCast_nonneg _)] at hn
    exact hn.1
  rw [← readKeep_eq_error_iff]
  cases readKeep (Text.valueOrOne p.count) p.keep <;> simp [bind, Except.bind, pure, Except.pure]

/-! ## Words -/

/-- The fault of a text that is refused as a word. -/
inductive Refusal : String → Fault → Prop
  /-- A constant is refused for its value. -/
  | constant {sign : Option Sign} {ds : Numeral} {text : String} {issue : NumberIssue}
      (htext : text = (Word.constant sign ds).text)
      (hissue : BonusIssue (Bounds.signedValue (sign == some .minus) ds.chars) issue) :
      Refusal text (.within (.word .constant) text (.number text issue))
  /-- A group is refused for its first flaw. -/
  | group {p : GroupParts} {text : String} {cause : Fault} (htext : text = p.text)
      (hp : p.Formed) (hcause : Fault.First p.flaws cause) :
      Refusal text (.within (.word .group) text cause)
  /-- A text of neither form is refused as a whole. -/
  | malformed {text : String} (hconstant : ∀ sign ds, text ≠ (Word.constant sign ds).text)
      (hgroup : ∀ p : GroupParts, p.Formed → text ≠ p.text) :
      Refusal text (.bare (.word .malformed) text)

theorem isConstant_eq_true_iff {text : String} :
    isConstant text.toList = true ↔ ∃ sign ds, text = (Word.constant sign ds).text := by
  constructor
  · intro h
    obtain ⟨sign, ds, hspell⟩ := eq_spelling_of_isConstant h
    refine ⟨sign, ds, ?_⟩
    rw [Word.text, ← hspell, String.ofList_toList]
  · rintro ⟨sign, ds, rfl⟩
    rw [Word.text, String.toList_ofList]
    exact isConstant_spelling sign ds

theorem groupParts?_text_eq_some_iff {text : String} {p : GroupParts} :
    groupParts? text.toList = some p ↔ text = p.text ∧ p.Formed := by
  rw [groupParts?_eq_some_iff]
  apply and_congr_left
  intro _
  constructor
  · intro h
    rw [GroupParts.text, ← h, String.ofList_toList]
  · rintro rfl
    rw [GroupParts.text, String.toList_ofList]

theorem read_constant_eq_error_iff {sign : Option Sign} {ds : Numeral} {text : String}
    (htext : text = (Word.constant sign ds).text) {e : Fault} :
    Term.read text = .error e ↔
      ∃ issue, BonusIssue (Bounds.signedValue (sign == some .minus) ds.chars) issue ∧
        e = .within (.word .constant) text (.number text issue) := by
  have hconst : isConstant text.toList = true := isConstant_eq_true_iff.2 ⟨sign, ds, htext⟩
  have hspell : text.toList = (Word.constant sign ds).spelling := by
    rw [htext, Word.text, String.toList_ofList]
  have hread := Bounds.bonus_read_spelling hspell
  rw [Term.read, if_pos hconst]
  simp only [Bounds.readFault, hread, ← Bounds.bonus_check_eq_error_iff]
  cases Bounds.bonus.check (Bounds.signedValue (sign == some .minus) ds.chars) <;>
    simp [Except.mapError, eq_comm]

theorem read_group_eq_error_iff {p : GroupParts} {text : String} (htext : text = p.text)
    (hp : p.Formed) {e : Fault} :
    Term.read text = .error e ↔
      ∃ cause, Fault.First p.flaws cause ∧ e = .within (.word .group) text cause := by
  have hparts := groupParts?_text_eq_some_iff.2 ⟨htext, hp⟩
  have hconst : isConstant text.toList = false := by
    rw [(groupParts?_eq_some_iff.1 hparts).1]
    exact isConstant_eq_false_of_mem (List.mem_append_right _ List.mem_cons_self)
  rw [Term.read, if_neg (by simp [hconst]), hparts]
  simp only [mapError_eq_error_iff, readGroup_eq_error_iff hp]

theorem refusal_of_read {text : String} {fault : Fault} (h : Term.read text = .error fault) :
    Refusal text fault := by
  by_cases hconst : isConstant text.toList = true
  · obtain ⟨sign, ds, htext⟩ := isConstant_eq_true_iff.1 hconst
    obtain ⟨issue, hissue, rfl⟩ := (read_constant_eq_error_iff htext).1 h
    exact .constant htext hissue
  · cases hparts : groupParts? text.toList with
    | none =>
        obtain rfl : Fault.bare (.word .malformed) text = fault := by
          simpa [Term.read, hconst, hparts] using h
        refine .malformed (fun sign ds htext => ?_) fun p hp htext => ?_
        · exact hconst (isConstant_eq_true_iff.2 ⟨sign, ds, htext⟩)
        · have hsome := groupParts?_text_eq_some_iff.2 ⟨htext, hp⟩
          simp [hparts] at hsome
    | some p =>
        obtain ⟨htext, hp⟩ := groupParts?_text_eq_some_iff.1 hparts
        obtain ⟨cause, hcause, rfl⟩ := (read_group_eq_error_iff htext hp).1 h
        exact .group htext hp hcause

theorem read_of_refusal {text : String} {fault : Fault} (h : Refusal text fault) :
    Term.read text = .error fault := by
  cases h with
  | constant htext hissue => exact (read_constant_eq_error_iff htext).2 ⟨_, hissue, rfl⟩
  | group htext hp hcause => exact (read_group_eq_error_iff htext hp).2 ⟨_, hcause, rfl⟩
  | malformed hconstant hgroup =>
      have hconst : ¬ isConstant text.toList = true := by
        intro hconst
        obtain ⟨sign, ds, htext⟩ := isConstant_eq_true_iff.1 hconst
        exact hconstant sign ds htext
      cases hparts : groupParts? text.toList with
      | none => simp [Term.read, hconst, hparts]
      | some p =>
          obtain ⟨htext, hp⟩ := groupParts?_text_eq_some_iff.1 hparts
          exact absurd htext (hgroup p hp)

/-- A text is refused as a word with exactly one fault: a constant with what is wrong with its
value, a group with the first flaw of its parts, any other text with no deeper cause. -/
theorem read_eq_error_iff_refusal (text : String) (fault : Fault) :
    Term.read text = .error fault ↔ Refusal text fault :=
  ⟨refusal_of_read, read_of_refusal⟩

/-- All three parts of the group are wrong, and the leftmost is reported. -/
example : Term.read "0d256:best" =
    .error (.within (.word .group) "0d256:best"
      (.within (.group .count) "0" (.number "0" .zero))) := by rfl

end Term
end DiceRoller

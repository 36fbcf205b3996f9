import DiceRoller.Proofs.Number
import DiceRoller.Term
import DiceRoller.Text.Blank

/-!
The words of a request as a grammar, apart from any reader.

A `Word` is a derivation: what stands in each place of a constant or of a group of
dice.  It has a spelling and denotes a term, which may or may not be within range.
Zeros in front of its numbers do not change the term (`term_padded`).
-/

namespace DiceRoller

/-- What holds of all characters of a list is decided along the list, and not over the type
of characters, which is finite as well. -/
instance decidableForallMem (p : Char → Prop) [DecidablePred p] (cs : List Char) :
    Decidable (∀ c ∈ cs, p c) :=
  List.decidableBAll p cs

/-! ## Words -/

/-- Characters of one kind, perhaps none. -/
@[ext]
structure Run (p : Char → Bool) where
  chars : List Char
  holds : ∀ c ∈ chars, p c = true

/-- Characters of one kind, at least one. -/
@[ext]
structure FullRun (p : Char → Bool) extends Run p where
  ne_nil : chars ≠ []

abbrev Digits := Run Char.isDigit

abbrev Numeral := FullRun Char.isDigit

inductive Sign where
  | plus
  | minus
  deriving DecidableEq, Repr

def Sign.char : Sign → Char
  | plus => '+'
  | minus => '-'

/-- A rule for keeping dice as it is written. -/
structure Rule where
  favour : Favour
  take : Digits

inductive Word where
  | constant (sign : Option Sign) (digits : Numeral)
  | group (count : Digits) (sides : Numeral) (rule : Option Rule)

/-- The value of a run of digits, one if there are none. -/
def Text.valueOrOne (ds : List Char) : Nat :=
  if ds = [] then 1 else digitsValue ds

namespace Rule

def spelling (r : Rule) : List Char := r.favour.word.toList ++ r.take.chars

def keep (r : Rule) : Keep := ⟨r.favour, Text.valueOrOne r.take.chars⟩

end Rule

namespace Word

/-- The end of a group with the text of its rule, if it has one. -/
def ruleEnd : Option (List Char) → List Char
  | none => []
  | some cs => ':' :: cs

def spelling : Word → List Char
  | constant sign ds => (sign.map Sign.char).toList ++ ds.chars
  | group count sides rule =>
    count.chars ++ 'd' :: (sides.chars ++ ruleEnd (rule.map Rule.spelling))

def text (w : Word) : String := String.ofList w.spelling

/-- What a word asks for. -/
def term : Word → Term
  | constant sign ds => .constant (Bounds.signedValue (sign == some .minus) ds.chars)
  | group count sides rule =>
    .dice (Text.valueOrOne count.chars) (Text.digitsValue sides.chars) (rule.map Rule.keep)

end Word

/-- Whether a rule can be asked for in a group of `count` dice. -/
def Keep.Valid (count : Int) (k : Keep) : Prop :=
  1 ≤ k.take ∧ k.take ≤ 255 ∧ k.take ≤ count

/-- Whether a term can be asked for: its numbers are within the bounds of their
places, and it does not keep more dice than it rolls. -/
def Term.Valid : Term → Prop
  | constant value => value ≠ 0 ∧ -32768 ≤ value ∧ value ≤ 32767
  | dice count sides keep =>
    (1 ≤ count ∧ count ≤ 255) ∧ (1 ≤ sides ∧ sides ≤ 255) ∧ ∀ k ∈ keep, k.Valid count

instance (count : Int) (k : Keep) : Decidable (k.Valid count) :=
  inferInstanceAs (Decidable (_ ∧ _))

instance : DecidablePred Term.Valid
  | .constant _ => inferInstanceAs (Decidable (_ ∧ _))
  | .dice _ _ _ => inferInstanceAs (Decidable (_ ∧ _))

/-! ## Characters of a word -/

namespace Word

theorem spelling_ne_nil (w : Word) : w.spelling ≠ [] := by
  cases w with
  | constant sign ds => simp [spelling, ds.ne_nil]
  | group count sides rule => simp [spelling]

theorem not_isBlank_of_isDigit {c : Char} (h : c.isDigit = true) : ¬ Text.isBlank c = true := by
  have hc := Text.toNat_of_isDigit h
  simp only [Text.isBlank, Text.isWhiteSpace, Bool.or_eq_true, Bool.and_eq_true,
    decide_eq_true_eq, beq_iff_eq]
  omega

theorem mem_ruleEnd {rule : Option Rule} {c : Char} (h : c ∈ ruleEnd (rule.map Rule.spelling)) :
    c.isDigit = true ∨ c ∈ [':', 'a', 'd', 'v', 'i', 's'] := by
  cases rule with
  | none => simp [ruleEnd] at h
  | some r =>
      rcases List.mem_cons.1 h with rfl | h
      · exact Or.inr List.mem_cons_self
      · rcases List.mem_append.1 h with h | h
        · have hword : ∀ f : Favour, ∀ d ∈ f.word.toList, d ∈ [':', 'a', 'd', 'v', 'i', 's'] := by
            intro f
            cases f <;> decide
          exact Or.inr (hword r.favour c h)
        · exact Or.inl (r.take.holds c h)

theorem mem_group_spelling {count : Digits} {sides : Numeral} {rule : Option Rule} {c : Char}
    (h : c ∈ (group count sides rule).spelling) :
    c.isDigit = true ∨ c ∈ [':', 'a', 'd', 'v', 'i', 's'] := by
  rcases List.mem_append.1 h with h | h
  · exact Or.inl (count.holds c h)
  · rcases List.mem_cons.1 h with rfl | h
    · exact Or.inr (by decide)
    · rcases List.mem_append.1 h with h | h
      · exact Or.inl (sides.holds c h)
      · exact mem_ruleEnd h

theorem not_isBlank_of_mem_spelling {w : Word} {c : Char} (h : c ∈ w.spelling) :
    ¬ Text.isBlank c = true := by
  cases w with
  | constant sign ds =>
      rcases List.mem_append.1 h with h | h
      · cases sign with
        | none => simp at h
        | some s =>
            obtain rfl : c = s.char := by simpa using h
            cases s <;> decide
      · exact not_isBlank_of_isDigit (ds.holds c h)
  | group count sides rule =>
      rcases mem_group_spelling h with h | h
      · exact not_isBlank_of_isDigit h
      · have hmarks : ∀ d ∈ [':', 'a', 'd', 'v', 'i', 's'], ¬ Text.isBlank d = true := by decide
        exact hmarks c h

theorem apart_of_spelling (w : Word) :
    w.spelling ≠ [] ∧ ∀ c ∈ w.spelling, ¬ Text.isBlank c = true :=
  ⟨w.spelling_ne_nil, fun _ => not_isBlank_of_mem_spelling⟩

end Word

/-! ## Leading zeros -/

/-- Put `n` zeros in front of a run of digits, unless there is no digit. -/
def Run.padded (n : Nat) (r : Digits) : Digits where
  chars := if r.chars = [] then [] else List.replicate n '0' ++ r.chars
  holds := by
    intro c hc
    split at hc
    · simp at hc
    · rcases List.mem_append.1 hc with hc | hc
      · rw [(List.mem_replicate.1 hc).2]
        decide
      · exact r.holds c hc

def FullRun.padded (n : Nat) (r : Numeral) : Numeral where
  toRun := Run.padded n r.toRun
  ne_nil := by
    show (if r.chars = [] then [] else List.replicate n '0' ++ r.chars) ≠ []
    rw [if_neg r.ne_nil]
    simp [r.ne_nil]

theorem Run.digitsValue_padded (n : Nat) (r : Digits) :
    Text.digitsValue (r.padded n).chars = Text.digitsValue r.chars := by
  show Text.digitsValue (if r.chars = [] then [] else List.replicate n '0' ++ r.chars) = _
  split
  · rename_i hempty
    rw [hempty]
  · exact Text.digitsValue_zeros_append n r.chars

theorem Run.valueOrOne_padded (n : Nat) (r : Digits) :
    Text.valueOrOne (r.padded n).chars = Text.valueOrOne r.chars := by
  have hempty : (r.padded n).chars = [] ↔ r.chars = [] := by
    show (if r.chars = [] then [] else List.replicate n '0' ++ r.chars) = [] ↔ _
    split <;> simp_all
  simp only [Text.valueOrOne, hempty, digitsValue_padded]

namespace Word

/-- The word with zeros in front of its numbers: `i` in front of the first number, `j`
and `k` in front of the others.  A number that is left out stays so. -/
def padded (i j k : Nat) : Word → Word
  | constant sign ds => constant sign (ds.padded i)
  | group count sides rule =>
    group (count.padded i) (sides.padded j)
      (rule.map fun r => ⟨r.favour, r.take.padded k⟩)

theorem term_padded (i j k : Nat) (w : Word) : (w.padded i j k).term = w.term := by
  cases w with
  | constant sign ds =>
      show Term.constant (Bounds.signedValue _ (ds.toRun.padded i).chars) = _
      rw [Bounds.signedValue, Run.digitsValue_padded]
      rfl
  | group count sides rule =>
      show Term.dice (Text.valueOrOne (count.padded i).chars)
        (Text.digitsValue (sides.toRun.padded j).chars) _ = _
      rw [Run.valueOrOne_padded, Run.digitsValue_padded]
      cases rule with
      | none => rfl
      | some r =>
          show Term.dice _ _ (some ⟨r.favour, Text.valueOrOne (r.take.padded k).chars⟩) = _
          rw [Run.valueOrOne_padded]
          rfl

end Word
end DiceRoller

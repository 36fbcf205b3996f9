import DiceRoller.Proofs.Number
import DiceRoller.Term.Reading

/-!
Reading a number without a look at its length.

`Bounds.readPlain` takes the sign off, adds the digits up by their places and compares the
result with the bounds, however many digits there are.  The reader that refuses long
numerals at once gives the same answers (`read_eq_readPlain`), since it refuses only
numerals that are out of bounds on the side of their sign (`read_of_long`).
-/

namespace DiceRoller

namespace Text

def digitOf (c : Char) : Nat := c.toNat - '0'.toNat

/-- The number of a run of digits: the last digit counts ones, the one before it tens, and so
on. -/
def placeValue (ds : List Char) : Nat :=
  Nat.ofDigits 10 (ds.reverse.map digitOf)

theorem placeValue_cons (c : Char) (ds : List Char) :
    placeValue (c :: ds) = placeValue ds + 10 ^ ds.length * digitOf c := by
  rw [placeValue, List.reverse_cons, List.map_append, Nat.ofDigits_append, List.length_map,
    List.length_reverse, List.map_singleton, Nat.ofDigits_singleton]
  rfl

theorem digitsValue_eq_placeValue (ds : List Char) : digitsValue ds = placeValue ds := by
  induction ds with
  | nil => rfl
  | cons c ds ih =>
      rw [digitsValue_cons, placeValue_cons, ih, Nat.add_comm]
      rfl

end Text

namespace Bounds

/-- The sign of a numeral as a factor, and what follows it.  A minus is no sign if no number
within the bounds is negative. -/
def plainSign (b : Bounds) : List Char → Int × List Char
  | '+' :: ds => (1, ds)
  | '-' :: ds => if b.least < 0 then (-1, ds) else (1, '-' :: ds)
  | ds => (1, ds)

/-- Read a number by its value alone. -/
def readPlain (b : Bounds) (text : String) : Except NumberIssue Int :=
  if text = "" then .error .empty
  else
    let (sign, ds) := b.plainSign text.toList
    if ds ≠ [] ∧ ds.all (fun c => '0' ≤ c ∧ c ≤ '9') then
      let v := sign * Text.placeValue ds
      if b.greatest < v then .error .tooLarge
      else if v < b.least then .error .tooSmall
      else if v = 0 then .error .zero
      else .ok v
    else .error .invalidDigit

theorem plainSign_of_splitSign {b : Bounds} {cs ds : List Char} {negative : Bool}
    (h : splitSign b.signed cs = (negative, ds)) :
    b.plainSign cs = (if negative then -1 else 1, ds) := by
  cases cs with
  | nil =>
      obtain ⟨rfl, rfl⟩ := Prod.mk.inj h
      rfl
  | cons c cs =>
      rw [splitSign] at h
      by_cases hplus : c = '+'
      · subst hplus
        obtain ⟨rfl, rfl⟩ := Prod.mk.inj h
        rfl
      · by_cases hminus : c = '-'
        · subst hminus
          by_cases hleast : b.least < 0
          · obtain ⟨rfl, rfl⟩ : true = negative ∧ cs = ds := by simpa [signed, hleast] using h
            simp [plainSign, hleast]
          · obtain ⟨rfl, rfl⟩ : false = negative ∧ '-' :: cs = ds := by
              simpa [signed, hleast] using h
            simp [plainSign, hleast]
        · obtain ⟨rfl, rfl⟩ : false = negative ∧ c :: cs = ds := by
            simpa [hplus, hminus] using h
          simp [plainSign, hplus, hminus]

theorem isNumeral_iff_all {ds : List Char} :
    Text.isNumeral ds = true ↔ ds ≠ [] ∧ ds.all (fun c => '0' ≤ c ∧ c ≤ '9') = true := by
  have hdigit : (fun c => decide ('0' ≤ c ∧ c ≤ '9')) = Char.isDigit := by
    funext c
    exact Bool.decide_and _ _
  rw [hdigit, Text.isNumeral, Bool.and_eq_true, Bool.not_eq_true', List.isEmpty_eq_false_iff]

theorem read_of_not_numeral {b : Bounds} {text : String} {negative : Bool} {ds : List Char}
    (hne : text ≠ "") (hsign : splitSign b.signed text.toList = (negative, ds))
    (hds : ¬ Text.isNumeral ds = true) : b.read text = .error .invalidDigit := by
  have hempty : text.isEmpty = false := by
    rw [Bool.eq_false_iff]
    exact fun h => hne (String.isEmpty_iff.1 h)
  rw [read, hempty, hsign]
  simp [hds]

theorem signedValue_eq_mul (negative : Bool) (ds : List Char) :
    signedValue negative ds = (if negative then -1 else 1) * (Text.placeValue ds : Int) := by
  rw [signedValue, Text.digitsValue_eq_placeValue]
  cases negative with
  | false => exact (Int.one_mul _).symm
  | true => exact (Int.neg_one_mul _).symm

theorem read_eq_readPlain {b : Bounds} (h : b.least ≤ b.greatest) (text : String) :
    b.read text = b.readPlain text := by
  by_cases hne : text = ""
  · subst hne
    rfl
  · rcases hsign : splitSign b.signed text.toList with ⟨negative, ds⟩
    rw [readPlain, if_neg hne, plainSign_of_splitSign hsign]
    by_cases hds : Text.isNumeral ds = true
    · rw [read_of_numeral h hsign hds, signedValue_eq_mul]
      dsimp only
      rw [if_pos (isNumeral_iff_all.1 hds)]
      rfl
    · rw [read_of_not_numeral hne hsign hds]
      dsimp only
      rw [if_neg fun hall => hds (isNumeral_iff_all.2 hall)]

/-- A numeral with too many digits is out of bounds on the side of its sign, and is refused for
that. -/
theorem read_of_long {b : Bounds} (h : b.least ≤ b.greatest) {text : String}
    {negative : Bool} {ds : List Char} (hsign : splitSign b.signed text.toList = (negative, ds))
    (hds : Text.isNumeral ds = true) (hlong : b.digits < (Text.significant ds).length) :
    if negative then b.read text = .error .tooSmall ∧ -(Text.placeValue ds : Int) < b.least
    else b.read text = .error .tooLarge ∧ b.greatest < Text.placeValue ds := by
  have hlarge := lt_digitsValue_of_digits_lt h (Text.isNumeral_iff.1 hds).2 hlong
  have hread := read_of_numeral h hsign hds
  rw [Text.digitsValue_eq_placeValue] at hlarge
  rw [signedValue_eq_mul] at hread
  cases negative with
  | false =>
      have hover : b.greatest < (Text.placeValue ds : Int) := by omega
      refine ⟨?_, hover⟩
      rw [hread, check, if_pos (by simpa using hover)]
  | true =>
      have hunder : -(Text.placeValue ds : Int) < b.least := by omega
      refine ⟨?_, hunder⟩
      rw [hread, if_pos rfl, Int.neg_one_mul, check, if_neg (by omega), if_pos hunder]

/-- The look at the length of a numeral changes no answer.  A number is read as it would be by
its value alone, every fault names the whole text, and a numeral that is refused for its
length is out of bounds on the side of its sign. -/
theorem length_guard_changes_nothing {b : Bounds} (h : b.least ≤ b.greatest) (text : String) :
    b.read text = b.readPlain text ∧
    b.readFault text = (b.readPlain text).mapError (Fault.number text) ∧
    ∀ negative ds, splitSign b.signed text.toList = (negative, ds) →
      Text.isNumeral ds = true → b.digits < (Text.significant ds).length →
      if negative then b.read text = .error .tooSmall ∧ -(Text.placeValue ds : Int) < b.least
      else b.read text = .error .tooLarge ∧ b.greatest < Text.placeValue ds := by
  have hread := read_eq_readPlain h text
  refine ⟨hread, ?_, fun negative ds => read_of_long h⟩
  rw [readFault, hread]

/-- The statement at bounds that are both negative, for a padded numeral with a digit too
many. -/
theorem length_guard_changes_nothing_below_zero :
    let b : Bounds := ⟨-200, -100⟩
    b.least ≤ b.greatest ∧ b.read "-001000" = b.readPlain "-001000" ∧
      b.readFault "-001000" = .error (.number "-001000" .tooSmall) ∧
      -(Text.placeValue "001000".toList : Int) < b.least := by
  intro b
  obtain ⟨hread, hfault, hlong⟩ :=
    length_guard_changes_nothing (b := b) (by decide) "-001000"
  have hplain : b.readPlain "-001000" = .error .tooSmall := by decide
  rw [hplain] at hfault
  refine ⟨by decide, hread, hfault, ?_⟩
  exact (hlong true "001000".toList (by decide) (by decide) (by decide)).2

/-- Between bounds in the wrong order the length decides. -/
example : (Bounds.mk (-1) (-100)).read "-50" = .error .tooSmall ∧
    (Bounds.mk (-1) (-100)).readPlain "-50" = .error .tooLarge := by decide

end Bounds
end DiceRoller

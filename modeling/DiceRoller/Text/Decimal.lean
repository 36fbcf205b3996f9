/-!
Decimal numerals.  A run of digits is read with `digitsValue`, however many
leading zeros it has, and a number is written with `toString`, or with
`withSign` where a plus is shown too.
-/

namespace DiceRoller
namespace Text

/-- A run of decimal digits, at least one.  Only the ten digits of ASCII count
as digits. -/
def isNumeral (cs : List Char) : Bool :=
  !cs.isEmpty && cs.all Char.isDigit

/-- The number that a run of decimal digits denotes. -/
def digitsValue (ds : List Char) : Nat :=
  Nat.ofDigitChars 10 ds 0

/-- The digits of a numeral from the first one that is not zero, or a single
zero if there is none. -/
def significant (ds : List Char) : List Char :=
  match ds.dropWhile (· == '0') with
  | [] => ['0']
  | d :: rest => d :: rest

/-- Reading writing is the identity. -/
theorem digitsValue_toString (n : Nat) : digitsValue (toString n).toList = n := by
  rw [digitsValue, Nat.toString_eq_repr, Nat.toList_repr,
    Nat.ofDigitChars_toDigits (by decide) (by decide)]

/-- A leading zero adds nothing to the value. -/
theorem digitsValue_zero_cons (ds : List Char) : digitsValue ('0' :: ds) = digitsValue ds := by
  simp [digitsValue, Nat.ofDigitChars]

theorem digitsValue_dropWhile_zero (ds : List Char) :
    digitsValue (ds.dropWhile (· == '0')) = digitsValue ds := by
  induction ds with
  | nil => rfl
  | cons d ds ih =>
      by_cases h : d = '0'
      · subst h
        rw [digitsValue_zero_cons, ← ih]
        rfl
      · rw [List.dropWhile_cons_of_neg (by simpa using h)]

/-- Dropping leading zeros keeps the value. -/
theorem digitsValue_significant (ds : List Char) :
    digitsValue (significant ds) = digitsValue ds := by
  rw [← digitsValue_dropWhile_zero ds, significant]
  cases h : ds.dropWhile (· == '0') with
  | nil => rfl
  | cons d rest => rfl

/-- A number with its sign, zero and the positive numbers with a plus. -/
def withSign (v : Int) : String :=
  if 0 ≤ v then "+" ++ toString v else toString v

end Text
end DiceRoller

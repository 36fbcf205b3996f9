import DiceRoller.Text.Blank
import DiceRoller.Text.Decimal

/-!
Whole numbers written freely.

A number may have white space around it, a sign, leading zeros, a fraction of
zeros and single underscores between its digits.  Reading takes all of this off
and accepts the number if what is left is a plain numeral.  A zero before other
characters is never part of one (`plainNumber?_zero_cons`).
-/

namespace DiceRoller
namespace Text

/-! ## Plain numerals -/

/-- A plain numeral has at most this many digits. -/
def mostDigits : Nat := 4300

/-- Digits that do not start with a zero, or a single zero.  There may not be more
of them than `mostDigits`, so the value of a long numeral is never computed. -/
def isPlain (ds : List Char) : Bool :=
  decide (ds.length ≤ mostDigits) && isNumeral ds && (ds.head? != some '0' || ds == ['0'])

/-- Read a plain numeral: perhaps a minus, then plain digits. -/
def plainNumber? : List Char → Option Int
  | '-' :: ds => if isPlain ds then some (-(digitsValue ds : Int)) else none
  | ds => if isPlain ds then some (digitsValue ds : Int) else none

/-- A zero before other characters makes a numeral that is not plain. -/
theorem plainNumber?_zero_cons (c : Char) (cs : List Char) :
    plainNumber? ('0' :: c :: cs) = none := by
  simp [plainNumber?, isPlain]

/-! ## Free numerals -/

/-- Drop a run of zeros and underscores, where `last` is the character before the
rest of the run.  The last character of the run stays if the text ends with it or
a point follows, since zero is written with a digit too. -/
def dropZerosAfter (last : Char) : List Char → List Char
  | [] => [last]
  | c :: cs =>
    if c == '0' || c == '_' then dropZerosAfter c cs
    else if c == '.' then last :: c :: cs
    else c :: cs

/-- Drop the leading zeros of a numeral and the underscores among them. -/
def dropZeros : List Char → List Char
  | '0' :: cs => dropZerosAfter '0' cs
  | cs => cs

/-- Drop a point followed by zeros, at least one.  Any other fraction stays. -/
def dropFraction (cs : List Char) : List Char :=
  match cutWhile (· != '.') cs with
  | (whole, _ :: z :: zs) => if (z :: zs).all (· == '0') then whole else cs
  | (_, _) => cs

/-- Join groups of characters that single underscores divide.  An underscore at
an end or beside another one divides nothing, and the text is refused. -/
def ungroup? (cs : List Char) : Option (List Char) :=
  let groups := pieces (· == '_') cs
  if groups.any List.isEmpty then none else some groups.flatten

/-- The plain form of a numeral whose sign has been taken off.  It has to start
with a digit. -/
def plainForm? (cs : List Char) : Option (List Char) :=
  if cs.head?.any Char.isDigit then ungroup? (dropFraction (dropZeros cs)) else none

/-- Read a whole number.  Zeros are dropped before the number and its minus are
put together, so a minus may stand after leading zeros as well as before them,
though not twice. -/
def wholeNumber? (text : String) : Option Int :=
  match trim isWhiteSpace text.toList with
  | '+' :: cs => (plainForm? cs).bind plainNumber?
  | '-' :: cs => (plainForm? cs).bind fun ds => plainNumber? ('-' :: ds)
  | cs => (plainForm? cs).bind plainNumber?

end Text
end DiceRoller

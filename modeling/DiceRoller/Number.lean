import DiceRoller.Text.Decimal

/-!
Numbers in a request.  A number has to fit in the bounds of its place and must
not be zero.
-/

namespace DiceRoller

/-- Why a text is no number of its place. -/
inductive NumberIssue where
  | empty
  | invalidDigit
  | tooLarge
  | tooSmall
  | zero
  deriving DecidableEq, Repr

namespace NumberIssue

def name : NumberIssue → String
  | empty => "EMPTY"
  | invalidDigit => "INVALID_DIGIT"
  | tooLarge => "POS_OVERFLOW"
  | tooSmall => "NEG_OVERFLOW"
  | zero => "ZERO"

def text : NumberIssue → String
  | empty => "cannot parse integer from empty string"
  | invalidDigit => "invalid digit found in string"
  | tooLarge => "number too large to fit in target type"
  | tooSmall => "number too small to fit in target type"
  | zero => "number would be zero for non-zero type"

end NumberIssue

/-- The least and the greatest number of a place, both allowed. -/
structure Bounds where
  least : Int
  greatest : Int
  deriving DecidableEq, Repr

namespace Bounds

/-- How many dice, how many sides, how many dice kept: one byte. -/
def count : Bounds := ⟨0, 255⟩

/-- A bonus or a penalty: a signed number of two bytes. -/
def bonus : Bounds := ⟨-32768, 32767⟩

/-- A minus is read as a sign only where a negative number could fit. -/
def signed (b : Bounds) : Bool := b.least < 0

/-- No number within the bounds has more decimal digits than this. -/
def digits (b : Bounds) : Nat := (toString (max b.greatest (-b.least))).length

/-- Take the sign off a numeral: whether it is a minus, and what is left.  A
minus that is no sign is left in place. -/
def splitSign (minusAllowed : Bool) : List Char → Bool × List Char
  | [] => (false, [])
  | c :: cs =>
    if c == '+' then (false, cs)
    else if c == '-' && minusAllowed then (true, cs)
    else (false, c :: cs)

/-- Where a number that is not zero belongs with respect to the bounds. -/
def check (b : Bounds) (v : Int) : Except NumberIssue Int :=
  if b.greatest < v then .error .tooLarge
  else if v < b.least then .error .tooSmall
  else if v = 0 then .error .zero
  else .ok v

/-- Read a number.  A numeral with too many digits is refused before its value
is computed, so a very long one costs no more than a look at its length. -/
def read (b : Bounds) (text : String) : Except NumberIssue Int :=
  if text.isEmpty then .error .empty
  else
    let (negative, ds) := splitSign b.signed text.toList
    if !Text.isNumeral ds then .error .invalidDigit
    else
      let ds := Text.significant ds
      if b.digits < ds.length then .error (if negative then .tooSmall else .tooLarge)
      else b.check (if negative then -(Text.digitsValue ds : Int) else Text.digitsValue ds)

end Bounds
end DiceRoller

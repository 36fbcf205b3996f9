import DiceRoller.Text.Decimal

/-!
The terms of a request: constants and groups of dice that are still to be
rolled.  A term may hold any integers.  Which of them can be asked for is a
matter of reading.
-/

namespace DiceRoller

/-- Which end of the dice, put in order, a player keeps. -/
inductive Favour where
  | advantage
  | disadvantage
  deriving DecidableEq, Repr

namespace Favour

def name : Favour → String
  | advantage => "advantage"
  | disadvantage => "disadvantage"

/-- The word for it in a request. -/
def word : Favour → String
  | advantage => "adv"
  | disadvantage => "dis"

end Favour

/-- Keep only `take` of the dice of a group. -/
structure Keep where
  favour : Favour
  take : Int
  deriving DecidableEq, Repr

namespace Keep

def label (k : Keep) : String := k.favour.name ++ " " ++ toString k.take

end Keep

inductive Term where
  | constant (value : Int)
  | dice (count sides : Int) (keep : Option Keep)
  deriving DecidableEq, Repr

end DiceRoller

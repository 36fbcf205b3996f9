import DiceRoller.Term

/-!
Rolled dice, and the terms of a request once their dice are rolled.
-/

namespace DiceRoller

/-- A die and the side that came up. -/
structure Die where
  sides : Int
  value : Int
  deriving DecidableEq, Repr

/-- A term whose dice are rolled.  The dice are in the order of their rolling. -/
inductive Rolled where
  | constant (value : Int)
  | dice (dice : List Die) (keep : Option Keep)
  deriving DecidableEq, Repr

end DiceRoller

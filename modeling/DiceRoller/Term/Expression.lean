import DiceRoller.Term

/-!
The expression of a request: its terms written in the shortest way that a
request admits, one blank apart.
-/

namespace DiceRoller

/-- Dice by number and sides.  A single die needs no number. -/
def diceName (count sides : Int) : String :=
  if count = 1 then "d" ++ toString sides else toString count ++ "d" ++ toString sides

/-- A rule for keeping dice as a request has it.  Keeping one die needs no
number. -/
def Keep.expression (k : Keep) : String :=
  if k.take = 1 then k.favour.word else k.favour.word ++ toString k.take

def Term.expression : Term → String
  | .constant value => Text.withSign value
  | .dice count sides none => diceName count sides
  | .dice count sides (some keep) => diceName count sides ++ ":" ++ keep.expression

/-- The terms as a request would have them. -/
def Term.expressions (ts : List Term) : String :=
  " ".intercalate (ts.map Term.expression)

end DiceRoller

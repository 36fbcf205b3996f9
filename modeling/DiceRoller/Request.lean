import DiceRoller.Term.Expression
import DiceRoller.Term.Reading
import DiceRoller.Text.Blank

/-!
A request: the text that a player sent and the terms it asks for.
-/

namespace DiceRoller

structure Request where
  input : String
  terms : List Term
  deriving DecidableEq, Repr

namespace Request

/-- The request in its shortest form. -/
def expression (r : Request) : String := Term.expressions r.terms

/-- The words of a text. -/
def wordsOf (text : String) : List String :=
  (Text.words text.toList).map String.ofList

/-- Read a request.  It is refused as a whole at its first faulty word, and it
needs at least one word. -/
def read (text : String) : Except Fault Request :=
  match wordsOf text with
  | [] => .error .emptyRequest
  | ws => (Term.readAll ws).map (Request.mk text)

end Request
end DiceRoller

import DiceRoller.Fault
import DiceRoller.Term
import DiceRoller.Text.Split

/-!
Reading a word of a request.

A word is a constant, digits after perhaps a sign, or a group of dice: perhaps a
number of dice, the letter d, a number of sides and perhaps a colon and a rule for
keeping dice.
The word is first cut into these parts, which decides what it is.  Then the
numbers are read from left to right, and the first fault found is the one
reported, with the part that has it at each level.
-/

namespace DiceRoller

namespace Bounds

/-- Read a number and name the text in the fault. -/
def readFault (b : Bounds) (text : String) : Except Fault Int :=
  (b.read text).mapError (Fault.number text)

end Bounds

namespace Favour

/-- The issue of a rule whose number of dice is at fault. -/
def issue : Favour → KeepIssue
  | advantage => .advantage
  | disadvantage => .disadvantage

end Favour

namespace Keep

/-- The parts of a rule for keeping dice: the end to keep, and the digits of the
number, perhaps none. -/
def parts? : List Char → Option (Favour × List Char)
  | 'a' :: 'd' :: 'v' :: ds => if ds.all Char.isDigit then some (.advantage, ds) else none
  | 'd' :: 'i' :: 's' :: ds => if ds.all Char.isDigit then some (.disadvantage, ds) else none
  | _ => none

/-- The digits of a number that may be left out, which then is one. -/
def orOne (ds : List Char) : String :=
  if ds.isEmpty then "1" else String.ofList ds

/-- Read a rule for keeping dice.  How many dice there are to keep is not known
here. -/
def read (text : String) : Except Fault Keep :=
  match parts? text.toList with
  | none => .error (.bare (.keep .malformed) text)
  | some (favour, ds) =>
    match Bounds.count.readFault (orOne ds) with
    | .error cause => .error (.within (.keep favour.issue) text (.unreadableTake cause))
    | .ok take => .ok ⟨favour, take⟩

/-- Read a rule for keeping some of `count` dice. -/
def readFor (count : Int) (text : String) : Except Fault Keep :=
  match read text with
  | .error cause => .error cause
  | .ok keep =>
    if count < keep.take then
      .error (.within (.keep keep.favour.issue) text (.greedyTake keep.take count))
    else .ok keep

end Keep

namespace Term

/-- The parts of a group of dice as they stand in a word. -/
structure GroupParts where
  /-- The digits before the letter d, perhaps none. -/
  count : List Char
  /-- The digits after it. -/
  sides : List Char
  /-- What follows a colon. -/
  keep : Option (List Char)
  deriving DecidableEq, Repr

/-- The rule that follows the sides of a group, if that is how the word ends.  It
cannot be empty and cannot span lines. -/
def keepPart? : List Char → Option (Option (List Char))
  | [] => some none
  | ':' :: cs => if cs.isEmpty || cs.contains '\n' then none else some (some cs)
  | _ :: _ => none

/-- The parts of a word that has the form of a group of dice. -/
def groupParts? (cs : List Char) : Option GroupParts :=
  match Text.cutWhile Char.isDigit cs with
  | (count, 'd' :: rest) =>
    let (sides, rest) := Text.cutWhile Char.isDigit rest
    if sides.isEmpty then none else (keepPart? rest).map (GroupParts.mk count sides)
  | _ => none

/-- Read one number of a group. -/
def readPart (issue : GroupIssue) (text : String) : Except Fault Int :=
  (Bounds.count.readFault text).mapError (Fault.within (.group issue) text)

/-- Read the rule of a group of `count` dice, if it has one. -/
def readKeep (count : Int) : Option (List Char) → Except Fault (Option Keep)
  | none => .ok none
  | some cs =>
    let text := String.ofList cs
    match Keep.readFor count text with
    | .error cause => .error (.within (.group .keep) text cause)
    | .ok keep => .ok (some keep)

/-- Read the parts of a group from left to right. -/
def readGroup (parts : GroupParts) : Except Fault Term := do
  let count ← readPart .count (Keep.orOne parts.count)
  let sides ← readPart .sides (String.ofList parts.sides)
  let keep ← readKeep count parts.keep
  return .dice count sides keep

/-- Whether a word has the form of a constant. -/
def isConstant (cs : List Char) : Bool :=
  Text.isNumeral (Bounds.splitSign true cs).2

/-- Read a word of a request.  Every fault names the whole word. -/
def read (text : String) : Except Fault Term :=
  if isConstant text.toList then
    match Bounds.bonus.readFault text with
    | .error cause => .error (.within (.word .constant) text cause)
    | .ok value => .ok (.constant value)
  else
    match groupParts? text.toList with
    | none => .error (.bare (.word .malformed) text)
    | some parts => (readGroup parts).mapError (Fault.within (.word .group) text)

/-- Read words in order, up to the first that is at fault. -/
def readAll : List String → Except Fault (List Term)
  | [] => .ok []
  | w :: ws => do
    let t ← read w
    let ts ← readAll ws
    return t :: ts

end Term
end DiceRoller

import DiceRoller.Draw.Source
import DiceRoller.Journal
import DiceRoller.Report
import DiceRoller.Text.Lines

/-!
The service: calls that are answered one after the other, with a record of each in
the journal.  The only state is that of the generator, and only a request that can
be read changes it.

Texts of players get into the journal quoted or on one line, so that a record of
level `info` is always one line.
-/

namespace DiceRoller

inductive Call where
  | roll (text : String)
  | help
  deriving DecidableEq, Repr

inductive Reply where
  | report (report : Report)
  | help (text : String)
  /-- The request cannot be read. -/
  | refused (message : String)
  /-- The request can be read but not rolled or reported. -/
  | failed (failure : Failure)
  deriving DecidableEq, Repr

/-- The text that a fault names. -/
def Fault.token? : Fault → Option String
  | .number token _ | .bare _ token | .within _ token _ => some token
  | .unreadableTake _ | .greedyTake _ _ | .noWords _ => none

namespace Record

/-- The record of a word at which a request was refused. -/
def ofFault? (fault : Fault) : Option Record :=
  match fault.token?, fault.describe? with
  | some token, some text =>
    some ⟨.debug, "Rejected token " ++ Text.quoted token ++ ": " ++ text⟩
  | _, _ => none

def rolled (o : Outcome) : Record :=
  ⟨.debug, "Rolled " ++ Text.quoted o.request.expression ++ " => " ++ toString o.total⟩

def asked (text : String) : Record :=
  ⟨.info, "roll_dice | text=" ++ Text.quoted text⟩

def answered (total : Int) : Record :=
  ⟨.info, "roll_dice ok | total=" ++ toString total⟩

def refused (message : String) : Record :=
  ⟨.info, "roll_dice rejected | error=" ++ Text.onOneLine message⟩

end Record

namespace Service

/-- What a request may look like. -/
def helpText : String :=
  "Roll some dice. Tokens are separated by spaces.\n" ++
  "\n" ++
  "Valid tokens are:\n" ++
  "- `1`, `-3` - constant bonus or penalty\n" ++
  "- `d20` - one 20-sided die\n" ++
  "- `4d6` - four 6-sided dice\n" ++
  "- `2d20:adv` - two 20-sided dice, keep the highest\n" ++
  "- `4d6:dis3` - four 6-sided dice, keep the 3 lowest\n" ++
  "\n" ++
  "Counts, sides and kept dice must be between 1 and 255, and a group cannot\n" ++
  "keep more dice than it rolls. Constants must be nonzero and fit in -32768..32767.\n"

/-- The answer to a call and the records it leaves. -/
structure Answer where
  reply : Reply
  records : List Record
  deriving DecidableEq, Repr

section
variable {σ : Type} (g : Generator σ) (source : String)

/-- Answer a request to roll, with a stamp for the report if there is one. -/
def roll (text : String) (stamp : Stamp) (s : σ) : Answer × σ :=
  match Request.read text with
  | .error fault =>
    (⟨.refused fault.message,
      Record.asked text :: (Record.ofFault? fault).toList ++ [Record.refused fault.message]⟩, s)
  | .ok r =>
    match r.roll g s with
    | (.error failure, s) => (⟨.failed failure, [Record.asked text]⟩, s)
    | (.ok o, s) =>
      match o.report source stamp with
      | .error failure => (⟨.failed failure, [Record.asked text, Record.rolled o]⟩, s)
      | .ok report =>
        (⟨.report report,
          [Record.asked text, Record.rolled o, Record.answered report.total]⟩, s)

/-- A request that cannot be read asks nothing of the generator. -/
theorem roll_of_refused {text : String} {fault : Fault} (h : Request.read text = .error fault)
    (stamp : Stamp) (s : σ) :
    roll g source text stamp s =
      (⟨.refused fault.message,
        Record.asked text :: (Record.ofFault? fault).toList ++ [Record.refused fault.message]⟩,
        s) := by
  rw [roll, h]

/-- Answer a call.  A call for help leaves no record and asks nothing of the
generator. -/
def answer (c : Call) (stamp : Stamp) (s : σ) : Answer × σ :=
  match c with
  | .roll text => roll g source text stamp s
  | .help => (⟨.help helpText, []⟩, s)

/-- Answer calls in order, each with a stamp of its own. -/
def run : List Call → (Nat → Stamp) → σ → List Answer × σ
  | [], _, s => ([], s)
  | c :: cs, stamps, s =>
    let (a, s) := answer g source c (stamps 0) s
    let (as, s) := run cs (fun i => stamps (i + 1)) s
    (a :: as, s)

end
end Service
end DiceRoller

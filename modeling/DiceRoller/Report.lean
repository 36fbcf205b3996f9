import DiceRoller.Rolling
import DiceRoller.Stamp
import DiceRoller.Table

/-!
The report of a roll: its stamp, what was asked, what each term came to, an explanation
in one line and a table.
-/

namespace DiceRoller

/-- A scored term as it is reported.  A group is described by its rolled dice: it
has as many as were rolled and the sides of the first. -/
inductive Entry where
  | constant (value subtotal : Int)
  | dice (count sides : Int) (rolls kept : List Int) (subtotal : Int) (keep : Option Keep)
  deriving DecidableEq, Repr

/-- The entry of a scored term.  A group without dice has none, since it has no
sides. -/
def Score.entry? (s : Score) : Option Entry :=
  match s.token with
  | .constant value => some (.constant value s.contribution)
  | .dice ds keep =>
    ds.head?.map fun first =>
      .dice ds.length first.sides (ds.map Die.value) (s.kept.map Die.value) s.contribution keep

/-- The entries of scored terms, if all of them have one. -/
def Score.entries? : List Score → Option (List Entry)
  | [] => some []
  | s :: ss =>
    match s.entry?, entries? ss with
    | some e, some es => some (e :: es)
    | _, _ => none

/-- Numbers in brackets. -/
def bracketed (vs : List Int) : String :=
  "[" ++ ", ".intercalate (vs.map toString) ++ "]"

namespace Entry

/-- How a term came to its subtotal. -/
def explanation : Entry → String
  | constant value _ => Text.withSign value
  | dice count sides rolls _ subtotal none =>
    diceName count sides ++ ": rolls " ++ bracketed rolls ++ " => " ++ toString subtotal
  | dice count sides rolls kept subtotal (some keep) =>
    diceName count sides ++ "(" ++ keep.label ++ "): rolls " ++ bracketed rolls ++
      " -> keep " ++ bracketed kept ++ " => " ++ toString subtotal

end Entry

/-- How all terms came to the total. -/
def explain (es : List Entry) (total : Int) : String :=
  "; ".intercalate (es.map Entry.explanation) ++ " => " ++ toString total

/-! ## The table of a roll -/

/-- A number, flush right in the first column. -/
def numberCell (text : String) : Cell := ⟨text, .right⟩

def Die.row (d : Die) : Row :=
  .columns [numberCell (toString d.value), ⟨"(d" ++ toString d.sides ++ ")", .left⟩]

/-- The rows of a scored term: one for a constant, and for a group one for each
die and one for its rule. -/
def Score.rows (s : Score) : List Row :=
  match s.token with
  | .constant value => [.columns [numberCell (Text.withSign value)]]
  | .dice ds none => ds.map Die.row
  | .dice ds (some keep) =>
    ds.map Die.row ++ [.full (keep.label ++ " => " ++ toString s.contribution) .left]

namespace Outcome

/-- The table of a roll, with the total under a line. -/
def table (o : Outcome) : Table :=
  ⟨o.scores.flatMap Score.rows ++ [.separator "-", .columns [numberCell (toString o.total)]]⟩

end Outcome

/-! ## The report -/

structure Report where
  /-- The identifier of the stamp. -/
  id : String
  /-- The time of the stamp. -/
  time : String
  input : String
  expression : String
  /-- The name of the generator that was asked. -/
  source : String
  entries : List Entry
  total : Int
  explanation : String
  table : String
  deriving DecidableEq, Repr

namespace Outcome

/-- The report of a roll, with a stamp.  The parts of the outcome are reported as they
are, without a look at whether they agree. -/
def report (o : Outcome) (source : String) (stamp : Stamp) : Except Failure Report :=
  match Score.entries? o.scores with
  | none => .error .emptyGroup
  | some es =>
    .ok {
      id := stamp.id
      time := stamp.time
      input := o.request.input
      expression := o.request.expression
      source
      entries := es
      total := o.total
      explanation := explain es o.total
      table := o.table.render }

end Outcome

section
variable {σ : Type} (g : Generator σ)

/-- Roll a request and report. -/
def Request.rollReport (r : Request) (source : String) (stamp : Stamp) (s : σ) :
    Except Failure Report × σ :=
  let (o, s) := r.roll g s
  (o.bind (·.report source stamp), s)

/-- Read a text, roll it and report. -/
def rollReport (text source : String) (stamp : Stamp) (s : σ) : Except Failure Report × σ :=
  let (o, s) := rollText g text s
  (o.bind (·.report source stamp), s)

/-- Read a text, roll it with the generator that is asked for it and report, under the name of
that generator. -/
def rollReportWith (name : σ → String) (text : String) (stamp : Stamp) (supply : Supply σ) :
    Except Failure Report × σ :=
  rollReport g text (name (g.asked supply)) stamp (g.asked supply)

end
end DiceRoller

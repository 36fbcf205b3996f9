import DiceRoller.Draw
import DiceRoller.Request
import DiceRoller.Score

/-!
Rolling a request.

The dice are rolled in the order of the terms, each with one question to the
generator, and a constant asks nothing.  When the generator raises an error, rolling ends
there, and the state it is left in is still passed on.
-/

namespace DiceRoller

/-- Why a text got no result. -/
inductive Failure where
  /-- The request cannot be read. -/
  | refused (fault : Fault)
  /-- The generator raised an error in the place of an answer. -/
  | raised (error : Raised)
  /-- A group without dice has no sides to report. -/
  | emptyGroup
  deriving DecidableEq, Repr

namespace Failure

/-- The kind of error that a failure arrives as.  The dice of a group are rolled in a
series, and the signal that a series is over does not leave it as itself: it is the cause
of another error. -/
def typeName : Failure → String
  | refused fault => fault.typeName
  | raised error => if error.endsSeries then "RuntimeError" else error.name
  | emptyGroup => "IndexError"

def message : Failure → String
  | refused fault => fault.message
  | raised error =>
    if error.endsSeries then "generator raised StopIteration" else error.message
  | emptyGroup => "tuple index out of range"

end Failure

/-- What a request came to. -/
structure Outcome where
  request : Request
  scores : List Score
  total : Int
  deriving DecidableEq, Repr

section
variable {σ : Type} (g : Generator σ)

/-- Roll `n` dice. -/
def Die.rollMany (sides : Int) : Nat → σ → Except Raised (List Die) × σ
  | 0, s => (.ok [], s)
  | n + 1, s =>
    match g.draw 1 sides s with
    | (.error e, s) => (.error e, s)
    | (.ok v, s) =>
      let (ds, s) := Die.rollMany sides n s
      (ds.map (Die.mk sides v :: ·), s)

namespace Term

/-- Roll a term.  A group of no dice or fewer has none to roll. -/
def roll : Term → σ → Except Raised Rolled × σ
  | constant value, s => (.ok (.constant value), s)
  | dice count sides keep, s =>
    let (ds, s) := Die.rollMany g sides count.toNat s
    (ds.map (Rolled.dice · keep), s)

def rollAll : List Term → σ → Except Raised (List Rolled) × σ
  | [], s => (.ok [], s)
  | t :: ts, s =>
    match t.roll g s with
    | (.error e, s) => (.error e, s)
    | (.ok r, s) =>
      let (rs, s) := rollAll ts s
      (rs.map (r :: ·), s)

end Term

namespace Outcome

/-- Score rolled terms and add them up. -/
def ofRolled (request : Request) (rs : List Rolled) : Outcome :=
  let scores := rs.map Rolled.score
  ⟨request, scores, Score.total scores⟩

end Outcome

namespace Request

/-- Roll the terms of a request and score them. -/
def roll (r : Request) (s : σ) : Except Failure Outcome × σ :=
  match Term.rollAll g r.terms s with
  | (.error e, s) => (.error (.raised e), s)
  | (.ok rs, s) => (.ok (.ofRolled r rs), s)

end Request

/-- Read a text and roll its terms.  A text that cannot be read asks the generator
nothing. -/
def rollTerms (text : String) (s : σ) : Except Failure (List Rolled) × σ :=
  match Request.read text with
  | .error fault => (.error (.refused fault), s)
  | .ok r =>
    match Term.rollAll g r.terms s with
    | (.error e, s) => (.error (.raised e), s)
    | (.ok rs, s) => (.ok rs, s)

/-- Read a text, roll its terms and score them. -/
def rollText (text : String) (s : σ) : Except Failure Outcome × σ :=
  match Request.read text with
  | .error fault => (.error (.refused fault), s)
  | .ok r => r.roll g s

/-- Read a text and roll its terms with the generator that is asked for it. -/
def rollTermsWith (text : String) (supply : Supply σ) : Except Failure (List Rolled) × σ :=
  rollTerms g text (g.asked supply)

end
end DiceRoller

/-!
Sources of random numbers.

A generator is asked for a whole number between two bounds.  It answers or raises an
error, and either way it passes to another state.  The bounds are part of the question
only: whether answers respect them is a property of the generator.
-/

namespace DiceRoller

/-- An error that a generator raises in the place of an answer. -/
structure Raised where
  name : String
  message : String
  /-- Whether the error is the signal that a series is over. -/
  endsSeries : Bool := false
  deriving DecidableEq, Repr

/-- A source of random numbers whose states are the values of `σ`. -/
structure Generator (σ : Type) where
  draw : (low high : Int) → σ → Except Raised Int × σ
  /-- Whether a generator in this state counts as true.  One that says that it is empty
  does not. -/
  isTrue : σ → Bool := fun _ => true

/-- The generators there are for a request: the one that is given with it, if any, and a
new one of the system. -/
structure Supply (σ : Type) where
  given : Option σ
  system : σ

namespace Generator

/-- The generator that is asked.  The one of the system is, if none is given or if the one
that is given counts as false. -/
def asked {σ : Type} (g : Generator σ) (supply : Supply σ) : σ :=
  (supply.given.filter g.isTrue).getD supply.system

/-- Answers with the values of a list, whatever the bounds, and after the last one
starts over with `again`.  It raises an error when no value is left. -/
def script (again : List Int) (error : Raised := ⟨"RngExhausted", "no values left", false⟩) :
    Generator (List Int) where
  draw _ _
    | v :: vs => (.ok v, vs)
    | [] =>
      match again with
      | v :: vs => (.ok v, vs)
      | [] => (.error error, [])

/-- A generator that keeps a list of the questions it has answered, the latest
first. -/
def recording {σ : Type} (g : Generator σ) : Generator (σ × List (Int × Int)) where
  draw low high s :=
    match g.draw low high s.1 with
    | (.ok v, next) => (.ok v, (next, (low, high) :: s.2))
    | (.error e, next) => (.error e, (next, s.2))
  isTrue s := g.isTrue s.1

/-- Keeping a list changes no answer. -/
theorem recording_draw {σ : Type} (g : Generator σ) (low high : Int)
    (s : σ × List (Int × Int)) :
    ((g.recording.draw low high s).1, (g.recording.draw low high s).2.1) =
      g.draw low high s.1 := by
  unfold recording
  rcases h : g.draw low high s.1 with ⟨_ | v, next⟩ <;> simp [h]

end Generator

/-! ## Numbers from bits -/

/-- The number of binary digits of a number. -/
def bitLength (n : Nat) : Nat := if n = 0 then 0 else n.log2 + 1

/-- A number below `n` from as many bits as `n` has, in at most `tries` tries. -/
def below {σ : Type} (bits : Nat → σ → Nat × σ) (n : Nat) : Nat → σ → Option Nat × σ
  | 0, s => (none, s)
  | tries + 1, s =>
    let (r, s) := bits (bitLength n) s
    if r < n then (some r, s) else below bits n tries s

/-- The search for a number ends after so many tries.  The bound is one of this library:
nothing says that a generator finds a number by then. -/
def tries : Nat := 4096

namespace Raised

/-- There is no number between bounds in the wrong order. -/
def emptyRange (low high : Int) : Raised where
  name := "ValueError"
  message := "empty range for randrange() (" ++ toString low ++ ", " ++ toString (high + 1) ++
    ", " ++ toString (high + 1 - low) ++ ")"

def outOfTries : Raised where
  name := "RuntimeError"
  message := "no number found"

end Raised

/-- Numbers between two bounds from the bits of a source.  Bits that give too large a
number are passed over, so that all numbers are equally likely if the bits are. -/
def Generator.ofBits {σ : Type} (bits : Nat → σ → Nat × σ) : Generator σ where
  draw low high s :=
    if high < low then (.error (.emptyRange low high), s)
    else
      match below bits (high - low + 1).toNat tries s with
      | (some r, s) => (.ok (low + r), s)
      | (none, s) => (.error .outOfTries, s)

/-! ## The generator of the system -/

/-- Bytes that the system hands out, from the next one on.  Which bytes they are is
decided outside. -/
structure SystemBytes where
  byte : Nat → UInt8

namespace SystemBytes

/-- A number of `k` bits from as many bytes as it takes, the first byte the highest. -/
def bits (k : Nat) (t : SystemBytes) : Nat × SystemBytes :=
  let count := (k + 7) / 8
  let number := (List.range count).foldl (fun n i => n * 256 + (t.byte i).toNat) 0
  (number >>> (8 * count - k), ⟨fun i => t.byte (count + i)⟩)

def generator : Generator SystemBytes := .ofBits bits

end SystemBytes
end DiceRoller

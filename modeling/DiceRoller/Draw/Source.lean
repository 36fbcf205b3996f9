import DiceRoller.Draw.Twister

/-!
The generators that a roll can be given, as one generator.
-/

namespace DiceRoller

inductive Source where
  | system (bytes : SystemBytes)
  | seeded (twister : Twister)
  /-- The values that are left, and those to start over with. -/
  | scripted (values again : List Int)

namespace Source

/-- The generator for a seed. -/
def ofSeed (seed : Int) : Source := seeded (.ofSeed seed)

/-- The name under which a generator is reported. -/
def name : Source → String
  | system _ => "SystemRandom"
  | seeded _ => "Random"
  | scripted _ _ => "ScriptedRng"

/-- Each kind of source answers as its own generator and stays of its kind. -/
def generator : Generator Source where
  draw low high
    | system bytes =>
      let (v, bytes) := SystemBytes.generator.draw low high bytes
      (v, system bytes)
    | seeded t =>
      let (v, t) := Twister.generator.draw low high t
      (v, seeded t)
    | scripted values again =>
      let (v, values) := (Generator.script again).draw low high values
      (v, scripted values again)

/-- A draw does not change the kind of a source. -/
theorem name_draw (low high : Int) (s : Source) : (generator.draw low high s).2.name = s.name := by
  cases s <;> rfl

/-- Draw one number from 1 to each of the given bounds. -/
def drawEach : List Int → Source → Except Raised (List Int) × Source
  | [], s => (.ok [], s)
  | n :: ns, s =>
    match generator.draw 1 n s with
    | (.error e, s) => (.error e, s)
    | (.ok v, s) =>
      let (vs, s) := drawEach ns s
      (vs.map (v :: ·), s)

end Source
end DiceRoller

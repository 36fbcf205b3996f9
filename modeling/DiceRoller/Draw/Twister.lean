import DiceRoller.Draw

/-!
The Mersenne Twister with 624 words of 32 bits, and whole numbers drawn from it.

The words come in blocks.  A block is computed from the one before it, and each of
its words is tempered when it is used.  The bits of a number are leading bits of the
next words.
-/

namespace DiceRoller

/-- A block of words and how many of them are used up. -/
structure Twister where
  block : Array UInt32
  used : Nat

namespace Twister

/-- The number of words in a block. -/
def size : Nat := 624

/-- How far back the second word lies that enters a new word. -/
def offset : Nat := 397

def word (ws : Array UInt32) (i : Nat) : UInt32 := ws.getD i 0

/-- The high bit of one word and the low bits of the next, shifted right, with a
constant added if the bit shifted out is set. -/
def twist (high low : UInt32) : UInt32 :=
  let y := (high &&& 0x80000000) ||| (low &&& 0x7FFFFFFF)
  (y >>> 1) ^^^ (if y &&& 1 == 0 then 0 else 0x9908B0DF)

/-- Add `n` new words to a sequence, from its word at `i` on. -/
def extend : Nat → Nat → Array UInt32 → Array UInt32
  | 0, _, ws => ws
  | n + 1, i, ws =>
    extend n (i + 1)
      (ws.push (word ws (i + offset) ^^^ twist (word ws i) (word ws (i + 1))))

/-- The block after a block. -/
def nextBlock (ws : Array UInt32) : Array UInt32 :=
  (extend size 0 ws).extract size (2 * size)

/-- Spread the bits of a word before it is used. -/
def temper (y : UInt32) : UInt32 :=
  let y := y ^^^ (y >>> 11)
  let y := y ^^^ ((y <<< 7) &&& 0x9D2C5680)
  let y := y ^^^ ((y <<< 15) &&& 0xEFC60000)
  y ^^^ (y >>> 18)

/-- The next word. -/
def next (t : Twister) : UInt32 × Twister :=
  let t := if t.used < size then t else ⟨nextBlock t.block, 0⟩
  (temper (word t.block t.used), { t with used := t.used + 1 })

/-! ## Seeding -/

/-- What a word passes on to the word after it during seeding. -/
def carry (w : UInt32) : UInt32 := w ^^^ (w >>> 30)

/-- Add `n` words to a sequence, each from the one before it and its place. -/
def fill : Nat → Array UInt32 → Array UInt32
  | 0, ws => ws
  | n + 1, ws =>
    let i := ws.size
    fill n (ws.push (1812433253 * carry (word ws (i - 1)) + i.toUInt32))

/-- The block that seeding starts from. -/
def startBlock : Array UInt32 := fill (size - 1) #[19650218]

/-- The place after `i` in a round through a block.  A round leaves out the first
word, which takes over the last one instead. -/
def nextPlace (i : Nat) (ws : Array UInt32) : Nat × Array UInt32 :=
  if i + 1 < size then (i + 1, ws) else (1, ws.setIfInBounds 0 (word ws (size - 1)))

/-- Mix the words of the key into a block, `n` steps from place `i` of the block
and `j` of the key. -/
def mixKey (key : Array UInt32) : Nat → Nat → Nat → Array UInt32 → Nat × Array UInt32
  | 0, i, _, ws => (i, ws)
  | n + 1, i, j, ws =>
    let w := (word ws i ^^^ (carry (word ws (i - 1)) * 1664525)) + word key j + j.toUInt32
    let (i', ws) := nextPlace i (ws.setIfInBounds i w)
    mixKey key n i' (if j + 1 < key.size then j + 1 else 0) ws

/-- Mix a block with itself, `n` steps from place `i`. -/
def mixPlaces : Nat → Nat → Array UInt32 → Array UInt32
  | 0, _, ws => ws
  | n + 1, i, ws =>
    let w := (word ws i ^^^ (carry (word ws (i - 1)) * 1566083941)) - i.toUInt32
    let (i', ws) := nextPlace i (ws.setIfInBounds i w)
    mixPlaces n i' ws

/-- The first `n` words of a number, the lowest first. -/
def lowWords : Nat → Nat → List UInt32
  | 0, _ => []
  | n + 1, k => k.toUInt32 :: lowWords n (k / 2 ^ 32)

/-- The words of a number, at least one. -/
def keyOf (k : Nat) : Array UInt32 :=
  (lowWords (k.log2 / 32 + 1) k).toArray

/-- The generator for a seed.  A seed and its negative give the same one. -/
def ofSeed (seed : Int) : Twister :=
  let key := keyOf seed.natAbs
  let (i, ws) := mixKey key (max size key.size) 1 0 startBlock
  ⟨(mixPlaces (size - 1) i ws).setIfInBounds 0 0x80000000, size⟩

/-! ## Numbers -/

/-- A number of `k` bits from `n` words, the low bits first.  The last word gives
the bits that are still missing. -/
def bits : Nat → Nat → Twister → Nat × Twister
  | 0, _, t => (0, t)
  | n + 1, k, t =>
    let (w, t) := t.next
    if k < 32 then (w.toNat >>> (32 - k), t)
    else
      let (rest, t) := bits n (k - 32) t
      (w.toNat + 2 ^ 32 * rest, t)

/-- Answers with the numbers of the words to come. -/
def generator : Generator Twister := .ofBits fun k => bits ((k + 31) / 32) k

end Twister
end DiceRoller

import DiceRoller.Text.Quoted

/-!
What is stamped on a report: an identifier of its own and the time of the roll.

The number of the identifier and the moment come from outside.  They are handed in with
each roll, and what is reported is how they are written.
-/

namespace DiceRoller

/-- A number with zeros in front of it, in `width` places or more. -/
def zeroPadded (width n : Nat) : String :=
  String.ofList ((Nat.toDigits 10 n).leftpad width '0')

/-- A moment of universal time, to the second. -/
structure Moment where
  year : Nat
  month : Nat
  day : Nat
  hour : Nat
  minute : Nat
  second : Nat
  deriving DecidableEq, Repr

/-- The date, the time of the day, and the letter for universal time. -/
def Moment.text (m : Moment) : String :=
  zeroPadded 4 m.year ++ "-" ++ zeroPadded 2 m.month ++ "-" ++ zeroPadded 2 m.day ++ "T" ++
    zeroPadded 2 m.hour ++ ":" ++ zeroPadded 2 m.minute ++ ":" ++ zeroPadded 2 m.second ++ "Z"

structure Stamp where
  number : BitVec 128
  moment : Moment
  deriving DecidableEq, Repr

namespace Stamp

/-- The number in hexadecimal digits. -/
def id (s : Stamp) : String := String.ofList (Text.hexDigits 32 s.number.toNat)

def time (s : Stamp) : String := s.moment.text

theorem length_id (s : Stamp) : s.id.length = 32 := by
  rw [id, String.length_ofList, Text.length_hexDigits]

example : Stamp.time ⟨0, ⟨2024, 2, 9, 7, 5, 0⟩⟩ = "2024-02-09T07:05:00Z" := by decide

end Stamp
end DiceRoller

import DiceRoller.Text.Printable

/-!
Quoted text.  A quoted text stands between two quotation marks on one line,
with every character that would not be shown as itself written as an escape.
-/

namespace DiceRoller
namespace Text

/-- The last `width` hexadecimal digits of a number, in small letters. -/
def hexDigits : Nat → Nat → List Char
  | 0, _ => []
  | width + 1, n => hexDigits width (n / 16) ++ [Nat.digitChar (n % 16)]

theorem length_hexDigits (width n : Nat) : (hexDigits width n).length = width := by
  induction width generalizing n with
  | zero => rfl
  | succ width ih => simp [hexDigits, ih]

/-- The escape of a character by its code point, in the shortest of three
lengths. -/
def codeEscape (c : Char) : List Char :=
  let n := c.toNat
  if n < 0x100 then '\\' :: 'x' :: hexDigits 2 n
  else if n < 0x10000 then '\\' :: 'u' :: hexDigits 4 n
  else '\\' :: 'U' :: hexDigits 8 n

/-- A character as it is written between two quotation marks `mark`.  The
argument `shown` says which characters are shown as themselves. -/
def escaped (shown : Char → Bool) (mark c : Char) : List Char :=
  if c == mark || c == '\\' then ['\\', c]
  else if c == '\n' then ['\\', 'n']
  else if c == '\r' then ['\\', 'r']
  else if c == '\t' then ['\\', 't']
  else if shown c then [c]
  else codeEscape c

/-- The quotation mark for a text: the apostrophe, unless the text has
apostrophes and no double quotation mark. -/
def quotationMark (cs : List Char) : Char :=
  if cs.contains '\'' && !cs.contains '"' then '"' else '\''

/-- A text between quotation marks.  What counts as shown is an argument, since
no law of quoting depends on it. -/
def quotedWith (shown : Char → Bool) (cs : List Char) : List Char :=
  let mark := quotationMark cs
  mark :: cs.flatMap (escaped shown mark) ++ [mark]

def quotedBy (shown : Char → Bool) (text : String) : String :=
  String.ofList (quotedWith shown text.toList)

/-- A text between quotation marks, its printable characters shown. -/
def quoted (text : String) : String := quotedBy isPrintable text

end Text
end DiceRoller

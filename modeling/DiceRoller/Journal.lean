import DiceRoller.Table
import DiceRoller.Text.UpperCase

/-!
The journal: records with a level of severity, and the places that show them.
The console shows what reaches the level it is set to, and a file, if there is
one, everything from `debug` on.
-/

namespace DiceRoller

inductive Severity where
  | trace
  | debug
  | info
  | success
  | warning
  | error
  | critical
  deriving DecidableEq, Repr

namespace Severity

def name : Severity → String
  | trace => "TRACE"
  | debug => "DEBUG"
  | info => "INFO"
  | success => "SUCCESS"
  | warning => "WARNING"
  | error => "ERROR"
  | critical => "CRITICAL"

/-- All levels, the lowest first. -/
def all : List Severity := [trace, debug, info, success, warning, error, critical]

/-- How many levels are below a level. -/
def rank : Severity → Nat
  | trace => 0
  | debug => 1
  | info => 2
  | success => 3
  | warning => 4
  | error => 5
  | critical => 6

/-- The level of a name, which has to be spelled exactly. -/
def ofName? (name : String) : Option Severity :=
  all.find? (·.name == name)

@[simp] theorem ofName?_name (s : Severity) : ofName? s.name = some s := by
  cases s <;> decide

/-- The name of a level in a column as wide as the longest name. -/
def column (s : Severity) : String := Alignment.left.pad s.name 8

end Severity

structure Record where
  severity : Severity
  message : String
  deriving DecidableEq, Repr

/-- A name that is no level. -/
structure UnknownLevel where
  name : String
  deriving DecidableEq, Repr

def UnknownLevel.message (u : UnknownLevel) : String :=
  "Level '" ++ u.name ++ "' does not exist"

/-- The level of a name, or the complaint that it is none. -/
def Severity.named (name : String) : Except UnknownLevel Severity :=
  match ofName? name with
  | some s => .ok s
  | none => .error ⟨name⟩

/-- Where records go. -/
structure Journal where
  /-- The lowest level that the console shows. -/
  console : Severity
  /-- Whether there is a file. -/
  file : Bool
  deriving DecidableEq, Repr

/-- What the places of a journal show. -/
structure Shown where
  console : List Record
  file : Option (List Record)
  deriving DecidableEq, Repr

namespace Journal

/-- The level of a console for which none is asked. -/
def defaultLevel : String := "INFO"

/-- Set up a journal.  The level named in the environment wins over the one asked
for, also if it is empty, and case does not matter in either. -/
def setUp (asked environment : Option String) (file : Bool) : Except UnknownLevel Journal :=
  let name := (environment.or asked).getD defaultLevel
  (Severity.named (Text.upper name)).map (Journal.mk · file)

/-- The records of at least a level, in order. -/
def atLeast (s : Severity) (rs : List Record) : List Record :=
  rs.filter (fun r => s.rank ≤ r.severity.rank)

def display (j : Journal) (rs : List Record) : Shown where
  console := atLeast j.console rs
  file := if j.file then some (atLeast .debug rs) else none

/-- Messages with the names of their levels as records.  Here case matters. -/
def records : List (String × String) → Except UnknownLevel (List Record)
  | [] => .ok []
  | (name, message) :: rest => do
    let s ← Severity.named name
    let rs ← records rest
    return ⟨s, message⟩ :: rs

end Journal
end DiceRoller

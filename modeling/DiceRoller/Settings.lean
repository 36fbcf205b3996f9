import DiceRoller.Draw.Source
import DiceRoller.Text.WholeNumber

/-!
Settings of the service, read from variables of the environment and from a file
of assignments.  A variable of the environment wins over an assignment, the case
of names does not matter, and unknown names are passed over.
-/

namespace DiceRoller

/-! ## Paths -/

/-- The root that a path starts from.  Two slashes are a root of their own, and
any other number of them is the root of the file system. -/
def pathRoot (slashes : Nat) : List Char :=
  if slashes = 0 then [] else if slashes = 2 then ['/', '/'] else ['/']

/-- A path in its normal form: without empty steps and steps that stay where they
are.  The path without steps is the current directory. -/
def normalPath (text : String) : String :=
  let cs := text.toList
  let root := pathRoot (cs.takeWhile (· == '/')).length
  let steps := (Text.pieces (· == '/') cs).filter (fun s => s != [] && s != ['.'])
  let path := root ++ ['/'].intercalate steps
  if path.isEmpty then "." else String.ofList path

/-! ## Variables -/

/-- Names with their values, no name twice, in the order in which the names were
first set. -/
abbrev Variables := List (String × String)

namespace Variables

/-- Set a variable.  A name that is there already keeps its place. -/
def set (name value : String) : Variables → Variables
  | [] => [(name, value)]
  | v :: vs => if v.1 == name then (name, value) :: vs else v :: set name value vs

/-- The variables of a list of assignments, made one after the other. -/
def ofAssignments (assignments : List (String × String)) : Variables :=
  assignments.foldl (fun vs a => vs.set a.1 a.2) []

/-- The value of a variable.  The name is given in small letters.  Of the names
that differ from it by their case only, the one that was first set latest counts.
No letter outside ASCII is the capital of a letter in one of the names asked for. -/
def value? (vs : Variables) (name : String) : Option String :=
  (vs.reverse.find? (fun v => v.1.toLower == name)).map (·.2)

/-- A variable that is set has its new value in its place, and no other variable
moves. -/
theorem set_names (name value : String) (vs : Variables) :
    (set name value vs).map Prod.fst =
      if name ∈ vs.map Prod.fst then vs.map Prod.fst else vs.map Prod.fst ++ [name] := by
  induction vs with
  | nil => rfl
  | cons v vs ih =>
      by_cases h : v.1 = name
      · simp [set, h]
      · simp only [set, beq_iff_eq, h, if_false, List.map_cons, ih, List.mem_cons,
          Ne.symm h, false_or]
        split <;> simp

end Variables

/-! ## Files of assignments -/

/-- The part of a value before a comment, which starts with a blank and a number
sign. -/
def beforeComment : List Char → List Char
  | [] => []
  | c :: cs =>
    if Text.isBlank c && (cs.dropWhile Text.isBlank).head? == some '#' then []
    else c :: beforeComment cs

/-- The assignment on a line: a name, an equals sign and a value.  A line that
starts with a number sign is a comment.  A number sign right after the equals sign
belongs to the value. -/
def assignment? (line : List Char) : Option (String × String) :=
  match Text.cutWhile (· != '=') (line.dropWhile Text.isBlank) with
  | (name, _ :: value) =>
    if name.head? == some '#' then none
    else
      some (String.ofList (Text.trimEnd Text.isBlank name),
        String.ofList (Text.trim Text.isBlank (beforeComment value)))
  | (_, []) => none

/-- A text without the byte order mark that may stand before it. -/
def withoutMark : List Char → List Char
  | '\uFEFF' :: cs => cs
  | cs => cs

/-- The variables that a file sets, one to a line. -/
def fileVariables (text : String) : Variables :=
  .ofAssignments <|
    (Text.pieces (fun c => c == '\n' || c == '\r') (withoutMark text.toList)).filterMap
      assignment?

/-! ## Settings -/

structure Settings where
  serverName : String
  logLevel : String
  /-- The directory of the log file, if there is to be one. -/
  logPath : Option String
  logRotation : String
  logRetention : String
  /-- With a seed, one generator serves all requests and its numbers repeat from
  one start of the service to the next. -/
  seed : Option Int
  deriving DecidableEq, Repr

/-- A setting whose value cannot be read. -/
structure InvalidSetting where
  field : String
  deriving DecidableEq, Repr

namespace Settings

/-- The settings that no variable changes. -/
def standard : Settings where
  serverName := "mcp-tabletop-dice"
  logLevel := "INFO"
  logPath := none
  logRotation := "10 MB"
  logRetention := "7 days"
  seed := none

/-- The value of a variable of the service. -/
def given? (environment file : Variables) (field : String) : Option String :=
  let name := "dice_" ++ field
  (environment.value? name).or (file.value? name)

/-- Read the seed, which has to be a whole number. -/
def readSeed : Option String → Except InvalidSetting (Option Int)
  | none => .ok standard.seed
  | some text =>
    match Text.wholeNumber? text with
    | none => .error ⟨"rng_seed"⟩
    | some seed => .ok (some seed)

/-- Read the settings.  Only the seed can be at fault: every other value is a text
and is taken as it is. -/
def read (environment file : Variables) : Except InvalidSetting Settings :=
  let value? := given? environment file
  (readSeed (value? "rng_seed")).map fun seed => {
    serverName := (value? "server_name").getD standard.serverName
    logLevel := (value? "log_level").getD standard.logLevel
    logPath := (value? "log_path").map normalPath
    logRotation := (value? "log_rotation").getD standard.logRotation
    logRetention := (value? "log_retention").getD standard.logRetention
    seed }

/-- The generator that a service with these settings starts with, which is that of the
system unless there is a seed. -/
def source (s : Settings) (system : SystemBytes) : Source :=
  match s.seed with
  | none => .system system
  | some seed => .ofSeed seed

/-- Whether all requests are served by one generator. -/
def sharesSource (s : Settings) : Bool := s.seed.isSome

/-- Numbers drawn by requests one after the other, each from 1 to one of the given
bounds.  Without a seed there is nothing to foretell. -/
def rolls? (s : Settings) (bounds : List Int) : Option (List Int) :=
  s.seed.bind fun seed => (Source.drawEach bounds (.ofSeed seed)).1.toOption

end Settings
end DiceRoller

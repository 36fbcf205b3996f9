import DiceRoller.Number
import DiceRoller.Text.Quoted

/-!
Faults: why a request was refused.  A fault names the text that was being read
at its level of the grammar and holds the fault of the level below, down to the
innermost one.  The message of a fault tells the whole chain, one line for each
level that names a text.
-/

namespace DiceRoller

/-- What is wrong with the rule for keeping dice. -/
inductive KeepIssue where
  | malformed
  | advantage
  | disadvantage
  deriving DecidableEq, Repr

/-- The part of a group of dice that is wrong. -/
inductive GroupIssue where
  | count
  | sides
  | keep
  deriving DecidableEq, Repr

/-- What is wrong with a word of the request. -/
inductive WordIssue where
  | malformed
  | group
  | constant
  deriving DecidableEq, Repr

/-- A level of the grammar above that of numbers, and what is wrong there. -/
inductive Site where
  | keep (issue : KeepIssue)
  | group (issue : GroupIssue)
  | word (issue : WordIssue)
  deriving DecidableEq, Repr

namespace Site

def typeName : Site → String
  | keep _ => "ModifierError"
  | group _ => "DieError"
  | word _ => "TokenError"

def kindName : Site → String
  | keep .malformed => "INVALID"
  | keep .advantage => "ADVANTAGE"
  | keep .disadvantage => "DISADVANTAGE"
  | group .count => "COUNT"
  | group .sides => "SIDES"
  | group .keep => "MODIFIER"
  | word .malformed => "INVALID"
  | word .group => "DIE"
  | word .constant => "CONSTANT"

def text : Site → String
  | keep .malformed => "Invalid modifier"
  | keep .advantage => "Advantage count"
  | keep .disadvantage => "Disadvantage count"
  | group .count => "Count"
  | group .sides => "Sides"
  | group .keep => "Modifier"
  | word .malformed => "Invalid token"
  | word .group => "Die"
  | word .constant => "Constant"

end Site

/-- A reason for refusing a request. -/
inductive Fault where
  /-- The text `token` is no number of its place. -/
  | number (token : String) (issue : NumberIssue)
  /-- The number of dice to keep could not be read. -/
  | unreadableTake (cause : Fault)
  /-- More dice are to be kept than are rolled. -/
  | greedyTake (take count : Int)
  /-- The text `token` is wrong at `site`, for no deeper cause. -/
  | bare (site : Site) (token : String)
  /-- The text `token` is wrong at `site` because of `cause`. -/
  | within (site : Site) (token : String) (cause : Fault)
  /-- The request has no words. -/
  | noWords (message : String)
  deriving DecidableEq, Repr

namespace Fault

/-- The request without words, told as a user should see it. -/
def emptyRequest : Fault :=
  noWords "No tokens to roll. Example: 'd20 +3' or '4d6:dis3'."

def typeName : Fault → String
  | number _ _ => "NumberError"
  | unreadableTake _ | greedyTake _ _ => "TakeError"
  | bare site _ | within site _ _ => site.typeName
  | noWords _ => "EmptyRequestError"

/-- The line that introduces what is wrong with `token`. -/
def heading (token : String) : String :=
  "Error parsing `" ++ token ++ "`.\n"

/-- The fault as a user sees it. -/
def message : Fault → String
  | number token issue => heading token ++ issue.text
  | unreadableTake cause => cause.message
  | greedyTake take count =>
    "dice to leave (" ++ toString take ++ ") cannot be more than dice thrown (" ++
      toString count ++ ")"
  | bare site token => heading token ++ site.text
  | within site token cause => heading token ++ (site.text ++ ": " ++ cause.message)
  | noWords text => text

/-- What is wrong, without the line that introduces it.  Only a fault that names
a text has such a line. -/
def describe? : Fault → Option String
  | number _ issue => some issue.text
  | bare site _ => some site.text
  | within site _ cause => some (site.text ++ ": " ++ cause.message)
  | unreadableTake _ | greedyTake _ _ | noWords _ => none

/-- The message of a fault that names a text is its heading and description. -/
theorem message_within (site : Site) (token : String) (cause : Fault) :
    (within site token cause).message =
      heading token ++ (site.text ++ ": " ++ cause.message) := rfl

/-- A level of the chain, spelled out with its fields. -/
def field (shown : Char → Bool) (type token kind cause : String) : String :=
  type ++ "(token=" ++ Text.quotedBy shown token ++ ", kind=" ++ type ++ "Kind." ++ kind ++
    ", inner=" ++ cause ++ ")"

/-- The fault spelled out in full, every field of every level.  Texts are quoted,
so the spelling can be told apart from what they hold.  Which of their characters
are shown is an argument. -/
def spellingWith (shown : Char → Bool) : Fault → String
  | number token issue => field shown "NumberError" token issue.name "None"
  | unreadableTake cause => "TakeError.parse(" ++ cause.spellingWith shown ++ ")"
  | greedyTake take count =>
    "TakeError.more_than_dice(take=" ++ toString take ++ ", count=" ++ toString count ++ ")"
  | bare site token => field shown site.typeName token site.kindName "None"
  | within site token cause =>
    field shown site.typeName token site.kindName (cause.spellingWith shown)
  | noWords text => "EmptyRequestError(" ++ Text.quotedBy shown text ++ ")"

/-- The fault spelled out, printable characters shown. -/
def spelling (a : Fault) : String := a.spellingWith Text.isPrintable

/-- Whether two faults are the same all the way down.  Two requests without words
are two events, so their faults are never the same. -/
def same : Fault → Fault → Bool
  | number s i, number t j => s == t && i == j
  | unreadableTake a, unreadableTake b => same a b
  | greedyTake m n, greedyTake k l => m == k && n == l
  | bare s x, bare t y => s == t && x == y
  | within s x a, within t y b => s == t && x == y && same a b
  | _, _ => false

/-- Faults that are the same hold the same at every level. -/
theorem eq_of_same {a b : Fault} (h : a.same b = true) : a = b := by
  induction a generalizing b with
  | unreadableTake cause ih =>
      cases b with
      | unreadableTake cause' => rw [ih h]
      | _ => simp [same] at h
  | within site token cause ih =>
      cases b with
      | within site' token' cause' =>
          simp only [same, Bool.and_eq_true, beq_iff_eq] at h
          obtain ⟨⟨rfl, rfl⟩, hcause⟩ := h
          rw [ih hcause]
      | _ => simp [same] at h
  | _ => cases b <;> simp_all [same]

/-- A fault of a word or of a part of it.  Numbers have no deeper cause, a number of dice
that could not be read has that of the number, and any fault may be the cause at a site. -/
inductive Formed : Fault → Prop
  | number {token : String} {issue : NumberIssue} : Formed (number token issue)
  | unreadableTake {token : String} {issue : NumberIssue} :
      Formed (unreadableTake (number token issue))
  | greedyTake {take count : Int} : Formed (greedyTake take count)
  | bare {site : Site} {token : String} : Formed (bare site token)
  | within {site : Site} {token : String} {cause : Fault} (hcause : Formed cause) :
      Formed (within site token cause)

theorem Formed.same_iff_eq {a b : Fault} (ha : a.Formed) : a.same b = true ↔ a = b := by
  constructor
  · exact eq_of_same
  · rintro rfl
    induction ha with
    | within _ ih => simp [same, ih]
    | _ => simp [same]

/-- What a fault is filed under: its outermost level without the cause. -/
inductive Key where
  | number (token : String) (issue : NumberIssue)
  | unreadableTake
  | greedyTake (take count : Int)
  | site (site : Site) (token : String)
  deriving DecidableEq, Repr

/-- The key of a fault.  A request without words is filed under no key. -/
def key? : Fault → Option Key
  | number token issue => some (.number token issue)
  | unreadableTake _ => some .unreadableTake
  | greedyTake take count => some (.greedyTake take count)
  | bare site token | within site token _ => some (.site site token)
  | noWords _ => none

/-- Whether two faults are filed under the same key. -/
def sameKey (a b : Fault) : Bool :=
  a.key?.isSome && a.key? == b.key?

/-- Faults that are the same are filed together. -/
theorem sameKey_of_same {a b : Fault} (h : a.same b = true) : a.sameKey b = true := by
  cases a <;> cases b <;> simp_all [same, sameKey, key?]

end Fault
end DiceRoller

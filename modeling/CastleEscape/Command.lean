import CastleEscape.Castle.Direction
import CastleEscape.Text.Blank

/-!
# Commands

What a typed line means. A line that is a direction word and nothing else is a move; any other line
is known by its first letter alone, and whatever follows its first space is the object.
-/

namespace CastleEscape

inductive Verb where
  | help | inventory | go | look | take | examine | use | drop | quit
  deriving DecidableEq

namespace Verb

def all : List Verb :=
  [help, inventory, go, look, take, examine, use, drop, quit]

def name : Verb → String
  | help => "help"
  | inventory => "inventory"
  | go => "go"
  | look => "look"
  | take => "take"
  | examine => "examine"
  | use => "use"
  | drop => "drop"
  | quit => "quit"

/-- The letter with which a line has to begin to mean this verb. -/
def letter : Verb → Char
  | help => 'h'
  | inventory => 'i'
  | go => 'g'
  | look => 'l'
  | take => 't'
  | examine => 'e'
  | use => 'u'
  | drop => 'd'
  | quit => 'q'

def ofLetter? (letter : Char) : Option Verb :=
  all.find? fun verb => verb.letter == letter.toLower

@[simp] theorem mem_all (verb : Verb) : verb ∈ all := by
  cases verb <;> decide

end Verb

/-- A command without an object is one whose object was not typed. -/
inductive Command where
  | help
  | inventory
  | look
  | go (target : Option String)
  | take (object : Option String)
  | examine (object : Option String)
  | use (object : Option String)
  | drop (object : Option String)
  | quit
  | unknown
  deriving DecidableEq

namespace Command

/-- The command that a verb makes with an object, which not every verb looks at. -/
def ofVerb (verb : Verb) (object : Option String) : Command :=
  match verb with
  | .help => help
  | .inventory => inventory
  | .look => look
  | .go => go object
  | .take => take object
  | .examine => examine object
  | .use => use object
  | .drop => drop object
  | .quit => quit

/-- The command on a line, unless the line is blank. -/
def parse? (line : String) : Option Command :=
  let text := Text.trim line
  match text.toList with
  | [] => none
  | first :: _ =>
    if (Direction.ofWord? text).isSome then some (go (some text))
    else
      match Verb.ofLetter? first with
      | none => some unknown
      | some verb => some (ofVerb verb (Text.afterFirstSpace? text))

end Command

end CastleEscape

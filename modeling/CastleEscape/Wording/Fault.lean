import CastleEscape.Text.Blank
import CastleEscape.Text.LowerCase
import CastleEscape.Wording.Script

/-!
# Faults of a script

What is wrong with a script that cannot be played: a text is missing, a key is no symbol, the help
or the name of an item is blank, or two items share a name, which the player could not tell apart.
Faults are listed in a fixed order.
-/

namespace CastleEscape

/-- What a key of a script can stand for. -/
inductive Subject where
  | room | item | closeUp | message
  deriving DecidableEq

def Subject.name : Subject → String
  | room => "location"
  | item => "item"
  | closeUp => "examine"
  | message => "message"

/-- What can be wrong with a text that is there. -/
inductive Flaw where
  | blankHelp
  | blankName (item : Item)
  /-- The name, in lower case, of more than one item. -/
  | sharedName (name : String)
  deriving DecidableEq

def Flaw.describe : Flaw → String
  | blankHelp => "help text is empty"
  | blankName item => "item '" ++ item.symbol ++ "' has a blank name"
  | sharedName name => "item name '" ++ name ++ "' is used twice"

inductive Fault where
  | missingText (subject : Subject) (symbol : String)
  | unknownSymbol (subject : Subject) (symbol : String)
  | unusableText (flaw : Flaw)
  deriving DecidableEq

namespace Fault

def describe : Fault → String
  | missingText subject symbol => "no text for " ++ subject.name ++ " '" ++ symbol ++ "'"
  | unknownSymbol subject symbol => "unknown " ++ subject.name ++ " symbol '" ++ symbol ++ "'"
  | unusableText flaw => "invalid value (" ++ flaw.describe ++ ")"

/-- One line for each fault, after a heading. -/
def report (faults : List Fault) : String :=
  "\n".intercalate
    ("text table failed validation:" :: faults.map fun fault => "- " ++ fault.describe)

end Fault

namespace Script

def helpFaults (script : Script) : List Fault :=
  if Text.isBlankText script.help then [.unusableText .blankHelp] else []

def roomFaults (script : Script) : List Fault :=
  (Room.all.filter fun room => !script.rooms.contains room.symbol).map fun room =>
    .missingText .room room.symbol

def itemFaults (script : Script) : List Fault :=
  Item.all.filterMap fun item =>
    match script.items.find? item.symbol with
    | none => some (.missingText .item item.symbol)
    | some name =>
      if Text.isBlankText name then some (.unusableText (.blankName item)) else none

def messageFaults (script : Script) : List Fault :=
  (Message.all.filter fun message => !script.messages.contains message.symbol).map fun message =>
    .missingText .message message.symbol

def unknownKeys (subject : Subject) (isKnown : String → Bool) (lexicon : Lexicon) : List Fault :=
  (lexicon.keys.filter fun key => !isKnown key).map (.unknownSymbol subject)

def keyFaults (script : Script) : List Fault :=
  unknownKeys .room (fun key => (Room.ofSymbol? key).isSome) script.rooms ++
    unknownKeys .item (fun key => (Item.ofSymbol? key).isSome) script.items ++
    unknownKeys .closeUp (fun key => (Item.ofSymbol? key).isSome) script.closeUps ++
    unknownKeys .message (fun key => (Message.ofSymbol? key).isSome) script.messages

/-- Every element that is equal to the one after it. -/
def repeats : List String → List String
  | a :: b :: rest => if a = b then a :: repeats (b :: rest) else repeats (b :: rest)
  | _ => []

/-- The lower-cased names in alphabetical order. -/
def sortedNames (script : Script) : List String :=
  (script.items.texts.map Text.lowerCase).mergeSort fun a b => decide (a ≤ b)

def nameFaults (script : Script) : List Fault :=
  (repeats script.sortedNames).map fun name => .unusableText (.sharedName name)

def faults (script : Script) : List Fault :=
  script.helpFaults ++ script.roomFaults ++ script.itemFaults ++ script.messageFaults ++
    script.keyFaults ++ script.nameFaults

end Script

end CastleEscape

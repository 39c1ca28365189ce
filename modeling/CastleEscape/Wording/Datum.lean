import CastleEscape.Wording.Script

/-!
# Data

Data trees, as documents hold them, and the script that is read out of one.

A script is a table with its fields by name, or a list with them in their order; the intro and the
help have to be there, a lexicon that is not there is empty. A table may have more than these
fields, a list may not.
-/

namespace CastleEscape

inductive Datum where
  | null
  | bool (value : Bool)
  | integer (value : Int)
  /-- A number with a fraction or an exponent, or one that is no number, as it was written. -/
  | decimal (literal : String)
  /-- A date, a time of day or both, as it was written. -/
  | date (literal : String)
  | text (value : String)
  | list (elements : List Datum)
  | table (entries : List (String × Datum))
  deriving Inhabited

namespace Datum

def text? : Datum → Option String
  | text value => some value
  | _ => none

/-- The table that a date is read as where a table is asked for: its only key is this one. -/
def dateKey : String := "$__toml_private_datetime"

def lexicon? : Datum → Option Lexicon
  | table entries => do
    let texts ← entries.mapM fun entry => do return (entry.1, ← entry.2.text?)
    return .ofList texts
  | date literal => some (.ofList [(dateKey, literal)])
  | _ => none

end Datum

namespace Script

/-- A lexicon that may be left out. -/
def lexiconOr : Option Datum → Option Lexicon
  | none => some .empty
  | some datum => datum.lexicon?

def ofFields? (intro help rooms items closeUps messages : Option Datum) : Option Script := do
  return {
    intro := ← (← intro).text?
    help := ← (← help).text?
    rooms := ← lexiconOr rooms
    items := ← lexiconOr items
    closeUps := ← lexiconOr closeUps
    messages := ← lexiconOr messages }

def ofDatum? : Datum → Option Script
  | .table entries =>
    let field (key : String) := entries.lookup key
    ofFields? (field "intro") (field "help") (field "locations") (field "items") (field "examine")
      (field "messages")
  | .list elements =>
    if elements.length ≤ 6 then
      ofFields? elements[0]? elements[1]? elements[2]? elements[3]? elements[4]? elements[5]?
    else none
  | _ => none

def lexiconDatum (lexicon : Lexicon) : Datum :=
  .table (lexicon.entries.map fun entry => (entry.1, .text entry.2))

def toDatum (script : Script) : Datum :=
  .table
    [("intro", .text script.intro), ("help", .text script.help),
     ("locations", lexiconDatum script.rooms), ("items", lexiconDatum script.items),
     ("examine", lexiconDatum script.closeUps), ("messages", lexiconDatum script.messages)]

end Script

end CastleEscape

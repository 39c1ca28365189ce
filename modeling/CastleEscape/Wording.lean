import CastleEscape.Wording.Fault

/-!
# Wordings

A wording is a script without faults: the texts that a game is played with. Every room, item and
message has its text in it. The game itself chooses what to say only by symbols; the one thing for
which it needs a text is the item that a typed name stands for.
-/

namespace CastleEscape

structure Wording where
  script : Script
  faultless : script.faults = []

namespace Wording

def ofScript? (script : Script) : Except (List Fault) Wording :=
  if h : script.faults = [] then .ok ⟨script, h⟩ else .error script.faults

def intro (wording : Wording) : String := wording.script.intro

/-- The help ends with its last character that is not blank. -/
def help (wording : Wording) : String := Text.trimEnd wording.script.help

def room (wording : Wording) (room : Room) : String :=
  (wording.script.rooms.find? room.symbol).getD room.symbol

def item (wording : Wording) (item : Item) : String :=
  (wording.script.items.find? item.symbol).getD item.symbol

def closeUp? (wording : Wording) (item : Item) : Option String :=
  wording.script.closeUps.find? item.symbol

/-- A text without the line feeds at its end. -/
def withoutLastFeeds (text : String) : String :=
  .ofList (text.toList.reverse.dropWhile (· = '\n')).reverse

def message (wording : Wording) (message : Message) : String :=
  ((wording.script.messages.find? message.symbol).map withoutLastFeeds).getD message.symbol

/-- The item whose name a typed name is, in whatever case it was typed. -/
def itemNamed? (wording : Wording) (typed : String) : Option Item :=
  let small := Text.lowerCase typed
  Item.all.find? fun item => Text.lowerCase (wording.item item) == small

theorem ofScript?_ok_iff {script : Script} {wording : Wording} :
    ofScript? script = .ok wording ↔ wording.script = script := by
  unfold ofScript?
  split
  · constructor
    · rintro h; cases h; rfl
    · rintro rfl; rfl
  case isFalse h =>
    constructor
    · intro h'; cases h'
    · rintro rfl; exact absurd wording.faultless h

theorem ofScript?_error_iff {script : Script} {faults : List Fault} :
    ofScript? script = .error faults ↔ script.faults = faults ∧ faults ≠ [] := by
  unfold ofScript?
  split
  case isTrue h => simp [h, eq_comm]
  case isFalse h =>
    constructor
    · intro h'; cases h'; exact ⟨rfl, h⟩
    · rintro ⟨rfl, _⟩; rfl

end Wording

end CastleEscape

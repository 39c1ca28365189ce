import CastleEscape.Castle.Item
import CastleEscape.Castle.Room
import CastleEscape.Wording.Lexicon
import CastleEscape.Wording.Message

/-!
# Scripts

A script holds the texts of one game as someone has written them down, keyed by symbols. Nothing
is promised about it: texts may be missing, and keys may be no symbols.
-/

namespace CastleEscape

structure Script where
  intro : String
  help : String
  /-- Where the player is, by room. -/
  rooms : Lexicon := .empty
  /-- What the player sees and types, by item. -/
  items : Lexicon := .empty
  /-- What a closer look shows, by item. Not every item has such a text. -/
  closeUps : Lexicon := .empty
  messages : Lexicon := .empty

namespace Script

/-- The script in which every text is its own symbol. -/
def ofSymbols : Script where
  intro := "intro"
  help := "help"
  rooms := .ofList (Room.all.map fun room => (room.symbol, room.symbol))
  items := .ofList (Item.all.map fun item => (item.symbol, item.symbol))
  messages := .ofList (Message.all.map fun message => (message.symbol, message.symbol))

end Script

end CastleEscape

import CastleEscape.Castle.Direction
import CastleEscape.Castle.Item
import CastleEscape.Castle.Room
import CastleEscape.Wording.Message

/-!
# Narration

What the game has to say, before it is put into words.
-/

namespace CastleEscape

inductive Narration where
  /-- Where the player is. -/
  | room (room : Room)
  /-- That it is too dark to see what lies here. -/
  | darkness
  | items (items : List Item)
  | exits (directions : List Direction)
  | inventory (items : List Item)
  | help
  | message (message : Message)
  /-- A message with an item in it. -/
  | aboutItem (message : Message) (item : Item)
  /-- A message with something the player typed in it. -/
  | echo (message : Message) (typed : String)
  | towards (message : Message) (direction : Direction)
  /-- A closer look at an item. -/
  | closeUp (item : Item)
  | hazard (message : Message)
  /-- How it all ends. -/
  | finale (message : Message)
  | gameOver (turns : Nat)
  deriving DecidableEq

end CastleEscape

import CastleEscape.Game.World

/-!
# Finding items by name

A typed name has to be the whole name of an item, in any case, and the item has to be where the
player can do something with it.
-/

namespace CastleEscape

/-- Where an item may be found. -/
inductive Scope where
  | carried
  /-- Carried, or lying in this room. -/
  | reachableFrom (room : Room)
  deriving DecidableEq

inductive SearchError where
  | noSuchName (typed : String)
  | outOfScope (typed : String) (item : Item)
  deriving DecidableEq

def SearchError.message : SearchError → String
  | noSuchName typed => "no item named '" ++ typed ++ "'"
  | outOfScope typed item =>
    "'" ++ typed ++ "' names " ++ item.symbol ++ ", which is not in scope"

namespace World

def isInScope (world : World) (item : Item) : Scope → Bool
  | .carried => world.whereabouts.isCarried item
  | .reachableFrom room => world.whereabouts.isWithinReach item room

def find (world : World) (typed : String) (scope : Scope) : Except SearchError Item :=
  match world.wording.itemNamed? typed with
  | none => .error (.noSuchName typed)
  | some item => if world.isInScope item scope then .ok item else .error (.outOfScope typed item)

/-- Finds an item that is carried or lies where the player is. -/
def findHere (world : World) (typed : String) : Except SearchError Item :=
  world.find typed (.reachableFrom world.room)

end World

end CastleEscape

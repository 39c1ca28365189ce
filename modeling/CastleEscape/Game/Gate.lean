import CastleEscape.Game.World

/-!
# The gate

The way out of the castle, which only lets the player pass with every companion at hand.
-/

namespace CastleEscape

namespace Gate

def isCrossedBy (origin : Room) (heading : Direction) : Bool :=
  origin == room && heading == direction

/-- What is said when this companion is missed. -/
def refusal : Item → Message
  | .skye => .needSkye
  | .auntie => .needAuntie
  | .cat => .needCat
  | _ => .needDoll

end Gate

/-- The first companion that is neither carried nor waiting at the gate. -/
def World.missingCompanion? (world : World) : Option Item :=
  Gate.companions.find? fun item => !world.whereabouts.isWithinReach item Gate.room

end CastleEscape

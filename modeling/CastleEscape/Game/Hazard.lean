import CastleEscape.Game.Narration
import CastleEscape.Game.World

/-!
# Hazards

What happens by itself: night falls, the candle burns down, and somebody can be heard crying. It
depends on the turn and on the state of the world, and is looked at after every command.
-/

namespace CastleEscape

inductive Hazard where
  | duskWarning | darknessFalls | candleBlowsOut | boilerCrying
  deriving DecidableEq

namespace Hazard

/-- The turn at which the player is warned of the night. -/
def duskTurn : Nat := 10

/-- The turn at which the player is lost without a light. -/
def darknessTurn : Nat := 20

/-- A candle goes out at every turn that is a multiple of this. -/
def candleTurns : Nat := 15

def message : Hazard → Message
  | duskWarning => .duskWarning
  | darknessFalls => .darknessFalls
  | candleBlowsOut => .candleBlowsOut
  | boilerCrying => .boilerCrying

end Hazard

namespace World

def isDusk (world : World) : Bool :=
  world.turns == Hazard.duskTurn && !world.candleIsLit

def isNightfall (world : World) : Bool :=
  world.turns == Hazard.darknessTurn && !world.candleIsLit

def isCandleBurnt (world : World) : Bool :=
  world.candleIsLit && 0 < world.turns && world.turns % Hazard.candleTurns == 0

def isCryingHeard (world : World) : Bool :=
  world.room == .boiler && !world.auntieIsTied && world.whereabouts.isAbsent .skye

/-- The hazards that are due, in the order in which they strike. Nothing follows nightfall. -/
def hazards (world : World) : List Hazard :=
  (if world.isDusk then [.duskWarning] else []) ++
    if world.isNightfall then [.darknessFalls]
    else
      (if world.isCandleBurnt then [.candleBlowsOut] else []) ++
        if world.isCryingHeard then [.boilerCrying] else []

def struckBy (world : World) : Hazard → World
  | .darknessFalls => world.finish .lost
  | .candleBlowsOut => { world with candleIsLit := false }
  | .duskWarning | .boilerCrying => world

/-- The world after all hazards that are due, with what is said about them. -/
def endure (world : World) : World × List Narration :=
  (world.hazards.foldl struckBy world, world.hazards.map fun hazard => .hazard hazard.message)

/-- Night has fallen and there is no light. -/
def isDark (world : World) : Bool :=
  Hazard.darknessTurn < world.turns && !world.candleIsLit

end World

end CastleEscape

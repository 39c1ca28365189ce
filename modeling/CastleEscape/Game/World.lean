import CastleEscape.Game.FloorPlan
import CastleEscape.Game.Whereabouts
import CastleEscape.Wording

/-!
# The world

Everything that a session of the game changes, together with the wording it is played with, which
nothing changes.
-/

namespace CastleEscape

inductive Ending where
  | won | lost | quit
  deriving DecidableEq

@[ext] structure World where
  wording : Wording
  plan : FloorPlan
  whereabouts : Whereabouts
  room : Room
  turns : Nat
  ending : Option Ending
  candleIsLit : Bool
  auntieIsTied : Bool

namespace World

/-- The world at the beginning of a session. -/
def atStart (wording : Wording) : World where
  wording := wording
  plan := .atStart
  whereabouts := .atStart
  room := .start
  turns := 0
  ending := none
  candleIsLit := false
  auntieIsTied := true

/-- Makes the world of the last session that of the next one, part by part. -/
def restart (world : World) : World :=
  { world with
    plan := world.plan.reset
    whereabouts := world.whereabouts.reset
    room := .start
    turns := 0
    ending := none
    candleIsLit := false
    auntieIsTied := true }

/-- Nothing is left of the last session but the wording. -/
theorem restart_eq_atStart (world : World) : world.restart = .atStart world.wording := by
  rw [restart, world.plan.reset_eq_atStart, world.whereabouts.reset_eq_atStart, atStart]

/-- Ends the session, unless it has ended already. -/
def finish (world : World) (ending : Ending) : World :=
  { world with ending := world.ending.or (some ending) }

def isFinished (world : World) : Bool := world.ending.isSome

/-- Lets one turn pass. -/
def advance (world : World) : World := { world with turns := world.turns + 1 }

def isWithinReach (world : World) (item : Item) : Bool :=
  world.whereabouts.isWithinReach item world.room

def moveItem (world : World) (item : Item) (place : Place) : World :=
  { world with whereabouts := world.whereabouts.move item place }

def reveal (world : World) (way : HiddenWay) : World :=
  { world with plan := world.plan.reveal way }

end World

end CastleEscape

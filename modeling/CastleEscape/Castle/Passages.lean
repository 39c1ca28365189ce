import CastleEscape.Castle.Direction
import CastleEscape.Castle.Room

/-!
# Passages

The map of the castle as it stands before anything is opened. A passage is one-way: the way back is
a passage of its own, and need not exist.
-/

namespace CastleEscape.Room

/-- The ways out of each room, in the order in which they are listed. -/
def passages : Room → List (Direction × Room)
  | frontEntrance => []
  | vestibule => [(.north, entry), (.south, frontEntrance)]
  | entry => [(.north, peacockAlley3), (.south, vestibule)]
  | peacockAlley1 =>
    [(.north, diningRoom), (.south, hallway1), (.east, peacockAlley2), (.west, conservatory)]
  | peacockAlley2 =>
    [(.north, library), (.south, study), (.east, peacockAlley3), (.west, peacockAlley1)]
  | peacockAlley3 => [(.south, entry), (.east, peacockAlley4), (.west, peacockAlley2)]
  | peacockAlley4 =>
    [(.north, greatHall), (.east, peacockAlley5), (.west, peacockAlley3), (.up, stairs1)]
  | peacockAlley5 => [(.north, oakDrawingRoom), (.south, smokingRoom), (.west, peacockAlley4)]
  | diningRoom => [(.south, peacockAlley1)]
  | conservatory => [(.east, peacockAlley1)]
  | breakfastRoom => [(.south, servingRoom), (.east, hallway1)]
  | servingRoom => [(.north, breakfastRoom), (.south, kitchen), (.east, hallway2)]
  | kitchen => [(.north, servingRoom)]
  | hallway1 =>
    [(.north, peacockAlley1), (.south, hallway2), (.east, elevator1), (.west, breakfastRoom)]
  | hallway2 => [(.north, hallway1), (.west, servingRoom)]
  | elevator1 => [(.west, hallway1), (.up, elevator2)]
  | study => [(.north, peacockAlley2)]
  | library => [(.north, coveredPorch), (.south, peacockAlley2), (.east, greatHall)]
  | greatHall => [(.south, peacockAlley4), (.east, oakDrawingRoom), (.west, library)]
  | stairs1 => [(.north, peacockAlley4), (.up, landing)]
  | landing => [(.up, stairs2), (.down, stairs1)]
  | oakDrawingRoom => [(.south, peacockAlley5), (.west, greatHall)]
  | smokingRoom => [(.north, peacockAlley5), (.south, billiardsRoom)]
  | coveredPorch => [(.south, library)]
  | billiardsRoom => [(.north, smokingRoom)]
  | hallway10 => [(.north, ladysBedroom), (.south, corridor1), (.east, hallway11)]
  | hallway11 =>
    [(.north, sittingRoom2), (.south, linenRoom), (.east, hallway12), (.west, hallway10)]
  | hallway12 =>
    [(.north, sirHenrysBedroom), (.south, bedroom1), (.east, hallway13), (.west, hallway11)]
  | hallway13 => [(.east, hallway14), (.west, hallway12), (.down, stairs2)]
  | hallway14 => [(.north, narrowHallway), (.south, bedroom2), (.west, hallway13)]
  | corridor1 =>
    [(.north, hallway10), (.south, corridor2), (.east, bedroom3), (.west, guestBedroom)]
  | corridor2 => [(.north, corridor1), (.east, servantsBedroom), (.west, childrensBedroom)]
  | narrowHallway =>
    [(.north, bedroom4), (.south, hallway14), (.east, roundRoom), (.west, pipeOrganLoft)]
  | roundRoom => [(.west, narrowHallway)]
  | pipeOrganLoft => [(.east, narrowHallway)]
  | bedroom1 => [(.north, hallway12), (.south, bath)]
  | sittingRoom1 => [(.south, ladysBedroom)]
  | bedroom3 => [(.west, corridor1)]
  | sirHenrysBedroom => [(.south, hallway12), (.west, sittingRoom2)]
  | sittingRoom3 => [(.east, bedroom4)]
  | ladysBedroom => [(.north, sittingRoom1), (.south, hallway10)]
  | sittingRoom2 => [(.south, hallway11), (.east, sirHenrysBedroom)]
  | guestBedroom => [(.east, corridor1)]
  | elevator2 => [(.east, linenRoom), (.down, elevator1)]
  | childrensBedroom => [(.east, corridor2)]
  | servantsBedroom => [(.west, corridor2)]
  | bedroom4 => [(.south, narrowHallway), (.west, sittingRoom3)]
  | linenRoom => [(.north, hallway11), (.west, elevator2)]
  | bedroom2 => [(.north, hallway14)]
  | bath => [(.north, bedroom1)]
  | stairs2 => [(.up, hallway13), (.down, landing)]
  | stairs3 => [(.up, study), (.down, tunnel1)]
  | wineCellar => [(.north, tunnel1)]
  | tunnel1 => [(.south, wineCellar), (.east, tunnel2), (.up, stairs3)]
  | tunnel2 => [(.east, tunnel3), (.west, tunnel1)]
  | tunnel3 => [(.north, steamPlant), (.east, tunnel4), (.west, tunnel2)]
  | steamPlant => [(.south, tunnel3)]
  | tunnel4 => [(.west, tunnel3), (.up, stables)]
  | stables => [(.down, tunnel4)]

def passage? (room : Room) (direction : Direction) : Option Room :=
  room.passages.lookup direction

end CastleEscape.Room

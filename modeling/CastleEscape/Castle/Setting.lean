import CastleEscape.Castle.Item
import CastleEscape.Castle.Passages

/-!
# The setting

The fixed facts of the story: where it begins and what lies where, the doors that are opened while
it lasts, the gate out of the castle and whoever has to be brought there.
-/

namespace CastleEscape

/-! ## The beginning -/

def Room.start : Room := .frontEntrance

/-- What the player carries at the start, from the first slot on. -/
def Item.carriedAtStart : List Item := [.key]

/-- Where every item lies that is not carried at the start. An item without a room is not in the
castle yet. -/
def Item.beginnings : List (Item × Option Room) :=
  [(.poolCue, some .billiardsRoom),
   (.umbrella, some .vestibule),
   (.newspaper, some .library),
   (.sandwich, some .study),
   (.cat, some .pipeOrganLoft),
   (.wine, some .wineCellar),
   (.knife, some .kitchen),
   (.candle, some .greatHall),
   (.matchbox, some .smokingRoom),
   (.auntie, some .stables),
   (.doll, some .childrensBedroom),
   (.steelBar, some .conservatory),
   (.skye, none),
   (.book, some .sirHenrysBedroom),
   (.hairbrush, some .sittingRoom3),
   (.note, some .bedroom2),
   (.perfume, some .ladysBedroom),
   (.businessCard, some .servantsBedroom),
   (.soap, some .bath),
   (.menu, some .diningRoom),
   (.lightBulb, some .oakDrawingRoom)]

/-- How many items can be carried at once. -/
def Item.carryLimit : Nat := 5

/-! ## Hidden ways -/

/-- A way out of a room that is on no map and has to be opened first. -/
structure HiddenWay where
  origin : Room
  direction : Direction
  destination : Room
  deriving DecidableEq

/-- Opened with the key. -/
def HiddenWay.frontDoor : HiddenWay := ⟨.frontEntrance, .north, .vestibule⟩

/-- Opened by a close look at the fireplace. -/
def HiddenWay.panels : List HiddenWay :=
  [⟨.study, .up, .hallway11⟩, ⟨.study, .down, .stairs3⟩]

/-- The room with the fireplace. -/
def Room.fireplace : Room := .study

/-- What the player calls the fireplace, which is not an item. -/
def fireplaceName : String := "fireplace"

/-- The room with the boiler in which Skye is trapped. -/
def Room.boiler : Room := .steamPlant

/-! ## The gate -/

namespace Gate

/-- Heading in this direction from this room leads out of the castle. -/
def room : Room := .vestibule

def direction : Direction := .south

/-- Whoever has to be at the gate, in the order in which they are missed. -/
def companions : List Item := [.skye, .auntie, .cat, .doll]

end Gate

end CastleEscape

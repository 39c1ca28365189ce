/-!
# Rooms

The 59 rooms of the castle. Each has a symbol: the key under which the wording describes it.
-/

namespace CastleEscape

inductive Room where
  | frontEntrance | vestibule | entry | peacockAlley1 | peacockAlley2 | peacockAlley3
  | peacockAlley4 | peacockAlley5 | diningRoom | conservatory | breakfastRoom | servingRoom
  | kitchen | hallway1 | hallway2 | elevator1 | study | library | greatHall | stairs1 | landing
  | oakDrawingRoom | smokingRoom | coveredPorch | billiardsRoom | hallway10 | hallway11
  | hallway12 | hallway13 | hallway14 | corridor1 | corridor2 | narrowHallway | roundRoom
  | pipeOrganLoft | bedroom1 | sittingRoom1 | bedroom3 | sirHenrysBedroom | sittingRoom3
  | ladysBedroom | sittingRoom2 | guestBedroom | elevator2 | childrensBedroom | servantsBedroom
  | bedroom4 | linenRoom | bedroom2 | bath | stairs2 | stairs3 | wineCellar | tunnel1 | tunnel2
  | tunnel3 | steamPlant | tunnel4 | stables
  deriving DecidableEq

namespace Room

def all : List Room :=
  [frontEntrance, vestibule, entry, peacockAlley1, peacockAlley2, peacockAlley3, peacockAlley4,
   peacockAlley5, diningRoom, conservatory, breakfastRoom, servingRoom, kitchen, hallway1,
   hallway2, elevator1, study, library, greatHall, stairs1, landing, oakDrawingRoom, smokingRoom,
   coveredPorch, billiardsRoom, hallway10, hallway11, hallway12, hallway13, hallway14, corridor1,
   corridor2, narrowHallway, roundRoom, pipeOrganLoft, bedroom1, sittingRoom1, bedroom3,
   sirHenrysBedroom, sittingRoom3, ladysBedroom, sittingRoom2, guestBedroom, elevator2,
   childrensBedroom, servantsBedroom, bedroom4, linenRoom, bedroom2, bath, stairs2, stairs3,
   wineCellar, tunnel1, tunnel2, tunnel3, steamPlant, tunnel4, stables]

def symbol : Room → String
  | frontEntrance => "front_entrance"
  | vestibule => "vestibule"
  | entry => "entry"
  | peacockAlley1 => "peacock_alley_1"
  | peacockAlley2 => "peacock_alley_2"
  | peacockAlley3 => "peacock_alley_3"
  | peacockAlley4 => "peacock_alley_4"
  | peacockAlley5 => "peacock_alley_5"
  | diningRoom => "dining_room"
  | conservatory => "conservatory"
  | breakfastRoom => "breakfast_room"
  | servingRoom => "serving_room"
  | kitchen => "kitchen"
  | hallway1 => "hallway_1"
  | hallway2 => "hallway_2"
  | elevator1 => "elevator_1"
  | study => "study"
  | library => "library"
  | greatHall => "great_hall"
  | stairs1 => "stairs_1"
  | landing => "landing"
  | oakDrawingRoom => "oak_drawing_room"
  | smokingRoom => "smoking_room"
  | coveredPorch => "covered_porch"
  | billiardsRoom => "billiards_room"
  | hallway10 => "hallway_10"
  | hallway11 => "hallway_11"
  | hallway12 => "hallway_12"
  | hallway13 => "hallway_13"
  | hallway14 => "hallway_14"
  | corridor1 => "corridor_1"
  | corridor2 => "corridor_2"
  | narrowHallway => "narrow_hallway"
  | roundRoom => "round_room"
  | pipeOrganLoft => "pipe_organ_loft"
  | bedroom1 => "bedroom_1"
  | sittingRoom1 => "sitting_room_1"
  | bedroom3 => "bedroom_3"
  | sirHenrysBedroom => "sir_henrys_bedroom"
  | sittingRoom3 => "sitting_room_3"
  | ladysBedroom => "ladys_bedroom"
  | sittingRoom2 => "sitting_room_2"
  | guestBedroom => "guest_bedroom"
  | elevator2 => "elevator_2"
  | childrensBedroom => "childrens_bedroom"
  | servantsBedroom => "servants_bedroom"
  | bedroom4 => "bedroom_4"
  | linenRoom => "linen_room"
  | bedroom2 => "bedroom_2"
  | bath => "bath"
  | stairs2 => "stairs_2"
  | stairs3 => "stairs_3"
  | wineCellar => "wine_cellar"
  | tunnel1 => "tunnel_1"
  | tunnel2 => "tunnel_2"
  | tunnel3 => "tunnel_3"
  | steamPlant => "steam_plant"
  | tunnel4 => "tunnel_4"
  | stables => "stables"

def ofSymbol? (symbol : String) : Option Room :=
  all.find? fun room => room.symbol == symbol

/-! ## The enumeration -/

@[simp] theorem mem_all (room : Room) : room ∈ all := by
  cases room <;> decide

theorem length_all : all.length = 59 := rfl

theorem nodup_all : all.Nodup := by decide +kernel

theorem ofSymbol?_symbol (room : Room) : ofSymbol? room.symbol = some room := by
  cases room <;> decide +kernel

theorem symbol_injective {a b : Room} (h : a.symbol = b.symbol) : a = b := by
  have := ofSymbol?_symbol a
  rw [h, ofSymbol?_symbol] at this
  exact (Option.some.inj this).symm

end Room

end CastleEscape

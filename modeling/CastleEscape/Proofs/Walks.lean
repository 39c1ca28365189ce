import CastleEscape.Proofs.Board
import Mathlib.Logic.Relation

/-!
# Walks through the castle

No room of the castle is a trap. From everywhere but the front entrance the map leads back to the
vestibule, and once the panels are open every room can be reached from there. Rooms are ordered by
how far they are from the vestibule (`Room.depth`): each has a way out that leads nearer, and a way
in that comes from nearer.
-/

namespace CastleEscape

/-! ## Depth -/

/-- How many passages of the map lead from the room back to the vestibule, on the shortest way. -/
def Room.depth : Room → Nat
  | frontEntrance | vestibule => 0
  | entry => 1
  | peacockAlley3 => 2
  | peacockAlley4 | peacockAlley2 => 3
  | greatHall | peacockAlley5 | stairs1 | library | study | peacockAlley1 => 4
  | oakDrawingRoom | smokingRoom | landing | coveredPorch | stairs3 | diningRoom | hallway1
  | conservatory => 5
  | billiardsRoom | stairs2 | tunnel1 | hallway2 | elevator1 | breakfastRoom => 6
  | hallway13 | wineCellar | tunnel2 | servingRoom | elevator2 => 7
  | hallway14 | hallway12 | tunnel3 | kitchen | linenRoom => 8
  | narrowHallway | bedroom2 | sirHenrysBedroom | bedroom1 | hallway11 | steamPlant | tunnel4 => 9
  | bedroom4 | roundRoom | pipeOrganLoft | sittingRoom2 | bath | hallway10 | stables => 10
  | sittingRoom3 | ladysBedroom | corridor1 => 11
  | sittingRoom1 | corridor2 | bedroom3 | guestBedroom => 12
  | servantsBedroom | childrensBedroom => 13

/-- A room inside the castle, but for the vestibule. -/
def Room.IsInner (room : Room) : Prop := room ≠ .frontEntrance ∧ room ≠ .vestibule

instance (room : Room) : Decidable room.IsInner := inferInstanceAs (Decidable (_ ∧ _))

/-- Every inner room has a room next to it that is nearer to the vestibule. The way there is on the
map, and the way back is open once the panels are. -/
theorem Room.exists_nearer (door : Bool) {room : Room} (hinner : room.IsInner) :
    ∃ nearer thither hither, room.passage? thither = some nearer ∧
      (FloorPlan.withOpen door true).exit? nearer hither = some room ∧
      nearer ≠ .frontEntrance ∧ nearer.depth < room.depth := by
  have hall : ∀ door ∈ [true, false], ∀ room ∈ Room.all, room.IsInner →
      ∃ way ∈ room.passages, room.passage? way.1 = some way.2 ∧ ∃ hither ∈ Direction.all,
        (FloorPlan.withOpen door true).exit? way.2 hither = some room ∧
          way.2 ≠ .frontEntrance ∧ way.2.depth < room.depth := by
    decide +kernel
  obtain ⟨way, _, hthither, hither, _, hrest⟩ :=
    hall door (by cases door <;> decide) room (Room.mem_all room) hinner
  exact ⟨way.2, way.1, hither, hthither, hrest⟩

namespace Board

/-- What can be done to the board with one line after the other. -/
abbrev Reaches : Board → Board → Prop := Relation.ReflTransGen Move

variable {board : Board} {door panels : Bool}

/-! ## Walks -/

/-- Any way but the gate can be walked. -/
theorem Move.walk_of_inside {origin destination : Room} {direction : Direction}
    (hplan : board.plan = .withOpen door panels)
    (hexit : board.plan.exit? origin direction = some destination)
    (hinside : destination ≠ .frontEntrance) :
    Move { board with room := origin } { board with room := destination } := by
  refine Move.walk direction destination hexit ?_
  by_contra hgate
  obtain ⟨rfl, rfl⟩ : origin = .vestibule ∧ direction = .south := by
    simpa [Gate.isCrossedBy, Gate.room, Gate.direction] using hgate
  have hout : board.plan.exit? .vestibule .south = some .frontEntrance := by
    rw [hplan]
    exact FloorPlan.exit?_withOpen_of_passage door panels rfl
  rw [hexit] at hout
  exact hinside (Option.some.inj hout)

theorem reaches_vestibule_from (hplan : board.plan = .withOpen door panels) {room : Room}
    (hinside : room ≠ .frontEntrance) :
    Reaches { board with room := room } { board with room := .vestibule } := by
  induction hdepth : room.depth using Nat.strongRecOn generalizing room with
  | ind depth ih =>
      by_cases hroom : room = .vestibule
      · rw [hroom]
      · -- one step nearer, on the map, and the rest of the way from there
        obtain ⟨nearer, thither, _, hmap, _, hnear, hless⟩ :=
          Room.exists_nearer door ⟨hinside, hroom⟩
        have hexit : board.plan.exit? room thither = some nearer := by
          rw [hplan]
          exact FloorPlan.exit?_withOpen_of_passage door panels hmap
        exact .head (Move.walk_of_inside hplan hexit hnear)
          (ih nearer.depth (hdepth ▸ hless) hnear rfl)

theorem reaches_from_vestibule (hplan : board.plan = .withOpen door true) {room : Room}
    (hinside : room ≠ .frontEntrance) :
    Reaches { board with room := .vestibule } { board with room := room } := by
  induction hdepth : room.depth using Nat.strongRecOn generalizing room with
  | ind depth ih =>
      by_cases hroom : room = .vestibule
      · rw [hroom]
      · -- the last step of this way is the one that comes from nearer
        obtain ⟨nearer, _, hither, _, hback, hnear, hless⟩ :=
          Room.exists_nearer door ⟨hinside, hroom⟩
        have hexit : board.plan.exit? nearer hither = some room := by
          rw [hplan]
          exact hback
        exact (ih nearer.depth (hdepth ▸ hless) hnear rfl).tail
          (Move.walk_of_inside hplan hexit hinside)

/-- **No room is a trap.** With the panels open every room inside can be reached from every other. -/
theorem reaches_room (hplan : board.plan = .withOpen door true)
    (hinside : board.room ≠ .frontEntrance) {room : Room} (hroom : room ≠ .frontEntrance) :
    board.Reaches { board with room := room } :=
  (reaches_vestibule_from hplan hinside).trans (reaches_from_vestibule hplan hroom)

/-- The study can be reached whether or not the panels are open. -/
theorem reaches_study (hplan : board.plan = .withOpen door panels)
    (hinside : board.room ≠ .frontEntrance) : board.Reaches { board with room := .study } := by
  have hwalk : ∀ (origin destination : Room) (direction : Direction),
      origin.passage? direction = some destination → destination ≠ .frontEntrance →
        Move { board with room := origin } { board with room := destination } := by
    intro origin destination direction hmap hinside
    have hexit : board.plan.exit? origin direction = some destination := by
      rw [hplan]
      exact FloorPlan.exit?_withOpen_of_passage door panels hmap
    exact Move.walk_of_inside hplan hexit hinside
  refine (reaches_vestibule_from hplan hinside).trans ?_
  refine .head (hwalk .vestibule .entry .north rfl (by decide)) ?_
  refine .head (hwalk .entry .peacockAlley3 .north rfl (by decide)) ?_
  refine .head (hwalk .peacockAlley3 .peacockAlley2 .west rfl (by decide)) ?_
  exact .single (hwalk .peacockAlley2 .study .south rfl (by decide))

end Board

end CastleEscape

import CastleEscape.Castle.Setting

/-!
# The floor plan

Where each way out of a room leads at the moment. Only the changes to the map are kept, so that
forgetting them leads back to the map. They are always read through `exit?`.
-/

namespace CastleEscape

/-- The ways that lead somewhere else than on the map, or nowhere any more. -/
@[ext] structure FloorPlan where
  changes : Room → Direction → Option (Option Room)

namespace FloorPlan

/-- The floor plan of the map. -/
def atStart : FloorPlan := ⟨fun _ _ => none⟩

def exit? (plan : FloorPlan) (room : Room) (direction : Direction) : Option Room :=
  (plan.changes room direction).getD (room.passage? direction)

/-- Lets one way lead somewhere else, or nowhere. -/
def setExit (plan : FloorPlan) (room : Room) (direction : Direction) (target : Option Room) :
    FloorPlan where
  changes other way :=
    if other = room ∧ way = direction then some target else plan.changes other way

def isOpen (plan : FloorPlan) (way : HiddenWay) : Bool :=
  plan.exit? way.origin way.direction == some way.destination

/-- Opens a hidden way, unless it is open already. -/
def reveal (plan : FloorPlan) (way : HiddenWay) : FloorPlan :=
  if plan.isOpen way then plan else plan.setExit way.origin way.direction (some way.destination)

def directions (plan : FloorPlan) (room : Room) : List Direction :=
  Direction.all.filter fun direction => (plan.exit? room direction).isSome

/-- Forgets every change to the map. -/
def reset (plan : FloorPlan) : FloorPlan := { plan with changes := fun _ _ => none }

/-! ## Exits -/

theorem exit?_setExit (plan : FloorPlan) (room other : Room) (direction way : Direction)
    (target : Option Room) :
    (plan.setExit room direction target).exit? other way =
      if other = room ∧ way = direction then target else plan.exit? other way := by
  simp only [exit?, setExit]
  split <;> rfl

@[simp] theorem exit?_reveal (plan : FloorPlan) (way : HiddenWay) (room : Room)
    (direction : Direction) :
    (plan.reveal way).exit? room direction =
      if room = way.origin ∧ direction = way.direction then some way.destination
      else plan.exit? room direction := by
  by_cases hopen : plan.isOpen way = true
  · have hleads : plan.exit? way.origin way.direction = some way.destination :=
      beq_iff_eq.mp hopen
    rw [reveal, if_pos hopen]
    split
    case isTrue hway => rw [hway.1, hway.2, hleads]
    case isFalse => rfl
  · rw [reveal, if_neg hopen, exit?_setExit]

theorem exit?_reveal_self (plan : FloorPlan) (way : HiddenWay) :
    (plan.reveal way).exit? way.origin way.direction = some way.destination := by
  simp

/-- All other ways lead where they have led. -/
theorem exit?_reveal_of_ne (plan : FloorPlan) {way : HiddenWay} {room : Room}
    {direction : Direction} (hother : ¬(room = way.origin ∧ direction = way.direction)) :
    (plan.reveal way).exit? room direction = plan.exit? room direction := by
  rw [exit?_reveal, if_neg hother]

/-- Whatever has been opened, the next session has the floor plan of the map. -/
theorem reset_eq_atStart (plan : FloorPlan) : plan.reset = atStart := rfl

end FloorPlan

end CastleEscape

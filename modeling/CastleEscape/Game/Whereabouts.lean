import CastleEscape.Castle.Setting

/-!
# Whereabouts

Where every item is: carried by the player in a slot, lying in a room, or not in the castle. Each
item is in one place by construction; that no two carried items share a slot is up to `pickUp?`,
which looks for a free one.

* `placeOf` is the view that everything is explained by;
* `inventory` and `itemsAt` read it by slot and by room.
-/

namespace CastleEscape

inductive Place where
  | carried (slot : Nat)
  | lying (room : Room)
  | absent
  deriving DecidableEq

/-- The slot in which something is carried. -/
def Place.slot? : Place → Option Nat
  | .carried slot => some slot
  | _ => none

@[ext] structure Whereabouts where
  placeOf : Item → Place

namespace Whereabouts

def atStart : Whereabouts where
  placeOf item :=
    match Item.carriedAtStart.idxOf? item, Item.beginnings.lookup item with
    | some slot, _ => .carried slot
    | none, some (some room) => .lying room
    | none, _ => .absent

/-- Moves one item and leaves every other where it is. -/
def move (whereabouts : Whereabouts) (item : Item) (place : Place) : Whereabouts where
  placeOf other := if other = item then place else whereabouts.placeOf other

@[simp] theorem placeOf_move (whereabouts : Whereabouts) (item other : Item) (place : Place) :
    (whereabouts.move item place).placeOf other =
      if other = item then place else whereabouts.placeOf other := rfl

/-! ## The next session -/

/-- Takes every item out of the castle. -/
def clear (whereabouts : Whereabouts) : Whereabouts :=
  { whereabouts with placeOf := fun _ => .absent }

/-- Lays an item where it is at the beginning. -/
def layOut (whereabouts : Whereabouts) (beginning : Item × Option Room) : Whereabouts :=
  whereabouts.move beginning.1 (beginning.2.elim .absent .lying)

/-- Hands the player an item in a slot. -/
def handOut (whereabouts : Whereabouts) (possession : Item × Nat) : Whereabouts :=
  whereabouts.move possession.1 (.carried possession.2)

/-- Puts every item back to where it is at the beginning. -/
def reset (whereabouts : Whereabouts) : Whereabouts :=
  Item.carriedAtStart.zipIdx.foldl handOut (Item.beginnings.foldl layOut whereabouts.clear)

/-- Wherever the items have been brought, the next session finds them where they begin. -/
theorem reset_eq_atStart (whereabouts : Whereabouts) : whereabouts.reset = atStart := by
  ext1
  funext item
  cases item <;> rfl

/-! ## Questions -/

def isCarried (whereabouts : Whereabouts) (item : Item) : Bool :=
  (whereabouts.placeOf item).slot?.isSome

def isLyingIn (whereabouts : Whereabouts) (item : Item) (room : Room) : Bool :=
  whereabouts.placeOf item == .lying room

def isAbsent (whereabouts : Whereabouts) (item : Item) : Bool :=
  whereabouts.placeOf item == .absent

/-- Carried or lying in the room. -/
def isWithinReach (whereabouts : Whereabouts) (item : Item) (room : Room) : Bool :=
  whereabouts.isCarried item || whereabouts.isLyingIn item room

def itemsAt (whereabouts : Whereabouts) (room : Room) : List Item :=
  Item.all.filter (whereabouts.isLyingIn · room)

/-- The carried items by their slots. -/
def inventory (whereabouts : Whereabouts) : List Item :=
  let slot (item : Item) := (whereabouts.placeOf item).slot?.getD 0
  (Item.all.filter whereabouts.isCarried).mergeSort fun a b => slot a ≤ slot b

/-! ## Picking up -/

def isFree (whereabouts : Whereabouts) (slot : Nat) : Bool :=
  Item.all.all fun item => whereabouts.placeOf item != .carried slot

/-- The lowest slot in which nothing is carried. -/
def freeSlot? (whereabouts : Whereabouts) : Option Nat :=
  (List.range Item.carryLimit).find? whereabouts.isFree

/-- Picks an item up into the lowest free slot, if there is one. An item that is carried already
stays in its slot. -/
def pickUp? (whereabouts : Whereabouts) (item : Item) : Option (Nat × Whereabouts) :=
  match whereabouts.placeOf item with
  | .carried slot => some (slot, whereabouts)
  | _ => whereabouts.freeSlot?.map fun slot => (slot, whereabouts.move item (.carried slot))

end Whereabouts

end CastleEscape

import CastleEscape.Game.World

/-!
# Places of items

The questions that are asked about the whereabouts of an item, read off `placeOf`, and the free
slot that picking up looks for.
-/

namespace CastleEscape.Whereabouts

variable {whereabouts : Whereabouts} {item : Item} {room : Room}

theorem isCarried_iff :
    whereabouts.isCarried item = true ↔ ∃ slot, whereabouts.placeOf item = .carried slot := by
  unfold isCarried
  cases whereabouts.placeOf item <;> simp [Place.slot?]

theorem isCarried_eq_false_iff :
    whereabouts.isCarried item = false ↔ ∀ slot, whereabouts.placeOf item ≠ .carried slot := by
  rw [← Bool.not_eq_true, isCarried_iff, not_exists]

theorem isLyingIn_iff :
    whereabouts.isLyingIn item room = true ↔ whereabouts.placeOf item = .lying room := by
  simp [isLyingIn]

theorem isAbsent_iff :
    whereabouts.isAbsent item = true ↔ whereabouts.placeOf item = .absent := by
  simp [isAbsent]

theorem isWithinReach_iff :
    whereabouts.isWithinReach item room = true ↔
      (∃ slot, whereabouts.placeOf item = .carried slot) ∨
        whereabouts.placeOf item = .lying room := by
  rw [isWithinReach, Bool.or_eq_true, isCarried_iff, isLyingIn_iff]

/-- What is within reach and not carried lies there. -/
theorem placeOf_eq_lying (hreach : whereabouts.isWithinReach item room = true)
    (hfree : whereabouts.isCarried item = false) : whereabouts.placeOf item = .lying room := by
  rcases isWithinReach_iff.mp hreach with ⟨slot, hslot⟩ | hlying
  · exact absurd hslot (isCarried_eq_false_iff.mp hfree slot)
  · exact hlying

/-! ## Moving -/

theorem move_move (whereabouts : Whereabouts) (item : Item) (old new : Place) :
    (whereabouts.move item old).move item new = whereabouts.move item new := by
  ext1
  funext other
  by_cases hother : other = item <;> simp [hother]

/-- Nothing changes if the item is moved to where it is. -/
theorem move_eq_self {place : Place} (hplace : whereabouts.placeOf item = place) :
    whereabouts.move item place = whereabouts := by
  ext1
  funext other
  by_cases hother : other = item <;> simp [hother, hplace]

/-! ## Picking up -/

theorem pickUp?_of_not_carried (hfree : whereabouts.isCarried item = false) :
    whereabouts.pickUp? item =
      whereabouts.freeSlot?.map fun slot => (slot, whereabouts.move item (.carried slot)) := by
  unfold pickUp?
  cases hplace : whereabouts.placeOf item with
  | carried slot => exact absurd hplace (isCarried_eq_false_iff.mp hfree slot)
  | lying room => rfl
  | absent => rfl

theorem isFree_iff {slot : Nat} :
    whereabouts.isFree slot = true ↔ ∀ item, whereabouts.placeOf item ≠ .carried slot := by
  simp [isFree]

/-- A free slot that has been found is one of the five and nothing is carried in it. -/
theorem freeSlot?_eq_some {slot : Nat} (hslot : whereabouts.freeSlot? = some slot) :
    slot < Item.carryLimit ∧ ∀ item, whereabouts.placeOf item ≠ .carried slot := by
  refine ⟨?_, isFree_iff.mp (List.find?_some hslot)⟩
  exact List.mem_range.mp (List.mem_of_find?_eq_some hslot)

/-- With empty hands the first slot is free. -/
theorem freeSlot?_of_emptyHanded (hempty : ∀ item slot, whereabouts.placeOf item ≠ .carried slot) :
    whereabouts.freeSlot? = some 0 := by
  have hfirst : whereabouts.isFree 0 = true := isFree_iff.mpr fun item => hempty item 0
  simp [freeSlot?, Item.carryLimit, List.range, List.range.loop, hfirst]

end CastleEscape.Whereabouts

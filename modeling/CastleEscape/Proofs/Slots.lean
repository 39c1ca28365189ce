import CastleEscape.Proofs.Places
import Mathlib.Data.List.Nodup
import Mathlib.Data.List.Perm.Subperm
import Mathlib.Order.Bounds.Basic

/-!
# Slots

How many items the player can carry. The whereabouts are `Tidy` if no two items are carried in one
slot and all slots are among those that there are; nothing in `placeOf` makes them so. In tidy
whereabouts the carried items can be counted by their slots: there are never more of them than
slots, and picking up finds a free slot exactly if there are fewer (`length_inventory_lt_iff`).
-/

namespace CastleEscape

namespace Whereabouts

variable {whereabouts : Whereabouts}

/-- Every carried item has a slot of its own, and one of those that there are. -/
structure Tidy (whereabouts : Whereabouts) : Prop where
  slot_lt : ∀ item slot, whereabouts.placeOf item = .carried slot → slot < Item.carryLimit
  distinct : ∀ item other slot, whereabouts.placeOf item = .carried slot →
    whereabouts.placeOf other = .carried slot → item = other

theorem eq_key_of_carried_atStart {item : Item} {slot : Nat}
    (hplace : atStart.placeOf item = .carried slot) : item = .key ∧ slot = 0 := by
  cases item with
  | key =>
      cases hplace
      exact ⟨rfl, rfl⟩
  | _ => cases hplace

theorem tidy_atStart : atStart.Tidy where
  slot_lt item slot hplace := by
    rw [(eq_key_of_carried_atStart hplace).2]
    decide
  distinct item other slot hplace hother := by
    rw [(eq_key_of_carried_atStart hplace).1, (eq_key_of_carried_atStart hother).1]

/-- An item that changes its place may be carried in a slot that is free, and in no other. -/
theorem Tidy.move (htidy : whereabouts.Tidy) {item : Item} {place : Place}
    (hslot : ∀ slot, place = .carried slot →
      slot < Item.carryLimit ∧ ∀ other, whereabouts.placeOf other ≠ .carried slot) :
    (whereabouts.move item place).Tidy where
  slot_lt other slot hplace := by
    by_cases hother : other = item
    · exact (hslot slot (by simpa [hother] using hplace)).1
    · exact htidy.slot_lt other slot (by simpa [hother] using hplace)
  distinct first second slot hfirst hsecond := by
    by_cases h₁ : first = item <;> by_cases h₂ : second = item
    · rw [h₁, h₂]
    · have hplace : place = .carried slot := by simpa [h₁] using hfirst
      exact absurd (by simpa [h₂] using hsecond) ((hslot slot hplace).2 second)
    · have hplace : place = .carried slot := by simpa [h₂] using hsecond
      exact absurd (by simpa [h₁] using hfirst) ((hslot slot hplace).2 first)
    · exact htidy.distinct first second slot (by simpa [h₁] using hfirst)
        (by simpa [h₂] using hsecond)

/-! ## The free slot -/

theorem freeSlot?_eq_some_iff {slot : Nat} :
    whereabouts.freeSlot? = some slot ↔
      slot < Item.carryLimit ∧
        IsLeast {slot | ∀ item, whereabouts.placeOf item ≠ .carried slot} slot := by
  have hfree : ∀ slot, whereabouts.isFree slot = true ↔
      slot ∈ {slot | ∀ item, whereabouts.placeOf item ≠ .carried slot} := fun _ => isFree_iff
  rw [freeSlot?, List.find?_range_eq_some, hfree, List.mem_range]
  constructor
  · rintro ⟨hslot, hlimit, hleast⟩
    refine ⟨hlimit, hslot, fun other hother => ?_⟩
    by_contra hlow
    simpa [(hfree other).mpr hother] using hleast other (Nat.lt_of_not_le hlow)
  · rintro ⟨hlimit, hslot, hleast⟩
    refine ⟨hslot, hlimit, fun other hlow => ?_⟩
    by_contra hother
    rw [Bool.not_eq_true', Bool.not_eq_false] at hother
    exact absurd (hleast ((hfree other).mp hother)) (Nat.not_le_of_lt hlow)

/-- With no free slot, every slot holds something. -/
theorem freeSlot?_eq_none_iff :
    whereabouts.freeSlot? = none ↔
      ∀ slot < Item.carryLimit, ∃ item, whereabouts.placeOf item = .carried slot := by
  rw [freeSlot?, List.find?_range_eq_none]
  refine forall₂_congr fun slot _ => ?_
  rw [Bool.not_eq_true', ← Bool.not_eq_true, isFree_iff]
  simp

/-! ## The inventory -/

theorem inventory_perm (whereabouts : Whereabouts) :
    whereabouts.inventory.Perm (Item.all.filter whereabouts.isCarried) :=
  List.mergeSort_perm _ _

theorem nodup_inventory (whereabouts : Whereabouts) : whereabouts.inventory.Nodup :=
  whereabouts.inventory_perm.nodup_iff.mpr (Item.nodup_all.filter _)

theorem mem_inventory_iff {item : Item} :
    item ∈ whereabouts.inventory ↔ ∃ slot, whereabouts.placeOf item = .carried slot := by
  rw [whereabouts.inventory_perm.mem_iff, List.mem_filter, isCarried_iff]
  simp

/-- The slots in which something is carried, in the order of the inventory. -/
def carriedSlots (whereabouts : Whereabouts) : List Nat :=
  whereabouts.inventory.map fun item => (whereabouts.placeOf item).slot?.getD 0

theorem map_carried_carriedSlots (whereabouts : Whereabouts) :
    whereabouts.carriedSlots.map .carried = whereabouts.inventory.map whereabouts.placeOf := by
  rw [carriedSlots, List.map_map]
  refine List.map_congr_left fun item hitem => ?_
  obtain ⟨slot, hslot⟩ := mem_inventory_iff.mp hitem
  simp [hslot, Place.slot?]

theorem mem_carriedSlots_iff {slot : Nat} :
    slot ∈ whereabouts.carriedSlots ↔ ∃ item, whereabouts.placeOf item = .carried slot := by
  have hcarried : Place.carried slot ∈ whereabouts.carriedSlots.map Place.carried ↔
      slot ∈ whereabouts.carriedSlots :=
    List.mem_map_of_injective fun _ _ h => Place.carried.inj h
  rw [← hcarried, map_carried_carriedSlots, List.mem_map]
  constructor
  · rintro ⟨item, _, hplace⟩
    exact ⟨item, hplace⟩
  · rintro ⟨item, hplace⟩
    exact ⟨item, mem_inventory_iff.mpr ⟨slot, hplace⟩, hplace⟩

theorem length_carriedSlots (whereabouts : Whereabouts) :
    whereabouts.carriedSlots.length = whereabouts.inventory.length :=
  List.length_map _

theorem pairwise_le_carriedSlots (whereabouts : Whereabouts) :
    whereabouts.carriedSlots.Pairwise (· ≤ ·) := by
  rw [carriedSlots, List.pairwise_map]
  have hsorted := @List.pairwise_mergeSort Item
    (fun a b => decide
      ((whereabouts.placeOf a).slot?.getD 0 ≤ (whereabouts.placeOf b).slot?.getD 0))
    (fun a b c hab hbc => decide_eq_true
      (Nat.le_trans (of_decide_eq_true hab) (of_decide_eq_true hbc)))
    (fun a b => by simpa using Nat.le_total _ _)
    (Item.all.filter whereabouts.isCarried)
  exact hsorted.imp of_decide_eq_true

/-! ## Counting -/

namespace Tidy

theorem nodup_carriedSlots (htidy : whereabouts.Tidy) : whereabouts.carriedSlots.Nodup := by
  refine whereabouts.nodup_inventory.map_on fun item hitem other hother heq => ?_
  obtain ⟨slot, hslot⟩ := mem_inventory_iff.mp hitem
  obtain ⟨next, hnext⟩ := mem_inventory_iff.mp hother
  have hsame : slot = next := by simpa [hslot, hnext, Place.slot?] using heq
  exact htidy.distinct item other slot hslot (hsame ▸ hnext)

theorem pairwise_carriedSlots (htidy : whereabouts.Tidy) :
    whereabouts.carriedSlots.Pairwise (· < ·) :=
  (whereabouts.pairwise_le_carriedSlots.and htidy.nodup_carriedSlots).imp fun h =>
    Nat.lt_of_le_of_ne h.1 h.2

theorem carriedSlots_subset (htidy : whereabouts.Tidy) :
    whereabouts.carriedSlots ⊆ List.range Item.carryLimit := by
  intro slot hslot
  obtain ⟨item, hplace⟩ := mem_carriedSlots_iff.mp hslot
  exact List.mem_range.mpr (htidy.slot_lt item slot hplace)

/-- No more items are carried than there are slots. -/
theorem length_inventory_le (htidy : whereabouts.Tidy) :
    whereabouts.inventory.length ≤ Item.carryLimit := by
  have hsub := List.subperm_of_subset htidy.nodup_carriedSlots htidy.carriedSlots_subset
  simpa [length_carriedSlots] using hsub.length_le

/-- As long as fewer items are carried than there are slots one slot is free, and only then. -/
theorem length_inventory_lt_iff (htidy : whereabouts.Tidy) :
    whereabouts.inventory.length < Item.carryLimit ↔ ∃ slot, whereabouts.freeSlot? = some slot := by
  rw [← length_carriedSlots]
  constructor
  · intro hfew
    by_contra hnone
    rw [← Option.isSome_iff_exists, Option.not_isSome_iff_eq_none, freeSlot?_eq_none_iff] at hnone
    have hall : List.range Item.carryLimit ⊆ whereabouts.carriedSlots := fun slot hslot =>
      mem_carriedSlots_iff.mpr (hnone slot (List.mem_range.mp hslot))
    have hmany := (List.subperm_of_subset List.nodup_range hall).length_le
    rw [List.length_range] at hmany
    exact absurd hfew (Nat.not_lt_of_le hmany)
  · rintro ⟨slot, hslot⟩
    obtain ⟨hlimit, hfree⟩ := freeSlot?_eq_some hslot
    -- the free slot comes on top of the taken ones, and together they are still no more than all
    have hnodup : (slot :: whereabouts.carriedSlots).Nodup := by
      refine List.nodup_cons.mpr ⟨fun hmem => ?_, htidy.nodup_carriedSlots⟩
      obtain ⟨item, hplace⟩ := mem_carriedSlots_iff.mp hmem
      exact hfree item hplace
    have hsubset : slot :: whereabouts.carriedSlots ⊆ List.range Item.carryLimit :=
      List.cons_subset.mpr ⟨List.mem_range.mpr hlimit, htidy.carriedSlots_subset⟩
    have hlength := (List.subperm_of_subset hnodup hsubset).length_le
    rwa [List.length_cons, List.length_range] at hlength

end Tidy

end Whereabouts

end CastleEscape

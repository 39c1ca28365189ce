import CastleEscape.Proofs.Slots
import Mathlib.Data.List.Induction

/-!
# Operations on the whereabouts

What can be done to the whereabouts of all items, one operation after the other from the beginning
of a session on, in any order. Whatever has been done, the whereabouts are tidy (`tidy_built`), so
every item is in the inventory, in one room or absent, and picking up works as long as there is
room.

Nothing but a reset moves more than the item that it is about.
-/

namespace CastleEscape

namespace Whereabouts

inductive Operation where
  | reset
  | pickUp (item : Item)
  | putDown (item : Item) (room : Room)
  | remove (item : Item)
  deriving DecidableEq

/-- The item that an operation is about; a reset is about all of them. -/
def Operation.item? : Operation → Option Item
  | reset => none
  | pickUp item | putDown item _ | remove item => some item

/-- An item that cannot be picked up stays where it is. -/
def apply (whereabouts : Whereabouts) : Operation → Whereabouts
  | .reset => whereabouts.reset
  | .pickUp item => (whereabouts.pickUp? item).elim whereabouts Prod.snd
  | .putDown item room => whereabouts.move item (.lying room)
  | .remove item => whereabouts.move item .absent

/-- The whereabouts after these operations, from the beginning of a session on. -/
def built (operations : List Operation) : Whereabouts := operations.foldl apply atStart

variable {whereabouts : Whereabouts} {item : Item}

/-! ## Picking up -/

theorem pickUp?_of_carried {slot : Nat} (hplace : whereabouts.placeOf item = .carried slot) :
    whereabouts.pickUp? item = some (slot, whereabouts) := by
  simp [pickUp?, hplace]

/-- Picking up changes nothing, or it puts an item that was not carried into the free slot. -/
theorem apply_pickUp_cases (whereabouts : Whereabouts) (item : Item) :
    whereabouts.apply (.pickUp item) = whereabouts ∨
      ∃ slot, whereabouts.freeSlot? = some slot ∧
        whereabouts.apply (.pickUp item) = whereabouts.move item (.carried slot) := by
  cases hcarried : whereabouts.isCarried item with
  | true =>
      obtain ⟨slot, hplace⟩ := isCarried_iff.mp hcarried
      exact Or.inl (by simp [apply, pickUp?_of_carried hplace])
  | false =>
      cases hslot : whereabouts.freeSlot? with
      | none => exact Or.inl (by simp [apply, pickUp?_of_not_carried hcarried, hslot])
      | some slot =>
          exact Or.inr ⟨slot, rfl, by simp [apply, pickUp?_of_not_carried hcarried, hslot]⟩

/-- An item that is picked up is carried in the slot that has been free. -/
theorem placeOf_apply_pickUp {slot : Nat} (hfree : ∀ slot, whereabouts.placeOf item ≠ .carried slot)
    (hslot : whereabouts.freeSlot? = some slot) :
    (whereabouts.apply (.pickUp item)).placeOf item = .carried slot := by
  have hpickUp := pickUp?_of_not_carried (isCarried_eq_false_iff.mpr hfree)
  rw [apply, hpickUp, hslot]
  exact if_pos rfl

/-! ## One operation -/

theorem Tidy.apply (htidy : whereabouts.Tidy) (operation : Operation) :
    (whereabouts.apply operation).Tidy := by
  cases operation with
  | reset =>
      change whereabouts.reset.Tidy
      rw [reset_eq_atStart]
      exact tidy_atStart
  | pickUp item =>
      rcases whereabouts.apply_pickUp_cases item with hsame | ⟨slot, hslot, hmove⟩
      · rwa [hsame]
      · rw [hmove]
        refine htidy.move fun other hother => ?_
        cases hother
        exact freeSlot?_eq_some hslot
  | putDown item room => exact htidy.move (by simp)
  | remove item => exact htidy.move (by simp)

theorem placeOf_apply_of_ne {operation : Operation} {other : Item}
    (hitem : operation.item? = some item) (hother : other ≠ item) :
    (whereabouts.apply operation).placeOf other = whereabouts.placeOf other := by
  cases operation with
  | reset => cases hitem
  | pickUp item =>
      cases hitem
      rcases whereabouts.apply_pickUp_cases item with hsame | ⟨slot, _, hmove⟩
      · rw [hsame]
      · rw [hmove, placeOf_move, if_neg hother]
  | putDown item room =>
      cases hitem
      exact if_neg hother
  | remove item =>
      cases hitem
      exact if_neg hother

/-! ## Any number of operations -/

theorem built_concat (operations : List Operation) (operation : Operation) :
    built (operations ++ [operation]) = (built operations).apply operation := by
  simp [built]

theorem tidy_built (operations : List Operation) : (built operations).Tidy := by
  induction operations using List.reverseRecOn with
  | nil => exact tidy_atStart
  | append_singleton operations operation ih =>
      rw [built_concat]
      exact ih.apply operation

/-! ## Every item in one place -/

theorem nodup_itemsAt (whereabouts : Whereabouts) (room : Room) :
    (whereabouts.itemsAt room).Nodup :=
  Item.nodup_all.filter _

theorem mem_itemsAt_iff {room : Room} :
    item ∈ whereabouts.itemsAt room ↔ whereabouts.placeOf item = .lying room := by
  simp [itemsAt, isLyingIn_iff]

theorem pairwise_itemsAt (whereabouts : Whereabouts) (room : Room) :
    (whereabouts.itemsAt room).Pairwise fun item other => item.number < other.number := by
  have hall : Item.all.Pairwise fun item other => item.number < other.number := by decide
  exact hall.filter _

theorem mem_flatMap_itemsAt_iff :
    item ∈ Room.all.flatMap whereabouts.itemsAt ↔
      ∃ room, whereabouts.placeOf item = .lying room := by
  simp [mem_itemsAt_iff]

theorem nodup_flatMap_itemsAt (whereabouts : Whereabouts) :
    (Room.all.flatMap whereabouts.itemsAt).Nodup := by
  refine List.nodup_flatMap.mpr ⟨fun room _ => whereabouts.nodup_itemsAt room, ?_⟩
  refine Room.nodup_all.imp fun {room next} hne item hitem hnext => hne ?_
  rw [mem_itemsAt_iff] at hitem hnext
  exact Place.lying.inj (hitem.symm.trans hnext)

theorem mem_absent_iff :
    item ∈ Item.all.filter whereabouts.isAbsent ↔ whereabouts.placeOf item = .absent := by
  simp [isAbsent_iff]

/-- The inventory, the items in the rooms and the absent ones are all items, each of them once. -/
theorem perm_all (whereabouts : Whereabouts) :
    (whereabouts.inventory ++ Room.all.flatMap whereabouts.itemsAt ++
      Item.all.filter whereabouts.isAbsent).Perm Item.all := by
  have hinside : (whereabouts.inventory ++ Room.all.flatMap whereabouts.itemsAt).Nodup := by
    refine whereabouts.nodup_inventory.append whereabouts.nodup_flatMap_itemsAt ?_
    intro item hcarried hlying
    obtain ⟨slot, hslot⟩ := mem_inventory_iff.mp hcarried
    obtain ⟨room, hroom⟩ := mem_flatMap_itemsAt_iff.mp hlying
    rw [hslot] at hroom
    cases hroom
  have hnodup : (whereabouts.inventory ++ Room.all.flatMap whereabouts.itemsAt ++
      Item.all.filter whereabouts.isAbsent).Nodup := by
    refine hinside.append (Item.nodup_all.filter _) ?_
    intro item hpresent habsent
    rw [List.mem_append, mem_inventory_iff, mem_flatMap_itemsAt_iff,
      mem_absent_iff.mp habsent] at hpresent
    rcases hpresent with ⟨slot, hslot⟩ | ⟨room, hroom⟩
    · cases hslot
    · cases hroom
  refine (List.perm_ext_iff_of_nodup hnodup Item.nodup_all).mpr fun item => ?_
  rw [List.mem_append, List.mem_append, mem_inventory_iff, mem_flatMap_itemsAt_iff,
    mem_absent_iff]
  cases whereabouts.placeOf item <;> simp

/-- **Every item is in one place, whatever is done.** After any operations: each carried item has a
slot of its own, one of five; the inventory holds the carried items, by their slots; what lies in a
room is listed by number; and the inventory, the rooms and the absent items share all 22 items among
them. An operation about one item leaves all others where they are; an item that is put down lies in
that room, and one that is removed is absent. Picking up an item that is carried changes nothing;
any other item is picked up into the lowest free slot, and carried there, as long as fewer than five
are carried, and otherwise nothing happens. -/
theorem order_of_operations (operations : List Operation) :
    let whereabouts := built operations
    (∀ item slot, whereabouts.placeOf item = .carried slot →
      slot < 5 ∧ ∀ other, whereabouts.placeOf other = .carried slot → other = item) ∧
    (whereabouts.inventory.Nodup ∧
      (∀ item, item ∈ whereabouts.inventory ↔ ∃ slot, whereabouts.placeOf item = .carried slot) ∧
      (∃ slots : List Nat, slots.Pairwise (· < ·) ∧
        whereabouts.inventory.map whereabouts.placeOf = slots.map .carried) ∧
      whereabouts.inventory.length ≤ 5) ∧
    (∀ room, (whereabouts.itemsAt room).Nodup ∧
      (∀ item, item ∈ whereabouts.itemsAt room ↔ whereabouts.placeOf item = .lying room) ∧
      (whereabouts.itemsAt room).Pairwise fun item other => item.number < other.number) ∧
    (whereabouts.inventory ++ Room.all.flatMap whereabouts.itemsAt ++
      Item.all.filter whereabouts.isAbsent).Perm Item.all ∧
    (∀ operation item other, operation.item? = some item → other ≠ item →
      (whereabouts.apply operation).placeOf other = whereabouts.placeOf other) ∧
    (∀ item room, (whereabouts.apply (.putDown item room)).placeOf item = .lying room ∧
      (whereabouts.apply (.remove item)).placeOf item = .absent) ∧
    (∀ item slot, whereabouts.placeOf item = .carried slot →
      whereabouts.pickUp? item = some (slot, whereabouts)) ∧
    (∀ item, (∀ slot, whereabouts.placeOf item ≠ .carried slot) →
      (whereabouts.inventory.length < 5 →
        ∃ slot, IsLeast {slot | ∀ other, whereabouts.placeOf other ≠ .carried slot} slot ∧
          whereabouts.pickUp? item = some (slot, whereabouts.move item (.carried slot)) ∧
          (whereabouts.apply (.pickUp item)).placeOf item = .carried slot) ∧
      (¬ whereabouts.inventory.length < 5 →
        whereabouts.pickUp? item = none ∧ whereabouts.apply (.pickUp item) = whereabouts)) := by
  intro whereabouts
  have htidy : whereabouts.Tidy := tidy_built operations
  refine ⟨?_, ⟨whereabouts.nodup_inventory, fun _ => mem_inventory_iff, ?_,
    htidy.length_inventory_le⟩, ?_, whereabouts.perm_all, ?_, ?_, ?_, ?_⟩
  · intro item slot hplace
    exact ⟨htidy.slot_lt item slot hplace, fun other hother =>
      htidy.distinct other item slot hother hplace⟩
  · exact ⟨whereabouts.carriedSlots, htidy.pairwise_carriedSlots,
      whereabouts.map_carried_carriedSlots.symm⟩
  · intro room
    exact ⟨whereabouts.nodup_itemsAt room, fun _ => mem_itemsAt_iff,
      whereabouts.pairwise_itemsAt room⟩
  · intro operation item other hitem hother
    exact placeOf_apply_of_ne hitem hother
  · intro item room
    exact ⟨if_pos rfl, if_pos rfl⟩
  · intro item slot hplace
    exact pickUp?_of_carried hplace
  · intro item hplace
    have hpickUp := pickUp?_of_not_carried (isCarried_eq_false_iff.mpr hplace)
    constructor
    · intro hfew
      obtain ⟨slot, hslot⟩ := htidy.length_inventory_lt_iff.mp hfew
      refine ⟨slot, (freeSlot?_eq_some_iff.mp hslot).2, ?_, placeOf_apply_pickUp hplace hslot⟩
      rw [hpickUp, hslot]
      rfl
    · intro hmany
      have hnone : whereabouts.freeSlot? = none := by
        rw [Option.eq_none_iff_forall_not_mem]
        exact fun slot hslot => hmany (htidy.length_inventory_lt_iff.mpr ⟨slot, hslot⟩)
      rw [hnone] at hpickUp
      exact ⟨hpickUp, by simp [apply, hpickUp]⟩

-- the key is in slot 0 from the beginning on, and the slot that the cat leaves is filled again
example :
    ((built [.pickUp .cat, .pickUp .doll, .putDown .cat .kitchen]).pickUp? .knife).map Prod.fst =
      some 1 := by
  decide

end Whereabouts

end CastleEscape

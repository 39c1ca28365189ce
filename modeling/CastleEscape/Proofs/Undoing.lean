import CastleEscape.Proofs.Effects
import CastleEscape.Proofs.Faults
import CastleEscape.Proofs.Operations
import CastleEscape.Proofs.Rounds
import CastleEscape.Proofs.TypedNames

/-!
# Taking and dropping undo each other

What is taken and dropped again lies where it lay. What is dropped and taken again is carried as it
was, but it comes into the lowest slot that it finds free, and that need not be the one it left: the
slots below its own may have been free all the time.

* `Whereabouts.Tidy.freeSlot?_putDown` is about the slots alone;
* `World.Shifts` says what taking or dropping leaves as it is, and it can be put together of several
  lines (`World.Shifts.trans`);
* `Scene.take_drop_undo` is about two lines, each of them from its letters to the hazards after it.
-/

namespace CastleEscape

/-! ## Slots -/

namespace Whereabouts

variable {whereabouts : Whereabouts} {item : Item} {slot : Nat}

/-- Nothing else of what is carried leaves its slot when the item is put down. -/
theorem placeOf_putDown_eq_carried_iff {room : Room} {other : Item} :
    (whereabouts.move item (.lying room)).placeOf other = .carried slot ↔
      other ≠ item ∧ whereabouts.placeOf other = .carried slot := by
  rw [placeOf_move]
  split
  case isTrue hother => simp [hother]
  case isFalse hother => simp [hother]

/-- The slots in which nothing else than the item is carried. -/
def vacantFor (whereabouts : Whereabouts) (item : Item) : Set Nat :=
  {slot | ∀ other ≠ item, whereabouts.placeOf other ≠ .carried slot}

theorem vacantFor_eq (whereabouts : Whereabouts) (item : Item) (room : Room) :
    {slot | ∀ other, (whereabouts.move item (.lying room)).placeOf other ≠ .carried slot} =
      whereabouts.vacantFor item := by
  ext slot
  refine forall_congr' fun other => ?_
  rw [ne_eq, placeOf_putDown_eq_carried_iff, not_and]

/-- The slot that an item leaves is free, so there is a lowest one, and that is no higher. -/
theorem Tidy.freeSlot?_putDown (htidy : whereabouts.Tidy)
    (hplace : whereabouts.placeOf item = .carried slot) (room : Room) :
    ∃ least, (whereabouts.move item (.lying room)).freeSlot? = some least ∧
      IsLeast (whereabouts.vacantFor item) least := by
  cases hfree : (whereabouts.move item (.lying room)).freeSlot? with
  | none =>
      -- something else would have to be carried in the slot that has just been left
      rw [freeSlot?_eq_none_iff] at hfree
      obtain ⟨other, hother⟩ := hfree slot (htidy.slot_lt item slot hplace)
      obtain ⟨hne, hsame⟩ := placeOf_putDown_eq_carried_iff.mp hother
      exact absurd (htidy.distinct other item slot hsame hplace) hne
  | some least =>
      refine ⟨least, rfl, ?_⟩
      rw [← vacantFor_eq whereabouts item room]
      exact (freeSlot?_eq_some_iff.mp hfree).2

/-- The lowest slot is the old one if no slot below that was free. -/
theorem Tidy.eq_of_isLeast_iff (htidy : whereabouts.Tidy)
    (hplace : whereabouts.placeOf item = .carried slot) {least : Nat}
    (hleast : IsLeast (whereabouts.vacantFor item) least) :
    least = slot ↔ ∀ lower < slot, ∃ other, whereabouts.placeOf other = .carried lower := by
  obtain ⟨hvacant, hlowest⟩ := hleast
  constructor
  · rintro rfl
    intro lower hlower
    by_contra hfree
    rw [not_exists] at hfree
    exact absurd (hlowest fun other _ => hfree other) (Nat.not_le_of_lt hlower)
  · intro htaken
    have hown : slot ∈ whereabouts.vacantFor item := by
      intro other hne hother
      exact hne (htidy.distinct other item slot hother hplace)
    refine Nat.le_antisymm (hlowest hown) (Nat.le_of_not_lt fun hlower => ?_)
    obtain ⟨other, hother⟩ := htaken least hlower
    have hne : other ≠ item := by
      rintro rfl
      rw [hplace] at hother
      exact absurd (Place.carried.inj hother) (Nat.ne_of_gt hlower)
    exact hvacant other hne hother

/-- What is carried in another slot is still what was carried. -/
theorem carried_move_carried_iff (hplace : whereabouts.placeOf item = .carried slot) {other : Item}
    {least : Nat} :
    (∃ slot, (whereabouts.move item (.carried least)).placeOf other = .carried slot) ↔
      ∃ slot, whereabouts.placeOf other = .carried slot := by
  rw [placeOf_move]
  split
  case isTrue hother => exact iff_of_true ⟨least, rfl⟩ ⟨slot, hother ▸ hplace⟩
  case isFalse => exact Iff.rfl

end Whereabouts

/-! ## One line -/

namespace World

/-- Some turns later the items are at these places, and nothing else has happened than time can do to
the candle and to the session. -/
structure Shifts (world : World) (whereabouts : Whereabouts) (turns : Nat) (after : World) :
    Prop where
  whereabouts_eq : after.whereabouts = whereabouts
  wording_eq : after.wording = world.wording
  room_eq : after.room = world.room
  plan_eq : after.plan = world.plan
  auntieIsTied_eq : after.auntieIsTied = world.auntieIsTied
  turns_eq : after.turns = world.turns + turns

variable {world between after : World} {item : Item}

theorem Shifts.trans {first last : Whereabouts} {turns more : Nat}
    (hfirst : world.Shifts first turns between) (hlast : between.Shifts last more after) :
    world.Shifts last (turns + more) after where
  whereabouts_eq := hlast.whereabouts_eq
  wording_eq := hlast.wording_eq.trans hfirst.wording_eq
  room_eq := hlast.room_eq.trans hfirst.room_eq
  plan_eq := hlast.plan_eq.trans hfirst.plan_eq
  auntieIsTied_eq := hlast.auntieIsTied_eq.trans hfirst.auntieIsTied_eq
  turns_eq := by rw [hlast.turns_eq, hfirst.turns_eq, Nat.add_assoc]

/-- Moving one item within a turn, whatever hazards come with the turn. -/
theorem shifts_settle (world : World) (item : Item) (place : Place) (speech : List Narration) :
    world.Shifts (world.whereabouts.move item place) 1
      ((world.moveItem item place).spend speech).settle.1 where
  whereabouts_eq := Act.whereabouts_settle _
  wording_eq := Act.wording_settle _
  room_eq := Act.room_settle _
  plan_eq := Act.plan_settle _
  auntieIsTied_eq := Act.auntieIsTied_settle _
  turns_eq := Act.turns_settle _

end World

/-- Nothing but the empty text has an empty text in small letters. -/
theorem Text.lowerCase_eq_empty_iff {s : String} : Text.lowerCase s = "" ↔ s = "" := by
  constructor
  · intro hnone
    have hchars : Text.LowerCase.ofChars [] s.toList = [] := by
      simpa [Text.lowerCase, ← String.toList_inj] using hnone
    cases hs : s.toList with
    | nil => exact String.toList_inj.mp hs
    | cons c rest =>
        obtain ⟨small, hsome, _, hsplit⟩ := Text.LowerCase.exists_ofChars_cons [] c rest
        rw [hs, hsplit] at hchars
        exact absurd (List.append_eq_nil_iff.mp hchars).1 hsome
  · rintro rfl
    rfl

namespace Scene

variable {scene : Scene} {wording : Wording} {item : Item} {name : String}

/-- The name of an item after a verb is read as that verb with that name, in whatever case the name
is written. -/
theorem parse?_of_name (verb : Verb) (htrim : Text.IsTrimmed name.toList)
    (hname : Text.lowerCase name = Text.lowerCase (wording.item item)) :
    Command.parse? (verb.name ++ " " ++ name) = some (.ofVerb verb (some name)) := by
  refine Command.parse?_verb verb (Text.trim_eq_self_iff.mpr htrim) ?_
  rintro rfl
  exact wording.item_ne_empty item (Text.lowerCase_eq_empty_iff.mp hname.symm)

section Handling

variable (htrim : Text.IsTrimmed name.toList)
  (hname : Text.lowerCase name = Text.lowerCase (wording.item item))
  (hwording : scene.world.wording = wording) (answer : Event)

include htrim hname hwording

theorem hear_take {slot : Nat}
    (hplace : scene.world.whereabouts.placeOf item = .lying scene.world.room)
    (hslot : scene.world.whereabouts.freeSlot? = some slot) :
    (scene.hear (Verb.take.name ++ " " ++ name) answer).failure = none ∧
      scene.world.Shifts (scene.world.whereabouts.move item (.carried slot)) 1
        (scene.hear (Verb.take.name ++ " " ++ name) answer).scene.world := by
  have hparse := parse?_of_name .take htrim hname
  have hline : scene.world.Takes (Verb.take.name ++ " " ++ name) item :=
    ⟨name, hparse, Wording.itemNamed?_eq_some_iff.mpr (hwording ▸ hname.symm)⟩
  have hstay : Command.parse? (Verb.take.name ++ " " ++ name) ≠ some .quit := by
    rw [hparse]
    simp [Command.ofVerb]
  constructor
  · obtain ⟨_, _, _, hhear⟩ := @hear_of_ne_quit scene _ answer hstay
    rw [hhear]
  · rw [world_hear, World.next_of_act? (World.act?_of_takes answer hline hplace hslot)]
    exact scene.world.shifts_settle item _ _

theorem hear_drop {slot : Nat} (hplace : scene.world.whereabouts.placeOf item = .carried slot) :
    (scene.hear (Verb.drop.name ++ " " ++ name) answer).failure = none ∧
      scene.world.Shifts (scene.world.whereabouts.move item (.lying scene.world.room)) 1
        (scene.hear (Verb.drop.name ++ " " ++ name) answer).scene.world := by
  have hparse := parse?_of_name .drop htrim hname
  have hline : scene.world.Drops (Verb.drop.name ++ " " ++ name) item :=
    ⟨name, hparse, Wording.itemNamed?_eq_some_iff.mpr (hwording ▸ hname.symm)⟩
  have hstay : Command.parse? (Verb.drop.name ++ " " ++ name) ≠ some .quit := by
    rw [hparse]
    simp [Command.ofVerb]
  constructor
  · obtain ⟨_, _, _, hhear⟩ := @hear_of_ne_quit scene _ answer hstay
    rw [hhear]
  · rw [world_hear, World.next_of_act? (World.act?_of_drops answer hline hplace)]
    exact scene.world.shifts_settle item _ _

end Handling

/-! ## Two lines -/

section Between

variable {between : Scene} (htrim : Text.IsTrimmed name.toList)
  (hname : Text.lowerCase name = Text.lowerCase (scene.world.wording.item item)) (answer : Event)

include htrim hname

theorem hear_drop_of_taken {slot : Nat}
    (hplace : scene.world.whereabouts.placeOf item = .lying scene.world.room)
    (htake : scene.world.Shifts (scene.world.whereabouts.move item (.carried slot)) 1
      between.world) :
    (between.hear (Verb.drop.name ++ " " ++ name) answer).failure = none ∧
      scene.world.Shifts scene.world.whereabouts 2
        (between.hear (Verb.drop.name ++ " " ++ name) answer).scene.world := by
  have hcarried : between.world.whereabouts.placeOf item = .carried slot := by
    rw [htake.whereabouts_eq, Whereabouts.placeOf_move, if_pos rfl]
  obtain ⟨hdropped, hdrop⟩ := hear_drop htrim hname htake.wording_eq answer hcarried
  rw [htake.whereabouts_eq, Whereabouts.move_move, htake.room_eq,
    Whereabouts.move_eq_self hplace] at hdrop
  exact ⟨hdropped, htake.trans hdrop⟩

theorem hear_take_of_dropped {least : Nat}
    (hfree : (scene.world.whereabouts.move item (.lying scene.world.room)).freeSlot? = some least)
    (hdrop : scene.world.Shifts (scene.world.whereabouts.move item (.lying scene.world.room)) 1
      between.world) :
    (between.hear (Verb.take.name ++ " " ++ name) answer).failure = none ∧
      scene.world.Shifts (scene.world.whereabouts.move item (.carried least)) 2
        (between.hear (Verb.take.name ++ " " ++ name) answer).scene.world := by
  have hlying : between.world.whereabouts.placeOf item = .lying between.world.room := by
    rw [hdrop.whereabouts_eq, hdrop.room_eq, Whereabouts.placeOf_move, if_pos rfl]
  rw [← hdrop.whereabouts_eq] at hfree
  obtain ⟨htaken, htake⟩ := hear_take htrim hname hdrop.wording_eq answer hlying hfree
  rw [hdrop.whereabouts_eq, Whereabouts.move_move] at htake
  exact ⟨htaken, hdrop.trans htake⟩

end Between

/-- **Taking and dropping undo each other.** Let the items be carried in tidy whereabouts, and let
the name be that of an item, in any case and with no blanks around it. If the item lies where the
player is and fewer than five are carried, taking it and dropping it puts every item back where it
was. If it is carried, dropping it and taking it brings it into the lowest slot in which nothing else
is carried; all others stay in their slots, and it is back in its own exactly if something is carried
in every slot below that. Either way two turns have passed, and neither the player nor the exits nor
auntie's ropes have changed, whatever hazards there have been, even if one of them has ended the
session. -/
theorem take_drop_undo (scene : Scene) (item : Item) (name : String) (answer again : Event)
    (htidy : scene.world.whereabouts.Tidy) (htrim : Text.IsTrimmed name.toList)
    (hname : Text.lowerCase name = Text.lowerCase (scene.world.wording.item item)) :
    (scene.world.whereabouts.placeOf item = .lying scene.world.room →
      scene.world.whereabouts.inventory.length < 5 →
        let taken := scene.hear (Verb.take.name ++ " " ++ name) answer
        let dropped := taken.scene.hear (Verb.drop.name ++ " " ++ name) again
        taken.failure = none ∧ dropped.failure = none ∧
        scene.world.Shifts scene.world.whereabouts 2 dropped.scene.world) ∧
    (∀ slot, scene.world.whereabouts.placeOf item = .carried slot →
      let dropped := scene.hear (Verb.drop.name ++ " " ++ name) answer
      let taken := dropped.scene.hear (Verb.take.name ++ " " ++ name) again
      let places := taken.scene.world.whereabouts.placeOf
      dropped.failure = none ∧ taken.failure = none ∧
      (∀ other, (∃ slot, places other = .carried slot) ↔
        ∃ slot, scene.world.whereabouts.placeOf other = .carried slot) ∧
      (∀ other ≠ item, places other = scene.world.whereabouts.placeOf other) ∧
      (∃ least, IsLeast (scene.world.whereabouts.vacantFor item) least ∧
        places item = .carried least ∧
        scene.world.Shifts (scene.world.whereabouts.move item (.carried least)) 2
          taken.scene.world) ∧
      (places item = .carried slot ↔
        ∀ lower < slot, ∃ other, scene.world.whereabouts.placeOf other = .carried lower)) := by
  constructor
  · intro hplace hfew
    obtain ⟨slot, hslot⟩ := htidy.length_inventory_lt_iff.mp hfew
    obtain ⟨htaken, htake⟩ := @hear_take scene _ item name htrim hname rfl answer slot hplace hslot
    exact ⟨htaken, hear_drop_of_taken htrim hname again hplace htake⟩
  · intro slot hplace
    obtain ⟨least, hfree, hleast⟩ := htidy.freeSlot?_putDown hplace scene.world.room
    obtain ⟨hdropped, hdrop⟩ := @hear_drop scene _ item name htrim hname rfl answer slot hplace
    obtain ⟨htaken, htake⟩ := hear_take_of_dropped htrim hname again hfree hdrop
    have hitem : (scene.world.whereabouts.move item (.carried least)).placeOf item =
        .carried least := by
      rw [Whereabouts.placeOf_move, if_pos rfl]
    refine ⟨hdropped, htaken, ?_, ?_, ⟨least, hleast, ?_, htake⟩, ?_⟩
    · intro other
      rw [htake.whereabouts_eq]
      exact Whereabouts.carried_move_carried_iff hplace
    · intro other hother
      rw [htake.whereabouts_eq, Whereabouts.placeOf_move, if_neg hother]
    · rw [htake.whereabouts_eq, hitem]
    · rw [htake.whereabouts_eq, hitem, Place.carried.injEq]
      exact htidy.eq_of_isLeast_iff hplace hleast

/-- In the evening, with the cat in slot 1 and nothing in slot 0: the key can be taken and dropped
again while the night falls, and the cat comes back into another slot than it was in. -/
theorem take_drop_undo_inTheEvening :
    ∃ scene : Scene, scene.world.whereabouts.Tidy ∧ scene.world.turns = 18 ∧
      scene.world.whereabouts.placeOf .key = .lying scene.world.room ∧
      scene.world.whereabouts.placeOf .cat = .carried 1 ∧
      scene.world.Shifts scene.world.whereabouts 2
        ((scene.hear (Verb.take.name ++ " " ++ "KEY") .interrupt).scene.hear
          (Verb.drop.name ++ " " ++ "KEY") .interrupt).scene.world ∧
      ((scene.hear (Verb.drop.name ++ " " ++ "Cat") .interrupt).scene.hear
        (Verb.take.name ++ " " ++ "Cat") .interrupt).scene.world.whereabouts.placeOf .cat ≠
          .carried 1 := by
  obtain ⟨wording, _, hsymbol⟩ := Script.exists_wording_ofSymbols
  obtain ⟨places, htidy, hfew, hkeyAt, hcatAt, hfree⟩ : ∃ places : Whereabouts, places.Tidy ∧
      places.inventory.length < 5 ∧ places.placeOf .key = .lying .kitchen ∧
      places.placeOf .cat = .carried 1 ∧ ∀ other, places.placeOf other ≠ .carried 0 := by
    have htidy := Whereabouts.tidy_built [.pickUp .cat, .putDown .key .kitchen]
    refine ⟨_, htidy, htidy.length_inventory_lt_iff.mpr ⟨0, by decide⟩, by decide, by decide, ?_⟩
    intro other
    cases other <;> decide
  obtain ⟨scene, hwording, rfl, hroom, hturns⟩ : ∃ scene : Scene, scene.world.wording = wording ∧
      scene.world.whereabouts = places ∧ scene.world.room = .kitchen ∧ scene.world.turns = 18 :=
    ⟨⟨{ World.atStart wording with whereabouts := places, room := .kitchen, turns := 18 }, []⟩,
      rfl, rfl, rfl, rfl⟩
  have hkey : Text.lowerCase "KEY" = Text.lowerCase (scene.world.wording.item .key) := by
    rw [hwording, hsymbol]
    decide +kernel
  have hcat : Text.lowerCase "Cat" = Text.lowerCase (scene.world.wording.item .cat) := by
    rw [hwording, hsymbol]
    decide +kernel
  obtain ⟨hundo, _⟩ := take_drop_undo scene .key "KEY" .interrupt .interrupt htidy
    (Text.trim_eq_self_iff.mp (by decide)) hkey
  obtain ⟨_, hredo⟩ := take_drop_undo scene .cat "Cat" .interrupt .interrupt htidy
    (Text.trim_eq_self_iff.mp (by decide)) hcat
  rw [← hroom] at hkeyAt
  refine ⟨scene, htidy, hturns, hkeyAt, hcatAt, (hundo hkeyAt hfew).2.2, fun hsame => ?_⟩
  obtain ⟨_, _, _, _, _, hslot⟩ := hredo 1 hcatAt
  obtain ⟨other, hother⟩ := hslot.mp hsame 0 Nat.one_pos
  exact hfree other hother

end Scene

end CastleEscape

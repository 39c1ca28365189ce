import CastleEscape.Game.Act
import CastleEscape.Proofs.Places

/-!
# Acts that nothing stands in the way of

What a command does when its words name something and that is at hand: one equation for each kind of
act. The refusals are the other cases.
-/

namespace CastleEscape.World

variable {world : World}

/-! ## Finding by name -/

theorem findHere_eq_ok {typed : String} {item : Item}
    (hnamed : world.wording.itemNamed? typed = some item)
    (hreach : world.isWithinReach item = true) : world.findHere typed = .ok item := by
  have hscope : world.isInScope item (.reachableFrom world.room) = true := hreach
  simp [findHere, find, hnamed, hscope]

theorem find_carried_eq_ok {typed : String} {item : Item}
    (hnamed : world.wording.itemNamed? typed = some item)
    (hcarried : world.whereabouts.isCarried item = true) :
    world.find typed .carried = .ok item := by
  have hscope : world.isInScope item .carried = true := hcarried
  simp [find, hnamed, hscope]

/-! ## Moving -/

theorem isCrossedBy_eq_false_iff {room : Room} {direction : Direction} :
    Gate.isCrossedBy room direction = false ↔ (room, direction) ≠ (.vestibule, .south) := by
  simp [Gate.isCrossedBy, Gate.room, Gate.direction]

section Moving

variable {target : String} {direction : Direction}

theorem go_of_exit {destination : Room} (hheading : heading? target = some direction)
    (hexit : world.plan.exit? world.room direction = some destination)
    (hgate : Gate.isCrossedBy world.room direction = false) :
    world.go (some target) = { world with room := destination }.spend [.room destination] := by
  simp [go, hheading, hexit, hgate]

theorem go_of_missing {destination : Room} {item : Item}
    (hheading : heading? target = some direction)
    (hexit : world.plan.exit? world.room direction = some destination)
    (hgate : Gate.isCrossedBy world.room direction = true)
    (hmissing : world.missingCompanion? = some item) :
    world.go (some target) = world.refuse (Gate.refusal item) := by
  simp [go, hheading, hexit, hgate, hmissing]

theorem go_of_all_there {destination : Room} (hheading : heading? target = some direction)
    (hexit : world.plan.exit? world.room direction = some destination)
    (hgate : Gate.isCrossedBy world.room direction = true)
    (hmissing : world.missingCompanion? = none) :
    world.go (some target) = ⟨world, [.finale .won], ⟨false, some .won⟩⟩ := by
  simp [go, hheading, hexit, hgate, hmissing, Outcome.free]

end Moving

/-! ## Taking, dropping, examining and using -/

section Handling

variable {typed : String} {item : Item}

theorem take_of_lying {slot : Nat} (hnamed : world.wording.itemNamed? typed = some item)
    (hplace : world.whereabouts.placeOf item = .lying world.room)
    (hslot : world.whereabouts.freeSlot? = some slot) :
    world.take (some typed) =
      (world.moveItem item (.carried slot)).spend [.aboutItem .took item] := by
  have hreach : world.isWithinReach item = true :=
    Whereabouts.isWithinReach_iff.mpr (Or.inr hplace)
  have hfree : world.whereabouts.isCarried item = false := by
    rw [Whereabouts.isCarried_eq_false_iff, hplace]
    simp
  simp [take, findHere_eq_ok hnamed hreach, hfree, Whereabouts.pickUp?_of_not_carried hfree,
    hslot, moveItem]

theorem drop_of_carried (hnamed : world.wording.itemNamed? typed = some item)
    (hcarried : world.whereabouts.isCarried item = true) :
    world.drop (some typed) =
      (world.moveItem item (.lying world.room)).spend [.aboutItem .dropped item] := by
  simp [drop, find_carried_eq_ok hnamed hcarried]

theorem examine_of_fireplace (hsame : Text.sameButAsciiCase typed fireplaceName = true)
    (hroom : world.room = .fireplace) :
    world.examine (some typed) =
      (HiddenWay.panels.foldl reveal world).spend [.message .fireplacePanels] := by
  simp [examine, isFireplaceHere, hsame, hroom]

theorem use_of_reach (hnamed : world.wording.itemNamed? typed = some item)
    (hreach : world.isWithinReach item = true) : world.use (some typed) = world.useItem item := by
  simp [use, findHere_eq_ok hnamed hreach]

/-- Whatever is used takes a turn, and only the wine ends the session. -/
theorem outcome_useItem (hwine : item ≠ .wine) :
    (world.useItem item).outcome = .oneTurn := by
  cases item with
  | wine => exact absurd rfl hwine
  | key => unfold useItem; dsimp only; split <;> rfl
  | knife => unfold useItem; dsimp only; split <;> rfl
  | matchbox => unfold useItem; dsimp only; split <;> rfl
  | steelBar => unfold useItem; dsimp only; split <;> rfl
  | _ => rfl

end Handling

end CastleEscape.World

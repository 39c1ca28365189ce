import CastleEscape.Proofs.Deed
import CastleEscape.Proofs.Grammar
import CastleEscape.Proofs.Names

/-!
# Wishes

What a player may wish to do, and what to type for it. A wish speaks of items and directions, not of
their names, so that what comes of it can be told without any wording (`World.fulfil`). In a wording
whose names can be typed the lines for a list of wishes then do just that (`World.run_of_fulfilAll`).
-/

namespace CastleEscape

inductive Wish where
  | walk (direction : Direction)
  | take (item : Item)
  | drop (item : Item)
  | use (item : Item)
  | openPanels
  deriving DecidableEq

/-- Trimming a line takes nothing away from the name of any item. -/
def Wording.IsTypable (wording : Wording) : Prop :=
  ∀ item, Text.trim (wording.item item) = wording.item item

/-- The line to type for a wish. -/
def Wish.line (wording : Wording) : Wish → String
  | walk direction => direction.name
  | take item => Verb.take.name ++ " " ++ wording.item item
  | drop item => Verb.drop.name ++ " " ++ wording.item item
  | use item => Verb.use.name ++ " " ++ wording.item item
  | openPanels => Verb.examine.name ++ " " ++ fireplaceName

namespace World

/-- The world with a wish come true, if it can. The turn is not charged yet. -/
def grant (world : World) : Wish → Option World
  | .walk direction =>
    if Gate.isCrossedBy world.room direction then none
    else
      (world.plan.exit? world.room direction).map fun destination =>
        { world with room := destination }
  | .take item =>
    if world.whereabouts.placeOf item = .lying world.room then
      world.whereabouts.freeSlot?.map fun slot => world.moveItem item (.carried slot)
    else none
  | .drop item =>
    if world.whereabouts.isCarried item then some (world.moveItem item (.lying world.room))
    else none
  | .use item =>
    if world.isWithinReach item ∧ item ≠ .wine then some (world.useItem item).world else none
  | .openPanels =>
    if world.room = .fireplace then some (HiddenWay.panels.foldl reveal world) else none

/-- The world after the turn that a wish takes. -/
def fulfil (world : World) (wish : Wish) : Option World :=
  (world.grant wish).map fun after => (after.spend []).settle.1

def fulfilAll (world : World) (wishes : List Wish) : Option World :=
  wishes.foldlM fulfil world

end World

/-! ## Lines for wishes -/

namespace Wish

theorem parse?_line_take {wording : Wording} (htypable : wording.IsTypable) (item : Item) :
    Command.parse? ((take item).line wording) = some (.take (some (wording.item item))) :=
  Command.parse?_verb .take (htypable item) (wording.item_ne_empty item)

theorem parse?_line_drop {wording : Wording} (htypable : wording.IsTypable) (item : Item) :
    Command.parse? ((drop item).line wording) = some (.drop (some (wording.item item))) :=
  Command.parse?_verb .drop (htypable item) (wording.item_ne_empty item)

theorem parse?_line_use {wording : Wording} (htypable : wording.IsTypable) (item : Item) :
    Command.parse? ((use item).line wording) = some (.use (some (wording.item item))) :=
  Command.parse?_verb .use (htypable item) (wording.item_ne_empty item)

theorem parse?_line_openPanels (wording : Wording) :
    Command.parse? (openPanels.line wording) = some (.examine (some fireplaceName)) :=
  Command.parse?_verb .examine (by decide +kernel) (by decide)

end Wish

namespace World

variable {world after : World}

theorem heading?_name (direction : Direction) : heading? direction.name = some direction := by
  cases direction <;> decide +kernel

/-- The line for a wish that can come true comes to an act that does what is wished for. -/
theorem act?_of_grant (htypable : world.wording.IsTypable) {wish : Wish}
    (hgrant : world.grant wish = some after) (answer : Event) :
    ∃ act, world.act? ⟨wish.line world.wording, answer⟩ = some act ∧
      act.world = after ∧ act.outcome = .oneTurn := by
  cases wish with
  | walk direction =>
      simp only [grant] at hgrant
      split at hgrant
      · cases hgrant
      · rename_i hgate
        obtain ⟨destination, hexit, rfl⟩ := Option.map_eq_some_iff.mp hgrant
        refine ⟨{ world with room := destination }.spend [.room destination], ?_, rfl, rfl⟩
        simp only [act?, Wish.line, Command.parse?_name]
        rw [go_of_exit (heading?_name direction) hexit (Bool.eq_false_iff.mpr hgate)]
  | take item =>
      simp only [grant] at hgrant
      split at hgrant
      · rename_i hplace
        obtain ⟨slot, hslot, rfl⟩ := Option.map_eq_some_iff.mp hgrant
        refine ⟨(world.moveItem item (.carried slot)).spend [.aboutItem .took item], ?_, rfl, rfl⟩
        simp only [act?, Wish.parse?_line_take htypable]
        rw [take_of_lying (world.wording.itemNamed?_item item) hplace hslot]
      · cases hgrant
  | drop item =>
      simp only [grant] at hgrant
      split at hgrant
      · rename_i hcarried
        cases hgrant
        refine ⟨(world.moveItem item (.lying world.room)).spend [.aboutItem .dropped item],
          ?_, rfl, rfl⟩
        simp only [act?, Wish.parse?_line_drop htypable]
        rw [drop_of_carried (world.wording.itemNamed?_item item) hcarried]
      · cases hgrant
  | use item =>
      simp only [grant] at hgrant
      split at hgrant
      · rename_i huse
        cases hgrant
        refine ⟨world.useItem item, ?_, rfl, outcome_useItem huse.2⟩
        simp only [act?, Wish.parse?_line_use htypable]
        rw [use_of_reach (world.wording.itemNamed?_item item) huse.1]
      · cases hgrant
  | openPanels =>
      simp only [grant] at hgrant
      split at hgrant
      · rename_i hroom
        cases hgrant
        refine ⟨(HiddenWay.panels.foldl reveal world).spend [.message .fireplacePanels],
          ?_, rfl, rfl⟩
        simp only [act?, Wish.parse?_line_openPanels]
        rw [examine_of_fireplace (by decide +kernel) hroom]
      · cases hgrant

theorem next_of_fulfil (htypable : world.wording.IsTypable) {wish : Wish}
    (hfulfil : world.fulfil wish = some after) (answer : Event) :
    world.next ⟨wish.line world.wording, answer⟩ = after := by
  obtain ⟨granted, hgrant, rfl⟩ := Option.map_eq_some_iff.mp hfulfil
  obtain ⟨act, hact, hworld, houtcome⟩ := act?_of_grant htypable hgrant answer
  rw [next_of_act? hact]
  exact Act.settle_congr hworld houtcome

/-- **Wishes come true.** If a list of wishes can be fulfilled one after the other, then typing the
lines for them does so, whatever answers stand ready for questions that are not asked. -/
theorem run_of_fulfilAll (htypable : world.wording.IsTypable) {wishes : List Wish}
    (hfulfil : world.fulfilAll wishes = some after) {inputs : List Input}
    (hlines : inputs.map Input.line = wishes.map (Wish.line world.wording)) :
    world.run inputs = after := by
  induction wishes generalizing world inputs with
  | nil =>
      rw [List.map_nil, List.map_eq_nil_iff] at hlines
      subst hlines
      exact Option.some.inj hfulfil
  | cons wish rest ih =>
      obtain ⟨⟨line, answer⟩, more, rfl, hline, hmore⟩ := List.map_eq_cons_iff.mp hlines
      obtain ⟨between, hfirst, hrest⟩ := Option.bind_eq_some_iff.mp
        (show (world.fulfil wish).bind (fulfilAll · rest) = some after from hfulfil)
      have hnext : world.next ⟨line, answer⟩ = between := by
        rw [show line = wish.line world.wording from hline]
        exact next_of_fulfil htypable hfirst answer
      have hwording : between.wording = world.wording := hnext ▸ world.wording_next _
      rw [run_cons, hnext]
      rw [← hwording] at htypable hmore
      exact ih htypable hrest hmore

end World

end CastleEscape

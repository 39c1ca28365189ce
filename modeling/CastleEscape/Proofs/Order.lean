import CastleEscape.Proofs.Board

/-!
# What every run keeps

The order of the castle in terms of exits, rooms and places, for every world that a run can come to.
Two of its parts look ahead as well: whoever has left the front entrance never comes back to it, and
whatever is in the castle once stays in it.
-/

namespace CastleEscape

namespace World

variable {world : World}

/-! ## Looking ahead -/

theorem placeOf_ne_absent_run (horder : ∃ door panels, world.board.Orderly door panels) {item : Item}
    (hpresent : world.whereabouts.placeOf item ≠ .absent) (inputs : List Input) :
    (world.run inputs).whereabouts.placeOf item ≠ .absent :=
  (Board.run_induction (motive := fun board => board.whereabouts.placeOf item ≠ .absent) horder
    hpresent (fun _ _ _ _ _ hmove hpresent => hmove.placeOf_ne_absent hpresent) inputs).2

/-! ## The panels -/

/-- The signs that somebody or something has come past the panels of the study. -/
inductive HasPassedPanels (world : World) : Prop where
  | player (hroom : world.room ∈ Room.belowStudy)
  | held (item : Item) (hitem : item ∈ [Item.auntie, .wine]) (slot : Nat)
      (hplace : world.whereabouts.placeOf item = .carried slot)
  | broughtUp (item : Item) (hitem : item ∈ [Item.auntie, .wine]) (room : Room)
      (hplace : world.whereabouts.placeOf item = .lying room) (hroom : room ∉ Room.belowStudy)
  | broughtDown (item : Item) (hitem : item ∉ [Item.auntie, .wine]) (room : Room)
      (hplace : world.whereabouts.placeOf item = .lying room) (hroom : room ∈ Room.belowStudy)
  | skye (hplace : world.whereabouts.placeOf .skye ≠ .absent)

theorem panels_of_hasPassedPanels {door panels : Bool} (horder : world.board.Orderly door panels)
    (hpassed : world.HasPassedPanels) : panels = true := by
  by_contra hshut
  rw [Bool.not_eq_true] at hshut
  have hsides : ∀ item : Item, item.OnOwnSide (world.whereabouts.placeOf item) :=
    horder.sides hshut
  -- auntie and the wine have to be below the study, everything else above it
  have hbelow : ∀ item ∈ [Item.auntie, .wine],
      (world.whereabouts.placeOf item).isBelow = true := by
    intro item hitem
    simp only [List.mem_cons, List.not_mem_nil, or_false] at hitem
    rcases hitem with rfl | rfl
    · exact hsides .auntie
    · exact hsides .wine
  have habove : ∀ item ∉ [Item.auntie, .wine],
      (world.whereabouts.placeOf item).isBelow = false := by
    intro item hitem
    have hside := hsides item
    cases item with
    | auntie => exact absurd (by decide) hitem
    | wine => exact absurd (by decide) hitem
    | skye =>
        rw [show world.whereabouts.placeOf .skye = .absent from hside]
        rfl
    | _ => exact hside
  cases hpassed with
  | player hroom => exact horder.above hshut hroom
  | held item hitem slot hplace => simpa [hplace, Place.isBelow] using hbelow item hitem
  | broughtUp item hitem room hplace hroom =>
      have hlow := hbelow item hitem
      rw [hplace] at hlow
      exact hroom (of_decide_eq_true hlow)
  | broughtDown item hitem room hplace hroom =>
      have hhigh := habove item hitem
      rw [hplace] at hhigh
      exact of_decide_eq_false hhigh hroom
  | skye hplace => exact hplace (hsides .skye)

/-! ## The invariant of every run -/

/-- **The order of the castle.** In every world that a run comes to: the exits are those of the map
but for the front door, open or shut, and the panels, both open or both shut; the door is open for
whoever has come in, and nobody who has comes back; nothing passes the panels before they are open;
nothing but the key is left at the front entrance; and every item but Skye is in the castle, in a
slot of its own if it is held, while Skye stays once she is there. -/
theorem order_of_run (wording : Wording) (inputs : List Input) :
    let world := (World.atStart wording).run inputs
    let panelsAreOpen := world.plan.exit? .study .up = some .hallway11 ∧
      world.plan.exit? .study .down = some .stairs3
    ((∀ room direction,
        (room, direction) ∉ [(Room.frontEntrance, Direction.north), (.study, .up), (.study, .down)] →
          world.plan.exit? room direction = room.passage? direction) ∧
      (world.plan.exit? .frontEntrance .north = none ∨
        world.plan.exit? .frontEntrance .north = some .vestibule) ∧
      (world.plan.exit? .study .up = none ∧ world.plan.exit? .study .down = none ∨
        panelsAreOpen)) ∧
    (world.room ≠ .frontEntrance →
      world.plan.exit? .frontEntrance .north = some .vestibule ∧
        ∀ more, (world.run more).room ≠ .frontEntrance) ∧
    (world.HasPassedPanels → panelsAreOpen) ∧
    (∀ item, world.whereabouts.placeOf item = .lying .frontEntrance → item = .key) ∧
    (∀ item, world.whereabouts.placeOf item = .absent → item = .skye) ∧
    (world.whereabouts.placeOf .skye ≠ .absent →
      ∀ more, (world.run more).whereabouts.placeOf .skye ≠ .absent) ∧
    (∀ item slot, world.whereabouts.placeOf item = .carried slot →
      slot < 5 ∧ ∀ other, world.whereabouts.placeOf other = .carried slot → other = item) := by
  intro world panelsAreOpen
  obtain ⟨door, panels, horder⟩ := Board.orderly_run wording inputs
  have hplan : world.plan = .withOpen door panels := horder.plan_eq
  have hopen : panels = true → panelsAreOpen := by
    rintro rfl
    simp [panelsAreOpen, hplan, FloorPlan.exit?_withOpen_panelUp,
      FloorPlan.exit?_withOpen_panelDown]
  refine ⟨⟨?_, ?_, ?_⟩, ?_, ?_, horder.doorstep, horder.absent, ?_, ?_⟩
  · intro room direction hway
    rw [hplan]
    exact FloorPlan.exit?_withOpen_of_not_mem hway
  · rw [hplan, FloorPlan.exit?_withOpen_frontDoor]
    cases door <;> simp
  · cases panels with
    | true => exact Or.inr (hopen rfl)
    | false =>
        refine Or.inl ?_
        simp [hplan, FloorPlan.exit?_withOpen_panelUp, FloorPlan.exit?_withOpen_panelDown]
  · intro hroom
    refine ⟨?_, Board.run_ne_frontEntrance ⟨door, panels, horder⟩ hroom⟩
    rw [hplan, FloorPlan.exit?_withOpen_frontDoor, horder.indoors hroom]
    rfl
  · intro hpassed
    exact hopen (panels_of_hasPassedPanels horder hpassed)
  · exact placeOf_ne_absent_run ⟨door, panels, horder⟩
  · intro item slot hplace
    exact ⟨horder.slots item slot hplace, fun other hother =>
      horder.distinct other item slot hother hplace⟩

end World

end CastleEscape

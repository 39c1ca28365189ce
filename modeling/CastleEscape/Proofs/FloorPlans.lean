import CastleEscape.Game.Gate

/-!
# The four floor plans

Only the front door and the panels are ever opened, so the castle has one of four floor plans:
`FloorPlan.withOpen door panels`. Its exits are those of the map and the three hidden ways
(`exit?_withOpen_cases`), and opening something again leads from one of the four to one of the four.

A fact about all passages of the map is checked room by room (`Room.forall_passage`).
-/

namespace CastleEscape

/-! ## The map -/

theorem Room.mem_passages {room destination : Room} {direction : Direction}
    (hexit : room.passage? direction = some destination) :
    (direction, destination) ∈ room.passages := by
  unfold Room.passage? at hexit
  obtain ⟨before, after, hsplit, _⟩ := List.lookup_eq_some_iff.mp hexit
  rw [hsplit]
  simp

theorem Room.forall_passage {motive : Room → Direction → Room → Prop}
    (hall : ∀ room ∈ Room.all, ∀ way ∈ room.passages, motive room way.1 way.2)
    {room destination : Room} {direction : Direction}
    (hexit : room.passage? direction = some destination) : motive room direction destination :=
  hall room (Room.mem_all room) _ (Room.mem_passages hexit)

/-- The rooms below the study, which nobody enters or leaves but by the panels. -/
def Room.belowStudy : List Room :=
  [stairs3, wineCellar, tunnel1, tunnel2, tunnel3, steamPlant, tunnel4, stables]

/-- On the map the only way back to the front entrance is the gate. -/
theorem Room.eq_gate_of_passage {room : Room} {direction : Direction}
    (hexit : room.passage? direction = some .frontEntrance) :
    room = .vestibule ∧ direction = .south := by
  have hall : ∀ room ∈ Room.all, ∀ way ∈ room.passages,
      way.2 = .frontEntrance → room = .vestibule ∧ way.1 = .south := by decide +kernel
  exact Room.forall_passage
    (motive := fun room direction destination =>
      destination = .frontEntrance → room = .vestibule ∧ direction = .south) hall hexit rfl

/-- On the map no way leads below the study from above. -/
theorem Room.belowStudy_of_passage {room destination : Room} {direction : Direction}
    (hexit : room.passage? direction = some destination)
    (hbelow : destination ∈ Room.belowStudy) : room ∈ Room.belowStudy := by
  have hall : ∀ room ∈ Room.all, ∀ way ∈ room.passages,
      way.2 ∈ Room.belowStudy → room ∈ Room.belowStudy := by decide +kernel
  exact Room.forall_passage
    (motive := fun room _ destination =>
      destination ∈ Room.belowStudy → room ∈ Room.belowStudy) hall hexit hbelow

/-- On the map no way leads back to where it begins. -/
theorem Room.ne_of_passage {room destination : Room} {direction : Direction}
    (hexit : room.passage? direction = some destination) : destination ≠ room := by
  have hall : ∀ room ∈ Room.all, ∀ way ∈ room.passages, way.2 ≠ room := by decide +kernel
  exact Room.forall_passage (motive := fun room _ destination => destination ≠ room) hall hexit

/-! ## Open and shut -/

namespace FloorPlan

/-- The floor plan with the front door and the panels open or shut. -/
def withOpen (door panels : Bool) : FloorPlan where
  changes room direction :=
    if door ∧ room = .frontEntrance ∧ direction = .north then some (some .vestibule)
    else if panels ∧ room = .study ∧ direction = .up then some (some .hallway11)
    else if panels ∧ room = .study ∧ direction = .down then some (some .stairs3)
    else none

theorem atStart_eq_withOpen : atStart = withOpen false false := by
  ext1
  funext room direction
  simp [atStart, withOpen]

theorem exit?_withOpen (door panels : Bool) (room : Room) (direction : Direction) :
    (withOpen door panels).exit? room direction =
      if door ∧ room = .frontEntrance ∧ direction = .north then some .vestibule
      else if panels ∧ room = .study ∧ direction = .up then some .hallway11
      else if panels ∧ room = .study ∧ direction = .down then some .stairs3
      else room.passage? direction := by
  simp only [exit?, withOpen, apply_ite (Option.getD · (room.passage? direction)),
    Option.getD_some, Option.getD_none]

theorem exit?_withOpen_frontDoor (door panels : Bool) :
    (withOpen door panels).exit? .frontEntrance .north = if door then some .vestibule else none := by
  cases panels <;> cases door <;> rfl

theorem exit?_withOpen_panelUp (door panels : Bool) :
    (withOpen door panels).exit? .study .up = if panels then some .hallway11 else none := by
  cases panels <;> cases door <;> rfl

theorem exit?_withOpen_panelDown (door panels : Bool) :
    (withOpen door panels).exit? .study .down = if panels then some .stairs3 else none := by
  cases panels <;> cases door <;> rfl

theorem reveal_frontDoor (door panels : Bool) :
    (withOpen door panels).reveal .frontDoor = withOpen true panels := by
  cases door with
  | true => cases panels <;> rfl
  | false =>
      have hreveal : (withOpen false panels).reveal .frontDoor =
          (withOpen false panels).setExit .frontEntrance .north (some .vestibule) := by
        cases panels <;> rfl
      rw [hreveal]
      ext1
      funext room direction
      by_cases hway : room = .frontEntrance ∧ direction = .north <;>
        simp [setExit, withOpen, hway]

theorem reveal_panels (door panels : Bool) :
    HiddenWay.panels.foldl reveal (withOpen door panels) = withOpen door true := by
  cases panels with
  | true => cases door <;> rfl
  | false =>
      have hreveal : HiddenWay.panels.foldl reveal (withOpen door false) =
          ((withOpen door false).setExit .study .up (some .hallway11)).setExit
            .study .down (some .stairs3) := by
        cases door <;> rfl
      rw [hreveal]
      ext1
      funext room direction
      by_cases hroom : room = .study
      · subst hroom
        cases direction <;> simp [setExit, withOpen]
      · simp [setExit, withOpen, hroom]

theorem exit?_withOpen_cases {door panels : Bool} {room destination : Room}
    {direction : Direction}
    (hexit : (withOpen door panels).exit? room direction = some destination) :
    (door = true ∧ room = .frontEntrance ∧ direction = .north ∧ destination = .vestibule) ∨
    (panels = true ∧ room = .study ∧ direction = .up ∧ destination = .hallway11) ∨
    (panels = true ∧ room = .study ∧ direction = .down ∧ destination = .stairs3) ∨
    room.passage? direction = some destination := by
  rw [exit?_withOpen] at hexit
  split at hexit
  · rename_i hdoor
    exact Or.inl ⟨hdoor.1, hdoor.2.1, hdoor.2.2, (Option.some.inj hexit).symm⟩
  · split at hexit
    · rename_i hup
      exact Or.inr (Or.inl ⟨hup.1, hup.2.1, hup.2.2, (Option.some.inj hexit).symm⟩)
    · split at hexit
      · rename_i hdown
        exact Or.inr (Or.inr (Or.inl ⟨hdown.1, hdown.2.1, hdown.2.2, (Option.some.inj hexit).symm⟩))
      · exact Or.inr (Or.inr (Or.inr hexit))

/-- All other ways are as on the map. -/
theorem exit?_withOpen_of_not_mem {door panels : Bool} {room : Room} {direction : Direction}
    (hway : (room, direction) ∉
      [(Room.frontEntrance, Direction.north), (.study, .up), (.study, .down)]) :
    (withOpen door panels).exit? room direction = room.passage? direction := by
  simp only [List.mem_cons, Prod.mk.injEq, List.not_mem_nil, or_false, not_or] at hway
  simp [exit?_withOpen, hway]

/-- What is opened blocks no way of the map. -/
theorem exit?_withOpen_of_passage (door panels : Bool) {room destination : Room}
    {direction : Direction} (hmap : room.passage? direction = some destination) :
    (withOpen door panels).exit? room direction = some destination := by
  rw [exit?_withOpen_of_not_mem, hmap]
  -- the map has no passages where the hidden ways are
  intro hway
  simp only [List.mem_cons, Prod.mk.injEq, List.not_mem_nil, or_false] at hway
  rcases hway with ⟨rfl, rfl⟩ | ⟨rfl, rfl⟩ | ⟨rfl, rfl⟩ <;> cases hmap

/-- Whatever is open, nobody comes back to the front entrance but through the gate. -/
theorem ne_frontEntrance_of_exit? {door panels : Bool} {room destination : Room}
    {direction : Direction}
    (hexit : (withOpen door panels).exit? room direction = some destination)
    (hgate : Gate.isCrossedBy room direction = false) : destination ≠ .frontEntrance := by
  rintro rfl
  rcases exit?_withOpen_cases hexit with ⟨_, _, _, h⟩ | ⟨_, _, _, h⟩ | ⟨_, _, _, h⟩ | hmap
  · cases h
  · cases h
  · cases h
  · obtain ⟨rfl, rfl⟩ := Room.eq_gate_of_passage hmap
    cases hgate

/-- Whatever is open, every way leads somewhere else. -/
theorem ne_of_exit? {door panels : Bool} {room destination : Room} {direction : Direction}
    (hexit : (withOpen door panels).exit? room direction = some destination) :
    destination ≠ room := by
  rcases exit?_withOpen_cases hexit with
    ⟨_, rfl, _, rfl⟩ | ⟨_, rfl, _, rfl⟩ | ⟨_, rfl, _, rfl⟩ | hmap
  · simp
  · simp
  · simp
  · exact Room.ne_of_passage hmap

/-- With the panels shut, nobody comes below the study from above. -/
theorem belowStudy_of_exit? {door : Bool} {room destination : Room} {direction : Direction}
    (hexit : (withOpen door false).exit? room direction = some destination)
    (hbelow : destination ∈ Room.belowStudy) : room ∈ Room.belowStudy := by
  rcases exit?_withOpen_cases hexit with ⟨_, _, _, rfl⟩ | ⟨h, _⟩ | ⟨h, _⟩ | hmap
  · simp [Room.belowStudy] at hbelow
  · cases h
  · cases h
  · exact Room.belowStudy_of_passage hmap hbelow

end FloorPlan

end CastleEscape

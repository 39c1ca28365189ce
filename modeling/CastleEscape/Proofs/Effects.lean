import CastleEscape.Proofs.Deed
import CastleEscape.Proofs.Parsing
import CastleEscape.Proofs.Slots

/-!
# What one line may change

Turns, endings and the candle have to do with hazards as well. What is left is changed by what a
line asks for and by nothing else: where the player is, where an item is, where ways lead, and
whether auntie is tied. For each of them a predicate says which lines change it and to what
(`Enters`, `Carries`, `Opens`, `CutsRopes`). Such a line does bring the change about, nothing is
changed without one, and no line does two of these things.
-/

namespace CastleEscape

namespace World

/-- The line heads into this room, along a way that is there and does not lead out of the castle. -/
def Enters (world : World) (line : String) (destination : Room) : Prop :=
  ∃ target word direction, Command.parse? line = some (.go (some target)) ∧
    Text.lastWord? line = some word ∧ Direction.ofWord? word = some direction ∧
    world.plan.exit? world.room direction = some destination ∧
    (world.room, direction) ≠ (.vestibule, .south)

/-- The line brings this item to this place. -/
inductive Carries (world : World) (line : String) : Item → Place → Prop where
  | take (item : Item) (slot : Nat) (hline : world.Takes line item)
      (hplace : world.whereabouts.placeOf item = .lying world.room) (hlimit : slot < 5)
      (hslot : IsLeast {slot | ∀ other, world.whereabouts.placeOf other ≠ .carried slot} slot) :
      Carries world line item (.carried slot)
  | drop (item : Item) (slot : Nat) (hline : world.Drops line item)
      (hplace : world.whereabouts.placeOf item = .carried slot) :
      Carries world line item (.lying world.room)
  | pry (huse : world.Uses line .steelBar) (hroom : world.room = .steamPlant)
      (habsent : world.whereabouts.placeOf .skye = .absent) :
      Carries world line .skye (.lying .steamPlant)

/-- The line opens these ways, all of them together. -/
inductive Opens (world : World) (line : String) : List HiddenWay → Prop where
  | door (huse : world.Uses line .key) (hroom : world.room = .frontEntrance) :
      Opens world line [⟨.frontEntrance, .north, .vestibule⟩]
  | panels (hline : Command.ExaminesFireplace line) (hroom : world.room = .study) :
      Opens world line [⟨.study, .up, .hallway11⟩, ⟨.study, .down, .stairs3⟩]

/-- The line uses the knife on auntie, who is tied and at hand. -/
def CutsRopes (world : World) (line : String) : Prop :=
  world.auntieIsTied = true ∧ world.Uses line .knife ∧ world.isWithinReach .auntie = true

end World

/-! ## Nothing else is changed -/

theorem World.placeOf_moveItem_cases (world : World) (moved item : Item) (place : Place) :
    (world.moveItem moved place).whereabouts.placeOf item = world.whereabouts.placeOf item ∨
      item = moved ∧ (world.moveItem moved place).whereabouts.placeOf item = place := by
  by_cases hitem : item = moved
  · exact Or.inr ⟨hitem, if_pos hitem⟩
  · exact Or.inl (if_neg hitem)

theorem World.enters_of_heads {world : World} {line : String} {direction : Direction}
    {destination : Room} (hheads : Command.Heads line direction)
    (hexit : world.plan.exit? world.room direction = some destination)
    (hgate : Gate.isCrossedBy world.room direction = false) : world.Enters line destination := by
  obtain ⟨target, word, hparse, hword, hdirection⟩ := hheads
  rw [Command.lastWord?_of_parse?_go hparse] at hword
  exact ⟨target, word, direction, hparse, hword, hdirection, hexit,
    isCrossedBy_eq_false_iff.mp hgate⟩

namespace Deed

variable {world after : World} {input : Input} {outcome : Outcome}

theorem room_cases (hdeed : Deed world input after outcome) :
    after.room = world.room ∨ world.Enters input.line after.room := by
  cases hdeed with
  | walk direction destination hline hexit hgate =>
      exact Or.inr (World.enters_of_heads hline hexit hgate)
  | _ => exact Or.inl rfl

/-- One item at most has been moved. -/
theorem exists_moved (hdeed : Deed world input after outcome) :
    ∃ item, ∀ other, other ≠ item →
      after.whereabouts.placeOf other = world.whereabouts.placeOf other := by
  cases hdeed with
  | take item => exact ⟨item, fun other hother => if_neg hother⟩
  | drop item => exact ⟨item, fun other hother => if_neg hother⟩
  | pry => exact ⟨.skye, fun other hother => if_neg hother⟩
  | _ => exact ⟨.key, fun _ _ => rfl⟩

theorem placeOf_cases (hdeed : Deed world input after outcome) (item : Item) :
    after.whereabouts.placeOf item = world.whereabouts.placeOf item ∨
      world.Carries input.line item (after.whereabouts.placeOf item) := by
  cases hdeed with
  | take moved slot hline hplace hslot =>
      rcases world.placeOf_moveItem_cases moved item (.carried slot) with hsame | ⟨rfl, hafter⟩
      · exact Or.inl hsame
      · obtain ⟨hlimit, hleast⟩ := Whereabouts.freeSlot?_eq_some_iff.mp hslot
        rw [hafter]
        exact Or.inr (.take item slot hline hplace hlimit hleast)
  | drop moved slot hline hplace =>
      rcases world.placeOf_moveItem_cases moved item (.lying world.room) with hsame | ⟨rfl, hafter⟩
      · exact Or.inl hsame
      · rw [hafter]
        exact Or.inr (.drop item slot hline hplace)
  | pry huse hroom habsent =>
      rcases world.placeOf_moveItem_cases .skye item (.lying world.room) with hsame | ⟨rfl, hafter⟩
      · exact Or.inl hsame
      · rw [hafter, hroom]
        exact Or.inr (.pry huse hroom habsent)
  | _ => exact Or.inl rfl

theorem exit?_cases (hdeed : Deed world input after outcome) (room : Room)
    (direction : Direction) :
    after.plan.exit? room direction = world.plan.exit? room direction ∨
      ∃ ways, world.Opens input.line ways ∧
        ∃ way ∈ ways, way.origin = room ∧ way.direction = direction := by
  cases hdeed with
  | unlock huse hroom =>
      by_cases hway : room = .frontEntrance ∧ direction = .north
      · exact Or.inr ⟨_, .door huse hroom, _, List.mem_singleton_self _, hway.1.symm,
          hway.2.symm⟩
      · exact Or.inl (world.plan.exit?_reveal_of_ne hway)
  | openPanels hline hroom =>
      by_cases hdown : room = .study ∧ direction = .down
      · exact Or.inr ⟨_, .panels hline hroom, ⟨.study, .down, .stairs3⟩, by simp, hdown.1.symm,
          hdown.2.symm⟩
      · by_cases hup : room = .study ∧ direction = .up
        · exact Or.inr ⟨_, .panels hline hroom, ⟨.study, .up, .hallway11⟩, by simp, hup.1.symm,
            hup.2.symm⟩
        · exact Or.inl ((FloorPlan.exit?_reveal_of_ne _ hdown).trans
            (world.plan.exit?_reveal_of_ne hup))
  | _ => exact Or.inl rfl

theorem auntieIsTied_cases (hdeed : Deed world input after outcome) :
    after.auntieIsTied = world.auntieIsTied ∨
      world.CutsRopes input.line ∧ after.auntieIsTied = false := by
  cases hdeed with
  | cutRopes huse htied hauntie => exact Or.inr ⟨⟨htied, huse, hauntie⟩, rfl⟩
  | _ => exact Or.inl rfl

/-- No deed does two things at once. -/
theorem pairwise_changes (hdeed : Deed world input after outcome) :
    [after.room ≠ world.room, after.whereabouts ≠ world.whereabouts, after.plan ≠ world.plan,
      after.auntieIsTied ≠ world.auntieIsTied].Pairwise fun one other => ¬ (one ∧ other) := by
  simp only [List.pairwise_cons, List.forall_mem_cons, List.not_mem_nil, false_imp_iff,
    implies_true, and_true, List.Pairwise.nil]
  cases hdeed <;> simp [World.moveItem, World.reveal, HiddenWay.panels]

end Deed

/-! ## What a line is for comes about -/

namespace World

variable {world : World} {line : String}

theorem act?_of_enters {destination : Room} (answer : Event)
    (henters : world.Enters line destination) :
    world.act? ⟨line, answer⟩ =
      some ({ world with room := destination }.spend [.room destination]) := by
  obtain ⟨target, word, direction, hparse, hword, hdirection, hexit, hgate⟩ := henters
  rw [← Command.lastWord?_of_parse?_go hparse] at hword
  have hheading : heading? target = some direction := by simp [heading?, hword, hdirection]
  simp only [act?, hparse, go_of_exit hheading hexit (isCrossedBy_eq_false_iff.mpr hgate)]

theorem act?_of_takes {item : Item} {slot : Nat} (answer : Event) (hline : world.Takes line item)
    (hplace : world.whereabouts.placeOf item = .lying world.room)
    (hslot : world.whereabouts.freeSlot? = some slot) :
    world.act? ⟨line, answer⟩ =
      some ((world.moveItem item (.carried slot)).spend [.aboutItem .took item]) := by
  obtain ⟨typed, hparse, hnamed⟩ := hline
  simp only [act?, hparse, take_of_lying hnamed hplace hslot]

theorem act?_of_drops {item : Item} {slot : Nat} (answer : Event) (hline : world.Drops line item)
    (hplace : world.whereabouts.placeOf item = .carried slot) :
    world.act? ⟨line, answer⟩ =
      some ((world.moveItem item (.lying world.room)).spend [.aboutItem .dropped item]) := by
  obtain ⟨typed, hparse, hnamed⟩ := hline
  have hcarried : world.whereabouts.isCarried item = true :=
    Whereabouts.isCarried_iff.mpr ⟨slot, hplace⟩
  simp only [act?, hparse, drop_of_carried hnamed hcarried]

theorem act?_of_pry (answer : Event) (huse : world.Uses line .steelBar)
    (hroom : world.room = .steamPlant) (habsent : world.whereabouts.placeOf .skye = .absent) :
    world.act? ⟨line, answer⟩ =
      some ((world.moveItem .skye (.lying .steamPlant)).spend [.message .pryBoiler]) := by
  have hact : world.act? ⟨line, answer⟩ = some (world.useItem .steelBar) := act?_of_uses huse
  rw [hact]
  simp [useItem, hroom, Room.boiler, Whereabouts.isAbsent_iff.mpr habsent]

theorem act?_of_carries {item : Item} {place : Place} (answer : Event)
    (hcarries : world.Carries line item place) :
    ∃ speech, world.act? ⟨line, answer⟩ = some ((world.moveItem item place).spend speech) := by
  cases hcarries with
  | take item slot hline hplace hlimit hslot =>
      exact ⟨_, act?_of_takes answer hline hplace
        (Whereabouts.freeSlot?_eq_some_iff.mpr ⟨hlimit, hslot⟩)⟩
  | drop item slot hline hplace => exact ⟨_, act?_of_drops answer hline hplace⟩
  | pry huse hroom habsent => exact ⟨_, act?_of_pry answer huse hroom habsent⟩

theorem act?_of_unlock (answer : Event) (huse : world.Uses line .key)
    (hroom : world.room = .frontEntrance) :
    world.act? ⟨line, answer⟩ =
      some ((world.reveal .frontDoor).spend [.message .unlockDoor]) := by
  have hact : world.act? ⟨line, answer⟩ = some (world.useItem .key) := act?_of_uses huse
  rw [hact]
  simp [useItem, hroom, Room.start]

theorem act?_of_examinesFireplace (answer : Event) (hline : Command.ExaminesFireplace line)
    (hroom : world.room = .study) :
    world.act? ⟨line, answer⟩ =
      some ((HiddenWay.panels.foldl reveal world).spend [.message .fireplacePanels]) := by
  obtain ⟨typed, hparse, hsame⟩ := hline
  simp only [act?, hparse, examine_of_fireplace hsame hroom]

theorem act?_of_opens {ways : List HiddenWay} (answer : Event) (hopens : world.Opens line ways) :
    ∃ speech, world.act? ⟨line, answer⟩ = some ((ways.foldl reveal world).spend speech) := by
  cases hopens with
  | door huse hroom => exact ⟨_, act?_of_unlock answer huse hroom⟩
  | panels hline hroom => exact ⟨_, act?_of_examinesFireplace answer hline hroom⟩

theorem act?_of_cutsRopes (answer : Event) (hcuts : world.CutsRopes line) :
    world.act? ⟨line, answer⟩ =
      some ({ world with auntieIsTied := false }.spend
        [.message .cutRopes, .message .auntieStory]) := by
  obtain ⟨htied, huse, hauntie⟩ := hcuts
  have hact : world.act? ⟨line, answer⟩ = some (world.useItem .knife) := act?_of_uses huse
  rw [hact]
  simp [useItem, htied, hauntie]

/-- Ways that are opened together all lead where they should afterwards. -/
theorem Opens.exit?_foldl_reveal {ways : List HiddenWay} (hopens : world.Opens line ways)
    {way : HiddenWay} (hway : way ∈ ways) :
    (ways.foldl reveal world).plan.exit? way.origin way.direction = some way.destination := by
  cases hopens with
  | door =>
      rw [List.mem_singleton] at hway
      subst hway
      exact world.plan.exit?_reveal_self .frontDoor
  | panels =>
      rw [List.mem_pair] at hway
      rcases hway with rfl | rfl <;> simp [reveal]

theorem room_next_of_enters {destination : Room} (answer : Event)
    (henters : world.Enters line destination) :
    (world.next ⟨line, answer⟩).room = destination := by
  rw [next_of_act? (act?_of_enters answer henters), Act.room_settle]
  rfl

theorem placeOf_next_of_carries {item : Item} {place : Place} (answer : Event)
    (hcarries : world.Carries line item place) :
    (world.next ⟨line, answer⟩).whereabouts.placeOf item = place := by
  obtain ⟨speech, hact⟩ := act?_of_carries answer hcarries
  rw [next_of_act? hact, Act.whereabouts_settle]
  simp [spend, moveItem]

theorem exit?_next_of_opens {ways : List HiddenWay} (answer : Event)
    (hopens : world.Opens line ways) {way : HiddenWay} (hway : way ∈ ways) :
    (world.next ⟨line, answer⟩).plan.exit? way.origin way.direction = some way.destination := by
  obtain ⟨speech, hact⟩ := act?_of_opens answer hopens
  rw [next_of_act? hact, Act.plan_settle]
  exact hopens.exit?_foldl_reveal hway

theorem auntieIsTied_next_of_cutsRopes (answer : Event) (hcuts : world.CutsRopes line) :
    (world.next ⟨line, answer⟩).auntieIsTied = false := by
  rw [next_of_act? (act?_of_cutsRopes answer hcuts), Act.auntieIsTied_settle]
  rfl

/-- Settling aside, one line does one deed. -/
theorem exists_deed_next (world : World) (input : Input) :
    ∃ after outcome, Deed world input after outcome ∧ (world.next input).room = after.room ∧
      (world.next input).whereabouts = after.whereabouts ∧
      (world.next input).plan = after.plan ∧
      (world.next input).auntieIsTied = after.auntieIsTied := by
  cases hact : world.act? input with
  | none =>
      rw [next_of_act?_eq_none hact]
      exact ⟨world, .free, .idle, rfl, rfl, rfl, rfl⟩
  | some act =>
      rw [next_of_act? hact]
      exact ⟨act.world, act.outcome, deed_of_act? hact, act.room_settle, act.whereabouts_settle,
        act.plan_settle, act.auntieIsTied_settle⟩

/-! Nothing is changed but by a line that is for just that. -/

variable {input : Input}

theorem enters_of_ne (hmoved : (world.next input).room ≠ world.room) :
    world.Enters input.line (world.next input).room := by
  obtain ⟨after, outcome, hdeed, hroom, _⟩ := world.exists_deed_next input
  rw [hroom] at hmoved ⊢
  exact hdeed.room_cases.resolve_left hmoved

theorem carries_of_ne {item : Item}
    (hmoved : (world.next input).whereabouts.placeOf item ≠ world.whereabouts.placeOf item) :
    world.Carries input.line item ((world.next input).whereabouts.placeOf item) := by
  obtain ⟨after, outcome, hdeed, _, hwhereabouts, _⟩ := world.exists_deed_next input
  rw [hwhereabouts] at hmoved ⊢
  exact (hdeed.placeOf_cases item).resolve_left hmoved

theorem exists_opens_of_ne {room : Room} {direction : Direction}
    (hchanged : (world.next input).plan.exit? room direction ≠ world.plan.exit? room direction) :
    ∃ ways, world.Opens input.line ways ∧
      ∃ way ∈ ways, way.origin = room ∧ way.direction = direction := by
  obtain ⟨after, outcome, hdeed, _, _, hplan, _⟩ := world.exists_deed_next input
  rw [hplan] at hchanged
  exact (hdeed.exit?_cases room direction).resolve_left hchanged

theorem cutsRopes_of_ne (hchanged : (world.next input).auntieIsTied ≠ world.auntieIsTied) :
    world.CutsRopes input.line := by
  obtain ⟨after, outcome, hdeed, _, _, _, htied⟩ := world.exists_deed_next input
  rw [htied] at hchanged
  exact (hdeed.auntieIsTied_cases.resolve_left hchanged).1

end World

/-! ## Lines that nothing comes of -/

theorem Scene.hear_of_blank (scene : Scene) {line : String} (answer : Event)
    (hblank : Text.isBlankText line = true) : scene.hear line answer = ⟨scene, [], none⟩ := by
  simp [hear, World.hear, Command.parse?_eq_none_iff.mpr hblank]

theorem Scene.hear_of_unknown (scene : Scene) {line : String} (answer : Event)
    (hunknown : Command.parse? line = some .unknown) :
    scene.hear line answer = ⟨scene.say [.message .notUnderstood], [], none⟩ := by
  simp [hear, World.hear, hunknown, World.respond, say]

/-- **What one line may change.** In any world and with any answer: the wording stays; the player
comes to another room only by heading there, along a way that was there and not through the gate; an
item is moved only by taking it, dropping it or freeing it, and no two items are; ways are opened
only by the key at the front entrance and by a look at the fireplace, the two panels together;
auntie is freed only by the knife. All of this does happen on such a line, and no two of these
things on one line. A blank line and one that is not understood change nothing whatever. -/
theorem Scene.changes_hear (scene : Scene) (line : String) (answer : Event) :
    let world := scene.world
    let after := (scene.hear line answer).scene.world
    after.wording = world.wording ∧
    ((∀ room, world.Enters line room → after.room = room) ∧
      (after.room ≠ world.room → world.Enters line after.room)) ∧
    ((∀ item place, world.Carries line item place → after.whereabouts.placeOf item = place) ∧
      (∀ item, after.whereabouts.placeOf item ≠ world.whereabouts.placeOf item →
        world.Carries line item (after.whereabouts.placeOf item)) ∧
      (∀ item other, after.whereabouts.placeOf item ≠ world.whereabouts.placeOf item →
        after.whereabouts.placeOf other ≠ world.whereabouts.placeOf other → item = other)) ∧
    ((∀ ways, world.Opens line ways → ∀ way ∈ ways,
        after.plan.exit? way.origin way.direction = some way.destination) ∧
      (∀ room direction,
        after.plan.exit? room direction ≠ world.plan.exit? room direction →
          ∃ ways, world.Opens line ways ∧
            ∃ way ∈ ways, way.origin = room ∧ way.direction = direction)) ∧
    (after.auntieIsTied ≠ world.auntieIsTied ↔ world.CutsRopes line) ∧
    [after.room ≠ world.room, after.whereabouts ≠ world.whereabouts, after.plan ≠ world.plan,
      after.auntieIsTied ≠ world.auntieIsTied].Pairwise (fun one other => ¬ (one ∧ other)) ∧
    (Text.isBlankText line = true → scene.hear line answer = ⟨scene, [], none⟩) ∧
    (Command.parse? line = some .unknown →
      scene.hear line answer = ⟨scene.say [.message .notUnderstood], [], none⟩) := by
  intro world after
  have hafter : after = world.next ⟨line, answer⟩ := scene.world_hear line answer
  obtain ⟨done, outcome, hdeed, hroom, hwhereabouts, hplan, htied⟩ :=
    world.exists_deed_next ⟨line, answer⟩
  rw [← hafter] at hroom hwhereabouts hplan htied
  refine ⟨?_, ⟨?_, ?_⟩, ⟨?_, ?_, ?_⟩, ⟨?_, ?_⟩, ?_, ?_, scene.hear_of_blank answer,
    scene.hear_of_unknown answer⟩
  · rw [hafter, World.wording_next]
  · intro room henters
    rw [hafter, World.room_next_of_enters answer henters]
  · intro hmoved
    rw [hroom] at hmoved ⊢
    exact hdeed.room_cases.resolve_left hmoved
  · intro item place hcarries
    rw [hafter, World.placeOf_next_of_carries answer hcarries]
  · intro item hmoved
    rw [hwhereabouts] at hmoved ⊢
    exact (hdeed.placeOf_cases item).resolve_left hmoved
  · intro item other hitem hother
    rw [hwhereabouts] at hitem hother
    obtain ⟨moved, hothers⟩ := hdeed.exists_moved
    rw [not_imp_comm.mp (hothers item) hitem, not_imp_comm.mp (hothers other) hother]
  · intro ways hopens way hway
    rw [hafter, World.exit?_next_of_opens answer hopens hway]
  · intro room direction hchanged
    rw [hplan] at hchanged
    exact (hdeed.exit?_cases room direction).resolve_left hchanged
  · constructor
    · intro hchanged
      rw [htied] at hchanged
      exact (hdeed.auntieIsTied_cases.resolve_left hchanged).1
    · intro hcuts
      rw [hafter, World.auntieIsTied_next_of_cutsRopes answer hcuts, hcuts.1]
      simp
  · rw [hroom, hwhereabouts, hplan, htied]
    exact hdeed.pairwise_changes

end CastleEscape

import CastleEscape.Proofs.Deed
import CastleEscape.Proofs.FloorPlans
import CastleEscape.Proofs.Slots

/-!
# The order of the castle

A board is what can change of the castle itself: where its ways lead, where everything is, and where
the player is. `Board.Orderly` is the invariant that every run keeps. It joins the three: as long as
the panels are shut everybody and everything stays on its own side of them, and the front entrance
is left behind for good with nothing in it but the key.

Every deed makes a `Board.Move` or leaves the board alone, so it is moves that have to keep the
order. Whatever else is kept by all moves is kept by every run as well.
-/

namespace CastleEscape

@[ext] structure Board where
  plan : FloorPlan
  whereabouts : Whereabouts
  room : Room

def World.board (world : World) : Board := ⟨world.plan, world.whereabouts, world.room⟩

@[simp] theorem Act.board_settle (act : Act) : act.settle.1.board = act.world.board := by
  simp [World.board]

/-! ## Moves -/

/-- What one line can do to the board. -/
inductive Board.Move (board : Board) : Board → Prop where
  | walk (direction : Direction) (destination : Room)
      (hexit : board.plan.exit? board.room direction = some destination)
      (hgate : Gate.isCrossedBy board.room direction = false) :
      Move board { board with room := destination }
  | take (item : Item) (slot : Nat)
      (hplace : board.whereabouts.placeOf item = .lying board.room)
      (hslot : board.whereabouts.freeSlot? = some slot) :
      Move board { board with whereabouts := board.whereabouts.move item (.carried slot) }
  | drop (item : Item) (slot : Nat) (hplace : board.whereabouts.placeOf item = .carried slot) :
      Move board { board with whereabouts := board.whereabouts.move item (.lying board.room) }
  | openDoor (hkey : board.whereabouts.isWithinReach .key board.room = true)
      (hroom : board.room = .frontEntrance) :
      Move board { board with plan := board.plan.reveal .frontDoor }
  | openPanels (hroom : board.room = .study) :
      Move board { board with plan := HiddenWay.panels.foldl FloorPlan.reveal board.plan }
  | pry (hbar : board.whereabouts.isWithinReach .steelBar board.room = true)
      (hroom : board.room = .steamPlant)
      (habsent : board.whereabouts.placeOf .skye = .absent) :
      Move board { board with whereabouts := board.whereabouts.move .skye (.lying board.room) }

/-- A deed makes one move and takes a turn for it, or it leaves the board alone. -/
theorem Deed.board_cases {world after : World} {input : Input} {outcome : Outcome}
    (hdeed : Deed world input after outcome) :
    after.board = world.board ∨ world.board.Move after.board ∧ outcome = .oneTurn := by
  cases hdeed with
  | walk direction destination _ hexit hgate =>
      exact Or.inr ⟨Board.Move.walk direction destination hexit hgate, rfl⟩
  | take item slot _ hplace hslot => exact Or.inr ⟨Board.Move.take item slot hplace hslot, rfl⟩
  | drop item slot _ hplace => exact Or.inr ⟨Board.Move.drop item slot hplace, rfl⟩
  | unlock huse hroom => exact Or.inr ⟨Board.Move.openDoor huse.2 hroom, rfl⟩
  | openPanels _ hroom => exact Or.inr ⟨Board.Move.openPanels hroom, rfl⟩
  | pry huse hroom habsent => exact Or.inr ⟨Board.Move.pry huse.2 hroom habsent, rfl⟩
  | _ => exact Or.inl rfl

/-- Nothing vanishes. -/
theorem Board.Move.placeOf_ne_absent {board after : Board} (hmove : board.Move after) {item : Item}
    (hpresent : board.whereabouts.placeOf item ≠ .absent) :
    after.whereabouts.placeOf item ≠ .absent := by
  have hmoved : ∀ (other : Item) (place : Place), place ≠ .absent →
      (board.whereabouts.move other place).placeOf item ≠ .absent := by
    intro other place hplace
    by_cases hitem : item = other
    · simpa [hitem] using hplace
    · simpa [hitem] using hpresent
  cases hmove with
  | take other slot => exact hmoved other _ (by simp)
  | drop other => exact hmoved other _ (by simp)
  | pry => exact hmoved .skye _ (by simp)
  | _ => exact hpresent

/-! ## Sides -/

/-- Lying below the study. -/
def Place.isBelow : Place → Bool
  | .lying room => room ∈ Room.belowStudy
  | _ => false

/-- The place is on the side of the panels on which the item is at the beginning. -/
def Item.OnOwnSide (item : Item) (place : Place) : Prop :=
  match item with
  | .auntie | .wine => place.isBelow = true
  | .skye => place = .absent
  | _ => place.isBelow = false

theorem Item.OnOwnSide.congr {item : Item} {old new : Place} (hside : item.OnOwnSide old)
    (hbelow : new.isBelow = old.isBelow) (habsent : old = .absent → new = .absent) :
    item.OnOwnSide new := by
  cases item with
  | auntie => exact hbelow.trans hside
  | wine => exact hbelow.trans hside
  | skye => exact habsent hside
  | _ => exact hbelow.trans hside

namespace Board

/-- The invariant. What it says of the whereabouts is what moving one item at a time can keep: sides
as long as the panels are shut, the doorstep with nothing but the key on it, and slots of which each
holds one item. -/
structure Orderly (door panels : Bool) (board : Board) : Prop where
  plan_eq : board.plan = .withOpen door panels
  indoors : board.room ≠ .frontEntrance → door = true
  above : panels = false → board.room ∉ Room.belowStudy
  sides : panels = false → ∀ item : Item, item.OnOwnSide (board.whereabouts.placeOf item)
  absent : ∀ item, board.whereabouts.placeOf item = .absent → item = .skye
  doorstep : ∀ item, board.whereabouts.placeOf item = .lying .frontEntrance → item = .key
  keyOnly : board.room = .frontEntrance →
    ∀ item slot, board.whereabouts.placeOf item = .carried slot → item = .key
  slots : ∀ item slot, board.whereabouts.placeOf item = .carried slot → slot < Item.carryLimit
  distinct : ∀ item other slot, board.whereabouts.placeOf item = .carried slot →
    board.whereabouts.placeOf other = .carried slot → item = other

theorem orderly_atStart (wording : Wording) :
    (World.atStart wording).board.Orderly false false where
  plan_eq := FloorPlan.atStart_eq_withOpen
  indoors hroom := absurd rfl hroom
  above _ := by
    show Room.frontEntrance ∉ Room.belowStudy
    decide
  sides _ item := by cases item <;> rfl
  absent item hplace := by
    cases item with
    | skye => rfl
    | _ => cases hplace
  doorstep item hplace := by
    cases item with
    | key => rfl
    | _ => cases hplace
  keyOnly _ _ _ hplace := (Whereabouts.eq_key_of_carried_atStart hplace).1
  slots := Whereabouts.tidy_atStart.slot_lt
  distinct := Whereabouts.tidy_atStart.distinct

namespace Orderly

variable {door panels : Bool} {board : Board}

/-! ## What keeps the order -/

theorem walk (horder : board.Orderly door panels) {direction : Direction} {destination : Room}
    (hexit : board.plan.exit? board.room direction = some destination)
    (hgate : Gate.isCrossedBy board.room direction = false) :
    { board with room := destination }.Orderly door panels := by
  rw [horder.plan_eq] at hexit
  have hinside : destination ≠ .frontEntrance := FloorPlan.ne_frontEntrance_of_exit? hexit hgate
  refine { horder with indoors := fun _ => ?_, above := ?_, keyOnly := fun h => absurd h hinside }
  · by_cases hroom : board.room = .frontEntrance
    · -- the only way out of the front entrance is the door
      rw [hroom] at hexit
      rcases FloorPlan.exit?_withOpen_cases hexit with ⟨h, _⟩ | ⟨_, h, _⟩ | ⟨_, h, _⟩ | h
      · exact h
      · cases h
      · cases h
      · cases Room.mem_passages h
    · exact horder.indoors hroom
  · intro hshut hbelow
    rw [hshut] at hexit
    exact horder.above hshut (FloorPlan.belowStudy_of_exit? hexit hbelow)

theorem tidy (horder : board.Orderly door panels) : board.whereabouts.Tidy :=
  ⟨horder.slots, horder.distinct⟩

/-- Moving one item, as long as it stays on its side, leaves nothing but the key behind and takes
no slot that is taken. -/
theorem move (horder : board.Orderly door panels) {item : Item} {place : Place}
    (hside : panels = false → item.OnOwnSide place) (hpresent : place ≠ .absent)
    (hdoorstep : place = .lying .frontEntrance → item = .key)
    (hkey : ∀ slot, place = .carried slot → board.room = .frontEntrance → item = .key)
    (hslot : ∀ slot, place = .carried slot →
      slot < Item.carryLimit ∧ ∀ other, board.whereabouts.placeOf other ≠ .carried slot) :
    { board with whereabouts := board.whereabouts.move item place }.Orderly door panels := by
  have htidy : (board.whereabouts.move item place).Tidy := horder.tidy.move hslot
  refine { horder with
    sides := ?_, absent := ?_, doorstep := ?_, keyOnly := ?_,
    slots := htidy.slot_lt, distinct := htidy.distinct }
  · intro hshut other
    by_cases hother : other = item
    · simpa [hother] using hside hshut
    · simpa [hother] using horder.sides hshut other
  · intro other hplace
    by_cases hother : other = item
    · simp [hother, hpresent] at hplace
    · exact horder.absent other (by simpa [hother] using hplace)
  · intro other hplace
    by_cases hother : other = item
    · subst hother
      exact hdoorstep (by simpa using hplace)
    · exact horder.doorstep other (by simpa [hother] using hplace)
  · intro hroom other slot hplace
    by_cases hother : other = item
    · subst hother
      exact hkey slot (by simpa using hplace) hroom
    · exact horder.keyOnly hroom other slot (by simpa [hother] using hplace)

theorem openDoor (horder : board.Orderly door panels) :
    { board with plan := board.plan.reveal .frontDoor }.Orderly true panels :=
  { horder with
    plan_eq := by rw [horder.plan_eq, FloorPlan.reveal_frontDoor]
    indoors := fun _ => rfl }

theorem openPanels (horder : board.Orderly door panels) :
    { board with plan := HiddenWay.panels.foldl FloorPlan.reveal board.plan }.Orderly door true :=
  { horder with
    plan_eq := by rw [horder.plan_eq, FloorPlan.reveal_panels]
    above := fun h => absurd h (by decide)
    sides := fun h => absurd h (by decide) }

theorem take (horder : board.Orderly door panels) {item : Item} {slot : Nat}
    (hplace : board.whereabouts.placeOf item = .lying board.room)
    (hslot : board.whereabouts.freeSlot? = some slot) :
    { board with whereabouts := board.whereabouts.move item (.carried slot) }.Orderly
      door panels := by
  obtain ⟨hlimit, hfree⟩ := Whereabouts.freeSlot?_eq_some hslot
  refine horder.move (fun hshut => ?_) (by simp) (by simp) (fun _ _ hroom => ?_) ?_
  · -- picked up above, so it is still above
    refine (horder.sides hshut item).congr ?_ ?_ <;> simp [hplace, Place.isBelow]
    exact horder.above hshut
  · exact horder.doorstep item (hroom ▸ hplace)
  · intro other hother
    cases hother
    exact ⟨hlimit, hfree⟩

theorem drop (horder : board.Orderly door panels) {item : Item} {slot : Nat}
    (hplace : board.whereabouts.placeOf item = .carried slot) :
    { board with whereabouts := board.whereabouts.move item (.lying board.room) }.Orderly
      door panels := by
  refine horder.move (fun hshut => ?_) (by simp) (fun hroom => ?_) (by simp) (by simp)
  · refine (horder.sides hshut item).congr ?_ ?_ <;> simp [hplace, Place.isBelow]
    exact horder.above hshut
  · exact horder.keyOnly (Place.lying.inj hroom) item slot hplace

theorem pry (horder : board.Orderly door panels) (hroom : board.room = .steamPlant) :
    { board with whereabouts := board.whereabouts.move .skye (.lying board.room) }.Orderly
      door panels := by
  refine horder.move (fun hshut => ?_) (by simp) (by simp [hroom]) (by simp) (by simp)
  -- nobody is below the study while the panels are shut
  have hbelow : board.room ∈ Room.belowStudy := by
    rw [hroom]
    decide
  exact absurd hbelow (horder.above hshut)

/-- Every move keeps the order of the castle. -/
theorem moved (horder : board.Orderly door panels) {after : Board} (hmove : board.Move after) :
    ∃ door panels, after.Orderly door panels := by
  cases hmove with
  | walk direction destination hexit hgate => exact ⟨_, _, horder.walk hexit hgate⟩
  | take item slot hplace hslot => exact ⟨_, _, horder.take hplace hslot⟩
  | drop item slot hplace => exact ⟨_, _, horder.drop hplace⟩
  | openDoor => exact ⟨_, _, horder.openDoor⟩
  | openPanels => exact ⟨_, _, horder.openPanels⟩
  | pry _ hroom => exact ⟨_, _, horder.pry hroom⟩

/-- No move leads back to the front entrance. -/
theorem moved_ne_frontEntrance (horder : board.Orderly door panels)
    (hroom : board.room ≠ .frontEntrance) {after : Board} (hmove : board.Move after) :
    after.room ≠ .frontEntrance := by
  cases hmove with
  | walk direction destination hexit hgate =>
      rw [horder.plan_eq] at hexit
      exact FloorPlan.ne_frontEntrance_of_exit? hexit hgate
  | _ => exact hroom

end Orderly

/-! ## Runs -/

/-- Whatever every move keeps of an orderly board is kept by every run. -/
theorem run_induction {motive : Board → Prop} {world : World}
    (horder : ∃ door panels, world.board.Orderly door panels) (hstart : motive world.board)
    (hmove : ∀ door panels (board after : Board), board.Orderly door panels → board.Move after →
      motive board → motive after)
    (inputs : List Input) :
    (∃ door panels, (world.run inputs).board.Orderly door panels) ∧
      motive (world.run inputs).board := by
  refine World.run_induction
    (motive := fun world => (∃ door panels, world.board.Orderly door panels) ∧ motive world.board)
    ⟨horder, hstart⟩ ?_ inputs
  rintro world input ⟨⟨door, panels, horder⟩, hkept⟩
  refine World.next_cases
    (motive := fun world => (∃ door panels, world.board.Orderly door panels) ∧ motive world.board)
    ⟨⟨door, panels, horder⟩, hkept⟩ fun act hdeed => ?_
  rw [Act.board_settle]
  rcases hdeed.board_cases with hsame | ⟨hmoved, _⟩
  · rw [hsame]
    exact ⟨⟨door, panels, horder⟩, hkept⟩
  · exact ⟨horder.moved hmoved, hmove door panels _ _ horder hmoved hkept⟩

theorem orderly_run (wording : Wording) (inputs : List Input) :
    ∃ door panels, ((World.atStart wording).run inputs).board.Orderly door panels :=
  (run_induction (motive := fun _ => True) ⟨false, false, orderly_atStart wording⟩ trivial
    (fun _ _ _ _ _ _ _ => trivial) inputs).1

/-- Whoever has left the front entrance never comes back to it. -/
theorem run_ne_frontEntrance {world : World}
    (horder : ∃ door panels, world.board.Orderly door panels)
    (hroom : world.room ≠ .frontEntrance) (inputs : List Input) :
    (world.run inputs).room ≠ .frontEntrance :=
  (run_induction (motive := fun board => board.room ≠ .frontEntrance) horder hroom
    (fun _ _ _ _ horder hmove hroom => horder.moved_ne_frontEntrance hroom hmove) inputs).2

end Board

end CastleEscape

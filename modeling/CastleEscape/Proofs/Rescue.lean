import CastleEscape.Proofs.Walks

/-!
# The rescue

However the items have been scattered over the castle, everybody who has to be at the gate can be
brought there: `exists_gathering`. The player puts everything down, opens the panels, frees Skye with
the steel bar if she is still in the boiler, and then carries one companion after the other to the
vestibule, with nothing else in hand.

A board on which this is possible is `Ready`, and fetching one item (`Ready.fetch`) leads from one
such board to another.
-/

namespace CastleEscape

namespace Board

variable {board : Board} {door panels : Bool}

/-! ## Putting everything down -/

theorem Orderly.reaches (horder : board.Orderly door panels) {after : Board}
    (hreach : board.Reaches after) : ∃ door panels, after.Orderly door panels := by
  induction hreach with
  | refl => exact ⟨door, panels, horder⟩
  | tail _ hmove ih =>
      obtain ⟨_, _, hbetween⟩ := ih
      exact hbetween.moved hmove

theorem Reaches.placeOf_ne_absent {after : Board} (hreach : board.Reaches after) {item : Item}
    (hpresent : board.whereabouts.placeOf item ≠ .absent) :
    after.whereabouts.placeOf item ≠ .absent := by
  induction hreach with
  | refl => exact hpresent
  | tail _ hmove ih => exact hmove.placeOf_ne_absent ih

/-- The player can put these items down, wherever that is. -/
theorem exists_putDown (board : Board) (items : List Item) :
    ∃ after, board.Reaches after ∧ after.plan = board.plan ∧ after.room = board.room ∧
      ∀ item ∈ items, ∀ slot, after.whereabouts.placeOf item ≠ .carried slot := by
  induction items with
  | nil => exact ⟨board, .refl, rfl, rfl, by simp⟩
  | cons item rest ih =>
      obtain ⟨between, hreach, hplan, hroom, hrest⟩ := ih
      -- of the slot nothing is known but that there is one, so the case is on the place as it is now
      by_cases hcarried : ∃ slot, between.whereabouts.placeOf item = .carried slot
      · obtain ⟨slot, hplace⟩ := hcarried
        refine ⟨_, hreach.tail (Move.drop item slot hplace), hplan, hroom, ?_⟩
        intro other hother slot
        by_cases hsame : other = item
        · simp [hsame]
        · simpa [hsame] using hrest other ((List.mem_cons.mp hother).resolve_left hsame) slot
      · refine ⟨between, hreach, hplan, hroom, ?_⟩
        intro other hother slot hplace
        rcases List.mem_cons.mp hother with rfl | hmem
        · exact hcarried ⟨slot, hplace⟩
        · exact hrest other hmem slot hplace

/-! ## Ready for the rescue -/

/-- The panels are open, the player is inside with empty hands, and nothing but the key has been
left outside. -/
structure Ready (board : Board) : Prop where
  plan_eq : ∃ door, board.plan = .withOpen door true
  inside : board.room ≠ .frontEntrance
  emptyHanded : ∀ item slot, board.whereabouts.placeOf item ≠ .carried slot
  notOutside : ∀ item, board.whereabouts.placeOf item = .lying .frontEntrance → item = .key
  present : ∀ item, board.whereabouts.placeOf item = .absent → item = .skye

/-- The player can get ready from everywhere inside. -/
theorem Orderly.exists_ready (horder : board.Orderly door panels)
    (hinside : board.room ≠ .frontEntrance) : ∃ after, board.Reaches after ∧ after.Ready := by
  obtain ⟨between, hreach, hplan, hroom, hempty⟩ := exists_putDown board Item.all
  obtain ⟨_, _, hbetween⟩ := horder.reaches hreach
  have hshut : between.plan = .withOpen door panels := hplan.trans horder.plan_eq
  have hstudy : between.Reaches { between with room := .study } :=
    reaches_study hshut (hroom ▸ hinside)
  refine ⟨_, (hreach.trans hstudy).tail (Move.openPanels rfl), ?_⟩
  refine ⟨⟨door, ?_⟩, by simp, fun item => hempty item (Item.mem_all item),
    hbetween.doorstep, hbetween.absent⟩
  show HiddenWay.panels.foldl FloorPlan.reveal between.plan = _
  rw [hshut, FloorPlan.reveal_panels]

namespace Ready

theorem exists_lying (hready : board.Ready) {item : Item} (hkey : item ≠ .key)
    (hpresent : board.whereabouts.placeOf item ≠ .absent) :
    ∃ room, room ≠ .frontEntrance ∧ board.whereabouts.placeOf item = .lying room := by
  cases hplace : board.whereabouts.placeOf item with
  | carried slot => exact absurd hplace (hready.emptyHanded item slot)
  | absent => exact absurd hplace hpresent
  | lying room =>
      refine ⟨room, ?_, rfl⟩
      rintro rfl
      exact hkey (hready.notOutside item hplace)

/-- Whatever is moved into a room inside, and wherever inside the player goes. -/
theorem move (hready : board.Ready) (item : Item) {origin target : Room}
    (horigin : origin ≠ .frontEntrance) (htarget : target ≠ .frontEntrance) :
    Ready { board with
      whereabouts := board.whereabouts.move item (.lying target), room := origin } := by
  refine ⟨hready.plan_eq, horigin, ?_, ?_, ?_⟩
  · intro other slot
    by_cases hother : other = item
    · simp [hother]
    · simpa [hother] using hready.emptyHanded other slot
  · intro other hplace
    by_cases hother : other = item
    · exact absurd (by simpa [hother] using hplace) htarget
    · exact hready.notOutside other (by simpa [hother] using hplace)
  · intro other hplace
    by_cases hother : other = item
    · simp [hother] at hplace
    · exact hready.present other (by simpa [hother] using hplace)

/-- Any item that is there, but for the key, can be fetched and put down in any room inside. -/
theorem fetch (hready : board.Ready) {item : Item} (hkey : item ≠ .key)
    (hpresent : board.whereabouts.placeOf item ≠ .absent) {target : Room}
    (htarget : target ≠ .frontEntrance) :
    board.Reaches { board with
      whereabouts := board.whereabouts.move item (.lying target), room := target } := by
  obtain ⟨door, hplan⟩ := hready.plan_eq
  obtain ⟨origin, horigin, hplace⟩ := hready.exists_lying hkey hpresent
  let held := board.whereabouts.move item (.carried 0)
  have hthere : board.Reaches { board with room := origin } :=
    reaches_room hplan hready.inside horigin
  have htake : Move { board with room := origin }
      { board with whereabouts := held, room := origin } :=
    Move.take item 0 hplace (Whereabouts.freeSlot?_of_emptyHanded hready.emptyHanded)
  have hback : Reaches { board with whereabouts := held, room := origin }
      { board with whereabouts := held, room := target } :=
    @reaches_room { board with whereabouts := held, room := origin } door hplan horigin target htarget
  have hdrop : Move { board with whereabouts := held, room := target }
      { board with whereabouts := held.move item (.lying target), room := target } :=
    Move.drop item 0 (by simp [held])
  rw [Whereabouts.move_move] at hdrop
  exact ((hthere.tail htake).trans hback).tail hdrop

/-- Skye can be freed, if she is still in the boiler. -/
theorem exists_freed (hready : board.Ready) :
    ∃ after, board.Reaches after ∧ after.Ready ∧ after.whereabouts.placeOf .skye ≠ .absent := by
  by_cases habsent : board.whereabouts.placeOf .skye = .absent
  · have hbar : board.whereabouts.placeOf .steelBar ≠ .absent := by
      intro h
      cases hready.present .steelBar h
    have hfetch := hready.fetch (by decide) hbar (show Room.steamPlant ≠ .frontEntrance by decide)
    have hinside : Room.steamPlant ≠ .frontEntrance := by decide
    -- the bar is put down next to the boiler, where it is still within reach
    refine ⟨_, hfetch.tail (Move.pry ?_ rfl ?_), ?_, ?_⟩
    · exact Whereabouts.isWithinReach_iff.mpr (Or.inr (by simp))
    · simpa using habsent
    · exact (hready.move .steelBar hinside hinside).move .skye hinside hinside
    · simp
  · exact ⟨board, .refl, hready, habsent⟩

/-- Whoever is in the castle can be gathered in the vestibule. -/
theorem exists_gathered (hready : board.Ready) {items : List Item}
    (hitems : ∀ item ∈ items, item ≠ .key ∧ board.whereabouts.placeOf item ≠ .absent) :
    ∃ after, board.Reaches after ∧ after.Ready ∧
      ∀ item ∈ items, after.whereabouts.placeOf item = .lying .vestibule := by
  induction items with
  | nil => exact ⟨board, .refl, hready, by simp⟩
  | cons item rest ih =>
      obtain ⟨between, hreach, hbetween, hrest⟩ :=
        ih fun other hother => hitems other (List.mem_cons_of_mem _ hother)
      obtain ⟨hkey, hpresent⟩ := hitems item List.mem_cons_self
      have hvestibule : Room.vestibule ≠ .frontEntrance := by decide
      have hfetch := hbetween.fetch hkey (hreach.placeOf_ne_absent hpresent) hvestibule
      refine ⟨_, hreach.trans hfetch, hbetween.move item hvestibule hvestibule, ?_⟩
      -- whoever waits in the vestibule already is not moved any more
      intro other hother
      by_cases hsame : other = item
      · simp [hsame]
      · simpa [hsame] using hrest other ((List.mem_cons.mp hother).resolve_left hsame)

end Ready

/-- **Everybody can be rescued.** From every room inside, whatever lies where, the player can come to
the vestibule with everybody there who has to be. -/
theorem Orderly.exists_gathering (horder : board.Orderly door panels)
    (hinside : board.room ≠ .frontEntrance) :
    ∃ after, board.Reaches after ∧ after.room = .vestibule ∧
      (∃ door panels, after.plan = .withOpen door panels) ∧
      ∀ item ∈ [Item.skye, .auntie, .cat, .doll],
        after.whereabouts.placeOf item = .lying .vestibule := by
  obtain ⟨start, hstart, hready⟩ := horder.exists_ready hinside
  obtain ⟨freed, hfreed, hready, hskye⟩ := hready.exists_freed
  have hcompanions : ∀ item ∈ [Item.skye, .auntie, .cat, .doll],
      item ≠ .key ∧ freed.whereabouts.placeOf item ≠ .absent := by
    intro item hitem
    refine ⟨?_, fun habsent => ?_⟩
    · rintro rfl
      exact absurd hitem (by decide)
    · rw [hready.present item habsent] at habsent
      exact hskye habsent
  obtain ⟨gathered, hgathered, hready, hall⟩ := hready.exists_gathered hcompanions
  obtain ⟨door, hplan⟩ := hready.plan_eq
  exact ⟨_, ((hstart.trans hfreed).trans hgathered).trans
    (reaches_vestibule_from hplan hready.inside), rfl, ⟨door, true, hplan⟩, hall⟩

end Board

end CastleEscape

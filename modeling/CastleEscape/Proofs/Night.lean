import CastleEscape.Proofs.Ending
import CastleEscape.Proofs.Journey
import CastleEscape.Proofs.Rescue
import CastleEscape.Proofs.Wishes
import Mathlib

/-!
# After nightfall

Whoever gets to the turn at which night falls can still win, whatever has been done before. The
candle has been lit by then, so the player is inside, and everybody can be brought to the gate. All
moves of the rescue can be wished for, and none of them ends the session: after nightfall nobody
loses any more but by drinking the wine.
-/

namespace CastleEscape

namespace World

variable {world : World}

/-! ## Moves as wishes -/

theorem exists_grant_of_move {board : Board} (hmove : world.board.Move board) :
    ∃ wish granted, world.grant wish = some granted ∧ granted.board = board ∧
      granted.ending = world.ending ∧ granted.turns = world.turns := by
  cases hmove with
  | walk direction destination hexit hgate =>
      have hexit' : world.plan.exit? world.room direction = some destination := hexit
      have hgate' : Gate.isCrossedBy world.room direction = false := hgate
      exact ⟨.walk direction, { world with room := destination },
        by simp [grant, hexit', hgate'], rfl, rfl, rfl⟩
  | take item slot hplace hslot =>
      have hplace' : world.whereabouts.placeOf item = .lying world.room := hplace
      have hslot' : world.whereabouts.freeSlot? = some slot := hslot
      exact ⟨.take item, world.moveItem item (.carried slot),
        by simp [grant, hplace', hslot'], rfl, rfl, rfl⟩
  | drop item slot hplace =>
      have hcarried : world.whereabouts.isCarried item = true :=
        Whereabouts.isCarried_iff.mpr ⟨slot, hplace⟩
      exact ⟨.drop item, world.moveItem item (.lying world.room),
        by simp [grant, hcarried], rfl, rfl, rfl⟩
  | openDoor hkey hroom =>
      have hkey' : world.isWithinReach .key = true := hkey
      have hroom' : world.room = .start := hroom
      exact ⟨.use .key, world.reveal .frontDoor,
        by simp [grant, hkey', useItem, hroom', spend], rfl, rfl, rfl⟩
  | openPanels hroom =>
      have hroom' : world.room = .fireplace := hroom
      exact ⟨.openPanels, HiddenWay.panels.foldl reveal world,
        by simp [grant, hroom'], rfl, rfl, rfl⟩
  | pry hbar hroom habsent =>
      have hbar' : world.isWithinReach .steelBar = true := hbar
      have hroom' : world.room = .boiler := hroom
      have habsent' : world.whereabouts.isAbsent .skye = true :=
        Whereabouts.isAbsent_iff.mpr habsent
      exact ⟨.use .steelBar, world.moveItem .skye (.lying world.room),
        by simp [grant, hbar', useItem, hroom', habsent', spend], rfl, rfl, rfl⟩

/-! ## Night -/

/-- The session is still open at the turn at which night falls, or later. -/
structure IsNight (world : World) : Prop where
  isOpen : world.ending = none
  late : 20 ≤ world.turns

/-- One more turn at night leaves the session open. -/
theorem IsNight.settle_spend (hnight : world.IsNight) {granted : World}
    (hending : granted.ending = world.ending) (hturns : granted.turns = world.turns) :
    (granted.spend []).settle.1.IsNight := by
  have hlate := hnight.late
  have hopen : granted.ending = none := hending.trans hnight.isOpen
  have hafter : (granted.spend []).turnsAfter = world.turns + 1 := by
    simp [Act.turnsAfter, spend, Outcome.oneTurn, hturns]
  refine ⟨?_, ?_⟩
  · -- the turn that is charged is later than the one at which night falls
    have hdark : (granted.spend []).isBenighted = false := by
      rw [Act.isBenighted, hafter, Bool.and_eq_false_iff, beq_eq_false_iff_ne]
      exact Or.inl (by show world.turns + 1 ≠ 20; omega)
    rw [Act.ending_settle_of_none hopen rfl, hdark]
    rfl
  · rw [Act.turns_settle, hafter]
    omega

theorem IsNight.exists_fulfil (hnight : world.IsNight) {board : Board}
    (hmove : world.board.Move board) :
    ∃ wish after, world.fulfil wish = some after ∧ after.IsNight ∧ after.board = board := by
  obtain ⟨wish, granted, hgrant, hboard, hending, hturns⟩ := exists_grant_of_move hmove
  refine ⟨wish, (granted.spend []).settle.1, by simp [fulfil, hgrant],
    hnight.settle_spend hending hturns, ?_⟩
  rw [Act.board_settle]
  exact hboard

/-- Whatever can be done to the board with one line after the other can be wished for. -/
theorem IsNight.exists_fulfilAll (hnight : world.IsNight) {board : Board}
    (hreach : world.board.Reaches board) :
    ∃ wishes after, world.fulfilAll wishes = some after ∧ after.IsNight ∧ after.board = board := by
  induction hreach with
  | refl => exact ⟨[], world, rfl, hnight, rfl⟩
  | tail _ hmove ih =>
      obtain ⟨wishes, between, hwishes, hbetween, rfl⟩ := ih
      obtain ⟨wish, after, hwish, hafter, hboard⟩ := hbetween.exists_fulfil hmove
      have hbefore : wishes.foldlM fulfil world = some between := hwishes
      refine ⟨wishes ++ [wish], after, ?_, hafter, hboard⟩
      rw [fulfilAll, List.foldlM_append, hbefore]
      simp [hwish]

/-! ## Inside -/

/-- Nobody lights the candle at the front entrance. -/
theorem room_ne_frontEntrance_of_lightsCandle {door panels : Bool}
    (horder : world.board.Orderly door panels) {line : String} (hlight : world.LightsCandle line) :
    world.room ≠ .frontEntrance := by
  intro hroom
  rcases Whereabouts.isWithinReach_iff.mp hlight.2 with ⟨slot, hcarried⟩ | hlying
  · cases horder.keyOnly hroom .candle slot hcarried
  · cases horder.doorstep .candle (hroom ▸ hlying)

theorem IsNight.room_ne_frontEntrance {wording : Wording} {inputs : List Input}
    (hnight : ((World.atStart wording).run inputs).IsNight) :
    ((World.atStart wording).run inputs).room ≠ .frontEntrance := by
  obtain ⟨turn, _, _, before, input, rest, rfl, hlight, _⟩ :=
    exists_lighting rfl (Nat.zero_lt_succ 19) hnight.isOpen hnight.late
  obtain ⟨door, panels, horder⟩ := Board.orderly_run wording before
  -- the player was inside when the candle was lit, and has not come back since
  rw [run_append]
  exact Board.run_ne_frontEntrance ⟨door, panels, horder⟩
    (room_ne_frontEntrance_of_lightsCandle horder hlight) (input :: rest)

/-! ## Winning -/

theorem heads_name (direction : Direction) : Command.Heads direction.name direction :=
  Command.heads_of_heading? (Command.parse?_name direction) (heading?_name direction)

theorem wording_run (world : World) (inputs : List Input) :
    (world.run inputs).wording = world.wording :=
  run_induction (motive := fun after => after.wording = world.wording) rfl
    (fun after input hwording => (after.wording_next input).trans hwording) inputs

/-- With everybody at the gate, heading south wins. -/
theorem won_of_gathered (hopen : world.ending = none) (hroom : world.room = .vestibule)
    {door panels : Bool} (hplan : world.plan = .withOpen door panels)
    (hall : ∀ item ∈ [Item.skye, .auntie, .cat, .doll],
      world.whereabouts.placeOf item = .lying .vestibule) (answer : Event) :
    (world.next ⟨Direction.south.name, answer⟩).ending = some .won := by
  have hway : world.plan.exit? .vestibule .south = some .frontEntrance := by
    rw [hplan]
    exact FloorPlan.exit?_withOpen_of_passage door panels rfl
  have hout : world.WalksOut Direction.south.name :=
    ⟨⟨heads_name .south, hroom, by simp [hway]⟩, fun item hitem => Or.inr (hall item hitem)⟩
  rw [ending_next_of_act? hopen (act?_of_walksOut hout)]
  rfl

/-- Some lines win every session that is still open at night, if the items can be called by their
names. -/
theorem IsNight.exists_winning_lines {wording : Wording} (htypable : wording.IsTypable)
    {inputs : List Input} (hnight : ((atStart wording).run inputs).IsNight) :
    ∃ lines : List String, ∀ more : List Input, more.map Input.line = lines →
      (((atStart wording).run inputs).run more).ending = some .won := by
  obtain ⟨door, panels, horder⟩ := Board.orderly_run wording inputs
  obtain ⟨board, hreach, hroom, ⟨_, _, hplan⟩, hall⟩ :=
    horder.exists_gathering hnight.room_ne_frontEntrance
  obtain ⟨wishes, after, hfulfil, hafter, rfl⟩ := hnight.exists_fulfilAll hreach
  have hwording : ((atStart wording).run inputs).wording = wording := wording_run _ inputs
  refine ⟨wishes.map (Wish.line wording) ++ [Direction.south.name], fun more hmore => ?_⟩
  obtain ⟨rescue, last, rfl, hrescue, hlast⟩ := List.map_eq_append_iff.mp hmore
  obtain ⟨⟨line, answer⟩, rfl, hsouth⟩ := List.map_eq_singleton_iff.mp hlast
  have hrun : ((atStart wording).run inputs).run rescue = after := by
    refine run_of_fulfilAll (hwording.symm ▸ htypable) hfulfil ?_
    rw [hwording, hrescue]
  rw [run_concat, hrun, show line = Direction.south.name from hsouth]
  exact won_of_gathered hafter.isOpen hroom hplan hall answer

/-- **The game never becomes unwinnable once the night is survived.** With the wording that comes
with the program, every session that is still open at the turn at which night falls, or later, is
won by some lines, whatever has happened before. -/
theorem winnable_of_late {wording : Wording} (hshipped : Wording.shipped = .ok wording)
    (inputs : List Input) (hopen : ((atStart wording).run inputs).ending = none)
    (hlate : 20 ≤ ((atStart wording).run inputs).turns) :
    ∃ lines : List String, ∀ more : List Input, more.map Input.line = lines →
      (((atStart wording).run inputs).run more).ending = some .won :=
  IsNight.exists_winning_lines (Wording.trim_item_of_shipped hshipped) ⟨hopen, hlate⟩

/-- What to wish for in order to have a light when night falls: fetch the candle and the matches,
wait, light the candle one turn after it could have gone out, and wait again. -/
def untilNightfall : List Wish :=
  [.use .key, .walk .north, .walk .north, .walk .north, .walk .east, .walk .north, .take .candle,
   .walk .south, .walk .east, .walk .south, .take .matchbox, .use .candle, .use .candle,
   .use .candle, .use .candle, .use .matchbox, .use .candle, .use .candle, .use .candle,
   .use .candle]

/-- There is such a session: one that has a light at nightfall, and has done nothing else yet. -/
theorem winnable_of_untilNightfall :
    ∃ wording inputs, Wording.shipped = .ok wording ∧
      ((atStart wording).run inputs).ending = none ∧ ((atStart wording).run inputs).turns = 20 ∧
      ∃ lines : List String, ∀ more : List Input, more.map Input.line = lines →
        (((atStart wording).run inputs).run more).ending = some .won := by
  obtain ⟨wording, hshipped⟩ := Wording.exists_shipped
  have hwishes : ((atStart wording).fulfilAll untilNightfall).map
      (fun world => (world.ending, world.turns)) = some (none, 20) := by cbv
  obtain ⟨after, hfulfil, hafter⟩ := Option.map_eq_some_iff.mp hwishes
  obtain ⟨hopen, hturns⟩ := Prod.mk.inj hafter
  let inputs := untilNightfall.map fun wish => Input.mk (wish.line wording) .endOfInput
  have hlines : inputs.map Input.line = untilNightfall.map (Wish.line wording) := by
    rw [List.map_map]
    rfl
  have hrun : (atStart wording).run inputs = after :=
    run_of_fulfilAll (Wording.trim_item_of_shipped hshipped) hfulfil hlines
  rw [← hrun] at hopen hturns
  exact ⟨wording, inputs, hshipped, hopen, hturns,
    winnable_of_late hshipped inputs hopen (Nat.le_of_eq hturns.symm)⟩

end World

end CastleEscape

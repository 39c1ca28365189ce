import CastleEscape.Proofs.Board
import CastleEscape.Proofs.Candle

/-!
# How long a rescue takes

No play is over before night. That is a matter of distances: it takes a player so many turns at
least to get into a room (`Room.earliest`), and once Skye is out of the boiler she is carried from
one room to the next (`Room.fromBoiler`). Both are kept by every deed, for neither rises by more
than one from a room to the rooms next to it. As nobody walks out without Skye, nobody does before
the twenty-first turn, and by then the candle has been lit.
-/

namespace CastleEscape

/-! ## Distances -/

/-- No player is in the room before this turn. The first turn goes into opening the door. -/
def Room.earliest : Room → Nat
  | frontEntrance => 0
  | vestibule => 2
  | entry => 3
  | peacockAlley3 => 4
  | study => 6
  | stairs3 => 7
  | tunnel1 => 8
  | tunnel2 => 9
  | wineCellar => 9
  | tunnel3 => 10
  | steamPlant => 11
  | tunnel4 => 11
  | stables => 12
  | _ => 5

/-- Nobody gets from the steam plant to the room in fewer turns than this. -/
def Room.fromBoiler : Room → Nat
  | steamPlant => 0
  | tunnel3 => 1
  | tunnel2 => 2
  | tunnel4 => 2
  | tunnel1 => 3
  | stables => 3
  | stairs3 => 4
  | wineCellar => 4
  | study => 5
  | peacockAlley3 => 7
  | entry => 8
  | vestibule => 9
  | frontEntrance => 10
  | _ => 6

theorem Room.earliest_of_passage {room destination : Room} {direction : Direction}
    (hexit : room.passage? direction = some destination) :
    destination.earliest ≤ room.earliest + 1 := by
  have hall : ∀ room ∈ Room.all, ∀ way ∈ room.passages, way.2.earliest ≤ room.earliest + 1 := by
    decide +kernel
  exact Room.forall_passage
    (motive := fun room _ destination => destination.earliest ≤ room.earliest + 1) hall hexit

theorem Room.fromBoiler_of_passage {room destination : Room} {direction : Direction}
    (hexit : room.passage? direction = some destination) :
    destination.fromBoiler ≤ room.fromBoiler + 1 := by
  have hall : ∀ room ∈ Room.all, ∀ way ∈ room.passages,
      way.2.fromBoiler ≤ room.fromBoiler + 1 := by decide +kernel
  exact Room.forall_passage
    (motive := fun room _ destination => destination.fromBoiler ≤ room.fromBoiler + 1) hall hexit

namespace Board

/-! ## What the turn count says about the board -/

/-- The turns so far are enough for the door, for the room that the player is in and for the place
that Skye has been brought to. -/
structure Timely (turns : Nat) (board : Board) : Prop where
  door : board.plan.exit? .frontEntrance .north ≠ none → 1 ≤ turns
  arrival : board.room.earliest ≤ turns
  carried : ∀ slot, board.whereabouts.placeOf .skye = .carried slot →
    12 + board.room.fromBoiler ≤ turns
  lying : ∀ room, board.whereabouts.placeOf .skye = .lying room → 12 + room.fromBoiler ≤ turns

theorem timely_atStart (wording : Wording) : (World.atStart wording).board.Timely 0 where
  door hopen := absurd rfl hopen
  arrival := Nat.le_refl 0
  carried slot hplace := by cases hplace
  lying room hplace := by cases hplace

namespace Timely

variable {turns : Nat} {board : Board}

theorem mono (htimely : board.Timely turns) {later : Nat} (hle : turns ≤ later) :
    board.Timely later where
  door hopen := (htimely.door hopen).trans hle
  arrival := htimely.arrival.trans hle
  carried slot hplace := (htimely.carried slot hplace).trans hle
  lying room hplace := (htimely.lying room hplace).trans hle

theorem walk (htimely : board.Timely turns) {door panels : Bool}
    (hplan : board.plan = .withOpen door panels) {direction : Direction} {destination : Room}
    (hexit : board.plan.exit? board.room direction = some destination) :
    { board with room := destination }.Timely (turns + 1) := by
  have hroom := htimely.arrival
  have hsteps : destination.earliest ≤ turns + 1 ∧
      destination.fromBoiler ≤ board.room.fromBoiler + 1 := by
    have hexit' := hexit
    rw [hplan] at hexit'
    rcases FloorPlan.exit?_withOpen_cases hexit' with
      ⟨_, hfrom, hway, rfl⟩ | ⟨_, hfrom, _, rfl⟩ | ⟨_, hfrom, _, rfl⟩ | hmap
    · -- through the front door, which took a turn to open
      rw [hfrom, hway] at hexit
      have hdoor := htimely.door (by simp [hexit])
      rw [hfrom]
      exact ⟨by simpa [Room.earliest] using hdoor, by decide⟩
    · rw [hfrom] at hroom ⊢
      exact ⟨by simp only [Room.earliest] at hroom ⊢; omega, by decide⟩
    · rw [hfrom] at hroom ⊢
      exact ⟨by simp only [Room.earliest] at hroom ⊢; omega, by decide⟩
    · have hnear := Room.earliest_of_passage hmap
      exact ⟨by omega, Room.fromBoiler_of_passage hmap⟩
  refine ⟨fun hopen => (htimely.door hopen).trans (Nat.le_succ turns), hsteps.1, ?_, ?_⟩
  · intro slot hplace
    have hbefore := htimely.carried slot hplace
    show 12 + destination.fromBoiler ≤ turns + 1
    omega
  · intro room hplace
    exact (htimely.lying room hplace).trans (Nat.le_succ turns)

/-- Picking something up or putting it down takes Skye nowhere. -/
theorem move (htimely : board.Timely turns) {item : Item} {place : Place}
    (hcarried : ∀ slot, item = .skye → place = .carried slot → 12 + board.room.fromBoiler ≤ turns)
    (hlying : ∀ room, item = .skye → place = .lying room → 12 + room.fromBoiler ≤ turns) :
    { board with whereabouts := board.whereabouts.move item place }.Timely turns := by
  refine { htimely with carried := ?_, lying := ?_ }
  · intro slot hplace
    by_cases hitem : Item.skye = item
    · exact hcarried slot hitem.symm (by simpa [hitem] using hplace)
    · exact htimely.carried slot (by simpa [hitem] using hplace)
  · intro room hplace
    by_cases hitem : Item.skye = item
    · exact hlying room hitem.symm (by simpa [hitem] using hplace)
    · exact htimely.lying room (by simpa [hitem] using hplace)

/-- Every move keeps the board in step with the turns, with the turn that it takes. -/
theorem moved {door panels : Bool} (horder : board.Orderly door panels)
    (htimely : board.Timely turns) {after : Board} (hmove : board.Move after) :
    after.Timely (turns + 1) := by
  have hlater := htimely.mono (Nat.le_succ turns)
  cases hmove with
  | walk direction destination hexit => exact htimely.walk horder.plan_eq hexit
  | take item slot hplace =>
      refine hlater.move ?_ (by simp)
      rintro _ rfl _
      exact hlater.lying board.room hplace
  | drop item slot hplace =>
      refine hlater.move (by simp) ?_
      rintro room rfl hroom
      cases hroom
      exact hlater.carried slot hplace
  | openDoor =>
      exact { hlater with door := fun _ => Nat.le_add_left 1 turns }
  | openPanels =>
      refine { hlater with door := fun hopen => hlater.door ?_ }
      simpa [HiddenWay.panels] using hopen
  | pry _ hroom =>
      have harrival : Room.steamPlant.earliest ≤ turns := hroom ▸ htimely.arrival
      refine hlater.move (by simp) ?_
      rintro room _ hplace
      rw [← Place.lying.inj hplace, hroom]
      exact Nat.succ_le_succ harrival

end Timely

theorem timely_run (wording : Wording) (inputs : List Input) :
    ((World.atStart wording).run inputs).board.Timely ((World.atStart wording).run inputs).turns := by
  induction inputs using List.reverseRecOn with
  | nil => exact timely_atStart wording
  | append_singleton inputs input ih =>
      obtain ⟨door, panels, horder⟩ := orderly_run wording inputs
      rw [World.run_concat]
      generalize (World.atStart wording).run inputs = world at *
      refine World.next_cases (motive := fun world => world.board.Timely world.turns) ih
        fun act hdeed => ?_
      rw [Act.board_settle, Act.turns_settle, Act.turnsAfter, hdeed.turns_eq]
      rcases hdeed.board_cases with hsame | ⟨hmove, houtcome⟩
      · rw [hsame]
        exact ih.mono (Nat.le_add_right _ _)
      · rw [houtcome]
        exact ih.moved horder hmove

end Board

namespace World

/-! ## Walking out -/

/-- Skye is brought to the gate no sooner than that. -/
theorem turns_of_walksOut {world : World} (htimely : world.board.Timely world.turns) {line : String}
    (hout : world.WalksOut line) : 21 ≤ world.turns := by
  obtain ⟨⟨_, hroom, _⟩, hall⟩ := hout
  have hskye : world.IsAtGate .skye := hall .skye (by simp)
  rcases hskye with ⟨slot, hplace⟩ | hplace
  · have hturns : 12 + world.room.fromBoiler ≤ world.turns := htimely.carried slot hplace
    rw [hroom] at hturns
    exact hturns
  · exact htimely.lying .vestibule hplace

/-- The only line that wins an open session is the one that walks out. -/
theorem walksOut_of_won_next {world : World} {input : Input} (hopen : world.ending = none)
    (hwon : (world.next input).ending = some .won) : world.WalksOut input.line := by
  cases hact : world.act? input with
  | none =>
      rw [next_of_act?_eq_none hact, hopen] at hwon
      cases hwon
  | some act =>
      rw [ending_next_of_act? hopen hact] at hwon
      cases houtcome : act.outcome.ending with
      | none =>
          rw [houtcome, Option.none_or] at hwon
          split at hwon <;> cases hwon
      | some ending =>
          rw [houtcome, Option.some_or] at hwon
          cases hwon
          exact (deed_of_act? hact).leadsTo houtcome

theorem exists_walksOut_of_won {start : World} (hopen : start.ending = none) {inputs : List Input}
    (hwon : (start.run inputs).ending = some .won) :
    ∃ before input rest, inputs = before ++ input :: rest ∧ (start.run before).ending = none ∧
      (start.run before).WalksOut input.line := by
  induction inputs using List.reverseRecOn with
  | nil =>
      rw [run_nil, hopen] at hwon
      cases hwon
  | append_singleton inputs input ih =>
      cases hbefore : (start.run inputs).ending with
      | none =>
          rw [run_concat] at hwon
          exact ⟨inputs, input, [], rfl, hbefore, walksOut_of_won_next hbefore hwon⟩
      | some ending =>
          rw [run_concat, ending_next_of_ending hbefore] at hwon
          rw [hwon] at hbefore
          obtain ⟨before, other, rest, rfl, hopen', hout⟩ := ih hbefore
          exact ⟨before, other, rest ++ [input], by simp, hopen', hout⟩

theorem turns_le_run (world : World) (inputs : List Input) :
    world.turns ≤ (world.run inputs).turns :=
  run_induction (motive := fun after => world.turns ≤ after.turns) (Nat.le_refl _)
    (fun after input hle => hle.trans (after.turns_le_next input)) inputs

/-- **Nobody wins before night, and nobody gets through the night without the candle.** A run that is
still open at the turn at which night falls, or later, has lit the candle in one of the five turns
up to then. A won run is longer than that, and so it has lit the candle then as well. -/
theorem night_of_run (wording : Wording) (inputs : List Input) :
    let start := World.atStart wording
    ((start.run inputs).ending = none → 20 ≤ (start.run inputs).turns →
      ∃ turn, 16 ≤ turn ∧ turn ≤ 20 ∧ start.LightsCandleAt inputs turn) ∧
    ((start.run inputs).ending = some .won →
      20 < (start.run inputs).turns ∧
        ∃ turn, 16 ≤ turn ∧ turn ≤ 20 ∧ start.LightsCandleAt inputs turn) := by
  intro start
  have hearly : start.turns < 20 := Nat.zero_lt_succ 19
  refine ⟨exists_lighting rfl hearly, fun hwon => ?_⟩
  obtain ⟨before, input, rest, rfl, hopen, hout⟩ := exists_walksOut_of_won rfl hwon
  have hturns : 21 ≤ (start.run before).turns :=
    turns_of_walksOut (Board.timely_run wording before) hout
  constructor
  · have hle := turns_le_run (start.run before) (input :: rest)
    rw [← run_append] at hle
    exact Nat.lt_of_lt_of_le hturns hle
  · obtain ⟨turn, hfirst, hlast, hlit⟩ :=
      exists_lighting rfl hearly hopen (Nat.le_of_succ_le hturns)
    exact ⟨turn, hfirst, hlast, hlit.append (input :: rest)⟩

end World

end CastleEscape

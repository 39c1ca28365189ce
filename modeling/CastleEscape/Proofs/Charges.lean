import CastleEscape.Proofs.Candle
import CastleEscape.Proofs.ShippedWording
import CastleEscape.Proofs.Slots

/-!
# What takes a turn

Which lines take a turn (`World.TakesTurn`), and what becomes of the world with a line that takes
none. An act that takes no turn changes nothing itself (`Deed.eq_of_free`), but the hazards are
looked at after it all the same. They find nothing to do, because a run only ever leaves the world
at rest: whatever was due at this turn has struck already.
-/

namespace CastleEscape

namespace World

variable {world : World}

/-- The command takes a turn. A closer look always does; all else has to come about. -/
def IsCharged (world : World) : Command → Prop
  | .go (some target) => ∃ word direction, Text.lastWord? target = some word ∧
      Direction.ofWord? word = some direction ∧
      (world.plan.exit? world.room direction).isSome = true ∧
      (world.room, direction) ≠ (.vestibule, .south)
  | .take (some typed) => ∃ item, world.wording.itemNamed? typed = some item ∧
      world.whereabouts.placeOf item = .lying world.room ∧ world.whereabouts.inventory.length < 5
  | .drop (some typed) => ∃ item, world.wording.itemNamed? typed = some item ∧
      ∃ slot, world.whereabouts.placeOf item = .carried slot
  | .examine (some _) => True
  | .use (some typed) => ∃ item, world.wording.itemNamed? typed = some item ∧
      ((∃ slot, world.whereabouts.placeOf item = .carried slot) ∨
        world.whereabouts.placeOf item = .lying world.room)
  | _ => False

/-- The line is read as a command that takes a turn. -/
def TakesTurn (world : World) (line : String) : Prop :=
  ∃ command, Command.parse? line = some command ∧ world.IsCharged command

/-! ## What each act takes -/

theorem findHere_eq_ok_iff {typed : String} {item : Item} :
    world.findHere typed = .ok item ↔
      world.wording.itemNamed? typed = some item ∧ world.isWithinReach item = true :=
  ⟨find_eq_ok, fun ⟨hnamed, hreach⟩ => findHere_eq_ok hnamed hreach⟩

theorem find_carried_eq_ok_iff {typed : String} {item : Item} :
    world.find typed .carried = .ok item ↔
      world.wording.itemNamed? typed = some item ∧ world.whereabouts.isCarried item = true :=
  ⟨find_eq_ok, fun ⟨hnamed, hcarried⟩ => find_carried_eq_ok hnamed hcarried⟩

theorem takesTurn_go {target : Option String} :
    (world.go target).outcome.takesTurn = true ↔ world.IsCharged (.go target) := by
  cases target with
  | none => simp [go, refuse, tell, Outcome.free, IsCharged]
  | some target =>
      have hcharged : world.IsCharged (.go (some target)) ↔
          ∃ direction, heading? target = some direction ∧
            (world.plan.exit? world.room direction).isSome = true ∧
            Gate.isCrossedBy world.room direction = false := by
        simp only [IsCharged, heading?, Option.bind_eq_some_iff, isCrossedBy_eq_false_iff]
        constructor
        · rintro ⟨word, direction, hword, hdirection, hway⟩
          exact ⟨direction, ⟨word, hword, hdirection⟩, hway⟩
        · rintro ⟨direction, ⟨word, hword, hdirection⟩, hway⟩
          exact ⟨word, direction, hword, hdirection, hway⟩
      rw [hcharged]
      cases hheading : heading? target with
      | none => simp [go, hheading, refuse, tell, Outcome.free]
      | some direction =>
          cases hexit : world.plan.exit? world.room direction with
          | none => simp [go, hheading, hexit, tell, Outcome.free]
          | some destination =>
              cases hgate : Gate.isCrossedBy world.room direction with
              | false =>
                  simp [go_of_exit hheading hexit hgate, hexit, hgate, spend, Outcome.oneTurn]
              | true =>
                  cases hmissing : world.missingCompanion? with
                  | none => simp [go_of_all_there hheading hexit hgate hmissing, hgate]
                  | some item =>
                      simp [go_of_missing hheading hexit hgate hmissing, hgate, refuse, tell,
                        Outcome.free]

theorem takesTurn_take (htidy : world.whereabouts.Tidy) {object : Option String} :
    (world.take object).outcome.takesTurn = true ↔ world.IsCharged (.take object) := by
  cases object with
  | none => simp [take, refuse, tell, Outcome.free, IsCharged]
  | some typed =>
      constructor
      · intro hturn
        unfold take at hturn
        dsimp only at hturn
        split at hturn
        · cases hturn
        · rename_i item hfind
          obtain ⟨hnamed, hreach⟩ := findHere_eq_ok_iff.mp hfind
          split at hturn
          · cases hturn
          · rename_i hfree
            rw [Bool.not_eq_true] at hfree
            rw [Whereabouts.pickUp?_of_not_carried hfree] at hturn
            cases hslot : world.whereabouts.freeSlot? with
            | none =>
                rw [hslot] at hturn
                cases hturn
            | some slot =>
                exact ⟨item, hnamed, Whereabouts.placeOf_eq_lying hreach hfree,
                  htidy.length_inventory_lt_iff.mpr ⟨slot, hslot⟩⟩
      · rintro ⟨item, hnamed, hplace, hfew⟩
        obtain ⟨slot, hslot⟩ := htidy.length_inventory_lt_iff.mp hfew
        rw [take_of_lying hnamed hplace hslot]
        rfl

theorem takesTurn_drop {object : Option String} :
    (world.drop object).outcome.takesTurn = true ↔ world.IsCharged (.drop object) := by
  cases object with
  | none => simp [drop, refuse, tell, Outcome.free, IsCharged]
  | some typed =>
      simp only [IsCharged, ← Whereabouts.isCarried_iff, ← find_carried_eq_ok_iff, drop]
      cases world.find typed .carried <;> simp [tell, spend, Outcome.free, Outcome.oneTurn]

theorem takesTurn_examine {object : Option String} :
    (world.examine object).outcome.takesTurn = true ↔ world.IsCharged (.examine object) := by
  cases object with
  | none => simp [examine, refuse, tell, Outcome.free, IsCharged]
  | some typed =>
      simp only [IsCharged, iff_true, examine]
      split
      · rfl
      · split <;> rfl

theorem takesTurn_useItem (item : Item) : (world.useItem item).outcome.takesTurn = true := by
  by_cases hwine : item = .wine
  · rw [hwine]
    rfl
  · rw [outcome_useItem hwine]
    rfl

theorem takesTurn_use {object : Option String} :
    (world.use object).outcome.takesTurn = true ↔ world.IsCharged (.use object) := by
  cases object with
  | none => simp [use, refuse, tell, Outcome.free, IsCharged]
  | some typed =>
      have hreach : ∀ item, ((∃ slot, world.whereabouts.placeOf item = .carried slot) ∨
          world.whereabouts.placeOf item = .lying world.room) ↔ world.isWithinReach item = true :=
        fun item => Whereabouts.isWithinReach_iff.symm
      simp only [IsCharged, hreach, ← findHere_eq_ok_iff, use]
      cases world.findHere typed <;> simp [refuse, tell, Outcome.free, takesTurn_useItem]

/-! ## What a line takes -/

theorem takesTurn_iff_of_parse? {line : String} {command : Command}
    (hparse : Command.parse? line = some command) :
    world.TakesTurn line ↔ world.IsCharged command := by
  simp [TakesTurn, hparse]

theorem takesTurn_iff (htidy : world.whereabouts.Tidy) {input : Input} {act : Act}
    (hact : world.act? input = some act) :
    act.outcome.takesTurn = true ↔ world.TakesTurn input.line := by
  unfold act? at hact
  cases hparse : Command.parse? input.line with
  | none => simp [hparse] at hact
  | some command =>
      rw [takesTurn_iff_of_parse? hparse]
      rw [hparse] at hact
      cases command with
      | unknown => cases hact
      | help => cases hact; simp [showHelp, tell, Outcome.free, IsCharged]
      | inventory => cases hact; simp [listInventory, tell, Outcome.free, IsCharged]
      | look => cases hact; simp [look, tell, Outcome.free, IsCharged]
      | go target => cases hact; exact takesTurn_go
      | take object => cases hact; exact takesTurn_take htidy
      | drop object => cases hact; exact takesTurn_drop
      | examine object => cases hact; exact takesTurn_examine
      | use object => cases hact; exact takesTurn_use
      | quit =>
          cases hanswer : input.answer.confirmsQuit with
          | error failure => simp [hanswer] at hact
          | ok confirmed =>
              simp only [hanswer, Option.some.injEq] at hact
              simp [← hact, leave, Outcome.free, IsCharged]

theorem not_takesTurn_of_act?_eq_none {input : Input} (hact : world.act? input = none) :
    ¬ world.TakesTurn input.line := by
  rintro ⟨command, hparse, hcharged⟩
  unfold act? at hact
  rw [hparse] at hact
  cases command with
  | quit => exact hcharged
  | unknown => exact hcharged
  | _ => cases hact

theorem turns_next_of_takesTurn (htidy : world.whereabouts.Tidy) {input : Input}
    (hturn : world.TakesTurn input.line) : (world.next input).turns = world.turns + 1 := by
  cases hact : world.act? input with
  | none => exact absurd hturn (not_takesTurn_of_act?_eq_none hact)
  | some act =>
      have hcharged := (takesTurn_iff htidy hact).mpr hturn
      rw [next_of_act? hact, Act.turns_settle, Act.turnsAfter, (deed_of_act? hact).turns_eq,
        if_pos hcharged]

theorem turns_next_of_not_takesTurn (htidy : world.whereabouts.Tidy) {input : Input}
    (hfree : ¬ world.TakesTurn input.line) : (world.next input).turns = world.turns := by
  cases hact : world.act? input with
  | none => rw [next_of_act?_eq_none hact]
  | some act =>
      have hcharged := mt (takesTurn_iff htidy hact).mp hfree
      rw [next_of_act? hact, Act.turns_settle, Act.turnsAfter, (deed_of_act? hact).turns_eq,
        if_neg hcharged, Nat.add_zero]

end World

/-! ## Lines that take no turn -/

/-- What takes no turn changes nothing, and is not how a session is lost. -/
theorem Deed.eq_of_free {world after : World} {input : Input} {outcome : Outcome}
    (hdeed : Deed world input after outcome) (hfree : outcome.takesTurn = false) :
    after = world ∧ outcome.ending ≠ some .lost := by
  cases hdeed with
  | idle => exact ⟨rfl, by simp [Outcome.free]⟩
  | quit => exact ⟨rfl, by simp⟩
  | walkOut => exact ⟨rfl, by simp⟩
  | _ => cases hfree

namespace World

variable {world : World} {input : Input}

/-- Neither night nor the end of the candle is due at this turn. -/
structure IsAtRest (world : World) : Prop where
  light : world.turns = 20 → world.candleIsLit = true
  burning : world.candleIsLit = true → world.turns % 15 ≠ 0

theorem isAtRest_run {start : World} (hdark : start.candleIsLit = false)
    (hearly : start.turns < 20) {inputs : List Input} (hopen : (start.run inputs).ending = none) :
    (start.run inputs).IsAtRest where
  light := candleIsLit_of_nightfall hearly hopen
  burning hlit := by
    obtain ⟨turn, hlights, hturn, hsince⟩ := (candleIsLit_iff hdark hopen).mp hlit
    have hle := hlights.turn_le
    omega

/-- At rest, a line that takes no turn does nothing but end the session, if anything at all. -/
theorem IsAtRest.next_of_free (hrest : world.IsAtRest) (hopen : world.ending = none)
    (hfree : (world.next input).turns = world.turns) :
    ∃ ending, ending ≠ some .lost ∧ world.next input = { world with ending := ending } := by
  cases hact : world.act? input with
  | none =>
      refine ⟨none, by simp, ?_⟩
      rw [next_of_act?_eq_none hact, ← hopen]
  | some act =>
      have hdeed := deed_of_act? hact
      have hturns : act.turnsAfter = world.turns := by
        rw [← hfree, next_of_act? hact, Act.turns_settle]
      have huncharged : act.outcome.takesTurn = false := by
        by_contra hcharged
        simp [Act.turnsAfter, hdeed.turns_eq, hcharged] at hturns
      obtain ⟨hworld, hlost⟩ := hdeed.eq_of_free huncharged
      have hnight : act.isBenighted = false := by
        by_contra hnight
        simp only [Act.isBenighted, hturns, hworld, Bool.not_eq_false, Bool.and_eq_true,
          beq_iff_eq, Bool.not_eq_true', Hazard.darknessTurn] at hnight
        simp [hrest.light hnight.1] at hnight
      have hburnt : (world.candleIsLit && act.isBurnout) = false := by
        by_contra hburnt
        simp only [Act.isBurnout, hturns, Bool.not_eq_false, Bool.and_eq_true, beq_iff_eq,
          Hazard.candleTurns] at hburnt
        exact hrest.burning hburnt.1 hburnt.2.2
      refine ⟨act.outcome.ending, hlost, ?_⟩
      rw [next_of_act? hact, Act.settle_eq, hturns, hworld, hopen, hnight]
      cases hlit : world.candleIsLit <;> simp_all

/-- **What takes a turn, and what a line without one can do.** With tidy whereabouts, which any
operations lead to, a line takes exactly one turn if it is a move along a way that is there and is
not the gate, if it takes something that lies here while fewer than five items are carried, drops
something that is carried, looks closely at anything at all, or uses something within reach; any
other line takes none. In every session that is still open, a line that takes no turn leaves
everything as it is, hazards included, unless it wins or quits. -/
theorem turns_of_line :
    (∀ (world : World) (input : Input), world.whereabouts.Tidy →
      (world.TakesTurn input.line → (world.next input).turns = world.turns + 1) ∧
      (¬ world.TakesTurn input.line → (world.next input).turns = world.turns)) ∧
    (∀ (wording : Wording) (inputs : List Input) (input : Input),
      let world := (atStart wording).run inputs
      let after := world.next input
      world.ending = none → after.turns = world.turns →
        after.room = world.room ∧ after.whereabouts = world.whereabouts ∧
        after.plan = world.plan ∧ after.candleIsLit = world.candleIsLit ∧
        after.auntieIsTied = world.auntieIsTied ∧
        (after.ending = none ∨ after.ending = some .won ∨ after.ending = some .quit)) := by
  refine ⟨fun world input htidy =>
    ⟨turns_next_of_takesTurn htidy, turns_next_of_not_takesTurn htidy⟩, ?_⟩
  intro wording inputs input world after hopen hfree
  have hrest : world.IsAtRest := isAtRest_run rfl (Nat.zero_lt_succ 19) hopen
  obtain ⟨ending, hlost, hafter⟩ :
      ∃ ending, ending ≠ some .lost ∧ after = { world with ending := ending } :=
    hrest.next_of_free hopen hfree
  rw [hafter]
  refine ⟨rfl, rfl, rfl, rfl, rfl, ?_⟩
  cases ending with
  | none => exact Or.inl rfl
  | some ending =>
      cases ending with
      | won => exact Or.inr (Or.inl rfl)
      | quit => exact Or.inr (Or.inr rfl)
      | lost => exact absurd rfl hlost

/-- Looking closely at something that is not there takes a turn, and looking around takes none. -/
theorem turns_of_line_atStart :
    ∃ wording, Wording.shipped = .ok wording ∧
      (atStart wording).whereabouts.Tidy ∧
      (atStart wording).TakesTurn "examine dragon" ∧
      ((atStart wording).next ⟨"examine dragon", .endOfInput⟩).turns = 1 ∧
      ¬ (atStart wording).TakesTurn "look" ∧
      ((atStart wording).next ⟨"look", .endOfInput⟩).turns = 0 ∧
      ((atStart wording).next ⟨"look", .endOfInput⟩).room = .frontEntrance := by
  obtain ⟨wording, hshipped⟩ := Wording.exists_shipped
  have htidy : (atStart wording).whereabouts.Tidy := Whereabouts.tidy_atStart
  have hexamine : Command.parse? "examine dragon" = some (.examine (some "dragon")) := by
    decide +kernel
  have hlook : Command.parse? "look" = some .look := by decide +kernel
  have hturn : (atStart wording).TakesTurn "examine dragon" := ⟨_, hexamine, trivial⟩
  have hfree : ¬ (atStart wording).TakesTurn "look" := fun h =>
    (takesTurn_iff_of_parse? hlook).mp h
  have hone := (turns_of_line.1 (atStart wording) ⟨"examine dragon", .endOfInput⟩ htidy).1 hturn
  have hnone := (turns_of_line.1 (atStart wording) ⟨"look", .endOfInput⟩ htidy).2 hfree
  have hroom := (turns_of_line.2 wording [] ⟨"look", .endOfInput⟩ rfl hnone).1
  exact ⟨wording, hshipped, htidy, hturn, hone, hfree, hnone, hroom⟩

end World

end CastleEscape

import CastleEscape.Proofs.News
import CastleEscape.Proofs.Wishes

/-!
# Narration matches what has happened

What is said after a line, compared with the world before and after it. For each kind of news there
is one lemma that holds of every world: it is said exactly if there has been such a change. What
ends a session is compared with the ending, and the hazards with the turn.
-/

namespace CastleEscape

namespace World

/-- What waits to be shown after a line, if nothing waited before. -/
def said (world : World) (input : Input) : List Narration :=
  ((⟨world, []⟩ : Scene).hear input.line input.answer).scene.waiting

variable {world : World} {input : Input} {narration : Narration}

/-! ## What is said comes from the act or from a hazard -/

theorem said_of_act? {act : Act} (hact : world.act? input = some act) :
    world.said input = act.settle.2 := by
  by_cases hquit : Command.parse? input.line = some .quit
  · unfold act? at hact
    cases hanswer : input.answer.confirmsQuit with
    | error failure => simp [hquit, hanswer] at hact
    | ok confirmed =>
        simp only [hquit, hanswer, Option.some.injEq] at hact
        simp [said, Scene.hear, hear, hquit, respond, hanswer, Scene.settle, Scene.shown, hact]
  · exact (@Scene.waiting_hear ⟨world, []⟩ input.line input.answer act hact hquit).trans
      (List.nil_append _)

theorem isNews_of_act?_eq_none (hact : world.act? input = none)
    (hsaid : narration ∈ world.said input) : narration.isNews = false := by
  unfold act? at hact
  cases hparse : Command.parse? input.line with
  | none => simp [said, Scene.hear, hear, hparse] at hsaid
  | some command =>
      simp only [hparse] at hact
      cases command with
      | unknown =>
          simp [said, Scene.hear, hear, hparse, respond] at hsaid
          rw [hsaid]
          rfl
      | quit =>
          cases hanswer : input.answer.confirmsQuit with
          | ok confirmed => simp [hanswer] at hact
          | error failure =>
              simp [said, Scene.hear, hear, hparse, respond, hanswer, Scene.shown] at hsaid
      | _ => cases hact

/-- All news that is said belongs to the line, but for the hazards. -/
theorem news_of_said (hsaid : narration ∈ world.said input)
    (hact : ∀ message, narration ≠ .hazard message) : News world input.line narration := by
  cases hline : world.act? input with
  | none => exact .plain _ (isNews_of_act?_eq_none hline hsaid)
  | some act =>
      obtain ⟨hazards, hspeech⟩ := act.speech_settle
      rw [said_of_act? hline, hspeech, List.mem_append] at hsaid
      rcases hsaid with hown | hhazard
      · exact news_of_act? hline hown
      · obtain ⟨hazard, _, rfl⟩ := List.mem_map.mp hhazard
        exact absurd rfl (hact _)

theorem mem_said_of_act? {act : Act} (hact : world.act? input = some act)
    (hspeech : narration ∈ act.speech) : narration ∈ world.said input := by
  obtain ⟨hazards, hsettle⟩ := act.speech_settle
  rw [said_of_act? hact, hsettle]
  exact List.mem_append_left _ hspeech

/-- A hazard is told of if it is due once the act has been charged, and the session goes on. -/
theorem hazard_mem_said_iff {hazard : Hazard} :
    .hazard hazard.message ∈ world.said input ↔
      ∃ act, world.act? input = some act ∧ act.isOver = false ∧
        hazard ∈ ({ act.world with turns := act.turnsAfter } : World).hazards := by
  cases hact : world.act? input with
  | none =>
      have hunsaid : .hazard hazard.message ∉ world.said input := fun hsaid => by
        cases isNews_of_act?_eq_none hact hsaid
      simp [hunsaid]
  | some act =>
      -- acts themselves never speak of hazards
      have hown : .hazard hazard.message ∉ act.speech := fun hspeech => by
        cases @news_of_act? world input.line _ input.answer act hact hspeech with
        | plain _ hplain => cases hplain
      have hmessage : ∀ other : Hazard, other.message = hazard.message ↔ other = hazard := by
        cases hazard <;> rintro (_ | _ | _ | _) <;> decide
      rw [said_of_act? hact, act.speech_settle_eq]
      by_cases hover : act.isOver = true <;> simp [hown, hover, hmessage]

/-! ## Items, the ropes and the boiler -/

theorem took_mem_said_iff {item : Item} :
    .aboutItem .took item ∈ world.said input ↔
      world.whereabouts.placeOf item = .lying world.room ∧
        ∃ slot, (world.next input).whereabouts.placeOf item = .carried slot := by
  constructor
  · intro hsaid
    cases news_of_said hsaid (by simp) with
    | plain _ hplain => cases hplain
    | took _ slot hline hplace hslot =>
        obtain ⟨hlimit, hleast⟩ := Whereabouts.freeSlot?_eq_some_iff.mp hslot
        exact ⟨hplace, slot,
          placeOf_next_of_carries input.answer (.take item slot hline hplace hlimit hleast)⟩
  · rintro ⟨hplace, slot, hafter⟩
    have hcarries : world.Carries input.line item (.carried slot) := by
      rw [← hafter]
      exact carries_of_ne (by simp [hplace, hafter])
    cases hcarries with
    | take _ _ hline _ hlimit hleast =>
        exact mem_said_of_act? (act?_of_takes input.answer hline hplace
          (Whereabouts.freeSlot?_eq_some_iff.mpr ⟨hlimit, hleast⟩)) (List.mem_singleton_self _)

theorem dropped_mem_said_iff {item : Item} :
    .aboutItem .dropped item ∈ world.said input ↔
      (∃ slot, world.whereabouts.placeOf item = .carried slot) ∧
        (world.next input).whereabouts.placeOf item = .lying world.room := by
  constructor
  · intro hsaid
    cases news_of_said hsaid (by simp) with
    | plain _ hplain => cases hplain
    | dropped _ slot hline hplace =>
        exact ⟨⟨slot, hplace⟩,
          placeOf_next_of_carries input.answer (.drop item slot hline hplace)⟩
  · rintro ⟨⟨slot, hplace⟩, hafter⟩
    have hcarries : world.Carries input.line item (.lying world.room) := by
      rw [← hafter]
      exact carries_of_ne (by simp [hplace, hafter])
    generalize hroom : Place.lying world.room = place at hcarries
    cases hcarries with
    | take => cases hroom
    | drop _ _ hline _ =>
        exact mem_said_of_act? (act?_of_drops input.answer hline hplace)
          (List.mem_singleton_self _)
    | pry _ _ habsent => simp [hplace] at habsent

theorem cutRopes_mem_said_iff :
    .message .cutRopes ∈ world.said input ↔
      world.auntieIsTied = true ∧ (world.next input).auntieIsTied = false := by
  constructor
  · intro hsaid
    cases news_of_said hsaid (by simp) with
    | plain _ hplain => cases hplain
    | cutRopes hcuts => exact ⟨hcuts.1, auntieIsTied_next_of_cutsRopes input.answer hcuts⟩
  · rintro ⟨htied, hfree⟩
    have hcuts : world.CutsRopes input.line := cutsRopes_of_ne (by simp [htied, hfree])
    exact mem_said_of_act? (act?_of_cutsRopes input.answer hcuts) (by simp [spend])

theorem pryBoiler_mem_said_iff :
    .message .pryBoiler ∈ world.said input ↔
      world.whereabouts.placeOf .skye = .absent ∧
        (world.next input).whereabouts.placeOf .skye ≠ .absent := by
  constructor
  · intro hsaid
    cases news_of_said hsaid (by simp) with
    | plain _ hplain => cases hplain
    | pried huse hroom habsent =>
        rw [placeOf_next_of_carries input.answer (.pry huse hroom habsent)]
        exact ⟨habsent, by simp⟩
  · rintro ⟨habsent, hafter⟩
    have hcarries := carries_of_ne (hafter.trans_eq habsent.symm)
    generalize (world.next input).whereabouts.placeOf .skye = place at hcarries
    cases hcarries with
    | take _ _ _ hplace => simp [habsent] at hplace
    | drop _ _ _ hplace => simp [habsent] at hplace
    | pry huse hroom _ =>
        exact mem_said_of_act? (act?_of_pry input.answer huse hroom habsent)
          (List.mem_singleton_self _)

/-! ## The room -/

/-- Unless the player looks around, a room is told of when it is entered; no way may lead back to
its own room. -/
theorem room_mem_said_iff (hstay : Command.parse? input.line ≠ some .look)
    (hways : ∀ direction, world.plan.exit? world.room direction ≠ some world.room) {room : Room} :
    .room room ∈ world.said input ↔
      (world.next input).room ≠ world.room ∧ (world.next input).room = room := by
  constructor
  · intro hsaid
    cases news_of_said hsaid (by simp) with
    | plain _ hplain => cases hplain
    | seen hlook => exact absurd hlook hstay
    | entered _ henters =>
        have hafter : (world.next input).room = room :=
          room_next_of_enters input.answer henters
        obtain ⟨_, _, direction, _, _, _, hexit, _⟩ := henters
        refine ⟨?_, hafter⟩
        rw [hafter]
        rintro rfl
        exact hways direction hexit
  · rintro ⟨hmoved, rfl⟩
    exact mem_said_of_act? (act?_of_enters input.answer (enters_of_ne hmoved))
      (List.mem_singleton_self _)

/-! ## Endings -/

theorem won_mem_said_iff : .finale .won ∈ world.said input ↔ world.LeadsTo input .won := by
  constructor
  · intro hsaid
    cases news_of_said hsaid (by simp) with
    | plain _ hplain => cases hplain
    | won hout => exact hout
  · intro hout
    exact mem_said_of_act? (act?_of_walksOut hout) (List.mem_singleton_self _)

theorem drinkWine_mem_said_iff :
    .finale .drinkWine ∈ world.said input ↔ world.LeadsTo input .lost := by
  constructor
  · intro hsaid
    cases news_of_said hsaid (by simp) with
    | plain _ hplain => cases hplain
    | drankWine huse => exact huse
  · intro huse
    exact mem_said_of_act? (act?_of_uses huse) (List.mem_singleton_self _)

/-- An act is over before the hazards just if it ends an open session. -/
theorem isOver_of_open {act : Act} (hact : world.act? input = some act)
    (hopen : world.ending = none) : act.isOver = act.outcome.ending.isSome := by
  have hstill : act.world.ending = none := (deed_of_act? hact).ending_eq.trans hopen
  simp [Act.isOver, isFinished, hstill]

theorem darknessFalls_mem_said_iff (hopen : world.ending = none)
    (hread : ((⟨world, []⟩ : Scene).hear input.line input.answer).failure = none) :
    .hazard .darknessFalls ∈ world.said input ↔ world.IsOvertaken input.line input.answer := by
  refine (@hazard_mem_said_iff _ _ .darknessFalls).trans ?_
  simp only [darknessFalls_mem_hazards_iff]
  constructor
  · rintro ⟨act, hact, hover, hnight⟩
    rw [isOver_of_open hact hopen, Option.isSome_eq_false_iff, Option.isNone_iff_eq_none] at hover
    exact (isBenighted_iff hact hover).mp hnight
  · intro hovertaken
    obtain ⟨act, hact⟩ := exists_act? hread hovertaken.1
    have houtcome : act.outcome.ending = none := by
      rw [Option.eq_none_iff_forall_not_mem]
      intro ending hending
      exact hovertaken.2.1 ending (leadsTo_iff.mpr ⟨act, hact, hending⟩)
    refine ⟨act, hact, ?_, (isBenighted_iff hact houtcome).mpr hovertaken⟩
    rw [isOver_of_open hact hopen, houtcome]
    rfl

/-- What is told of endings, compared with how an open session ends. -/
theorem ending_next_iff_said (hopen : world.ending = none)
    (hread : ((⟨world, []⟩ : Scene).hear input.line input.answer).failure = none) :
    ((world.next input).ending = some .won ↔ .finale .won ∈ world.said input) ∧
    ((world.next input).ending = some .lost ↔
      .finale .drinkWine ∈ world.said input ∨ .hazard .darknessFalls ∈ world.said input) := by
  have hending := @ending_next_iff input.line input.answer ⟨world, []⟩ hopen hread
  rw [won_mem_said_iff, drinkWine_mem_said_iff, darknessFalls_mem_said_iff hopen hread]
  exact ⟨hending.trans (by simp), hending.trans (by simp)⟩

/-- A line that ends the session with the wine is not overtaken by the night. -/
theorem not_drinkWine_and_darknessFalls (hopen : world.ending = none)
    (hread : ((⟨world, []⟩ : Scene).hear input.line input.answer).failure = none) :
    ¬ (.finale .drinkWine ∈ world.said input ∧ .hazard .darknessFalls ∈ world.said input) := by
  rw [drinkWine_mem_said_iff, darknessFalls_mem_said_iff hopen hread]
  rintro ⟨hleads, hovertaken⟩
  exact hovertaken.2.1 .lost hleads

/-! ## Ways and the candle -/

theorem exits_mem_said {room : Room} {direction : Direction}
    (hchanged : (world.next input).plan.exit? room direction ≠ world.plan.exit? room direction) :
    .message .unlockDoor ∈ world.said input ∨ .message .fireplacePanels ∈ world.said input := by
  obtain ⟨ways, hopens, _⟩ := exists_opens_of_ne hchanged
  cases hopens with
  | door huse hroom =>
      exact Or.inl (mem_said_of_act? (act?_of_unlock input.answer huse hroom)
        (List.mem_singleton_self _))
  | panels hline hroom =>
      exact Or.inr (mem_said_of_act? (act?_of_examinesFireplace input.answer hline hroom)
        (List.mem_singleton_self _))

theorem lightCandle_mem_said (hdark : world.candleIsLit = false)
    (hlit : (world.next input).candleIsLit = true) :
    .message .lightCandle ∈ world.said input := by
  cases hact : world.act? input with
  | none => simp [next_of_act?_eq_none hact, hdark] at hlit
  | some act =>
      rw [next_of_act? hact, Act.candleIsLit_settle, Bool.and_eq_true, candleIsLit_of_act? hact,
        hdark] at hlit
      have hlight : world.LightsCandle input.line := hlit.1.resolve_left Bool.false_ne_true
      exact mem_said_of_act? (act?_of_lightsCandle hlight) (List.mem_singleton_self _)

theorem candleBlowsOut_mem_said (hlit : world.candleIsLit = true)
    (hdark : (world.next input).candleIsLit = false) :
    .hazard .candleBlowsOut ∈ world.said input := by
  cases hact : world.act? input with
  | none => simp [next_of_act?_eq_none hact, hlit] at hdark
  | some act =>
      have hstill : act.world.candleIsLit = true := (candleIsLit_of_act? hact).mpr (Or.inl hlit)
      have hburnt : act.isOver = false ∧ act.isBurnout = true := by
        simpa [next_of_act? hact, Act.candleIsLit_settle, hstill] using hdark
      refine (@hazard_mem_said_iff _ _ .candleBlowsOut).mpr ⟨act, hact, hburnt.1, ?_⟩
      rw [candleBlowsOut_mem_hazards_iff]
      simpa [isCandleBurnt, hstill, Act.isBurnout] using hburnt.2

/-! ## All of it -/

/-- **Narration matches what has happened.** In every session that is still open, whatever line is
heard out: an item is said to be taken or dropped exactly if it has come from the room to the player
or the other way; the ropes are said to be cut and the boiler to be pried open exactly if auntie and
Skye have come free by it; unless the player looks around, a room is told of exactly if the player
has just come there; the session is said to be won exactly if it has been, and of the wine and the
night exactly one is told of if it has been lost, and neither otherwise. No way changes, no candle
is lit and none goes out without a word of it. -/
theorem narration_of_line (wording : Wording) (inputs : List Input) (input : Input) :
    let world := (atStart wording).run inputs
    let after := world.next input
    let said := world.said input
    world.ending = none →
    ((⟨world, []⟩ : Scene).hear input.line input.answer).failure = none →
    (∀ item, .aboutItem .took item ∈ said ↔
      world.whereabouts.placeOf item = .lying world.room ∧
        ∃ slot, after.whereabouts.placeOf item = .carried slot) ∧
    (∀ item, .aboutItem .dropped item ∈ said ↔
      (∃ slot, world.whereabouts.placeOf item = .carried slot) ∧
        after.whereabouts.placeOf item = .lying world.room) ∧
    (.message .cutRopes ∈ said ↔ world.auntieIsTied = true ∧ after.auntieIsTied = false) ∧
    (.message .pryBoiler ∈ said ↔
      world.whereabouts.placeOf .skye = .absent ∧ after.whereabouts.placeOf .skye ≠ .absent) ∧
    (Command.parse? input.line ≠ some .look →
      ∀ room, .room room ∈ said ↔ after.room ≠ world.room ∧ after.room = room) ∧
    (.finale .won ∈ said ↔ after.ending = some .won) ∧
    (after.ending = some .lost →
      Xor (.finale .drinkWine ∈ said) (.hazard .darknessFalls ∈ said)) ∧
    (after.ending ≠ some .lost →
      .finale .drinkWine ∉ said ∧ .hazard .darknessFalls ∉ said) ∧
    (∀ room direction, after.plan.exit? room direction ≠ world.plan.exit? room direction →
      .message .unlockDoor ∈ said ∨ .message .fireplacePanels ∈ said) ∧
    (world.candleIsLit = false → after.candleIsLit = true → .message .lightCandle ∈ said) ∧
    (world.candleIsLit = true → after.candleIsLit = false →
      .hazard .candleBlowsOut ∈ said) := by
  intro world
  obtain ⟨door, panels, horder⟩ := Board.orderly_run wording inputs
  have hways : ∀ direction, world.plan.exit? world.room direction ≠ some world.room := by
    intro direction hexit
    have hplan : world.plan = .withOpen door panels := horder.plan_eq
    rw [hplan] at hexit
    exact FloorPlan.ne_of_exit? hexit rfl
  -- nothing else has to be known of how the session got here
  clear_value world
  dsimp only
  intro hopen hread
  obtain ⟨hwon, hlost⟩ := ending_next_iff_said hopen hread
  have hnotBoth := not_drinkWine_and_darknessFalls hopen hread
  refine ⟨fun item => took_mem_said_iff, fun item => dropped_mem_said_iff, cutRopes_mem_said_iff,
    pryBoiler_mem_said_iff, fun hstay room => room_mem_said_iff hstay hways, hwon.symm, ?_, ?_,
    fun room direction => exits_mem_said, lightCandle_mem_said, candleBlowsOut_mem_said⟩
  · intro hended
    rcases hlost.mp hended with hwine | hnight
    · exact Or.inl ⟨hwine, fun hnight => hnotBoth ⟨hwine, hnight⟩⟩
    · exact Or.inr ⟨hnight, fun hwine => hnotBoth ⟨hwine, hnight⟩⟩
  · intro hended
    exact not_or.mp (hended ∘ hlost.mpr)

/-- The key is said to be dropped when it has been, and it is not said to be taken. -/
theorem narration_of_line_drop_key :
    ∃ wording line, Wording.shipped = .ok wording ∧ line = "drop " ++ wording.item .key ∧
      ((Scene.atStart wording).hear line .endOfInput).failure = none ∧
      .aboutItem .dropped .key ∈ (atStart wording).said ⟨line, .endOfInput⟩ ∧
      .aboutItem .took .key ∉ (atStart wording).said ⟨line, .endOfInput⟩ := by
  obtain ⟨wording, hshipped⟩ := Wording.exists_shipped
  obtain ⟨line, hline⟩ : ∃ line, line = "drop " ++ wording.item .key := ⟨_, rfl⟩
  have hparse : Command.parse? line = some (.drop (some (wording.item .key))) := by
    rw [hline]
    exact Wish.parse?_line_drop (Wording.trim_item_of_shipped hshipped) .key
  have hread : ((Scene.atStart wording).hear line .endOfInput).failure = none := by
    simp [Scene.hear, hear, hparse, respond, respond.settle]
  have hplace : (atStart wording).whereabouts.placeOf .key = .carried 0 := rfl
  have hdropped : ((atStart wording).next ⟨line, .endOfInput⟩).whereabouts.placeOf .key =
      .lying (atStart wording).room :=
    placeOf_next_of_carries .endOfInput
      (.drop .key 0 ⟨_, hparse, wording.itemNamed?_item .key⟩ hplace)
  obtain ⟨htaken, hgone, _⟩ := narration_of_line wording [] ⟨line, .endOfInput⟩ rfl hread
  rw [run_nil] at htaken hgone
  refine ⟨wording, line, hshipped, hline, hread, (hgone .key).mpr ⟨⟨0, hplace⟩, hdropped⟩, ?_⟩
  rw [htaken .key, hplace]
  simp

end World

end CastleEscape

import CastleEscape.Proofs.Acts
import CastleEscape.Proofs.Run
import Mathlib.Data.List.TakeWhile

/-!
# Deeds

Everything that one input can do to the world, with what it takes. A `Deed` is one such effect: the
world right after the act and the outcome of the act, together with what the line has to say and
what has to hold for it. `deed_of_act?` says that there are no others, so that whatever is kept by
every deed is kept by every line, and no later proof has to look into an act again.

The line is spoken of by what it asks for (`Heads`, `Uses`, …): which command it is and which item
or direction it names.
-/

namespace CastleEscape

/-! ## What a line asks for -/

/-- The line is a move whose last word names this direction. -/
def Command.Heads (line : String) (direction : Direction) : Prop :=
  ∃ target word, parse? line = some (.go (some target)) ∧ Text.lastWord? target = some word ∧
    Direction.ofWord? word = some direction

/-- The line takes a close look at the fireplace. -/
def Command.ExaminesFireplace (line : String) : Prop :=
  ∃ typed, parse? line = some (.examine (some typed)) ∧
    Text.sameButAsciiCase typed fireplaceName = true

/-- The first character of an answer that is not blank is a y. -/
def StartsWithYes (answer : String) : Prop :=
  ∃ c, answer.toList.find? (fun c => !Text.isBlank c) = some c ∧ (c = 'y' ∨ c = 'Y')

/-- The player wishes to quit and means it: the answer is a yes, or the input is at its end. -/
def Input.Quits (input : Input) : Prop :=
  Command.parse? input.line = some .quit ∧
    (input.answer = .endOfInput ∨ ∃ text, input.answer = .line text ∧ StartsWithYes text)

namespace World

/-- The line takes this item, by its name. -/
def Takes (world : World) (line : String) (item : Item) : Prop :=
  ∃ typed, Command.parse? line = some (.take (some typed)) ∧
    world.wording.itemNamed? typed = some item

/-- The line drops this item, by its name. -/
def Drops (world : World) (line : String) (item : Item) : Prop :=
  ∃ typed, Command.parse? line = some (.drop (some typed)) ∧
    world.wording.itemNamed? typed = some item

/-- The line uses this item, by its name, and the item is carried or lies where the player is. -/
def Uses (world : World) (line : String) (item : Item) : Prop :=
  (∃ typed, Command.parse? line = some (.use (some typed)) ∧
    world.wording.itemNamed? typed = some item) ∧ world.isWithinReach item = true

/-- The line uses the matches, with the matches and the candle at hand. -/
def LightsCandle (world : World) (line : String) : Prop :=
  world.Uses line .matchbox ∧ world.isWithinReach .candle = true

/-- The line heads out of the castle, where a way out is. -/
def TriesGate (world : World) (line : String) : Prop :=
  Command.Heads line .south ∧ world.room = .vestibule ∧
    (world.plan.exit? .vestibule .south).isSome = true

/-- The item is carried or lies in the vestibule. -/
def IsAtGate (world : World) (item : Item) : Prop :=
  (∃ slot, world.whereabouts.placeOf item = .carried slot) ∨
    world.whereabouts.placeOf item = .lying .vestibule

/-- The line heads out of the castle, and whoever has to be there is there. -/
def WalksOut (world : World) (line : String) : Prop :=
  world.TriesGate line ∧ ∀ item ∈ [Item.skye, .auntie, .cat, .doll], world.IsAtGate item

/-- The line brings about this ending by itself, without any hazard. -/
def LeadsTo (world : World) (input : Input) : Ending → Prop
  | .won => world.WalksOut input.line
  | .lost => world.Uses input.line .wine
  | .quit => input.Quits

end World

/-! ## Deeds -/

/-- The world right after an act that the input can come to, with the outcome of the act. -/
inductive Deed (world : World) (input : Input) : World → Outcome → Prop where
  /-- Something is said, if at all. -/
  | idle : Deed world input world .free
  /-- A turn is spent on nothing. -/
  | linger : Deed world input world .oneTurn
  | quit (hquits : input.Quits) :
      Deed world input world ⟨false, some .quit⟩
  | walkOut (hout : world.WalksOut input.line) :
      Deed world input world ⟨false, some .won⟩
  | drink (huse : world.Uses input.line .wine) :
      Deed world input world ⟨true, some .lost⟩
  | walk (direction : Direction) (destination : Room)
      (hline : Command.Heads input.line direction)
      (hexit : world.plan.exit? world.room direction = some destination)
      (hgate : Gate.isCrossedBy world.room direction = false) :
      Deed world input { world with room := destination } .oneTurn
  | take (item : Item) (slot : Nat)
      (hline : world.Takes input.line item)
      (hplace : world.whereabouts.placeOf item = .lying world.room)
      (hslot : world.whereabouts.freeSlot? = some slot) :
      Deed world input (world.moveItem item (.carried slot)) .oneTurn
  | drop (item : Item) (slot : Nat)
      (hline : world.Drops input.line item)
      (hplace : world.whereabouts.placeOf item = .carried slot) :
      Deed world input (world.moveItem item (.lying world.room)) .oneTurn
  | openPanels (hline : Command.ExaminesFireplace input.line) (hroom : world.room = .study) :
      Deed world input (HiddenWay.panels.foldl World.reveal world) .oneTurn
  | unlock (huse : world.Uses input.line .key) (hroom : world.room = .frontEntrance) :
      Deed world input (world.reveal .frontDoor) .oneTurn
  | cutRopes (huse : world.Uses input.line .knife) (htied : world.auntieIsTied = true)
      (hauntie : world.isWithinReach .auntie = true) :
      Deed world input { world with auntieIsTied := false } .oneTurn
  | light (hlight : world.LightsCandle input.line) :
      Deed world input { world with candleIsLit := true } .oneTurn
  | pry (huse : world.Uses input.line .steelBar) (hroom : world.room = .steamPlant)
      (habsent : world.whereabouts.placeOf .skye = .absent) :
      Deed world input (world.moveItem .skye (.lying world.room)) .oneTurn

/-! ## There are no other deeds

One lemma for each kind of act that can change anything. -/

section Acts

variable {world : World} {input : Input}

theorem Command.heads_of_heading? {line target : String} {direction : Direction}
    (hparse : parse? line = some (.go (some target)))
    (hheading : World.heading? target = some direction) : Heads line direction := by
  obtain ⟨word, hword, hdirection⟩ := Option.bind_eq_some_iff.mp hheading
  exact ⟨target, word, hparse, hword, hdirection⟩

theorem World.find_eq_ok {typed : String} {scope : Scope} {item : Item}
    (hfind : world.find typed scope = .ok item) :
    world.wording.itemNamed? typed = some item ∧ world.isInScope item scope = true := by
  unfold World.find at hfind
  split at hfind
  · cases hfind
  · rename_i found hnamed
    split at hfind
    · cases hfind
      exact ⟨hnamed, ‹_›⟩
    · cases hfind

theorem World.isAtGate_of_missingCompanion? (hnone : world.missingCompanion? = none) :
    ∀ item ∈ [Item.skye, .auntie, .cat, .doll], world.IsAtGate item := by
  intro item hitem
  have hreach : world.whereabouts.isWithinReach item Gate.room = true := by
    simpa using List.find?_eq_none.mp hnone item hitem
  exact Whereabouts.isWithinReach_iff.mp hreach

theorem deed_go {target : Option String} (hparse : Command.parse? input.line = some (.go target)) :
    Deed world input (world.go target).world (world.go target).outcome := by
  unfold World.go
  cases hheading : target.bind World.heading? with
  | none => exact .idle
  | some direction =>
      obtain ⟨text, rfl, htext⟩ := Option.bind_eq_some_iff.mp hheading
      have hheads := Command.heads_of_heading? hparse htext
      simp only
      cases hexit : world.plan.exit? world.room direction with
      | none => exact .idle
      | some destination =>
          simp only
          split
          case isFalse hgate => exact .walk _ _ hheads hexit (Bool.eq_false_iff.mpr hgate)
          case isTrue hgate =>
            cases hmissing : world.missingCompanion? with
            | some item => exact .idle
            | none =>
                obtain ⟨hroom, rfl⟩ : world.room = .vestibule ∧ direction = .south := by
                  simpa [Gate.isCrossedBy, Gate.room, Gate.direction] using hgate
                rw [hroom] at hexit
                exact .walkOut ⟨⟨hheads, hroom, by simp [hexit]⟩,
                  World.isAtGate_of_missingCompanion? hmissing⟩

theorem deed_take {object : Option String}
    (hparse : Command.parse? input.line = some (.take object)) :
    Deed world input (world.take object).world (world.take object).outcome := by
  unfold World.take
  cases object with
  | none => exact .idle
  | some typed =>
      simp only
      split
      · exact .idle
      · rename_i item hfind
        obtain ⟨hnamed, hscope⟩ := World.find_eq_ok hfind
        split
        · exact .idle
        · rename_i hfree
          rw [Bool.not_eq_true] at hfree
          rw [Whereabouts.pickUp?_of_not_carried hfree]
          cases hslot : world.whereabouts.freeSlot? with
          | none => exact .idle
          | some slot =>
              exact .take item slot ⟨typed, hparse, hnamed⟩
                (Whereabouts.placeOf_eq_lying hscope hfree) hslot

theorem deed_drop {object : Option String}
    (hparse : Command.parse? input.line = some (.drop object)) :
    Deed world input (world.drop object).world (world.drop object).outcome := by
  unfold World.drop
  cases object with
  | none => exact .idle
  | some typed =>
      simp only
      split
      · exact .idle
      · rename_i item hfind
        obtain ⟨hnamed, hscope⟩ := World.find_eq_ok hfind
        obtain ⟨slot, hplace⟩ := Whereabouts.isCarried_iff.mp hscope
        exact .drop item slot ⟨typed, hparse, hnamed⟩ hplace

theorem deed_examine {object : Option String}
    (hparse : Command.parse? input.line = some (.examine object)) :
    Deed world input (world.examine object).world (world.examine object).outcome := by
  unfold World.examine
  cases object with
  | none => exact .idle
  | some typed =>
      simp only
      split
      · rename_i hfireplace
        obtain ⟨hsame, hroom⟩ := Bool.and_eq_true_iff.mp hfireplace
        exact .openPanels ⟨typed, hparse, hsame⟩ (beq_iff_eq.mp hroom)
      · split <;> exact .linger

theorem deed_useItem {item : Item} (huse : world.Uses input.line item) :
    Deed world input (world.useItem item).world (world.useItem item).outcome := by
  cases item with
  | key =>
      simp only [World.useItem]
      split
      · rename_i hroom
        exact .unlock huse (beq_iff_eq.mp hroom)
      · exact .linger
  | wine => exact .drink huse
  | knife =>
      simp only [World.useItem]
      split
      · rename_i hcut
        obtain ⟨htied, hauntie⟩ := Bool.and_eq_true_iff.mp hcut
        exact .cutRopes huse htied hauntie
      · exact .linger
  | matchbox =>
      simp only [World.useItem]
      split
      · rename_i hcandle
        exact .light ⟨huse, hcandle⟩
      · exact .linger
  | steelBar =>
      simp only [World.useItem]
      split
      · rename_i hpry
        obtain ⟨hroom, habsent⟩ := Bool.and_eq_true_iff.mp hpry
        exact .pry huse (beq_iff_eq.mp hroom) (Whereabouts.isAbsent_iff.mp habsent)
      · exact .linger
  | _ => exact .linger

theorem deed_use {object : Option String}
    (hparse : Command.parse? input.line = some (.use object)) :
    Deed world input (world.use object).world (world.use object).outcome := by
  unfold World.use
  cases object with
  | none => exact .idle
  | some typed =>
      simp only
      split
      · exact .idle
      · rename_i item hfind
        obtain ⟨hnamed, hscope⟩ := World.find_eq_ok hfind
        exact deed_useItem ⟨⟨typed, hparse, hnamed⟩, hscope⟩

/-! The answer to the question about quitting. -/

theorem isAffirmative_iff {answer : String} :
    isAffirmative answer = true ↔ StartsWithYes answer := by
  unfold isAffirmative StartsWithYes Text.trimStartChars
  rw [List.find?_not_eq_head?_dropWhile]
  cases answer.toList.dropWhile Text.isBlank with
  | nil => simp
  | cons c rest => simp

theorem Event.confirmsQuit_iff {answer : Event} :
    answer.confirmsQuit = .ok true ↔
      answer = .endOfInput ∨ ∃ text, answer = .line text ∧ StartsWithYes text := by
  cases answer <;> simp [confirmsQuit, isAffirmative_iff]

/-- **There are no other deeds.** Whatever act an input comes to, the world right after it and its
outcome are those of a deed. -/
theorem deed_of_act? {act : Act} (hact : world.act? input = some act) :
    Deed world input act.world act.outcome := by
  unfold World.act? at hact
  cases hparse : Command.parse? input.line with
  | none => simp [hparse] at hact
  | some command =>
      rw [hparse] at hact
      cases command with
      | unknown => cases hact
      | help => cases hact; exact .idle
      | inventory => cases hact; exact .idle
      | look => cases hact; exact .idle
      | go target => cases hact; exact deed_go hparse
      | take object => cases hact; exact deed_take hparse
      | drop object => cases hact; exact deed_drop hparse
      | examine object => cases hact; exact deed_examine hparse
      | use object => cases hact; exact deed_use hparse
      | quit =>
          cases hanswer : input.answer.confirmsQuit with
          | error failure => simp [hanswer] at hact
          | ok confirmed =>
              simp only [hanswer, Option.some.injEq] at hact
              subst hact
              cases confirmed with
              | false => exact .idle
              | true => exact .quit ⟨hparse, Event.confirmsQuit_iff.mp hanswer⟩

end Acts

/-! ## Lines that use something -/

namespace World

variable {world : World} {input : Input}

theorem act?_of_uses {item : Item} (huse : world.Uses input.line item) :
    world.act? input = some (world.useItem item) := by
  obtain ⟨⟨typed, hparse, hnamed⟩, hreach⟩ := huse
  simp only [act?, hparse, use_of_reach hnamed hreach]

theorem act?_of_lightsCandle (hlight : world.LightsCandle input.line) :
    world.act? input =
      some ({ world with candleIsLit := true }.spend [.message .lightCandle]) := by
  rw [act?_of_uses hlight.1]
  simp [useItem, hlight.2]

end World

/-! ## What deeds have in common -/

namespace Deed

variable {world after : World} {input : Input} {outcome : Outcome}

theorem wording_eq (hdeed : Deed world input after outcome) : after.wording = world.wording := by
  cases hdeed <;> rfl

/-- The turn is charged later. -/
theorem turns_eq (hdeed : Deed world input after outcome) : after.turns = world.turns := by
  cases hdeed <;> rfl

/-- The ending is set later. -/
theorem ending_eq (hdeed : Deed world input after outcome) : after.ending = world.ending := by
  cases hdeed <;> rfl

/-- No deed puts the candle out. -/
theorem candleIsLit_cases (hdeed : Deed world input after outcome) :
    after.candleIsLit = world.candleIsLit ∨ world.LightsCandle input.line := by
  cases hdeed with
  | light hlight => exact Or.inr hlight
  | _ => exact Or.inl rfl

/-- An act ends the session only for a line that asks for just that. -/
theorem leadsTo (hdeed : Deed world input after outcome) {ending : Ending}
    (hending : outcome.ending = some ending) : world.LeadsTo input ending := by
  cases hdeed with
  | quit hquits => cases hending; exact hquits
  | walkOut hout => cases hending; exact hout
  | drink huse => cases hending; exact huse
  | _ => cases hending

end Deed

namespace World

/-- To show that one input keeps something, look at every deed, and at what settling does. -/
theorem next_cases {motive : World → Prop} {world : World} {input : Input}
    (hnone : motive world)
    (hdeed : ∀ act : Act, Deed world input act.world act.outcome → motive act.settle.1) :
    motive (world.next input) := by
  cases hact : world.act? input with
  | none => rwa [next_of_act?_eq_none hact]
  | some act =>
      rw [next_of_act? hact]
      exact hdeed act (deed_of_act? hact)

theorem wording_next (world : World) (input : Input) :
    (world.next input).wording = world.wording := by
  refine next_cases (motive := fun after => after.wording = world.wording) rfl fun act hdeed => ?_
  rw [Act.wording_settle, hdeed.wording_eq]

/-- An open session ends with the ending of the act, or else with nightfall. -/
theorem ending_next_of_act? {world : World} {input : Input} {act : Act}
    (hopen : world.ending = none) (hact : world.act? input = some act) :
    (world.next input).ending =
      act.outcome.ending.or (if act.isBenighted then some .lost else none) := by
  have hworld : act.world.ending = none := (deed_of_act? hact).ending_eq.trans hopen
  rw [next_of_act? hact]
  cases houtcome : act.outcome.ending with
  | none => rw [Act.ending_settle_of_none hworld houtcome, Option.none_or]
  | some ending => rw [Act.ending_settle_of_some hworld houtcome, Option.some_or]

/-- Right after an act the candle burns if it did before, or if the line lit it. -/
theorem candleIsLit_of_act? {world : World} {input : Input} {act : Act}
    (hact : world.act? input = some act) :
    act.world.candleIsLit = true ↔
      world.candleIsLit = true ∨ world.LightsCandle input.line := by
  by_cases hlight : world.LightsCandle input.line
  · rw [act?_of_lightsCandle hlight, Option.some.injEq] at hact
    simp [← hact, spend, hlight]
  · have hsame : act.world.candleIsLit = world.candleIsLit := by
      rcases (deed_of_act? hact).candleIsLit_cases with hsame | hlight'
      · exact hsame
      · exact absurd hlight' hlight
    simp [hsame, hlight]

end World

end CastleEscape

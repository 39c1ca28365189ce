import CastleEscape.Proofs.Deed
import Mathlib.Data.List.Induction

/-!
# The candle over a run

Whether the candle burns is a matter of when it was lit: it goes out at the turns that are multiples
of fifteen and at no others (`candleIsLit_iff`). As nobody without a light gets past the turn at
which night falls, whoever is still playing at that turn or later has lit the candle shortly before
it (`exists_lighting`).
-/

namespace CastleEscape

namespace World

variable {world : World} {input : Input}

/-! ## Turns and endings -/

theorem turns_next_cases (world : World) (input : Input) :
    (world.next input).turns = world.turns ∨ (world.next input).turns = world.turns + 1 := by
  refine next_cases (motive := fun after => after.turns = world.turns ∨
    after.turns = world.turns + 1) (Or.inl rfl) fun act hdeed => ?_
  rw [Act.turns_settle, Act.turnsAfter, hdeed.turns_eq]
  split
  · exact Or.inr rfl
  · exact Or.inl rfl

theorem turns_le_next (world : World) (input : Input) :
    world.turns ≤ (world.next input).turns := by
  rcases world.turns_next_cases input with h | h <;> omega

/-- The first ending is the last word. -/
theorem ending_next_of_ending {ending : Ending} (hended : world.ending = some ending)
    (input : Input) : (world.next input).ending = some ending := by
  refine next_cases (motive := fun after => after.ending = some ending) hended fun act hdeed => ?_
  rw [Act.ending_settle, hdeed.ending_eq, hended]
  rfl

theorem open_of_open_next (hopen : (world.next input).ending = none) : world.ending = none := by
  cases hended : world.ending with
  | none => rfl
  | some ending => simp [ending_next_of_ending hended input] at hopen

/-- What leaves a session open is an act that does not end it, and no night. -/
theorem outcome_of_open_next {act : Act} (hact : world.act? input = some act)
    (hopen : (world.next input).ending = none) :
    act.world.ending = none ∧ act.outcome.ending = none ∧ act.isBenighted = false := by
  have hbefore := open_of_open_next hopen
  rw [ending_next_of_act? hbefore hact, Option.or_eq_none_iff] at hopen
  refine ⟨(deed_of_act? hact).ending_eq.trans hbefore, hopen.1, ?_⟩
  by_contra hnight
  simp [hnight] at hopen

/-! ## Lighting the candle -/

/-- Some line of the run lights the candle, and the turn that this takes is this one. -/
def LightsCandleAt (world : World) (inputs : List Input) (turn : Nat) : Prop :=
  ∃ before input rest, inputs = before ++ input :: rest ∧
    (world.run before).LightsCandle input.line ∧
    (world.run before).turns + 1 = turn ∧ ((world.run before).next input).turns = turn

theorem turns_next_of_lightsCandle (hlight : world.LightsCandle input.line) :
    (world.next input).turns = world.turns + 1 := by
  rw [next_of_act? (act?_of_lightsCandle hlight), Act.turns_settle]
  rfl

theorem not_lightsCandleAt_nil {turn : Nat} : ¬ world.LightsCandleAt [] turn := by
  rintro ⟨before, input, rest, hsplit, _⟩
  simp at hsplit

theorem lightsCandleAt_concat_iff {inputs : List Input} {turn : Nat} :
    world.LightsCandleAt (inputs ++ [input]) turn ↔
      world.LightsCandleAt inputs turn ∨
        (world.run inputs).LightsCandle input.line ∧ (world.run inputs).turns + 1 = turn := by
  constructor
  · rintro ⟨before, other, rest, hsplit, hlight, hturn, hcharged⟩
    rcases List.eq_nil_or_concat rest with rfl | ⟨rest, last, rfl⟩
    · obtain ⟨rfl, hlast⟩ := List.append_inj' hsplit rfl
      cases hlast
      exact Or.inr ⟨hlight, hturn⟩
    · have hfront : inputs ++ [input] = (before ++ other :: rest) ++ [last] := by
        simpa using hsplit
      obtain ⟨rfl, _⟩ := List.append_inj' hfront rfl
      exact Or.inl ⟨before, other, rest, rfl, hlight, hturn, hcharged⟩
  · rintro (⟨before, other, rest, rfl, hlight, hturn, hcharged⟩ | ⟨hlight, hturn⟩)
    · exact ⟨before, other, rest ++ [input], by simp, hlight, hturn, hcharged⟩
    · exact ⟨inputs, input, [], rfl, hlight, hturn,
        (turns_next_of_lightsCandle hlight).trans hturn⟩

theorem LightsCandleAt.append {inputs : List Input} {turn : Nat}
    (hlit : world.LightsCandleAt inputs turn) (more : List Input) :
    world.LightsCandleAt (inputs ++ more) turn := by
  obtain ⟨before, input, rest, rfl, hlight, hturn, hcharged⟩ := hlit
  exact ⟨before, input, rest ++ more, by simp, hlight, hturn, hcharged⟩

theorem LightsCandleAt.turn_le {inputs : List Input} {turn : Nat}
    (hlit : world.LightsCandleAt inputs turn) : turn ≤ (world.run inputs).turns := by
  induction inputs using List.reverseRecOn with
  | nil => exact absurd hlit not_lightsCandleAt_nil
  | append_singleton inputs input ih =>
      rw [run_concat]
      rcases lightsCandleAt_concat_iff.mp hlit with hbefore | ⟨hlight, hturn⟩
      · exact (ih hbefore).trans (turns_le_next _ input)
      · rw [turns_next_of_lightsCandle hlight, hturn]

/-! ## Burning -/

/-- One act later the candle burns if it did before or has just been lit, unless this is a turn at
which it goes out. -/
theorem candleIsLit_next_iff {act : Act} (hact : world.act? input = some act)
    (hopen : (world.next input).ending = none) :
    (world.next input).candleIsLit = true ↔
      (world.candleIsLit = true ∨ world.LightsCandle input.line) ∧
        ¬ (0 < (world.next input).turns ∧ (world.next input).turns % 15 = 0) := by
  obtain ⟨hworld, houtcome, _⟩ := outcome_of_open_next hact hopen
  have hburnt : act.isBurnout = true ↔
      0 < (world.next input).turns ∧ (world.next input).turns % 15 = 0 := by
    rw [next_of_act? hact, Act.turns_settle]
    simp [Act.isBurnout, Hazard.candleTurns]
  rw [← hburnt, ← candleIsLit_of_act? hact, next_of_act? hact, Act.candleIsLit_settle]
  simp [Act.isOver, isFinished, hworld, houtcome]

/-- **The candle burns exactly if it was lit since it could last go out.** -/
theorem candleIsLit_iff {start : World} (hdark : start.candleIsLit = false) {inputs : List Input}
    (hopen : (start.run inputs).ending = none) :
    (start.run inputs).candleIsLit = true ↔
      ∃ turn, start.LightsCandleAt inputs turn ∧ turn % 15 ≠ 0 ∧
        turn / 15 = (start.run inputs).turns / 15 := by
  induction inputs using List.reverseRecOn with
  | nil => simp [hdark, not_lightsCandleAt_nil]
  | append_singleton inputs input ih =>
      rw [run_concat] at hopen ⊢
      specialize ih (open_of_open_next hopen)
      -- no lighting so far is later than now, which is all the arithmetic has to know of it
      have hbound : ∀ turn, start.LightsCandleAt inputs turn →
          turn ≤ (start.run inputs).turns := fun turn hlit => hlit.turn_le
      simp only [lightsCandleAt_concat_iff]
      generalize start.run inputs = world at *
      cases hact : world.act? input with
      | none =>
          have hnot : ¬ world.LightsCandle input.line := by
            intro hlight
            simp [act?_of_lightsCandle hlight] at hact
          simp only [next_of_act?_eq_none hact, ih, hnot, false_and, or_false]
      | some act =>
          rw [candleIsLit_next_iff hact hopen]
          by_cases hlight : world.LightsCandle input.line
          · -- lit just now, and still burning unless it goes out at once
            have hturns := turns_next_of_lightsCandle hlight
            constructor
            · rintro ⟨_, hnot⟩
              exact ⟨world.turns + 1, Or.inr ⟨hlight, rfl⟩, by omega, by rw [hturns]⟩
            · rintro ⟨turn, hbefore | ⟨_, rfl⟩, hne, hsince⟩
              · have hle := hbound turn hbefore
                exact ⟨Or.inr hlight, by omega⟩
              · exact ⟨Or.inr hlight, by omega⟩
          · have hturns := world.turns_next_cases input
            simp only [ih, hlight, false_and, or_false]
            constructor
            · rintro ⟨⟨turn, hbefore, hne, hsince⟩, hnot⟩
              exact ⟨turn, hbefore, hne, by omega⟩
            · rintro ⟨turn, hbefore, hne, hsince⟩
              have hle := hbound turn hbefore
              exact ⟨⟨turn, hbefore, hne, by omega⟩, by omega⟩

/-! ## Nightfall -/

/-- Nobody is still playing without a light at the turn at which night falls. -/
theorem candleIsLit_of_nightfall {start : World} (hearly : start.turns < 20)
    {inputs : List Input} (hopen : (start.run inputs).ending = none)
    (hnight : (start.run inputs).turns = 20) : (start.run inputs).candleIsLit = true := by
  induction inputs using List.reverseRecOn with
  | nil => exact absurd hnight (Nat.ne_of_lt hearly)
  | append_singleton inputs input ih =>
      rw [run_concat] at hopen hnight ⊢
      specialize ih (open_of_open_next hopen)
      generalize start.run inputs = world at *
      cases hact : world.act? input with
      | none =>
          rw [next_of_act?_eq_none hact] at hnight ⊢
          exact ih hnight
      | some act =>
          obtain ⟨hworld, houtcome, hdark⟩ := outcome_of_open_next hact hopen
          rw [next_of_act? hact, Act.turns_settle] at hnight
          have hlit : act.world.candleIsLit = true := by
            simpa [Act.isBenighted, hnight, Hazard.darknessTurn] using hdark
          rw [next_of_act? hact, Act.candleIsLit_settle, hlit]
          simp [Act.isOver, isFinished, hworld, houtcome, Act.isBurnout, hnight,
            Hazard.candleTurns]

/-- Whoever is still playing when night falls, or after that, has lit the candle after the turn at
which it last went out. -/
theorem exists_lighting {start : World} (hdark : start.candleIsLit = false)
    (hearly : start.turns < 20) {inputs : List Input} (hopen : (start.run inputs).ending = none)
    (hnight : 20 ≤ (start.run inputs).turns) :
    ∃ turn, 16 ≤ turn ∧ turn ≤ 20 ∧ start.LightsCandleAt inputs turn := by
  induction inputs using List.reverseRecOn with
  | nil => exact absurd hnight (Nat.not_le_of_lt hearly)
  | append_singleton inputs input ih =>
      by_cases hbefore : 20 ≤ (start.run inputs).turns
      · rw [run_concat] at hopen
        obtain ⟨turn, hfirst, hlast, hlit⟩ := ih (open_of_open_next hopen) hbefore
        exact ⟨turn, hfirst, hlast, hlit.append [input]⟩
      · -- night falls with this line, so the candle burns and was lit since the fifteenth turn
        have hturns : (start.run (inputs ++ [input])).turns = 20 := by
          rw [run_concat] at hnight ⊢
          rcases turns_next_cases (start.run inputs) input with h | h <;> omega
        have hburns := candleIsLit_of_nightfall hearly hopen hturns
        obtain ⟨turn, hlit, hne, hsince⟩ := (candleIsLit_iff hdark hopen).mp hburns
        have hle := hlit.turn_le
        exact ⟨turn, by omega, by omega, hlit⟩

end World

end CastleEscape

import CastleEscape.Game.Turn

/-!
# Settling an act

What is left of the world once an act has been charged, ended and followed by the hazards. Settling
moves nobody and nothing: only the turn count, the ending and the candle can come out different,
and each of them is said here in one equation.
-/

namespace CastleEscape

namespace World

/-- All hazards together are one update: nightfall ends the session, and a candle that has burnt
down goes out. -/
theorem endure_eq (world : World) :
    world.endure.1 =
      { world with
        ending := if world.isNightfall then world.ending.or (some .lost) else world.ending
        candleIsLit := world.candleIsLit && !world.isCandleBurnt } := by
  obtain ⟨wording, plan, whereabouts, room, turns, ending, lit, tied⟩ := world
  cases lit with
  | false =>
      -- without a light no candle can burn down
      by_cases hnight : turns = Hazard.darknessTurn <;>
        simp [endure, hazards, isDusk, isNightfall, isCandleBurnt, hnight, struckBy, finish,
          apply_ite (List.foldl struckBy _)]
  | true =>
      -- with a light there is neither dusk nor nightfall
      by_cases hturns : 0 < turns <;> by_cases hburnt : turns % Hazard.candleTurns = 0 <;>
        simp [endure, hazards, isDusk, isNightfall, isCandleBurnt, hturns, hburnt, struckBy,
          apply_ite (List.foldl struckBy _)]

theorem darknessFalls_mem_hazards_iff {world : World} :
    .darknessFalls ∈ world.hazards ↔ world.isNightfall = true := by
  by_cases hnight : world.isNightfall = true <;> simp [hazards, hnight]

theorem candleBlowsOut_mem_hazards_iff {world : World} :
    .candleBlowsOut ∈ world.hazards ↔ world.isCandleBurnt = true := by
  by_cases hnight : world.isNightfall = true
  · -- night only falls on a player without a light
    have hdark : world.isCandleBurnt = false := by
      simp only [isNightfall, Bool.and_eq_true, Bool.not_eq_true'] at hnight
      simp [isCandleBurnt, hnight.2]
    simp [hazards, hnight, hdark]
  · simp [hazards, hnight]

end World

namespace Act

/-- The turn count once the act has been charged. -/
def turnsAfter (act : Act) : Nat :=
  act.world.turns + if act.outcome.takesTurn then 1 else 0

/-- The session has ended before the hazards are looked at. -/
def isOver (act : Act) : Bool :=
  act.world.isFinished || act.outcome.ending.isSome

/-- Night falls on a player without a light. -/
def isBenighted (act : Act) : Bool :=
  act.turnsAfter == Hazard.darknessTurn && !act.world.candleIsLit

/-- The turn count is one at which a candle goes out. -/
def isBurnout (act : Act) : Bool :=
  0 < act.turnsAfter && act.turnsAfter % Hazard.candleTurns == 0

theorem settle_eq (act : Act) :
    act.settle.1 =
      { act.world with
        turns := act.turnsAfter
        ending :=
          (act.world.ending.or act.outcome.ending).or
            (if !act.isOver && act.isBenighted then some .lost else none)
        candleIsLit := act.world.candleIsLit && !(!act.isOver && act.isBurnout) } := by
  obtain ⟨⟨wording, plan, whereabouts, room, turns, ended, lit, tied⟩, speech,
    ⟨takesTurn, ending⟩⟩ := act
  cases ended <;> cases takesTurn <;> cases ending <;> cases lit <;>
    simp [settle, World.advance, World.finish, World.isFinished, isOver, World.endure_eq,
      World.isNightfall, World.isCandleBurnt, isBenighted, isBurnout, turnsAfter]

/-- What an act says has no say in how it is settled. -/
theorem settle_congr {act other : Act} (hworld : act.world = other.world)
    (houtcome : act.outcome = other.outcome) : act.settle.1 = other.settle.1 := by
  obtain ⟨world, speech, outcome⟩ := act
  obtain ⟨_, words, _⟩ := other
  cases hworld
  cases houtcome
  rw [settle_eq, settle_eq]
  rfl

/-! ## Field by field -/

@[simp] theorem wording_settle (act : Act) : act.settle.1.wording = act.world.wording := by
  rw [settle_eq]

@[simp] theorem plan_settle (act : Act) : act.settle.1.plan = act.world.plan := by
  rw [settle_eq]

@[simp] theorem whereabouts_settle (act : Act) :
    act.settle.1.whereabouts = act.world.whereabouts := by
  rw [settle_eq]

@[simp] theorem room_settle (act : Act) : act.settle.1.room = act.world.room := by
  rw [settle_eq]

@[simp] theorem auntieIsTied_settle (act : Act) :
    act.settle.1.auntieIsTied = act.world.auntieIsTied := by
  rw [settle_eq]

@[simp] theorem turns_settle (act : Act) : act.settle.1.turns = act.turnsAfter := by
  rw [settle_eq]

theorem ending_settle (act : Act) :
    act.settle.1.ending =
      (act.world.ending.or act.outcome.ending).or
        (if !act.isOver && act.isBenighted then some .lost else none) := by
  rw [settle_eq]

theorem ending_settle_of_some {act : Act} {ending : Ending} (hopen : act.world.ending = none)
    (houtcome : act.outcome.ending = some ending) : act.settle.1.ending = some ending := by
  simp [ending_settle, hopen, houtcome]

theorem ending_settle_of_none {act : Act} (hopen : act.world.ending = none)
    (houtcome : act.outcome.ending = none) :
    act.settle.1.ending = if act.isBenighted then some .lost else none := by
  simp [ending_settle, hopen, houtcome, isOver, World.isFinished]

theorem candleIsLit_settle (act : Act) :
    act.settle.1.candleIsLit = (act.world.candleIsLit && !(!act.isOver && act.isBurnout)) := by
  rw [settle_eq]

/-- What the act says comes first, and nothing but hazards after it. -/
theorem speech_settle (act : Act) :
    ∃ hazards : List Hazard,
      act.settle.2 = act.speech ++ hazards.map fun hazard => .hazard hazard.message := by
  unfold settle
  dsimp only
  generalize act.outcome.ending.elim _ _ = ended
  split
  · exact ⟨[], (List.append_nil _).symm⟩
  · exact ⟨_, rfl⟩

/-- The hazards that are told of are those that are due once the act has been charged. -/
theorem speech_settle_eq (act : Act) :
    act.settle.2 = act.speech ++
      if act.isOver then []
      else ({ act.world with turns := act.turnsAfter } : World).hazards.map
        fun hazard => .hazard hazard.message := by
  obtain ⟨⟨wording, plan, whereabouts, room, turns, ended, lit, tied⟩, speech,
    ⟨takesTurn, ending⟩⟩ := act
  cases ended <;> cases takesTurn <;> cases ending <;>
    simp [settle, World.advance, World.finish, World.isFinished, isOver, World.endure, turnsAfter]

end Act

end CastleEscape

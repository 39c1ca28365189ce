import CastleEscape.Proofs.Charges
import CastleEscape.Proofs.Wishes
import Mathlib

/-!
# How long a candle burns

A candle goes out at the first multiple of fifteen from the turn on at which it was lit
(`World.FirstBurnout`), however often it has been lit again in the meantime. It is the turn count
alone that puts it out, so lines that take no turn cannot.
-/

namespace CastleEscape

namespace World

/-- The first multiple of fifteen that is no less than this turn. -/
def FirstBurnout (turn out : Nat) : Prop := IsLeast {n | turn ≤ n ∧ 15 ∣ n} out

theorem firstBurnout_iff {turn out : Nat} :
    FirstBurnout turn out ↔ turn ≤ out ∧ out < turn + 15 ∧ out % 15 = 0 := by
  constructor
  · rintro ⟨⟨hle, hdvd⟩, hleast⟩
    refine ⟨hle, ?_, Nat.mod_eq_zero_of_dvd hdvd⟩
    -- fifteen turns earlier there is a multiple as well
    by_contra hlate
    have hearlier : out ≤ out - 15 := hleast ⟨by omega, by omega⟩
    omega
  · rintro ⟨hle, hlt, hmod⟩
    refine ⟨⟨hle, Nat.dvd_of_mod_eq_zero hmod⟩, ?_⟩
    rintro n ⟨hturn, hdvd⟩
    omega

variable {start : World} {inputs : List Input}

/-- What was lit burns until its turn has come. -/
theorem candleIsLit_of_lt (hdark : start.candleIsLit = false)
    (hopen : (start.run inputs).ending = none) {turn out : Nat}
    (hlit : start.LightsCandleAt inputs turn) (hout : FirstBurnout turn out)
    (hlt : (start.run inputs).turns < out) : (start.run inputs).candleIsLit = true := by
  obtain ⟨hle, hsoon, hmod⟩ := firstBurnout_iff.mp hout
  have hpast := hlit.turn_le
  exact (candleIsLit_iff hdark hopen).mpr ⟨turn, hlit, by omega, by omega⟩

/-- Lit again while it burns, a candle goes out when it would have gone out anyway. -/
theorem LightsCandleAt.firstBurnout_again {turn out : Nat} (hlit : start.LightsCandleAt inputs turn)
    (hout : FirstBurnout turn out) (hlt : (start.run inputs).turns < out) :
    FirstBurnout ((start.run inputs).turns + 1) out := by
  have hpast := hlit.turn_le
  rw [firstBurnout_iff] at hout ⊢
  omega

/-- A candle that is lit at a turn at which candles go out does not burn after that line. -/
theorem candleIsLit_next_of_burnout {world : World} {input : Input} (hopen : world.ending = none)
    (hlight : world.LightsCandle input.line) (hmod : (world.turns + 1) % 15 = 0) :
    (world.next input).candleIsLit = false := by
  rw [next_of_act? (act?_of_lightsCandle hlight), Act.candleIsLit_settle]
  simp [spend, Act.isOver, isFinished, hopen, Outcome.oneTurn, Act.isBurnout, Act.turnsAfter,
    Hazard.candleTurns, hmod]

/-- **The history of the candle.** In every session that is still open the candle burns exactly if
some line has lit it, at a turn that is no multiple of fifteen and since the last of these. A candle
that is lit burns until the first multiple of fifteen from then on, and is out at that turn; if it
is lit again before, it still goes out then; if it is lit at just such a turn it is out after the
same line; and a line that takes no turn neither lights it nor puts it out. -/
theorem candle_of_run (wording : Wording) (inputs : List Input)
    (hopen : ((atStart wording).run inputs).ending = none) :
    let start := atStart wording
    let world := start.run inputs
    (world.candleIsLit = true ↔
      ∃ turn, start.LightsCandleAt inputs turn ∧ turn % 15 ≠ 0 ∧ turn ≤ world.turns ∧
        turn / 15 = world.turns / 15) ∧
    (∀ turn out, start.LightsCandleAt inputs turn → FirstBurnout turn out →
      (world.turns < out → world.candleIsLit = true) ∧
      (world.turns = out → world.candleIsLit = false) ∧
      (∀ line, world.turns < out → world.LightsCandle line →
        FirstBurnout (world.turns + 1) out)) ∧
    (∀ input : Input, world.LightsCandle input.line → 15 ∣ world.turns + 1 →
      (world.next input).turns = world.turns + 1 ∧ (world.next input).candleIsLit = false) ∧
    (∀ input, (world.next input).turns = world.turns →
      (world.next input).candleIsLit = world.candleIsLit) := by
  intro start world
  have hdark : start.candleIsLit = false := rfl
  have hrest : world.IsAtRest := isAtRest_run hdark (Nat.zero_lt_succ 19) hopen
  refine ⟨?_, ?_, ?_, ?_⟩
  · rw [candleIsLit_iff hdark hopen]
    constructor
    · rintro ⟨turn, hlit, hne, hsince⟩
      exact ⟨turn, hlit, hne, hlit.turn_le, hsince⟩
    · rintro ⟨turn, hlit, hne, _, hsince⟩
      exact ⟨turn, hlit, hne, hsince⟩
  · intro turn out hlit hout
    refine ⟨candleIsLit_of_lt hdark hopen hlit hout, ?_, fun _ hlt _ =>
      hlit.firstBurnout_again hout hlt⟩
    intro hnow
    rw [← Bool.not_eq_true]
    intro hburns
    exact hrest.burning hburns (hnow ▸ (firstBurnout_iff.mp hout).2.2)
  · intro input hlight hdvd
    exact ⟨turns_next_of_lightsCandle hlight,
      candleIsLit_next_of_burnout hopen hlight (Nat.mod_eq_zero_of_dvd hdvd)⟩
  · intro input hfree
    obtain ⟨ending, _, hafter⟩ := hrest.next_of_free hopen hfree
    rw [hafter]

/-- What to wish for in order to have a light as soon as possible. -/
def untilCandlelight : List Wish :=
  [.use .key, .walk .north, .walk .north, .walk .north, .walk .east, .walk .north, .take .candle,
   .walk .south, .walk .east, .walk .south, .take .matchbox, .use .matchbox]

/-- There is such a session: one in which the candle burns, and was lit in the first fifteen
turns. -/
theorem candle_of_run_untilCandlelight :
    ∃ wording inputs, Wording.shipped = .ok wording ∧
      ((atStart wording).run inputs).ending = none ∧
      ((atStart wording).run inputs).turns = 12 ∧
      ((atStart wording).run inputs).candleIsLit = true ∧
      ∃ turn, (atStart wording).LightsCandleAt inputs turn ∧ turn % 15 ≠ 0 ∧ turn ≤ 12 ∧
        turn / 15 = 12 / 15 := by
  obtain ⟨wording, hshipped⟩ := Wording.exists_shipped
  have hwishes : ((atStart wording).fulfilAll untilCandlelight).map
      (fun world => (world.ending, world.turns, world.candleIsLit)) = some (none, 12, true) := by
    cbv
  obtain ⟨after, hfulfil, hafter⟩ := Option.map_eq_some_iff.mp hwishes
  let inputs := untilCandlelight.map fun wish => Input.mk (wish.line wording) .endOfInput
  have hrun : (atStart wording).run inputs = after :=
    run_of_fulfilAll (Wording.trim_item_of_shipped hshipped) hfulfil (by
      rw [List.map_map]
      rfl)
  simp only [← hrun, Prod.mk.injEq] at hafter
  obtain ⟨hopen, hturns, hburns⟩ := hafter
  have hlit := (candle_of_run wording inputs hopen).1.mp hburns
  rw [hturns] at hlit
  exact ⟨wording, inputs, hshipped, hopen, hturns, hburns, hlit⟩

end World

end CastleEscape

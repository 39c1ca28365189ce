import CastleEscape.Proofs.Settling
import CastleEscape.Session.Scene

/-!
# Runs

What the world is after one line, and after one line after the other. Narration that waits to be
shown has no say in it (`Scene.world_hear`), so a run is a matter of worlds alone.

* `World.act?` is the act that a line comes to, if it comes to any;
* `World.next` and `World.run` are the world after one input and after a list of inputs.
-/

namespace CastleEscape

/-- A line, and what is read after it should the player be asked whether to quit. -/
structure Input where
  line : String
  answer : Event

namespace World

/-- The act that an input comes to. A blank line, a line that is not understood and an answer that
cannot be read come to none. -/
def act? (world : World) (input : Input) : Option Act :=
  match Command.parse? input.line with
  | none => none
  | some .help => some world.showHelp
  | some .inventory => some world.listInventory
  | some .look => some world.look
  | some (.go target) => some (world.go target)
  | some (.take object) => some (world.take object)
  | some (.examine object) => some (world.examine object)
  | some (.use object) => some (world.use object)
  | some (.drop object) => some (world.drop object)
  | some .quit =>
    match input.answer.confirmsQuit with
    | .ok confirmed => some (world.leave confirmed)
    | .error _ => none
  | some .unknown => none

def next (world : World) (input : Input) : World :=
  ((⟨world, []⟩ : Scene).hear input.line input.answer).scene.world

def run (world : World) (inputs : List Input) : World :=
  inputs.foldl next world

end World

/-- One line, whatever waits to be shown: the act that it comes to is settled, and without an act
nothing changes. -/
theorem Scene.world_hear_eq (scene : Scene) (line : String) (answer : Event) :
    (scene.hear line answer).scene.world =
      ((scene.world.act? ⟨line, answer⟩).map fun act => act.settle.1).getD scene.world := by
  unfold Scene.hear World.hear World.act?
  cases hparse : Command.parse? line with
  | none => rfl
  | some command =>
      cases command with
      | quit =>
          cases hanswer : answer.confirmsQuit <;>
            simp [World.respond, Scene.settle, Scene.shown]
      | _ => rfl

theorem Scene.world_hear (scene : Scene) (line : String) (answer : Event) :
    (scene.hear line answer).scene.world = scene.world.next ⟨line, answer⟩ := by
  rw [World.next, Scene.world_hear_eq, Scene.world_hear_eq]

/-- What an act has to say is added to what waits; for quitting, what waited is shown before. -/
theorem Scene.waiting_hear {scene : Scene} {line : String} {answer : Event} {act : Act}
    (hact : scene.world.act? ⟨line, answer⟩ = some act)
    (hstay : Command.parse? line ≠ some .quit) :
    (scene.hear line answer).scene.waiting = scene.waiting ++ act.settle.2 := by
  unfold World.act? at hact
  unfold Scene.hear World.hear
  cases hparse : Command.parse? line with
  | none => simp [hparse] at hact
  | some command =>
      simp only [hparse] at hact
      cases command with
      | quit => exact absurd hparse hstay
      | unknown => cases hact
      | _ => cases hact; rfl

namespace World

theorem next_of_act? {world : World} {input : Input} {act : Act}
    (hact : world.act? input = some act) : world.next input = act.settle.1 := by
  rw [next, Scene.world_hear_eq]
  show ((world.act? input).map _).getD world = _
  rw [hact]
  rfl

theorem next_of_act?_eq_none {world : World} {input : Input}
    (hact : world.act? input = none) : world.next input = world := by
  rw [next, Scene.world_hear_eq]
  show ((world.act? input).map _).getD world = _
  rw [hact]
  rfl

/-! ## Runs of several lines -/

@[simp] theorem run_nil (world : World) : world.run [] = world := rfl

@[simp] theorem run_cons (world : World) (input : Input) (inputs : List Input) :
    world.run (input :: inputs) = (world.next input).run inputs := by
  unfold run
  rw [List.foldl_cons]

theorem run_append (world : World) (inputs more : List Input) :
    world.run (inputs ++ more) = (world.run inputs).run more := by
  unfold run
  rw [List.foldl_append]

theorem run_concat (world : World) (inputs : List Input) (input : Input) :
    world.run (inputs ++ [input]) = (world.run inputs).next input := by
  rw [run_append, run_cons, run_nil]

/-- Whatever one line preserves is preserved by every run. -/
theorem run_induction {motive : World → Prop} {world : World} (hstart : motive world)
    (hnext : ∀ world input, motive world → motive (world.next input)) (inputs : List Input) :
    motive (world.run inputs) := by
  induction inputs generalizing world with
  | nil => exact hstart
  | cons input rest ih =>
      rw [run_cons]
      exact ih (hnext world input hstart)

end World

end CastleEscape

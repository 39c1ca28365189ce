import CastleEscape.Game.Turn
import CastleEscape.Session.Display

/-!
# Scenes

The world with the narration that has not been shown yet, and what one line does to them. When the
player wishes to quit, whatever waits is shown before the question.
-/

namespace CastleEscape

/-- What reading a line can come to. -/
inductive Event where
  | line (text : String)
  | endOfInput
  | interrupt
  | failure (reason : String)
  deriving DecidableEq

/-- A failure to read, by what was to be read. -/
inductive ReadFailure where
  | command (reason : String)
  | confirmation (reason : String)
  deriving DecidableEq

def ReadFailure.message : ReadFailure → String
  | command reason => "reading a command: " ++ reason
  | confirmation reason => "reading quit confirmation: " ++ reason

/-- Whether the answer to the question about quitting is a yes. The end of the input is one, an
interrupt is not. -/
def Event.confirmsQuit : Event → Except ReadFailure Bool
  | line text => .ok (isAffirmative text)
  | endOfInput => .ok true
  | interrupt => .ok false
  | failure reason => .error (.confirmation reason)

structure Scene where
  world : World
  waiting : List Narration

namespace Scene

def atStart (wording : Wording) : Scene := ⟨.atStart wording, []⟩

def say (scene : Scene) (speech : List Narration) : Scene :=
  { scene with waiting := scene.waiting ++ speech }

/-- What is shown when everything that waits is shown. -/
def shows (scene : Scene) : List Display :=
  Display.ofNarration scene.world.wording scene.waiting

def shown (scene : Scene) : Scene := { scene with waiting := [] }

/-- Drops what waits without showing it. -/
def discard (scene : Scene) : Scene := { scene with waiting := [] }

/-- Makes the scene that a session has left the scene of the next one. -/
def restart (scene : Scene) : Scene := { scene with world := scene.world.restart }.discard

/-- Nothing is left of the last session but the wording. -/
theorem restart_eq_atStart (scene : Scene) : scene.restart = .atStart scene.world.wording := by
  rw [restart, discard, World.restart_eq_atStart, atStart]

def prompt (scene : Scene) (message : Message) : Display :=
  .prompt (scene.world.wording.message message)

/-- What is shown when the player is asked whether to quit. -/
def asks (scene : Scene) : List Display :=
  scene.shows ++ [scene.prompt .quitConfirm]

/-- The scene after the act of a player, once it has been settled. -/
def settle (scene : Scene) (act : Act) : Scene :=
  let (world, speech) := act.settle
  ⟨world, scene.waiting ++ speech⟩

/-- What one line comes to. -/
structure Exchange where
  scene : Scene
  shows : List Display
  failure : Option ReadFailure

/-- Hears one line out. The answer is only looked at if the player is asked whether to quit. -/
def hear (scene : Scene) (line : String) (answer : Event) : Exchange :=
  match scene.world.hear line with
  | .settled world speech => ⟨⟨world, scene.waiting ++ speech⟩, [], none⟩
  | .asksToQuit =>
    match answer.confirmsQuit with
    | .ok confirmed => ⟨scene.shown.settle (scene.world.leave confirmed), scene.asks, none⟩
    | .error failure => ⟨scene.shown, scene.asks, some failure⟩

end Scene

end CastleEscape

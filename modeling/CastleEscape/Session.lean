import CastleEscape.Session.Scene

/-!
# Sessions

A session from its first prompt to its ending, as a machine that takes one event after the other.
It waits for a command or for the answer about quitting, and everything that happened is shown
before the next prompt. The end of the input quits.

* `feed` takes one event;
* `run` takes events until the session is closed, and shows which of them are left over.
-/

namespace CastleEscape

inductive Stage where
  | command
  | confirmation
  | ended (ending : Ending)
  | failed (failure : ReadFailure)
  deriving DecidableEq

def Stage.isOpen : Stage → Bool
  | command | confirmation => true
  | ended _ | failed _ => false

structure Session where
  scene : Scene
  stage : Stage

namespace Session

def isOpen (session : Session) : Bool := session.stage.isOpen

/-- A session begins with the prompt, even if the world has an ending already. -/
def start (scene : Scene) : Session × List Display :=
  (⟨scene, .command⟩, [scene.prompt .prompt])

/-- Shows what waits, and then prompts for the next command unless the session has ended. -/
def proceed (scene : Scene) : Session × List Display :=
  match scene.world.ending with
  | some ending => (⟨scene.shown, .ended ending⟩, scene.shows)
  | none => (⟨scene.shown, .command⟩, scene.shows ++ [scene.prompt .prompt])

def feedCommand (scene : Scene) : Event → Session × List Display
  | .line text =>
    match scene.world.hear text with
    | .settled world speech => proceed ⟨world, scene.waiting ++ speech⟩
    | .asksToQuit => (⟨scene.shown, .confirmation⟩, scene.asks)
  | .endOfInput => proceed { scene with world := scene.world.finish .quit }
  | .interrupt => proceed scene
  | .failure reason => (⟨scene, .failed (.command reason)⟩, [])

def feedConfirmation (scene : Scene) (answer : Event) : Session × List Display :=
  match answer.confirmsQuit with
  | .ok confirmed => proceed (scene.settle (scene.world.leave confirmed))
  | .error failure => (⟨scene, .failed failure⟩, [])

/-- A closed session takes no notice. -/
def feed (session : Session) (event : Event) : Session × List Display :=
  match session.stage with
  | .command => feedCommand session.scene event
  | .confirmation => feedConfirmation session.scene event
  | .ended _ | .failed _ => (session, [])

/-- How a session went: its last state, what was shown, and the events that were not taken. -/
structure Report where
  session : Session
  shows : List Display
  remaining : List Event

/-- Takes events as long as the session is open; after the last one the input is at its end. -/
def run (session : Session) : List Event → Report
  | [] =>
    let (last, shows) := session.feed .endOfInput
    ⟨last, shows, []⟩
  | event :: rest =>
    if session.isOpen then
      let (next, shows) := session.feed event
      let report := next.run rest
      { report with shows := shows ++ report.shows }
    else ⟨session, [], event :: rest⟩

/-- A whole session, from the first prompt on. -/
def play (scene : Scene) (events : List Event) : Report :=
  let (first, shows) := start scene
  let report := first.run events
  { report with shows := shows ++ report.shows }

end Session

end CastleEscape

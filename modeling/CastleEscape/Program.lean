import CastleEscape.Session

/-!
# The program

One session after the other, as a machine that takes one event after the other. After every session
the player is asked whether to play again; only a line that begins with an n, in either case and
after any blanks, or the end of the input is a no. The scene that a session leaves is kept until
then, and restarted for the next one.
-/

namespace CastleEscape

inductive Program where
  | playing (session : Session)
  /-- Waiting for the answer whether to play again, with the scene that the last session left. -/
  | offering (scene : Scene)
  | finished
  | failed (message : String)

namespace Program

/-- Restarts the scene, clears the screen and begins a session. -/
def newSession (scene : Scene) : Program × List Display :=
  let restarted := scene.restart
  let (session, shows) := Session.start restarted
  (.playing session, .clearScreen :: .intro restarted.world.wording.intro :: shows)

def start (wording : Wording) : Program × List Display := newSession (.atStart wording)

/-- Tells how long the session took and asks whether to play again. -/
def offer (scene : Scene) : Program × List Display :=
  let ended := scene.say [.gameOver scene.world.turns]
  (.offering ended.shown, ended.shows ++ [ended.prompt .playAgain])

def isRefusal (answer : String) : Bool :=
  (Text.lowerCase (Text.trimStart answer)).toList.head? == some 'n'

def feedSession (session : Session) (event : Event) : Program × List Display :=
  let (next, shows) := session.feed event
  match next.stage with
  | .ended _ =>
    let (program, more) := offer next.scene
    (program, shows ++ more)
  | .failed failure => (.failed failure.message, shows)
  | .command | .confirmation => (.playing next, shows)

def feedOffer (scene : Scene) : Event → Program × List Display
  | .line answer => if isRefusal answer then (.finished, []) else newSession scene
  | .interrupt => newSession scene
  | .endOfInput => (.finished, [])
  | .failure reason => (.failed reason, [])

def feed : Program → Event → Program × List Display
  | playing session, event => feedSession session event
  | offering scene, event => feedOffer scene event
  | finished, _ => (finished, [])
  | failed message, _ => (failed message, [])

def run (program : Program) : List Event → Program × List Display
  | [] => (program, [])
  | event :: rest =>
    let (next, shows) := program.feed event
    let (last, more) := next.run rest
    (last, shows ++ more)

/-- The program on a whole input. The end of the input is met again and again. -/
def play (wording : Wording) (lines : List String) : Program × List Display :=
  let (first, shows) := start wording
  let (last, more) := first.run (lines.map .line ++ [.endOfInput, .endOfInput])
  (last, shows ++ more)

/-- The number with which the program leaves. -/
def exitCode : Program → Nat
  | failed _ => 1
  | _ => 0

end Program

end CastleEscape

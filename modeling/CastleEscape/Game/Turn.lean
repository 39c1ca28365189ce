import CastleEscape.Command
import CastleEscape.Game.Act

/-!
# Turns

What one line does to the world. The act comes first, then its turn, then its ending, and last the
hazards, unless the session is over. Only the wish to quit cannot be settled at once, because the
player is asked about it.
-/

namespace CastleEscape

/-- The world and the narration after an act, its cost and the hazards. -/
def Act.settle (act : Act) : World × List Narration :=
  let charged := if act.outcome.takesTurn then act.world.advance else act.world
  let ended := act.outcome.ending.elim charged charged.finish
  if ended.isFinished then (ended, act.speech)
  else
    let (world, hazards) := ended.endure
    (world, act.speech ++ hazards)

inductive Reaction where
  | settled (world : World) (speech : List Narration)
  /-- The player is to be asked whether to quit, and nothing has changed so far. -/
  | asksToQuit

namespace World

def respond (world : World) : Command → Reaction
  | .help => settle world.showHelp
  | .inventory => settle world.listInventory
  | .look => settle world.look
  | .go target => settle (world.go target)
  | .take object => settle (world.take object)
  | .examine object => settle (world.examine object)
  | .use object => settle (world.use object)
  | .drop object => settle (world.drop object)
  | .quit => .asksToQuit
  | .unknown => .settled world [.message .notUnderstood]
where
  settle (act : Act) : Reaction := .settled act.settle.1 act.settle.2

/-- A blank line does nothing. -/
def hear (world : World) (line : String) : Reaction :=
  match Command.parse? line with
  | none => .settled world []
  | some command => world.respond command

end World

/-- Whether an answer means yes: whether it begins with a y, in either case, after any blanks. -/
def isAffirmative (answer : String) : Bool :=
  match Text.trimStartChars answer.toList with
  | [] => false
  | c :: _ => c == 'y' || c == 'Y'

end CastleEscape

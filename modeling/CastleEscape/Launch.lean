import CastleEscape.DataFiles.Root
import CastleEscape.Program

/-!
# Launching

The program as a whole: what it prints and how it leaves, given the disk, the environment and the
bytes on its input. Without a wording nothing is printed at all.
-/

namespace CastleEscape

structure Surroundings where
  disk : Disk
  /-- The directory that was asked for. -/
  override : Option String
  programDirectory : Option String
  colored : Bool

def Surroundings.wording (surroundings : Surroundings) : Except LoadError Wording :=
  DataFiles.wording surroundings.disk surroundings.override surroundings.programDirectory

/-- Whether the output is coloured, given what the environment asks for: colours by force, no
colours, or colours on a terminal unless they are turned off. A zero turns a wish off. -/
def wantsColor (force noColor wish : Option String) (isTerminal : Bool) : Bool :=
  let isOn (value : String) : Bool := value != "0"
  if force.any isOn then true
  else if noColor.isSome then false
  else (wish.map isOn).getD true && isTerminal

structure Launch where
  exitCode : Nat
  output : String
  deriving DecidableEq

def launch (surroundings : Surroundings) (input : List UInt8) : Launch :=
  match surroundings.wording with
  | .error _ => ⟨1, ""⟩
  | .ok wording =>
    let (program, shows) := Program.play wording (Text.Lines.ofBytes input)
    ⟨program.exitCode, Display.printAll surroundings.colored shows⟩

end CastleEscape

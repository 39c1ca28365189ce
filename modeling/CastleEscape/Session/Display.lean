import CastleEscape.Game.Line
import CastleEscape.Text.Wrap

/-!
# Displays

What appears on the terminal, one thing after the other: lines, which are wrapped, and prompts,
which are not and after which the line is left open for the answer.
-/

namespace CastleEscape

inductive Display where
  | clearScreen
  | intro (text : String)
  | prompt (text : String)
  | line (line : Line)
  deriving DecidableEq

namespace Display

def print (colored : Bool) : Display → String
  | clearScreen => "\x1b[2J\x1b[H"
  | intro text => Tone.description.paint colored text ++ "\n"
  | prompt text => Tone.prompt.paint colored text
  | line l => l.tone.paint colored (Text.Wrap.fill l.text) ++ "\n"

/-- Everything that is printed. -/
def printAll (colored : Bool) (displays : List Display) : String :=
  String.join (displays.map (print colored))

def ofNarration (wording : Wording) (speech : List Narration) : List Display :=
  (Narration.allLines wording speech).map line

/-- The lines among some displays, as they were before wrapping. -/
def transcript (displays : List Display) : List String :=
  displays.filterMap fun
    | line l => some l.text
    | _ => none

/-- The prompts among some displays, as they are printed. -/
def prompts (colored : Bool) (displays : List Display) : List String :=
  displays.filterMap fun
    | prompt text => some ((prompt text).print colored)
    | _ => none

end Display

end CastleEscape

import CastleEscape.Text.Replace

/-!
# Tones

The colours of the output. A coloured text stands between the codes of its tone and the reset code;
a reset inside the text is followed by the codes once more, so that the tone goes on after it.

The codes are those for a terminal that is announced as one with all colours (`COLORTERM` is
`truecolor` or `24bit`). Anywhere else the library that paints has the number of the nearest of the
sixteen basic colours in place of `38;2` and the three numbers after it.
-/

namespace CastleEscape

inductive Tone where
  | room | item | exits | description | denied | error | hazard | ending | prompt | plain
  deriving DecidableEq

namespace Tone

/-- The code numbers of a tone on a terminal with all colours; plain text has none. -/
def codes? : Tone → Option String
  | room => some "38;2;223;77;10"
  | item => some "38;2;220;180;40"
  | exits => some "3;38;2;110;220;110"
  | description => some "3;38;2;102;208;250"
  | denied => some "3;38;2;230;30;30"
  | error => some "38;2;230;30;30"
  | hazard => some "3;38;2;230;230;30"
  | ending => some "1;93"
  | prompt => some "38;2;150;150;150"
  | plain => none

def reset : String := "\x1b[0m"

def opening (codes : String) : String := "\x1b[" ++ codes ++ "m"

def paint (colored : Bool) (tone : Tone) (text : String) : String :=
  match tone.codes? with
  | none => text
  | some codes =>
    if colored then
      opening codes ++ Text.replaceAll text reset (reset ++ opening codes) ++ reset
    else text

@[simp] theorem paint_false (tone : Tone) (text : String) : tone.paint false text = text := by
  cases tone <;> rfl

end Tone

end CastleEscape

import CastleEscape.Game.Narration
import CastleEscape.Text.Lines
import CastleEscape.Text.Replace
import CastleEscape.Tone
import CastleEscape.Wording

/-!
# Lines

Narration put into words: lines of one tone each, not yet wrapped. The texts of the wording hold
marks for what is filled in; a text of several lines becomes as many lines, while the entries of a
listing, the room and the exits are one line whatever stands in them.
-/

namespace CastleEscape

structure Line where
  tone : Tone
  text : String
  deriving DecidableEq

def Message.tone : Message → Tone
  | .notUnderstood => .error
  | .goWhere | .noExit | .needSkye | .needAuntie | .needCat | .needDoll | .takeWhat
  | .alreadyCarrying | .seeNoSuch | .inventoryFull | .dropWhat | .notCarrying | .examineWhat
  | .dontSeeIt | .useWhat | .nothingToLight | .nothingHappens => .denied
  | .won | .drinkWine | .gameOver => .ending
  | .duskWarning | .darknessFalls | .candleBlowsOut | .boilerCrying => .hazard
  | _ => .description

/-- Fills in a mark wherever it stands. -/
def fillIn (text mark value : String) : String :=
  Text.replaceAll text ("\x7b" ++ mark ++ "\x7d") value

/-- Every line of a text, in one tone. -/
def Line.block (tone : Tone) (text : String) : List Line :=
  (Text.Lines.ofText text).map (⟨tone, ·⟩)

/-- A heading with the entries below it, or with what is said when there are none. -/
def Line.listing (heading : String) (entries : List String) (whenEmpty : String) :
    List Line :=
  ⟨.plain, heading⟩ ::
    if entries.isEmpty then [⟨.plain, "  " ++ whenEmpty⟩]
    else entries.map fun entry => ⟨.item, "  " ++ entry⟩

namespace Narration

def lines (wording : Wording) : Narration → List Line
  | room r => [⟨.room, fillIn (wording.message .youAre) "room" (wording.room r)⟩]
  | darkness => [⟨.hazard, wording.message .dark⟩]
  | items is =>
    Line.listing (wording.message .youSee) (is.map wording.item) (wording.message .nothingSpecial)
  | exits directions =>
    [⟨.exits, directions.foldl (fun text direction => text ++ " " ++ direction.name)
      (wording.message .youCanGo)⟩]
  | inventory is =>
    Line.listing (wording.message .carrying) (is.map wording.item)
      (wording.message .carryingNothing)
  | help => Line.block .plain wording.help
  | message m | hazard m | finale m => Line.block m.tone (wording.message m)
  | aboutItem m item => Line.block m.tone (fillIn (wording.message m) "item" (wording.item item))
  | echo m typed => Line.block m.tone (fillIn (wording.message m) "thing" typed)
  | towards m direction => Line.block m.tone (fillIn (wording.message m) "dir" direction.name)
  | closeUp item =>
    Line.block .description
      ((wording.closeUp? item).getD (wording.message .nothingSpecialAboutIt))
  | gameOver turns =>
    [⟨.ending, fillIn (wording.message .gameOver) "turns" (toString turns)⟩]

/-- Some narration, line by line. -/
def allLines (wording : Wording) (speech : List Narration) : List Line :=
  speech.flatMap (lines wording)

end Narration

end CastleEscape

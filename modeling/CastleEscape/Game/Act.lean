import CastleEscape.Game.Gate
import CastleEscape.Game.Hazard
import CastleEscape.Game.Search
import CastleEscape.Text.LowerCase

/-!
# Acts

What each command does: the world after it, what is said about it, whether it takes a turn and
whether it ends the session. The turn and the ending are not part of that world yet.

An act that is refused changes nothing and is free, but for a closer look, which takes a turn even
if there is nothing to see.
-/

namespace CastleEscape

structure Outcome where
  takesTurn : Bool
  ending : Option Ending
  deriving DecidableEq

def Outcome.free : Outcome := ⟨false, none⟩

def Outcome.oneTurn : Outcome := ⟨true, none⟩

structure Act where
  world : World
  speech : List Narration
  outcome : Outcome

namespace World

/-- Nothing happens but that something is said. -/
def tell (world : World) (speech : List Narration) : Act := ⟨world, speech, .free⟩

def refuse (world : World) (message : Message) : Act := world.tell [.message message]

/-- The world has changed within one turn. -/
def spend (world : World) (speech : List Narration) : Act := ⟨world, speech, .oneTurn⟩

/-! ## Looking -/

def showHelp (world : World) : Act := world.tell [.help]

def listInventory (world : World) : Act := world.tell [.inventory world.whereabouts.inventory]

def look (world : World) : Act :=
  world.tell
    [.room world.room,
     if world.isDark then .darkness else .items (world.whereabouts.itemsAt world.room),
     .exits (world.plan.directions world.room)]

/-! ## Moving -/

/-- The direction that the last word names. -/
def heading? (target : String) : Option Direction :=
  (Text.lastWord? target).bind Direction.ofWord?

def go (world : World) (target : Option String) : Act :=
  match target.bind heading? with
  | none => world.refuse .goWhere
  | some direction =>
    match world.plan.exit? world.room direction with
    | none => world.tell [.towards .noExit direction]
    | some destination =>
      if Gate.isCrossedBy world.room direction then
        match world.missingCompanion? with
        | some item => world.refuse (Gate.refusal item)
        | none => ⟨world, [.finale .won], { Outcome.free with ending := some .won }⟩
      else { world with room := destination }.spend [.room destination]

/-! ## Taking and dropping -/

def take (world : World) (object : Option String) : Act :=
  match object with
  | none => world.refuse .takeWhat
  | some typed =>
    match world.findHere typed with
    | .error _ => world.tell [.echo .seeNoSuch typed]
    | .ok item =>
      if world.whereabouts.isCarried item then world.refuse .alreadyCarrying
      else
        match world.whereabouts.pickUp? item with
        | none => world.refuse .inventoryFull
        | some (_, whereabouts) =>
          { world with whereabouts := whereabouts }.spend [.aboutItem .took item]

def drop (world : World) (object : Option String) : Act :=
  match object with
  | none => world.refuse .dropWhat
  | some typed =>
    match world.find typed .carried with
    | .error _ => world.tell [.echo .notCarrying typed]
    | .ok item => (world.moveItem item (.lying world.room)).spend [.aboutItem .dropped item]

/-! ## Examining -/

def isFireplaceHere (world : World) (typed : String) : Bool :=
  Text.sameButAsciiCase typed fireplaceName && world.room == .fireplace

def examine (world : World) (object : Option String) : Act :=
  match object with
  | none => world.refuse .examineWhat
  | some typed =>
    if world.isFireplaceHere typed then
      (HiddenWay.panels.foldl reveal world).spend [.message .fireplacePanels]
    else
      match world.findHere typed with
      | .error _ => world.spend [.message .dontSeeIt]
      | .ok .auntie =>
        world.spend [.message (if world.auntieIsTied then .auntieBound else .auntieStory)]
      | .ok item => world.spend [.closeUp item]

/-! ## Using -/

/-- What an item within reach does when it is used. -/
def useItem (world : World) (item : Item) : Act :=
  let nothing := world.spend [.message .nothingHappens]
  match item with
  | .key =>
    if world.room == .start then (world.reveal .frontDoor).spend [.message .unlockDoor] else nothing
  | .wine => ⟨world, [.finale .drinkWine], { Outcome.oneTurn with ending := some .lost }⟩
  | .knife =>
    if world.auntieIsTied && world.isWithinReach .auntie then
      { world with auntieIsTied := false }.spend [.message .cutRopes, .message .auntieStory]
    else nothing
  | .matchbox =>
    if world.isWithinReach .candle then
      { world with candleIsLit := true }.spend [.message .lightCandle]
    else world.spend [.message .nothingToLight]
  | .steelBar =>
    if world.room == .boiler && world.whereabouts.isAbsent .skye then
      (world.moveItem .skye (.lying world.room)).spend [.message .pryBoiler]
    else nothing
  | _ => nothing

def use (world : World) (object : Option String) : Act :=
  match object with
  | none => world.refuse .useWhat
  | some typed =>
    match world.findHere typed with
    | .error _ => world.refuse .dontSeeIt
    | .ok item => world.useItem item

/-! ## Leaving -/

/-- What becomes of the wish to quit once the player has been asked about it. -/
def leave (world : World) (confirmed : Bool) : Act :=
  ⟨world, [], { Outcome.free with ending := if confirmed then some .quit else none }⟩

end World

end CastleEscape

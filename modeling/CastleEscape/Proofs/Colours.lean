import CastleEscape.Launch
import CastleEscape.Proofs.Answers
import CastleEscape.Proofs.Faults
import CastleEscape.Proofs.Painting
import CastleEscape.Proofs.Reading
import CastleEscape.Proofs.Rounds
import CastleEscape.Proofs.Settling
import CastleEscape.Proofs.Writing

/-!
# Colours change nothing but codes

Colours come in when something is displayed, and nothing that has been displayed comes back. So all
that is to be shown is that bare texts are displayed if the wording and the input are bare: what the
game says is quoted from the wording, but for names of directions, numbers, and what the player
typed, and that has been read from the input.

* `Narration.isBare_lines` is about what is said once it has been put into words;
* `Program.isBare_feed` is about one event, and `Program.isBare_run` about all of them;
* `launch_colours` is about the output of the program.
-/

namespace CastleEscape

open Text.Escape (withoutCodes)

/-! ## Bare texts -/

namespace Text

theorem IsBare.of_subset {text more : String} (hbare : IsBare text)
    (hsubset : ∀ c ∈ more.toList, c ∈ text.toList) : IsBare more :=
  fun hescape => hbare (hsubset _ hescape)

theorem IsWithoutLast.isBare {kind : Char → Bool} {text short : String}
    (hshort : IsWithoutLast kind text short) (hbare : IsBare text) : IsBare short := by
  obtain ⟨back, _, hsplit, _⟩ := hshort
  refine hbare.of_subset fun c hc => ?_
  rw [hsplit]
  exact List.mem_append_left back hc

theorem IsBare.fillIn {text value : String} (hbare : IsBare text) (hvalue : IsBare value)
    (mark : String) : IsBare (fillIn text mark value) := by
  intro hescape
  rcases mem_replaceAll hescape with hnew | htext
  · exact hvalue hnew
  · exact hbare htext

/-- Every line of a bare text is bare. -/
theorem IsBare.lines {text line : String} (hbare : IsBare text) (hline : line ∈ Lines.ofText text) :
    IsBare line := by
  obtain ⟨cs, hcs, rfl⟩ := List.mem_map.mp hline
  refine hbare.of_subset fun c hc => ?_
  rw [String.toList_ofList] at hc
  exact Lines.mem_of_mem_split hcs hc

theorem isBare_toString (n : Nat) : IsBare (toString n) := by
  intro hescape
  have hdigits : (toString n).toList = Nat.toDigits 10 n := String.toList_ofList
  rw [hdigits] at hescape
  have hdigit := Nat.isDigit_of_mem_toDigits (by decide) (by decide) hescape
  revert hdigit
  decide

/-- Every line of bytes without that of the escape character is bare. -/
theorem isBare_of_mem_ofBytes {bytes : List UInt8} (hbytes : 0x1B ∉ bytes) {line : String}
    (hline : line ∈ Lines.ofBytes bytes) : IsBare line := by
  obtain ⟨piece, hpiece, rfl⟩ := List.mem_map.mp hline
  intro hescape
  rw [String.toList_ofList] at hescape
  have hbyte := (Utf8.mem_decodeLossy_iff (show (0x1B : UInt8) < 0x80 by decide)).mp hescape
  exact hbytes (Lines.mem_of_mem_split hpiece hbyte)

end Text

theorem Direction.isBare_name (direction : Direction) : Text.IsBare direction.name := by
  cases direction <;> decide

/-- There is no escape character in any text of the script. -/
structure Script.IsBare (script : Script) : Prop where
  intro : Text.IsBare script.intro
  help : Text.IsBare script.help
  texts : ∀ (subject : Subject) (key text : String),
    (script.lexicon subject).find? key = some text → Text.IsBare text

/-- There is no escape character in what can be written down without escapes. -/
theorem Script.IsPlain.isBare {script : Script} (hplain : script.IsPlain) : script.IsBare := by
  have hbare : ∀ {text : String}, Toml.IsPlain text → Text.IsBare text := by
    intro text htext hescape
    exact absurd (htext _ hescape).1 (by decide)
  refine ⟨hbare hplain.intro, hbare hplain.help, fun subject key text hfind => ?_⟩
  exact hbare (hplain.texts subject key text hfind).2

namespace Wording

variable {wording : Wording}

theorem isBare_help (hbare : wording.script.IsBare) : Text.IsBare wording.help :=
  wording.quotes_script.help.isBare hbare.help

theorem isBare_room (hbare : wording.script.IsBare) (room : Room) :
    Text.IsBare (wording.room room) :=
  hbare.texts .room room.symbol _ (wording.quotes_script.room room)

theorem isBare_item (hbare : wording.script.IsBare) (item : Item) :
    Text.IsBare (wording.item item) :=
  hbare.texts .item item.symbol _ (wording.quotes_script.item item)

theorem isBare_message (hbare : wording.script.IsBare) (message : Message) :
    Text.IsBare (wording.message message) := by
  obtain ⟨text, htext, hshort⟩ := wording.quotes_script.message message
  exact hshort.isBare (hbare.texts .message message.symbol text htext)

theorem isBare_closeUp (hbare : wording.script.IsBare) (item : Item) :
    Text.IsBare ((wording.closeUp? item).getD (wording.message .nothingSpecialAboutIt)) := by
  cases hcloseUp : wording.closeUp? item with
  | none => exact isBare_message hbare _
  | some text => exact hbare.texts .closeUp item.symbol text hcloseUp

end Wording

/-! ## Bare narration -/

namespace Narration

/-- What the player typed is bare, if it is said again. -/
def IsBare : Narration → Prop
  | echo _ typed => Text.IsBare typed
  | _ => True

variable {wording : Wording}

theorem isBare_block {text : String} (hbare : Text.IsBare text) (tone : Tone) :
    ∀ line ∈ Line.block tone text, Text.IsBare line.text := by
  intro line hline
  obtain ⟨piece, hpiece, rfl⟩ := List.mem_map.mp hline
  exact hbare.lines hpiece

theorem isBare_listing {heading whenEmpty : String} {entries : List String}
    (hheading : Text.IsBare heading) (hentries : ∀ entry ∈ entries, Text.IsBare entry)
    (hempty : Text.IsBare whenEmpty) :
    ∀ line ∈ Line.listing heading entries whenEmpty, Text.IsBare line.text := by
  have hindent : ∀ {text : String}, Text.IsBare text → Text.IsBare ("  " ++ text) :=
    fun hbare => Text.IsBare.append (by decide) hbare
  intro line hline
  rw [Line.listing, List.mem_cons] at hline
  rcases hline with rfl | hline
  · exact hheading
  split at hline
  · rw [List.mem_singleton] at hline
    subst hline
    exact hindent hempty
  · obtain ⟨entry, hentry, rfl⟩ := List.mem_map.mp hline
    exact hindent (hentries entry hentry)

theorem isBare_directions (directions : List Direction) {text : String}
    (hbare : Text.IsBare text) :
    Text.IsBare (directions.foldl (fun text direction => text ++ " " ++ direction.name) text) := by
  induction directions generalizing text with
  | nil => exact hbare
  | cons direction directions ih =>
      exact ih ((hbare.append (by decide)).append direction.isBare_name)

/-- **What is said is bare**, if the texts of the wording are and what the player typed is. -/
theorem isBare_lines (hwording : wording.script.IsBare) {narration : Narration}
    (hbare : narration.IsBare) : ∀ line ∈ narration.lines wording, Text.IsBare line.text := by
  have hmessage := wording.isBare_message hwording
  have hitem := wording.isBare_item hwording
  have hone : ∀ {line : Line}, Text.IsBare line.text →
      ∀ other ∈ [line], Text.IsBare other.text := by
    intro line hline other hother
    rwa [List.mem_singleton.mp hother]
  have hitems : ∀ items : List Item, ∀ entry ∈ items.map wording.item, Text.IsBare entry := by
    intro items entry hentry
    obtain ⟨item, _, rfl⟩ := List.mem_map.mp hentry
    exact hitem item
  cases narration with
  | room room => exact hone ((hmessage _).fillIn (wording.isBare_room hwording room) _)
  | darkness => exact hone (hmessage _)
  | items items => exact isBare_listing (hmessage _) (hitems items) (hmessage _)
  | exits directions => exact hone (isBare_directions directions (hmessage _))
  | inventory items => exact isBare_listing (hmessage _) (hitems items) (hmessage _)
  | help => exact isBare_block (wording.isBare_help hwording) _
  | message message => exact isBare_block (hmessage message) _
  | aboutItem message item => exact isBare_block ((hmessage message).fillIn (hitem item) _) _
  | echo message typed => exact isBare_block ((hmessage message).fillIn hbare _) _
  | towards message direction =>
      exact isBare_block ((hmessage message).fillIn direction.isBare_name _) _
  | closeUp item => exact isBare_block (wording.isBare_closeUp hwording item) _
  | hazard message => exact isBare_block (hmessage message) _
  | finale message => exact isBare_block (hmessage message) _
  | gameOver turns => exact hone ((hmessage _).fillIn (Text.isBare_toString turns) _)

end Narration

/-! ## What is said on a bare line -/

/-- There is nothing in the object of a command that is not on the line. -/
theorem Command.mem_of_mem_object {line object : String} {command : Command}
    (hparse : parse? line = some command) (hobject : command.object? = some object) {c : Char}
    (hc : c ∈ object.toList) : c ∈ line.toList := by
  have htrims : ∀ {cs text : List Char}, Text.TrimsTo cs text → c ∈ text → c ∈ cs := by
    rintro _ text ⟨front, back, _, _, rfl, _⟩ hc
    exact List.mem_append_left back (List.mem_append_right front hc)
  obtain ⟨text, htext, hreading⟩ := parse?_eq_some_iff.mp hparse
  refine htrims htext ?_
  cases hreading with
  | direction direction hspelled =>
      cases hobject
      rwa [String.toList_ofList] at hc
  | verb verb first typed hnowhere hfirst hletter htyped =>
      have hsome : typed = some object := Command.eq_of_object?_ofVerb hobject
      obtain ⟨word, rest, rfl, _, hrest, _⟩ := (htyped object).mp hsome
      exact List.mem_append_right word (List.mem_cons_of_mem _ (htrims hrest hc))
  | unknown => cases hobject

/-- Everything that is said is bare. -/
def AllBare (speech : List Narration) : Prop := ∀ narration ∈ speech, narration.IsBare

theorem allBare_singleton {narration : Narration} (hbare : narration.IsBare) :
    AllBare [narration] := by
  intro other hother
  rwa [List.mem_singleton.mp hother]

theorem AllBare.append {speech more : List Narration} (hbare : AllBare speech)
    (hmore : AllBare more) : AllBare (speech ++ more) :=
  List.forall_mem_append.mpr ⟨hbare, hmore⟩

/-- No hazard says anything that was typed. -/
theorem Act.allBare_settle {act : Act} (hbare : AllBare act.speech) : AllBare act.settle.2 := by
  obtain ⟨hazards, hspeech⟩ := act.speech_settle
  rw [hspeech]
  refine hbare.append fun narration hnarration => ?_
  obtain ⟨hazard, _, rfl⟩ := List.mem_map.mp hnarration
  trivial

namespace World

variable {world : World}

/-- **On a bare line nothing is said that is not bare.** -/
theorem allBare_of_settled {after : World} {line : String} {speech : List Narration}
    (hline : Text.IsBare line) (hhear : world.hear line = .settled after speech) :
    AllBare speech := by
  cases hparse : Command.parse? line with
  | none =>
      rw [hear, hparse] at hhear
      cases hhear
      exact List.forall_mem_nil _
  | some command =>
      intro narration hnarration
      cases narration with
      | echo message typed =>
          -- what is said again is the object, which stands on the line
          have hobject := (isAnswer_of_settled hparse hhear).echoes _ hnarration typed rfl
          exact hline.of_subset fun _ hc => command.mem_of_mem_object hparse hobject hc
      | _ => trivial

end World

/-! ## One event -/

/-- What is read is bare, if it is a line. -/
def Event.IsBare : Event → Prop
  | line text => Text.IsBare text
  | _ => True

/-- The wording is bare, and so is everything that waits to be shown. -/
structure Scene.IsBare (scene : Scene) : Prop where
  script : scene.world.wording.script.IsBare
  waiting : AllBare scene.waiting

namespace Display

/-- Everything that is displayed is bare. -/
def AllBare (displays : List Display) : Prop := ∀ display ∈ displays, display.IsBare

theorem AllBare.append {displays more : List Display} (hbare : AllBare displays)
    (hmore : AllBare more) : AllBare (displays ++ more) :=
  List.forall_mem_append.mpr ⟨hbare, hmore⟩

theorem allBare_singleton {display : Display} (hbare : display.IsBare) : AllBare [display] := by
  intro other hother
  rwa [List.mem_singleton.mp hother]

theorem allBare_ofNarration {wording : Wording} (hwording : wording.script.IsBare)
    {speech : List Narration} (hbare : CastleEscape.AllBare speech) :
    AllBare (ofNarration wording speech) := by
  intro display hdisplay
  obtain ⟨line, hline, rfl⟩ := List.mem_map.mp hdisplay
  obtain ⟨narration, hnarration, hline⟩ := List.mem_flatMap.mp hline
  exact Narration.isBare_lines hwording (hbare narration hnarration) line hline

end Display

namespace Scene

variable {scene : Scene}

theorem IsBare.shown (hbare : scene.IsBare) : scene.shown.IsBare :=
  ⟨hbare.script, List.forall_mem_nil _⟩

theorem IsBare.shows (hbare : scene.IsBare) : Display.AllBare scene.shows :=
  Display.allBare_ofNarration hbare.script hbare.waiting

theorem IsBare.prompt (hbare : scene.IsBare) (message : Message) :
    Display.AllBare [scene.prompt message] :=
  Display.allBare_singleton (scene.world.wording.isBare_message hbare.script message)

theorem IsBare.say (hbare : scene.IsBare) {speech : List Narration} (hspeech : AllBare speech) :
    (scene.say speech).IsBare :=
  ⟨hbare.script, hbare.waiting.append hspeech⟩

theorem IsBare.settle (hbare : scene.IsBare) {act : Act}
    (hwording : act.world.wording = scene.world.wording) (hspeech : AllBare act.speech) :
    (scene.settle act).IsBare where
  script := by
    rw [Scene.settle, Act.wording_settle, hwording]
    exact hbare.script
  waiting := hbare.waiting.append (Act.allBare_settle hspeech)

end Scene

namespace Session

variable {scene : Scene} {session : Session} {event : Event}

theorem isBare_proceed (hbare : scene.IsBare) :
    (proceed scene).1.scene.IsBare ∧ Display.AllBare (proceed scene).2 := by
  unfold proceed
  split
  · exact ⟨hbare.shown, hbare.shows⟩
  · exact ⟨hbare.shown, hbare.shows.append (hbare.prompt _)⟩

theorem isBare_feedCommand (hbare : scene.IsBare) (hevent : event.IsBare) :
    (feedCommand scene event).1.scene.IsBare ∧ Display.AllBare (feedCommand scene event).2 := by
  cases event with
  | line text =>
      simp only [feedCommand]
      cases hhear : scene.world.hear text with
      | settled world speech =>
          refine isBare_proceed ⟨?_, hbare.waiting.append (World.allBare_of_settled hevent hhear)⟩
          rw [Scene.wording_of_settled hhear]
          exact hbare.script
      | asksToQuit => exact ⟨hbare.shown, hbare.shows.append (hbare.prompt _)⟩
  | endOfInput => exact isBare_proceed ⟨hbare.script, hbare.waiting⟩
  | interrupt => exact isBare_proceed hbare
  | failure reason => exact ⟨hbare, List.forall_mem_nil _⟩

theorem isBare_feedConfirmation (hbare : scene.IsBare) (answer : Event) :
    (feedConfirmation scene answer).1.scene.IsBare ∧
      Display.AllBare (feedConfirmation scene answer).2 := by
  unfold feedConfirmation
  split
  · exact isBare_proceed (hbare.settle rfl (List.forall_mem_nil _))
  · exact ⟨hbare, List.forall_mem_nil _⟩

/-- Whatever a session waits for, it stays bare and shows nothing that is not. -/
theorem isBare_feed (hbare : session.scene.IsBare) (hevent : event.IsBare) :
    (session.feed event).1.scene.IsBare ∧ Display.AllBare (session.feed event).2 := by
  unfold feed
  split
  · exact isBare_feedCommand hbare hevent
  · exact isBare_feedConfirmation hbare event
  · exact ⟨hbare, List.forall_mem_nil _⟩
  · exact ⟨hbare, List.forall_mem_nil _⟩

end Session

/-! ## The whole program -/

namespace Program

/-- What the program goes on with is bare. -/
def IsBare : Program → Prop
  | playing session => session.scene.IsBare
  | offering scene => scene.world.wording.script.IsBare
  | finished | failed _ => True

variable {program : Program} {wording : Wording} {event : Event}

theorem isBare_newSession {scene : Scene} (hbare : scene.world.wording.script.IsBare) :
    (newSession scene).1.IsBare ∧ Display.AllBare (newSession scene).2 := by
  rw [newSession, Scene.restart_eq_atStart]
  have hscene : (Scene.atStart scene.world.wording).IsBare := ⟨hbare, List.forall_mem_nil _⟩
  refine ⟨hscene, ?_⟩
  exact List.forall_mem_cons.mpr ⟨trivial, List.forall_mem_cons.mpr ⟨hbare.intro, hscene.prompt _⟩⟩

theorem allBare_offer {scene : Scene} (hbare : scene.IsBare) :
    Display.AllBare (offer scene).2 := by
  have hturns : (Narration.gameOver scene.world.turns).IsBare := trivial
  have hended := hbare.say (allBare_singleton hturns)
  exact hended.shows.append (hended.prompt _)

/-- The program stays bare and shows nothing that is not. -/
theorem isBare_feed (hbare : program.IsBare) (hevent : event.IsBare) :
    (program.feed event).1.IsBare ∧ Display.AllBare (program.feed event).2 := by
  cases program with
  | playing session =>
      obtain ⟨hscene, hshows⟩ := Session.isBare_feed hbare hevent
      simp only [feed, feedSession]
      split
      · exact ⟨hscene.script, hshows.append (allBare_offer hscene)⟩
      · exact ⟨trivial, hshows⟩
      · exact ⟨hscene, hshows⟩
      · exact ⟨hscene, hshows⟩
  | offering scene =>
      cases event with
      | line answer =>
          simp only [feed, feedOffer]
          split
          · exact ⟨trivial, List.forall_mem_nil _⟩
          · exact isBare_newSession hbare
      | interrupt => exact isBare_newSession hbare
      | endOfInput => exact ⟨trivial, List.forall_mem_nil _⟩
      | failure reason => exact ⟨trivial, List.forall_mem_nil _⟩
  | finished => exact ⟨trivial, List.forall_mem_nil _⟩
  | failed message => exact ⟨trivial, List.forall_mem_nil _⟩

theorem isBare_run (hbare : program.IsBare) {events : List Event}
    (hevents : ∀ event ∈ events, event.IsBare) : Display.AllBare (program.run events).2 := by
  induction events generalizing program with
  | nil => exact List.forall_mem_nil _
  | cons event events ih =>
      obtain ⟨hevent, hevents⟩ := List.forall_mem_cons.mp hevents
      obtain ⟨hnext, hshows⟩ := isBare_feed hbare hevent
      rw [run_cons]
      exact hshows.append (ih hnext hevents)

theorem isBare_play (hbare : wording.script.IsBare) {lines : List String}
    (hlines : ∀ line ∈ lines, Text.IsBare line) : Display.AllBare (play wording lines).2 := by
  have hscene : (Scene.atStart wording).world.wording.script.IsBare := hbare
  obtain ⟨hfirst, hshows⟩ := isBare_newSession hscene
  refine hshows.append (isBare_run hfirst fun event hevent => ?_)
  rcases List.mem_append.mp hevent with hline | hend
  · obtain ⟨line, hmem, rfl⟩ := List.mem_map.mp hline
    exact hlines line hmem
  · simp only [List.mem_cons, List.not_mem_nil, or_false, or_self] at hend
    subst hend
    trivial

end Program

/-- **Colours change nothing but codes.** With a wording and an input without the escape character,
the coloured output without its codes is the plain output, character by character, and the program
leaves in the same way. The same is true of any narration that can wait to be shown, if no line of it
has the escape character in it. -/
theorem launch_colours :
    (∀ (surroundings : Surroundings) (wording : Wording) (input : List UInt8),
      surroundings.wording = .ok wording → wording.script.IsBare → 0x1B ∉ input →
      withoutCodes (launch { surroundings with colored := true } input).output.toList =
          (launch { surroundings with colored := false } input).output.toList ∧
        (launch { surroundings with colored := true } input).exitCode =
          (launch { surroundings with colored := false } input).exitCode) ∧
    ∀ (wording : Wording) (speech : List Narration),
      (∀ line ∈ Narration.allLines wording speech, Text.IsBare line.text) →
      withoutCodes (Display.printAll true (Display.ofNarration wording speech)).toList =
        (Display.printAll false (Display.ofNarration wording speech)).toList := by
  constructor
  · intro surroundings wording input hloaded hbare hinput
    have hlaunch : ∀ colored, launch { surroundings with colored := colored } input =
        ⟨(Program.play wording (Text.Lines.ofBytes input)).1.exitCode,
          Display.printAll colored (Program.play wording (Text.Lines.ofBytes input)).2⟩ := by
      intro colored
      have hsame : Surroundings.wording { surroundings with colored := colored } = .ok wording :=
        hloaded
      rw [launch, hsame]
    have hshows := Program.isBare_play hbare fun line hline =>
      Text.isBare_of_mem_ofBytes hinput hline
    rw [hlaunch, hlaunch]
    exact ⟨Display.withoutCodes_printAll hshows, rfl⟩
  · intro wording speech hlines
    refine Display.withoutCodes_printAll fun display hdisplay => ?_
    obtain ⟨line, hline, rfl⟩ := List.mem_map.mp hdisplay
    exact hlines line hline

/-- With the script of symbols in the file that is looked for first, and on an input that is no
UTF-8; and for a line that has the rest of a code in it, but no code. -/
theorem launch_colours_ofSymbols :
    ∃ (surroundings : Surroundings) (wording : Wording), wording.script = Script.ofSymbols ∧
      surroundings.wording = .ok wording ∧
      withoutCodes (launch { surroundings with colored := true }
          [0x74, 0x20, 0xFF, 0x0D, 0x0A]).output.toList =
        (launch { surroundings with colored := false }
          [0x74, 0x20, 0xFF, 0x0D, 0x0A]).output.toList ∧
      withoutCodes (Display.printAll true
          (Display.ofNarration wording [.echo .seeNoSuch "[0m", .gameOver 7])).toList =
        (Display.printAll false
          (Display.ofNarration wording [.echo .seeNoSuch "[0m", .gameOver 7])).toList := by
  obtain ⟨wording, hwording, _⟩ := Script.exists_wording_ofSymbols
  have hscript : wording.script = Script.ofSymbols := Wording.ofScript?_ok_iff.mp hwording
  have hplain : wording.script.IsPlain := hscript ▸ Script.isPlain_ofSymbols
  obtain ⟨surroundings, hloaded⟩ : ∃ surroundings : Surroundings,
      surroundings.wording = .ok wording :=
    ⟨⟨Disk.ofScript wording.script, none, none, false⟩, DataFiles.wording_ofScript hplain none⟩
  have hbare : wording.script.IsBare := hplain.isBare
  obtain ⟨houtput, hnarration⟩ := launch_colours
  refine ⟨surroundings, wording, hscript, hloaded, ?_, ?_⟩
  · exact (houtput surroundings wording _ hloaded hbare (by decide)).1
  · refine hnarration wording _ fun line hline => ?_
    obtain ⟨narration, hmem, hline⟩ := List.mem_flatMap.mp hline
    have hspeech : AllBare [.echo .seeNoSuch "[0m", .gameOver 7] :=
      List.forall_mem_cons.mpr ⟨show Text.IsBare "[0m" by decide, allBare_singleton trivial⟩
    exact Narration.isBare_lines hbare (hspeech narration hmem) line hline

end CastleEscape

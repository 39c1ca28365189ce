import CastleEscape.Proofs.Answers
import CastleEscape.Proofs.Printing

/-!
# What is shown of an answer

Every command is answered, but an answer need not be seen: narration of which the text is empty
makes no line (`Narration.lines_eq_nil_iff`). What is filled in is never empty, so that it is only
the text in the script that matters. A script needs a text for every message, but that text may be
empty, or consist of line feeds, which are taken off at the end.

* `Script.IsOutspoken` is what a script has to be like for every answer to be seen;
* `Scene.hear_answers` says of each line how much of the answer to it is seen;
* `Script.rephrase` gives a message any text whatever.
-/

namespace CastleEscape

/-! ## Texts without lines -/

namespace Text

theorem Lines.ofText_eq_nil_iff {text : String} : Lines.ofText text = [] ↔ text = "" := by
  have hbegun : ∀ (cs : List Char) {line : List Char}, line ≠ [] →
      Lines.splitFrom '\n' '\r' line cs ≠ [] := by
    intro cs
    induction cs with
    | nil =>
        intro line hline
        simp [Lines.splitFrom, hline]
    | cons c cs ih =>
        intro line hline
        rw [Lines.splitFrom]
        split
        · exact List.cons_ne_nil _ _
        · exact ih (List.cons_ne_nil c line)
  rw [Lines.ofText, List.map_eq_nil_iff, Lines.ofChars, Lines.split, ← String.toList_eq_nil_iff]
  cases text.toList with
  | nil => simp [Lines.splitFrom]
  | cons c cs =>
      refine iff_of_false ?_ (List.cons_ne_nil c cs)
      rw [Lines.splitFrom]
      split
      · exact List.cons_ne_nil _ _
      · exact hbegun cs (List.cons_ne_nil c [])

/-- Something that is not empty in the place of something else that is not leaves no text empty. -/
theorem replaceAll_eq_empty_iff {text old new : String} (hold : old ≠ "") (hnew : new ≠ "") :
    replaceAll text old new = "" ↔ text = "" := by
  have hsome := mt String.toList_eq_nil_iff.mp hnew
  obtain ⟨first, rest, hfirst⟩ := List.exists_cons_of_ne_nil (mt String.toList_eq_nil_iff.mp hold)
  have hreplace : ∀ cs, replaceChars old.toList new.toList cs =
      replaceFrom old.toList new.toList 0 cs := by
    intro cs
    rw [hfirst]
    rfl
  rw [replaceAll, hreplace, ← String.toList_eq_nil_iff, String.toList_ofList,
    ← String.toList_eq_nil_iff]
  cases text.toList with
  | nil => simp [replaceFrom]
  | cons c cs =>
      refine iff_of_false ?_ (List.cons_ne_nil c cs)
      simp only [replaceFrom]
      split
      · exact List.append_ne_nil_of_left_ne_nil hsome _
      · exact List.cons_ne_nil _ _

end Text

theorem fillIn_eq_empty_iff {text mark value : String} (hvalue : value ≠ "") :
    fillIn text mark value = "" ↔ text = "" := by
  refine Text.replaceAll_eq_empty_iff ?_ hvalue
  simp [← String.toList_eq_nil_iff]

theorem Line.block_eq_nil_iff {tone : Tone} {text : String} : block tone text = [] ↔ text = "" := by
  rw [block, List.map_eq_nil_iff, Text.Lines.ofText_eq_nil_iff]

theorem Direction.name_ne_empty (direction : Direction) : direction.name ≠ "" := by
  cases direction <;> decide

theorem Wording.help_ne_empty (wording : Wording) : wording.help ≠ "" := by
  intro hempty
  obtain ⟨back, hback, hsplit, _⟩ := wording.quotes_script.help
  have hplayable := Script.faults_eq_nil_iff_isPlayable.mp wording.faultless
  rw [hempty, String.toList_empty, List.nil_append] at hsplit
  have hblank : Text.isBlankText wording.script.help = true :=
    List.all_eq_true.mpr (hsplit ▸ hback)
  rw [hplayable.help] at hblank
  cases hblank

/-! ## Narration that is not seen -/

/-- The text of which this narration would be made is empty. -/
def Narration.IsSilent (wording : Wording) : Narration → Prop
  | message m | hazard m | finale m | aboutItem m _ | echo m _ | towards m _ =>
    wording.message m = ""
  | closeUp item => (wording.closeUp? item).getD (wording.message .nothingSpecialAboutIt) = ""
  | room _ | darkness | items _ | exits _ | inventory _ | help | gameOver _ => False

/-- Narration makes no line only if its own text is empty. -/
theorem Narration.lines_eq_nil_iff {wording : Wording} {narration : Narration}
    (htyped : ∀ typed, narration.echoed? = some typed → typed ≠ "") :
    narration.lines wording = [] ↔ narration.IsSilent wording := by
  cases narration with
  | room | darkness | exits | gameOver => exact iff_of_false (List.cons_ne_nil _ _) id
  | items | inventory => exact iff_of_false (List.cons_ne_nil _ _) id
  | help => exact iff_of_false (mt Line.block_eq_nil_iff.mp wording.help_ne_empty) id
  | message | hazard | finale | closeUp => exact Line.block_eq_nil_iff
  | aboutItem message item =>
      exact Line.block_eq_nil_iff.trans (fillIn_eq_empty_iff (wording.item_ne_empty item))
  | echo message typed =>
      exact Line.block_eq_nil_iff.trans (fillIn_eq_empty_iff (htyped typed rfl))
  | towards message direction =>
      exact Line.block_eq_nil_iff.trans (fillIn_eq_empty_iff direction.name_ne_empty)

/-- There is something in every message but line feeds, and something in every close-up. -/
structure Script.IsOutspoken (script : Script) : Prop where
  messages : ∀ (message : Message) (text : String),
    script.messages.find? message.symbol = some text → ∃ c ∈ text.toList, c ≠ '\n'
  closeUps : ∀ (item : Item) (text : String),
    script.closeUps.find? item.symbol = some text → text ≠ ""

theorem Wording.message_ne_empty {wording : Wording} (houtspoken : wording.script.IsOutspoken)
    (message : Message) : wording.message message ≠ "" := by
  intro hempty
  obtain ⟨text, htext, back, hback, hsplit, _⟩ := wording.quotes_script.message message
  rw [hempty, String.toList_empty, List.nil_append] at hsplit
  obtain ⟨c, hc, hother⟩ := houtspoken.messages message text htext
  exact hother (by simpa using hback c (hsplit ▸ hc))

theorem Narration.not_isSilent {wording : Wording} (houtspoken : wording.script.IsOutspoken)
    (narration : Narration) : ¬narration.IsSilent wording := by
  have hmessage := Wording.message_ne_empty houtspoken
  cases narration with
  | message m | hazard m | finale m | aboutItem m | echo m | towards m => exact hmessage m
  | room | darkness | items | exits | inventory | help | gameOver => exact id
  | closeUp item =>
      show (wording.closeUp? item).getD (wording.message .nothingSpecialAboutIt) ≠ ""
      cases hcloseUp : wording.closeUp? item with
      | none => exact hmessage .nothingSpecialAboutIt
      | some text => exact houtspoken.closeUps item text hcloseUp

/-! ## What is seen of an answer -/

/-- **How lines are answered.** Whatever is typed, unless it is blank or the wish to quit: something
is said, and it is recorded after all that was waiting. Nothing of it is seen exactly if all that is
said has empty texts; so something is seen with every script in which no message and no close-up is
empty. -/
theorem Scene.hear_answers (scene : Scene) {line : String} (answer : Event)
    (hsome : Text.isBlankText line = false) (hstay : Command.parse? line ≠ some .quit) :
    ∃ (speech : List Narration) (seen : List String),
      speech ≠ [] ∧ (scene.hear line answer).scene.waiting = scene.waiting ++ speech ∧
      Display.transcript ((scene.hear line answer).shows ++ (scene.hear line answer).scene.shows) =
        scene.rendered ++ seen ∧
      (seen = [] ↔ ∀ narration ∈ speech, narration.IsSilent scene.world.wording) ∧
      (scene.world.wording.script.IsOutspoken → seen ≠ []) := by
  obtain ⟨command, hparse⟩ : ∃ command, Command.parse? line = some command := by
    rw [← Option.ne_none_iff_exists', Ne, Command.parse?_eq_none_iff, hsome]
    exact Bool.false_ne_true
  obtain ⟨after, speech, hhear⟩ : ∃ after speech, scene.world.hear line = .settled after speech :=
    World.exists_settled hparse fun hquit => hstay (hquit ▸ hparse)
  have hanswer := World.isAnswer_of_settled hparse hhear
  have hwording := Scene.wording_of_settled hhear
  have hsilent : (Narration.allLines scene.world.wording speech).map (·.text) = [] ↔
      ∀ narration ∈ speech, narration.IsSilent scene.world.wording := by
    rw [List.map_eq_nil_iff, Narration.allLines, List.flatMap_eq_nil_iff]
    refine forall₂_congr fun narration hnarration => Narration.lines_eq_nil_iff ?_
    intro typed htyped
    exact (Command.isTrimmed_object_of_parse? hparse
      (hanswer.echoes narration hnarration typed htyped)).1
  refine ⟨speech, (Narration.allLines scene.world.wording speech).map (·.text), hanswer.ne_nil, ?_,
    ?_, hsilent, fun houtspoken hnone => ?_⟩
  · simp only [hear, hhear]
  · simp only [hear, hhear, List.nil_append, shows, hwording]
    rw [Display.ofNarration, Display.transcript_map_line, Narration.allLines, List.flatMap_append,
      List.map_append]
    rfl
  · obtain ⟨narration, hnarration⟩ := List.exists_mem_of_ne_nil _ hanswer.ne_nil
    exact narration.not_isSilent houtspoken (hsilent.mp hnone narration hnarration)

/-- With symbols for texts, a way without a direction is answered by the symbol of that message. -/
theorem Scene.hear_answers_go :
    ∃ wording, Wording.ofScript? Script.ofSymbols = .ok wording ∧ wording.script.IsOutspoken ∧
      Text.isBlankText "go" = false ∧ Command.parse? "go" ≠ some .quit ∧
      Display.transcript (((Scene.atStart wording).hear "go" .endOfInput).shows ++
        ((Scene.atStart wording).hear "go" .endOfInput).scene.shows) ≠ [] := by
  let wording : Wording := ⟨_, Script.faults_eq_nil_iff_isPlayable.mpr Script.isPlayable_ofSymbols⟩
  have houtspoken : wording.script.IsOutspoken := by
    refine ⟨fun message text htext => ?_, fun item text htext => ?_⟩
    · obtain ⟨_, rfl⟩ := (Script.find?_ofSymbols_eq_some_iff .message rfl).mp htext
      have hother : message.symbol.toList.any (· ≠ '\n') = true := by
        cases message <;> decide +kernel
      simpa using hother
    · cases htext
  have hsome : Text.isBlankText "go" = false := by decide
  have hstay : Command.parse? "go" ≠ some .quit := by decide +kernel
  obtain ⟨_, seen, _, _, hseen, _, hshown⟩ :=
    Scene.hear_answers (Scene.atStart wording) .endOfInput hsome hstay
  refine ⟨wording, Wording.ofScript?_ok_iff.mpr rfl, houtspoken, hsome, hstay, ?_⟩
  rw [hseen]
  exact List.append_ne_nil_of_right_ne_nil _ (hshown houtspoken)

/-! ## A message without a text -/

namespace Script

variable {script : Script}

/-- The script with another text for a message. -/
def rephrase (script : Script) (message : Message) (text : String) : Script :=
  { script with messages := script.messages.insert message.symbol text }

/-- A message may be given any text. -/
theorem IsPlayable.rephrase (hplayable : script.IsPlayable) (message : Message) (text : String) :
    (script.rephrase message text).IsPlayable where
  help := hplayable.help
  required := by
    intro subject hrequired key
    cases subject with
    | closeUp => cases hrequired
    | room => exact hplayable.required .room rfl key
    | item => exact hplayable.required .item rfl key
    | message =>
        have hsymbol := (hplayable.required .message rfl message.symbol).mpr
          (List.mem_map_of_mem (Message.mem_all message))
        exact (Lexicon.mem_keys_insert_iff hsymbol).trans (hplayable.required .message rfl key)
  closeUps := hplayable.closeUps
  names := hplayable.names
  distinct := hplayable.distinct

end Script

/-- An empty text makes a wording all the same, and a way without a direction is not answered. -/
theorem Scene.hear_answers_nothing :
    ∃ wording, Wording.ofScript? (Script.ofSymbols.rephrase .goWhere "") = .ok wording ∧
      Text.isBlankText "go" = false ∧ Command.parse? "go" ≠ some .quit ∧
      Display.transcript (((Scene.atStart wording).hear "go" .endOfInput).shows ++
        ((Scene.atStart wording).hear "go" .endOfInput).scene.shows) = [] := by
  have hplayable := Script.isPlayable_ofSymbols.rephrase .goWhere ""
  let wording : Wording := ⟨_, Script.faults_eq_nil_iff_isPlayable.mpr hplayable⟩
  have hempty : wording.message .goWhere = "" := by
    have hfind : wording.script.messages.find? Message.goWhere.symbol = some "" :=
      (Lexicon.find?_insert _ _ _ _).trans (if_pos rfl)
    rw [Wording.message, hfind]
    decide
  have hparse : Command.parse? "go" = some (.go none) := by decide +kernel
  have hhear : (Scene.atStart wording).hear "go" .endOfInput =
      ⟨⟨World.atStart wording, [.message .goWhere]⟩, [], none⟩ := by
    have hworld : (Scene.atStart wording).world = World.atStart wording := rfl
    rw [hear, hworld, World.hear, hparse]
    rfl
  refine ⟨wording, Wording.ofScript?_ok_iff.mpr rfl, by decide, by rw [hparse]; decide, ?_⟩
  rw [hhear]
  show (Display.ofNarration wording [.message .goWhere]).filterMap _ = []
  have hlines : Narration.lines wording (.message .goWhere) = [] :=
    Line.block_eq_nil_iff.mpr hempty
  rw [Display.ofNarration, Narration.allLines, List.flatMap_singleton, hlines]
  rfl

end CastleEscape

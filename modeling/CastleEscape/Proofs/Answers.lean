import CastleEscape.Proofs.Grammar
import CastleEscape.Proofs.Settling

/-!
# Answers

Whatever the player types gets an answer, unless it is blank or the wish to quit, about which there
is a question. No answer says anything again that was typed, but for the object of the command. Both
are shown of one act after the other (`IsAnswer`), and the hazards that come after an act take
nothing of it away.
-/

namespace CastleEscape

/-- What the player typed, if it is said again. -/
def Narration.echoed? : Narration → Option String
  | echo _ typed => some typed
  | _ => none

/-- Something is said, and if anything that was typed is said again, it is this object. -/
structure IsAnswer (object : Option String) (speech : List Narration) : Prop where
  ne_nil : speech ≠ []
  echoes : ∀ narration ∈ speech, ∀ typed, narration.echoed? = some typed → object = some typed

variable {object : Option String}

/-- Something of the game's own is said. -/
theorem isAnswer_own {narration : Narration} (hown : narration.echoed? = none) :
    IsAnswer object [narration] where
  ne_nil := List.cons_ne_nil _ _
  echoes := by
    intro other hother typed htyped
    rw [List.mem_singleton.mp hother, hown] at htyped
    cases htyped

theorem isAnswer_echo (message : Message) (typed : String) :
    IsAnswer (some typed) [.echo message typed] where
  ne_nil := List.cons_ne_nil _ _
  echoes := by
    intro other hother again hagain
    rw [List.mem_singleton.mp hother] at hagain
    exact hagain

theorem IsAnswer.append {speech more : List Narration} (hanswer : IsAnswer object speech)
    (hown : ∀ narration ∈ more, narration.echoed? = none) : IsAnswer object (speech ++ more) where
  ne_nil := List.append_ne_nil_of_left_ne_nil hanswer.ne_nil more
  echoes := by
    refine List.forall_mem_append.mpr ⟨hanswer.echoes, fun narration hmore typed htyped => ?_⟩
    rw [hown narration hmore] at htyped
    cases htyped

/-- No hazard says anything that was typed. -/
theorem Act.isAnswer_settle {act : Act} (hanswer : IsAnswer object act.speech) :
    IsAnswer object act.settle.2 := by
  obtain ⟨hazards, hspeech⟩ := act.speech_settle
  rw [hspeech]
  refine hanswer.append fun narration hnarration => ?_
  obtain ⟨hazard, _, rfl⟩ := List.mem_map.mp hnarration
  rfl

namespace World

variable (world : World)

theorem isAnswer_look : IsAnswer object world.look.speech := by
  refine IsAnswer.append (isAnswer_own rfl) (List.forall_mem_cons.mpr ⟨?_, ?_⟩)
  · split <;> rfl
  · exact List.forall_mem_singleton.mpr rfl

theorem isAnswer_go (target : Option String) : IsAnswer object (world.go target).speech := by
  unfold go
  split
  · exact isAnswer_own rfl
  split
  · exact isAnswer_own rfl
  split
  · split <;> exact isAnswer_own rfl
  · exact isAnswer_own rfl

theorem isAnswer_take (object : Option String) : IsAnswer object (world.take object).speech := by
  unfold take
  cases object with
  | none => exact isAnswer_own rfl
  | some typed =>
      dsimp only
      split
      · exact isAnswer_echo .seeNoSuch typed
      split
      · exact isAnswer_own rfl
      · split <;> exact isAnswer_own rfl

theorem isAnswer_drop (object : Option String) : IsAnswer object (world.drop object).speech := by
  unfold drop
  cases object with
  | none => exact isAnswer_own rfl
  | some typed =>
      dsimp only
      split
      · exact isAnswer_echo .notCarrying typed
      · exact isAnswer_own rfl

theorem isAnswer_examine (typed : Option String) :
    IsAnswer object (world.examine typed).speech := by
  unfold examine
  split
  · exact isAnswer_own rfl
  split
  · exact isAnswer_own rfl
  · split <;> exact isAnswer_own rfl

theorem isAnswer_useItem (item : Item) : IsAnswer object (world.useItem item).speech := by
  unfold useItem
  dsimp only
  split
  case h_1 | h_4 | h_5 => split <;> exact isAnswer_own rfl
  case h_3 =>
    split
    · exact IsAnswer.append (isAnswer_own rfl) (List.forall_mem_singleton.mpr rfl)
    · exact isAnswer_own rfl
  case h_2 | h_6 => exact isAnswer_own rfl

theorem isAnswer_use (typed : Option String) : IsAnswer object (world.use typed).speech := by
  unfold use
  split
  · exact isAnswer_own rfl
  split
  · exact isAnswer_own rfl
  · exact world.isAnswer_useItem _

variable {world}

/-- **Whatever is settled at once is an answer** to the command on the line. -/
theorem isAnswer_of_settled {after : World} {line : String} {command : Command}
    {speech : List Narration} (hparse : Command.parse? line = some command)
    (hhear : world.hear line = .settled after speech) : IsAnswer command.object? speech := by
  rw [hear, hparse] at hhear
  cases command with
  | help => cases hhear; exact Act.isAnswer_settle (isAnswer_own rfl)
  | inventory => cases hhear; exact Act.isAnswer_settle (isAnswer_own rfl)
  | look => cases hhear; exact Act.isAnswer_settle world.isAnswer_look
  | go target => cases hhear; exact Act.isAnswer_settle (world.isAnswer_go target)
  | take object => cases hhear; exact Act.isAnswer_settle (world.isAnswer_take object)
  | examine object => cases hhear; exact Act.isAnswer_settle (world.isAnswer_examine object)
  | use object => cases hhear; exact Act.isAnswer_settle (world.isAnswer_use object)
  | drop object => cases hhear; exact Act.isAnswer_settle (world.isAnswer_drop object)
  | quit => cases hhear
  | unknown => cases hhear; exact isAnswer_own rfl

/-- Every command but the wish to quit is settled at once. -/
theorem exists_settled {line : String} {command : Command}
    (hparse : Command.parse? line = some command) (hstay : command ≠ .quit) :
    ∃ after speech, world.hear line = .settled after speech := by
  rw [hear, hparse]
  cases command with
  | quit => exact absurd rfl hstay
  | _ => exact ⟨_, _, rfl⟩

end World

end CastleEscape

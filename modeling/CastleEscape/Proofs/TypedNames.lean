import CastleEscape.Proofs.Effects
import CastleEscape.Proofs.Faults

/-!
# Typing the names of items

A player calls an item by the name that is shown. There may be blanks around that name, which make
it neither blank nor the name of another item; but blanks around what is typed are taken away, so
that no line names the item. Items with such a name stay where they are for ever.

* `Wording.CanType` is what can be done with a name that is typed as it is shown, if there are no
  blanks around it;
* `Script.rename` gives an item any name that is not blank and not another's;
* `World.leavesAlone_run` says what becomes of an item that no line names.
-/

namespace CastleEscape

/-! ## Blanks and small letters -/

namespace Text

namespace LowerCase

/-- The first character of a text becomes some characters, which are blank if it is. -/
theorem exists_ofChars_cons (before : List Char) (c : Char) (rest : List Char) :
    ∃ small, small ≠ [] ∧ (∀ s ∈ small, isBlank s = isBlank c) ∧
      ofChars before (c :: rest) = small ++ ofChars (c :: before) rest := by
  refine ⟨_, ?_, ?_, rfl⟩
  · split
    · exact List.cons_ne_nil _ _
    · exact ofChar_ne_nil c
  · intro s hs
    split at hs
    case isTrue hsigma =>
      rw [List.mem_singleton.mp hs, hsigma]
      split <;> rfl
    case isFalse => exact isBlank_of_mem_ofChar hs

theorem map_isBlank_head?_ofChars (before cs : List Char) :
    (ofChars before cs).head?.map isBlank = cs.head?.map isBlank := by
  cases cs with
  | nil => rfl
  | cons c rest =>
      obtain ⟨small, hsome, hsmall, hchars⟩ := exists_ofChars_cons before c rest
      obtain ⟨first, more, rfl⟩ := List.exists_cons_of_ne_nil hsome
      rw [hchars, List.cons_append, List.head?_cons, Option.map_some,
        hsmall first List.mem_cons_self]
      rfl

theorem map_isBlank_getLast?_ofChars (before cs : List Char) :
    (ofChars before cs).getLast?.map isBlank = cs.getLast?.map isBlank := by
  induction cs generalizing before with
  | nil => rfl
  | cons c rest ih =>
      obtain ⟨small, hsome, hsmall, hchars⟩ := exists_ofChars_cons before c rest
      obtain ⟨last, hlast⟩ := Option.isSome_iff_exists.mp (List.getLast?_isSome.mpr hsome)
      have hsame := hsmall last (List.mem_of_getLast? hlast)
      -- the end is that of the rest, and that of this character if there is no rest
      rw [hchars, List.getLast?_append, Option.map_or, ih, hlast, List.getLast?_cons]
      cases rest.getLast? <;> simp [hsame]

/-- A text in small letters has blanks at its ends if the text itself has. -/
theorem isTrimmed_ofChars_iff {before cs : List Char} :
    IsTrimmed (ofChars before cs) ↔ IsTrimmed cs := by
  have hends : ∀ text : List Char, IsTrimmed text ↔
      text.head?.map isBlank ≠ some true ∧ text.getLast?.map isBlank ≠ some true := by
    intro text
    simp [IsTrimmed]
  rw [hends, hends, map_isBlank_head?_ofChars, map_isBlank_getLast?_ofChars]

end LowerCase

theorem trim_eq_self_iff {s : String} : trim s = s ↔ IsTrimmed s.toList := by
  rw [trim, ← String.toList_inj, String.toList_ofList]
  constructor
  · intro htrim
    rw [← htrim]
    exact isTrimmed_trimChars _
  · exact trimChars_of_isTrimmed

end Text

/-! ## Names as they are shown -/

/-- The verbs that are used with an item. -/
def Verb.forItems : List Verb := [take, drop, examine, use]

/-- The name of the item, as it is shown, can be typed: after any verb for items it stands for the
item, and the line that takes the item takes it from where it lies, if a slot is free. -/
structure Wording.CanType (wording : Wording) (item : Item) : Prop where
  named : ∀ verb ∈ Verb.forItems, ∃ typed,
    Command.parse? (verb.name ++ " " ++ wording.item item) =
      some (.ofVerb verb (some typed)) ∧ wording.itemNamed? typed = some item
  taken : ∀ (world : World) (slot : Nat), world.wording = wording →
    world.whereabouts.placeOf item = .lying world.room →
    world.whereabouts.freeSlot? = some slot →
    ∃ after speech,
      world.hear (Verb.take.name ++ " " ++ wording.item item) = .settled after speech ∧
        after.whereabouts.placeOf item = .carried slot ∧ .aboutItem .took item ∈ speech

namespace Wording

variable {wording : Wording} {item : Item}

/-- What has no blanks around it is never the name of an item that has. -/
theorem trim_item_of_named {typed : String} (htyped : Text.IsTrimmed typed.toList)
    (hnamed : wording.itemNamed? typed = some item) :
    Text.trim (wording.item item) = wording.item item := by
  have hsmall : Text.LowerCase.ofChars [] (wording.item item).toList =
      Text.LowerCase.ofChars [] typed.toList := by
    simpa [Text.lowerCase, ← String.toList_inj] using itemNamed?_eq_some_iff.mp hnamed
  rw [Text.trim_eq_self_iff, ← Text.LowerCase.isTrimmed_ofChars_iff, hsmall]
  exact Text.LowerCase.isTrimmed_ofChars_iff.mpr htyped

/-- An object on a line that stands for an item is written without the blanks around it. -/
theorem trim_item_of_parse? {line typed : String} {command : Command}
    (hparse : Command.parse? line = some command) (hobject : command.object? = some typed)
    (hnamed : wording.itemNamed? typed = some item) :
    Text.trim (wording.item item) = wording.item item :=
  trim_item_of_named (Command.isTrimmed_object_of_parse? hparse hobject).2 hnamed

theorem taken_of_trim (htrim : Text.trim (wording.item item) = wording.item item) {world : World}
    {slot : Nat} (hwording : world.wording = wording)
    (hplace : world.whereabouts.placeOf item = .lying world.room)
    (hslot : world.whereabouts.freeSlot? = some slot) :
    ∃ after speech,
      world.hear (Verb.take.name ++ " " ++ wording.item item) = .settled after speech ∧
        after.whereabouts.placeOf item = .carried slot ∧ .aboutItem .took item ∈ speech := by
  subst hwording
  have hparse := Command.parse?_verb .take htrim (world.wording.item_ne_empty item)
  have htake := World.take_of_lying (world.wording.itemNamed?_item item) hplace hslot
  have hact : world.hear (Verb.take.name ++ " " ++ world.wording.item item) =
      World.respond.settle
        ((world.moveItem item (.carried slot)).spend [.aboutItem .took item]) := by
    rw [World.hear, hparse, ← htake]
    rfl
  refine ⟨_, _, hact, ?_, ?_⟩
  · rw [Act.whereabouts_settle]
    simp [World.spend, World.moveItem]
  · obtain ⟨hazards, hspeech⟩ :=
      ((world.moveItem item (.carried slot)).spend [.aboutItem .took item]).speech_settle
    rw [hspeech]
    exact List.mem_append_left _ (List.mem_singleton_self _)

/-- **Names can be typed if there are no blanks around them**, and only then. -/
theorem canType_iff (wording : Wording) (item : Item) :
    wording.CanType item ↔ Text.trim (wording.item item) = wording.item item := by
  constructor
  · intro htype
    obtain ⟨typed, hparse, hnamed⟩ := htype.named .take List.mem_cons_self
    exact trim_item_of_parse? hparse rfl hnamed
  · intro htrim
    refine ⟨fun verb _ => ?_, fun world slot => taken_of_trim htrim⟩
    exact ⟨wording.item item, Command.parse?_verb verb htrim (wording.item_ne_empty item),
      wording.itemNamed?_item item⟩

end Wording

/-! ## A name that cannot be typed -/

/-- A new text for a key that has one already changes nothing about the keys. -/
theorem Lexicon.mem_keys_insert_iff {lexicon : Lexicon} {key text other : String}
    (hkey : key ∈ lexicon.keys) : other ∈ (lexicon.insert key text).keys ↔ other ∈ lexicon.keys := by
  rw [mem_keys_iff, contains] at hkey
  rw [mem_keys_iff, contains, find?_insert, mem_keys_iff, contains]
  split
  case isTrue hsame => simp [hsame, hkey]
  case isFalse => rfl

namespace Script

variable {script : Script}

/-- The script with another name for an item. -/
def rename (script : Script) (item : Item) (name : String) : Script :=
  { script with items := script.items.insert item.symbol name }

theorem find?_rename (script : Script) (item : Item) (name key : String) :
    (script.rename item name).items.find? key =
      if key = item.symbol then some name else script.items.find? key :=
  Lexicon.find?_insert script.items item.symbol name key

theorem IsPlayable.exists_symbol (hplayable : script.IsPlayable) {key used : String}
    (hused : script.items.find? key = some used) : ∃ item : Item, item.symbol = key := by
  have hkey : key ∈ script.items.keys :=
    Lexicon.mem_keys_iff.mpr (Option.isSome_iff_exists.mpr ⟨used, hused⟩)
  obtain ⟨item, _, hitem⟩ := List.mem_map.mp ((hplayable.required .item rfl key).mp hkey)
  exact ⟨item, hitem⟩

/-- An item may be given any name that is not blank and that no other item has. -/
theorem IsPlayable.rename (hplayable : script.IsPlayable) {item : Item} {name : String}
    (hname : Text.isBlankText name = false)
    (hfresh : ∀ other ≠ item, ∀ used, script.items.find? other.symbol = some used →
      Text.lowerCase used ≠ Text.lowerCase name) : (script.rename item name).IsPlayable where
  help := hplayable.help
  required := by
    intro subject hrequired key
    cases subject with
    | closeUp => cases hrequired
    | room => exact hplayable.required .room rfl key
    | message => exact hplayable.required .message rfl key
    | item =>
        have hsymbol := (hplayable.required .item rfl item.symbol).mpr
          (List.mem_map_of_mem (Item.mem_all item))
        exact (Lexicon.mem_keys_insert_iff hsymbol).trans (hplayable.required .item rfl key)
  closeUps := hplayable.closeUps
  names := by
    intro other used hused
    rw [find?_rename] at hused
    split at hused
    · cases hused
      exact hname
    · exact hplayable.names other used hused
  distinct := by
    refine Lexicon.nodup_lowerCase_iff.mpr fun key text htext more again hagain hsmall => ?_
    rw [find?_rename] at htext hagain
    split at htext <;> split at hagain
    case isTrue.isTrue hkey hmore => rw [hkey, hmore]
    case isTrue.isFalse hkey hmore =>
      cases htext
      obtain ⟨other, rfl⟩ := hplayable.exists_symbol hagain
      exact absurd hsmall.symm (hfresh other (fun h => hmore (congrArg _ h)) again hagain)
    case isFalse.isTrue hkey hmore =>
      cases hagain
      obtain ⟨other, rfl⟩ := hplayable.exists_symbol htext
      exact absurd hsmall (hfresh other (fun h => hkey (congrArg _ h)) text htext)
    case isFalse.isFalse =>
      have hdistinct := Lexicon.nodup_lowerCase_iff.mp hplayable.distinct
      exact hdistinct key text htext more again hagain hsmall

end Script

/-- With a blank in front of its name the soap is in a wording all the same, and cannot be typed. -/
theorem Wording.not_canType_soap :
    ∃ wording, ofScript? (Script.ofSymbols.rename .soap " soap") = .ok wording ∧
      wording.item .soap = " soap" ∧
      Command.parse? (Verb.take.name ++ " " ++ wording.item .soap) = some (.take (some "soap")) ∧
      wording.itemNamed? "soap" ≠ some .soap ∧ ¬wording.CanType .soap := by
  have hplayable : (Script.ofSymbols.rename .soap " soap").IsPlayable := by
    refine Script.isPlayable_ofSymbols.rename (by decide) fun other _ used hused => ?_
    obtain ⟨_, rfl⟩ := (Script.find?_ofSymbols_eq_some_iff .item rfl).mp hused
    rw [Item.lowerCase_symbol]
    cases other <;> decide +kernel
  let wording : Wording := ⟨_, Script.faults_eq_nil_iff_isPlayable.mpr hplayable⟩
  have hname : wording.item .soap = " soap" := by
    have hfind := wording.find?_item .soap
    rw [Script.find?_rename, if_pos rfl] at hfind
    exact (Option.some.inj hfind).symm
  have hparse : Command.parse? (Verb.take.name ++ " " ++ wording.item .soap) =
      some (.take (some "soap")) := by
    rw [hname]
    decide +kernel
  have hother : wording.itemNamed? "soap" ≠ some .soap := by
    rw [Ne, itemNamed?_eq_some_iff, hname]
    decide +kernel
  refine ⟨wording, ofScript?_ok_iff.mpr rfl, hname, hparse, hother, fun htype => ?_⟩
  obtain ⟨typed, htyped, hnamed⟩ := htype.named .take List.mem_cons_self
  rw [hparse] at htyped
  cases htyped
  exact hother hnamed

/-! ## What becomes of an item whose name cannot be typed -/

namespace World

/-- The item is where it was, unless it is Skye, who has been let out of the boiler. -/
def LeavesAlone (world after : World) (item : Item) : Prop :=
  after.whereabouts.placeOf item = world.whereabouts.placeOf item ∨
    item = .skye ∧ world.whereabouts.placeOf item = .absent ∧
      after.whereabouts.placeOf item = .lying .steamPlant

variable {world : World} {item : Item}

theorem LeavesAlone.trans {between after : World} (hfirst : world.LeavesAlone between item)
    (hthen : between.LeavesAlone after item) : world.LeavesAlone after item := by
  rcases hfirst with hsame | ⟨hskye, habsent, hlying⟩
  · rcases hthen with hagain | ⟨hskye, habsent, hlying⟩
    · exact Or.inl (hagain.trans hsame)
    · exact Or.inr ⟨hskye, hsame ▸ habsent, hlying⟩
  · rcases hthen with hagain | ⟨_, hgone, _⟩
    · exact Or.inr ⟨hskye, habsent, hagain.trans hlying⟩
    · rw [hlying] at hgone
      cases hgone

/-- An item that no line names is not moved by any line. -/
theorem leavesAlone_next (hname : Text.trim (world.wording.item item) ≠ world.wording.item item)
    (input : Input) : world.LeavesAlone (world.next input) item := by
  by_cases hmoved :
      (world.next input).whereabouts.placeOf item = world.whereabouts.placeOf item
  · exact Or.inl hmoved
  · have hcarries := carries_of_ne hmoved
    generalize hplace : (world.next input).whereabouts.placeOf item = place at hcarries
    cases hcarries with
    | take _ _ hline =>
        obtain ⟨typed, hparse, hnamed⟩ := hline
        exact absurd (Wording.trim_item_of_parse? hparse rfl hnamed) hname
    | drop _ _ hline =>
        obtain ⟨typed, hparse, hnamed⟩ := hline
        exact absurd (Wording.trim_item_of_parse? hparse rfl hnamed) hname
    | pry _ _ habsent => exact Or.inr ⟨rfl, habsent, hplace⟩

/-- **An item whose name cannot be typed stays where it is**, whatever is typed. -/
theorem leavesAlone_run (hname : Text.trim (world.wording.item item) ≠ world.wording.item item)
    (inputs : List Input) : world.LeavesAlone (world.run inputs) item := by
  induction inputs generalizing world with
  | nil => exact Or.inl rfl
  | cons input rest ih =>
      have hnext := leavesAlone_next hname input
      rw [← world.wording_next input] at hname
      rw [run_cons]
      exact hnext.trans (ih hname)

theorem LeavesAlone.isAtGate {after : World} (hleft : world.LeavesAlone after item)
    (hafter : after.IsAtGate item) : world.IsAtGate item := by
  unfold IsAtGate at hafter ⊢
  rcases hleft with hsame | ⟨_, _, hlying⟩
  · rwa [hsame] at hafter
  · simp [hlying] at hafter

theorem not_isAtGate_atStart (wording : Wording) {companion : Item}
    (hcompanion : companion ∈ [Item.skye, .auntie, .cat, .doll]) :
    ¬(World.atStart wording).IsAtGate companion := by
  have haway : ∀ item ∈ [Item.skye, .auntie, .cat, .doll],
      Whereabouts.atStart.isWithinReach item .vestibule = false := by
    decide
  intro hgate
  have hreach : Whereabouts.atStart.isWithinReach companion .vestibule = true :=
    Whereabouts.isWithinReach_iff.mpr hgate
  rw [haway companion hcompanion] at hreach
  cases hreach

/-- If it is somebody without whom there is no way out, the game cannot be won. -/
theorem not_walksOut_of_untrimmed {wording : Wording} {companion : Item}
    (hcompanion : companion ∈ [Item.skye, .auntie, .cat, .doll])
    (hname : Text.trim (wording.item companion) ≠ wording.item companion)
    (inputs : List Input) (line : String) :
    ¬((World.atStart wording).run inputs).WalksOut line := by
  rintro ⟨_, hall⟩
  have hleft := @leavesAlone_run (World.atStart wording) companion hname inputs
  have hgate := hall companion hcompanion
  exact not_isAtGate_atStart wording hcompanion (hleft.isAtGate hgate)

end World

end CastleEscape

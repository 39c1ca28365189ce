import CastleEscape.Proofs.Grammar
import CastleEscape.Proofs.Names
import Mathlib.Data.List.Count

/-!
# What is reported about a script

How often each fault stands in the list of the faults of a script, said without making the list
(`Script.timesDue`): once for whatever is wrong by itself, and as often as a name is used again.
What can be played, and what is then found under each symbol, follows from that.
-/

namespace CastleEscape

/-! ## Symbols and their texts -/

def Subject.all : List Subject := [room, item, closeUp, message]

@[simp] theorem Subject.mem_all (subject : Subject) : subject ∈ all := by
  cases subject <;> decide

/-- The symbols that there may be texts for. -/
def Subject.symbols : Subject → List String
  | room => Room.all.map Room.symbol
  | item | closeUp => Item.all.map Item.symbol
  | message => Message.all.map Message.symbol

/-- Whether each of the symbols has to have a text. -/
def Subject.isRequired : Subject → Bool
  | closeUp => false
  | room | item | message => true

def Script.lexicon (script : Script) : Subject → Lexicon
  | .room => script.rooms
  | .item => script.items
  | .closeUp => script.closeUps
  | .message => script.messages

/-- How often a fault is to be reported. The name of an item is what stands under its own symbol,
but a name that is shared may stand under any key. -/
def Script.timesDue (script : Script) : Fault → Nat
  | .missingText subject symbol =>
    if subject.isRequired ∧ symbol ∈ subject.symbols ∧ symbol ∉ (script.lexicon subject).keys then 1
    else 0
  | .unknownSymbol subject key =>
    if key ∈ (script.lexicon subject).keys ∧ key ∉ subject.symbols then 1 else 0
  | .unusableText .blankHelp => if Text.isBlankText script.help then 1 else 0
  | .unusableText (.blankName item) =>
    if (script.items.find? item.symbol).any Text.isBlankText then 1 else 0
  | .unusableText (.sharedName name) => (script.items.texts.map Text.lowerCase).count name - 1

/-! ## Descriptions

No two faults are described in the same words. -/

/-- A sentence about a name and a symbol holds both, if the name is a single word. -/
theorem eq_of_sentence {front middle back name other symbol more : String}
    (hname : ' ' ∉ name.toList) (hother : ' ' ∉ other.toList)
    (hmiddle : middle.toList.head? = some ' ')
    (hsame : front ++ name ++ middle ++ symbol ++ back =
      front ++ other ++ middle ++ more ++ back) : name = other ∧ symbol = more := by
  obtain ⟨rest, hrest⟩ := List.head?_eq_some_iff.mp hmiddle
  have hchars : name.toList ++ ' ' :: (rest ++ (symbol.toList ++ back.toList)) =
      other.toList ++ ' ' :: (rest ++ (more.toList ++ back.toList)) := by
    simpa [← String.toList_inj, hrest] using hsame
  have hafter := congrArg (List.dropWhile (· != ' ')) hchars
  rw [Text.dropWhile_of_space hname, Text.dropWhile_of_space hother] at hafter
  have hnames : name.toList = other.toList := List.append_cancel_right (hafter ▸ hchars)
  have hsymbols : symbol.toList = more.toList := by simpa using hafter
  exact ⟨String.toList_inj.mp hnames, String.toList_inj.mp hsymbols⟩

theorem Flaw.describe_injective : Function.Injective Flaw.describe := by
  intro a b h
  rw [← String.toList_inj] at h
  cases a <;> cases b <;> simp [describe] at h
  case blankHelp.blankHelp => rfl
  case blankName.blankName item other =>
    rw [Item.symbol_injective (String.toList_inj.mp h)]
  case sharedName.sharedName name other => rw [String.toList_inj.mp h]

theorem Subject.not_mem_space (subject : Subject) : ' ' ∉ subject.name.toList := by
  cases subject <;> decide

theorem Subject.name_injective : Function.Injective Subject.name := by
  intro a b h
  cases a <;> cases b <;> first | rfl | exact absurd h (by decide)

/-- Faults of different kinds are described in different words from the first letter on. -/
theorem Fault.head?_describe (fault : Fault) :
    fault.describe.toList.head? = some (match fault with
      | .missingText _ _ => 'n'
      | .unknownSymbol _ _ => 'u'
      | .unusableText _ => 'i') := by
  cases fault with
  | missingText subject symbol =>
      show ("no text for " ++ subject.name ++ " '" ++ symbol ++ "'").toList.head? = _
      simp
  | unknownSymbol subject symbol =>
      show ("unknown " ++ subject.name ++ " symbol '" ++ symbol ++ "'").toList.head? = _
      simp
  | unusableText flaw =>
      show ("invalid value (" ++ flaw.describe ++ ")").toList.head? = _
      simp

theorem Fault.describe_injective : Function.Injective Fault.describe := by
  intro a b h
  have hhead := congrArg (fun s => s.toList.head?) h
  simp only [head?_describe, Option.some.injEq] at hhead
  cases a <;> cases b <;> cases hhead
  case missingText.missingText subject symbol other more =>
    obtain ⟨hname, rfl⟩ := eq_of_sentence subject.not_mem_space other.not_mem_space rfl h
    rw [Subject.name_injective hname]
  case unknownSymbol.unknownSymbol subject symbol other more =>
    obtain ⟨hname, rfl⟩ := eq_of_sentence subject.not_mem_space other.not_mem_space rfl h
    rw [Subject.name_injective hname]
  case unusableText.unusableText flaw other =>
    have hflaw : "invalid value (" ++ flaw.describe ++ ")" =
      "invalid value (" ++ other.describe ++ ")" := h
    rw [String.append_left_inj, String.append_right_inj] at hflaw
    rw [Flaw.describe_injective hflaw]

/-! ## Known and unknown keys -/

namespace Lexicon

variable {lexicon : Lexicon} {key : String}

theorem mem_keys_iff : key ∈ lexicon.keys ↔ lexicon.contains key = true := by
  rw [contains, find?, List.lookup_isSome_iff, keys, List.mem_map]
  constructor
  · rintro ⟨entry, hentry, rfl⟩
    exact ⟨entry, hentry, beq_self_eq_true _⟩
  · rintro ⟨entry, hentry, hkey⟩
    exact ⟨entry, hentry, (beq_iff_eq.mp hkey).symm⟩

theorem nodup_keys (lexicon : Lexicon) : lexicon.keys.Nodup := by
  rw [keys, List.nodup_iff_pairwise_ne, List.pairwise_map]
  exact lexicon.keysRise.imp fun hlt => String.ne_of_lt hlt

theorem find?_eq_none_iff : lexicon.find? key = none ↔ key ∉ lexicon.keys := by
  rw [mem_keys_iff, contains, Option.not_isSome_iff_eq_none]

/-- What is found in a lexicon of symbols that are their own texts. -/
theorem find?_ofList_self (symbols : List String) (key : String) :
    (ofList (symbols.map fun symbol => (symbol, symbol))).find? key =
      if key ∈ symbols then some key else none := by
  induction symbols using List.reverseRecOn with
  | nil => rfl
  | append_singleton symbols last ih =>
      rw [List.map_append, ofList, List.foldl_append]
      show ((ofList _).insert last last).find? key = _
      rw [find?_insert, ih]
      by_cases hlast : key = last <;> simp [hlast]

end Lexicon

namespace Subject

theorem nodup_symbols (subject : Subject) : subject.symbols.Nodup := by
  cases subject with
  | room => exact Room.nodup_all.map fun _ _ => Room.symbol_injective
  | item | closeUp => exact Item.nodup_all.map fun _ _ => Item.symbol_injective
  | message => exact Message.nodup_all.map fun _ _ => Message.symbol_injective

theorem isSome_ofSymbol?_room {key : String} :
    (Room.ofSymbol? key).isSome = true ↔ key ∈ room.symbols := by
  simp [Room.ofSymbol?, symbols]

theorem isSome_ofSymbol?_item {key : String} :
    (Item.ofSymbol? key).isSome = true ↔ key ∈ item.symbols := by
  simp [Item.ofSymbol?, symbols]

theorem isSome_ofSymbol?_message {key : String} :
    (Message.ofSymbol? key).isSome = true ↔ key ∈ message.symbols := by
  simp [Message.ofSymbol?, symbols]

end Subject

namespace Script

variable {script : Script} {fault : Fault}

/-! ## Section by section

Each section of the report holds faults of one kind, and none of them twice. -/

theorem mem_helpFaults : fault ∈ script.helpFaults ↔
    fault = .unusableText .blankHelp ∧ Text.isBlankText script.help = true := by
  unfold helpFaults
  split <;> simp_all

theorem mem_roomFaults : fault ∈ script.roomFaults ↔
    ∃ symbol ∈ Subject.room.symbols, symbol ∉ script.rooms.keys ∧
      .missingText .room symbol = fault := by
  simp [roomFaults, Subject.symbols, Lexicon.mem_keys_iff]

theorem mem_messageFaults : fault ∈ script.messageFaults ↔
    ∃ symbol ∈ Subject.message.symbols, symbol ∉ script.messages.keys ∧
      .missingText .message symbol = fault := by
  simp [messageFaults, Subject.symbols, Lexicon.mem_keys_iff]

theorem mem_itemFaults : fault ∈ script.itemFaults ↔
    (∃ symbol ∈ Subject.item.symbols, symbol ∉ script.items.keys ∧
      .missingText .item symbol = fault) ∨
    ∃ item ∈ Item.all, (script.items.find? item.symbol).any Text.isBlankText = true ∧
      .unusableText (.blankName item) = fault := by
  have hmissing : (∃ symbol ∈ Subject.item.symbols, symbol ∉ script.items.keys ∧
      .missingText .item symbol = fault) ↔ ∃ item ∈ Item.all,
        script.items.find? item.symbol = none ∧ .missingText .item item.symbol = fault := by
    simp only [Subject.symbols, List.mem_map, exists_exists_and_eq_and, Lexicon.find?_eq_none_iff]
  rw [hmissing, ← exists_or, itemFaults, List.mem_filterMap]
  refine exists_congr fun item => ?_
  rw [← and_or_left]
  refine and_congr_right fun _ => ?_
  cases script.items.find? item.symbol with
  | none => simp
  | some name => simp

theorem mem_unknownKeys {subject : Subject} {isKnown : String → Bool} {lexicon : Lexicon}
    (hknown : ∀ key, isKnown key = true ↔ key ∈ subject.symbols) :
    fault ∈ unknownKeys subject isKnown lexicon ↔
      ∃ key ∈ lexicon.keys, key ∉ subject.symbols ∧ .unknownSymbol subject key = fault := by
  simp [unknownKeys, ← hknown, and_assoc]

theorem mem_keyFaults : fault ∈ script.keyFaults ↔
    ∃ subject ∈ Subject.all, ∃ key ∈ (script.lexicon subject).keys, key ∉ subject.symbols ∧
      .unknownSymbol subject key = fault := by
  have hroom := @mem_unknownKeys fault .room _ script.rooms
    fun _ => Subject.isSome_ofSymbol?_room
  have hitem := @mem_unknownKeys fault .item _ script.items
    fun _ => Subject.isSome_ofSymbol?_item
  have hcloseUp := @mem_unknownKeys fault .closeUp _ script.closeUps
    fun _ => Subject.isSome_ofSymbol?_item
  have hmessage := @mem_unknownKeys fault .message _ script.messages
    fun _ => Subject.isSome_ofSymbol?_message
  unfold keyFaults
  rw [List.mem_append, List.mem_append, List.mem_append, hroom, hitem, hcloseUp, hmessage]
  constructor
  · rintro (((h | h) | h) | h)
    · exact ⟨.room, Subject.mem_all _, h⟩
    · exact ⟨.item, Subject.mem_all _, h⟩
    · exact ⟨.closeUp, Subject.mem_all _, h⟩
    · exact ⟨.message, Subject.mem_all _, h⟩
  · rintro ⟨subject, _, h⟩
    cases subject with
    | room => exact Or.inl (Or.inl (Or.inl h))
    | item => exact Or.inl (Or.inl (Or.inr h))
    | closeUp => exact Or.inl (Or.inr h)
    | message => exact Or.inr h

theorem mem_nameFaults : fault ∈ script.nameFaults ↔
    ∃ name ∈ repeats script.sortedNames, .unusableText (.sharedName name) = fault := by
  simp [nameFaults]

/-! ## Nothing is reported twice, but for shared names -/

theorem nodup_helpFaults (script : Script) : script.helpFaults.Nodup := by
  unfold helpFaults
  split
  · exact List.nodup_singleton _
  · exact List.nodup_nil

theorem nodup_roomFaults (script : Script) : script.roomFaults.Nodup := by
  refine List.Nodup.map (fun a b h => ?_) (Room.nodup_all.filter _)
  injection h with _ hsymbol
  exact Room.symbol_injective hsymbol

theorem nodup_messageFaults (script : Script) : script.messageFaults.Nodup := by
  refine List.Nodup.map (fun a b h => ?_) (Message.nodup_all.filter _)
  injection h with _ hsymbol
  exact Message.symbol_injective hsymbol

theorem nodup_itemFaults (script : Script) : script.itemFaults.Nodup := by
  refine List.Nodup.filterMap ?_ Item.nodup_all
  intro a b fault ha hb
  cases hname : script.items.find? a.symbol with
  | none =>
      obtain rfl : .missingText .item a.symbol = fault := by simpa [hname] using ha
      cases hother : script.items.find? b.symbol with
      | none => exact Item.symbol_injective (by simpa [hother, eq_comm] using hb)
      | some other => simp [hother] at hb
  | some name =>
      obtain ⟨_, rfl⟩ : Text.isBlankText name = true ∧ .unusableText (.blankName a) = fault := by
        simpa [hname] using ha
      cases hother : script.items.find? b.symbol with
      | none => simp [hother] at hb
      | some other =>
          have hsame : Text.isBlankText other = true ∧ b = a := by simpa [hother] using hb
          exact hsame.2.symm

theorem nodup_unknownKeys (subject : Subject) (isKnown : String → Bool) (lexicon : Lexicon) :
    (unknownKeys subject isKnown lexicon).Nodup := by
  refine List.Nodup.map (fun a b h => ?_) (lexicon.nodup_keys.filter _)
  injection h

theorem ne_of_mem_unknownKeys {subject other : Subject} (hne : subject ≠ other)
    {isKnown alsoKnown : String → Bool} {lexicon more : Lexicon} :
    ∀ fault ∈ unknownKeys subject isKnown lexicon, ∀ fault' ∈ unknownKeys other alsoKnown more,
      fault ≠ fault' := by
  intro fault hmem fault' hmem' heq
  obtain ⟨key, _, rfl⟩ := List.mem_map.mp hmem
  obtain ⟨key', _, rfl⟩ := List.mem_map.mp hmem'
  injection heq with hsubject
  exact hne hsubject

theorem nodup_keyFaults (script : Script) : script.keyFaults.Nodup := by
  unfold keyFaults
  simp only [List.nodup_append, nodup_unknownKeys, true_and, List.mem_append]
  refine ⟨⟨ne_of_mem_unknownKeys (by decide), ?_⟩, ?_⟩
  · rintro fault (h | h)
    · exact ne_of_mem_unknownKeys (by decide) fault h
    · exact ne_of_mem_unknownKeys (by decide) fault h
  · rintro fault ((h | h) | h)
    · exact ne_of_mem_unknownKeys (by decide) fault h
    · exact ne_of_mem_unknownKeys (by decide) fault h
    · exact ne_of_mem_unknownKeys (by decide) fault h

theorem count_nameFaults (script : Script) (name : String) :
    script.nameFaults.count (.unusableText (.sharedName name)) =
      (script.items.texts.map Text.lowerCase).count name - 1 := by
  have hinjective : Function.Injective fun name => Fault.unusableText (.sharedName name) := by
    intro a b h
    injection h with hflaw
    injection hflaw
  rw [nameFaults, List.count_map_of_injective _ _ hinjective,
    count_repeats script.pairwise_sortedNames, script.perm_sortedNames.count_eq]

theorem count_nameFaults_of_ne (hother : ∀ name, fault ≠ .unusableText (.sharedName name)) :
    script.nameFaults.count fault = 0 := by
  refine List.count_eq_zero_of_not_mem fun hmem => ?_
  obtain ⟨name, _, hname⟩ := mem_nameFaults.mp hmem
  exact hother name hname.symm

/-- Every fault is reported as often as it is due: the sections are about different faults. -/
theorem count_faults (script : Script) (fault : Fault) :
    script.faults.count fault = script.timesDue fault := by
  have hcount : script.faults.count fault =
      (if fault ∈ script.helpFaults then 1 else 0) + (if fault ∈ script.roomFaults then 1 else 0) +
      (if fault ∈ script.itemFaults then 1 else 0) +
      (if fault ∈ script.messageFaults then 1 else 0) +
      (if fault ∈ script.keyFaults then 1 else 0) + script.nameFaults.count fault := by
    simp only [faults, List.count_append, script.nodup_helpFaults.count,
      script.nodup_roomFaults.count, script.nodup_itemFaults.count,
      script.nodup_messageFaults.count, script.nodup_keyFaults.count]
  rw [hcount]
  simp only [mem_helpFaults, mem_roomFaults, mem_itemFaults, mem_messageFaults, mem_keyFaults]
  cases fault with
  | missingText subject symbol =>
      rw [count_nameFaults_of_ne fun _ h => by cases h]
      cases subject <;> simp [timesDue, Subject.isRequired, lexicon]
  | unknownSymbol subject key =>
      rw [count_nameFaults_of_ne fun _ h => by cases h]
      simp [timesDue]
  | unusableText flaw =>
      cases flaw with
      | blankHelp =>
          rw [count_nameFaults_of_ne fun _ h => by cases h]
          simp [timesDue]
      | blankName item =>
          rw [count_nameFaults_of_ne fun _ h => by cases h]
          simp [timesDue]
      | sharedName name => simp [count_nameFaults, timesDue]

/-! ## Scripts that can be played -/

/-- What a script has to have, and what it may not have, for a game to be played with it. -/
structure IsPlayable (script : Script) : Prop where
  help : Text.isBlankText script.help = false
  required : ∀ subject : Subject, subject.isRequired = true → ∀ key,
    key ∈ (script.lexicon subject).keys ↔ key ∈ subject.symbols
  closeUps : ∀ key ∈ script.closeUps.keys, key ∈ Subject.closeUp.symbols
  names : ∀ (item : Item) (name : String), script.items.find? item.symbol = some name →
    Text.isBlankText name = false
  distinct : (script.items.texts.map Text.lowerCase).Nodup

theorem faults_eq_nil_iff_timesDue :
    script.faults = [] ↔ ∀ fault, script.timesDue fault = 0 := by
  rw [List.eq_nil_iff_forall_not_mem]
  refine forall_congr' fun fault => ?_
  rw [← List.count_eq_zero, count_faults]

/-- A script without faults can be played, and nothing else can. -/
theorem faults_eq_nil_iff_isPlayable : script.faults = [] ↔ script.IsPlayable := by
  rw [faults_eq_nil_iff_timesDue]
  constructor
  · intro hnone
    refine ⟨?_, ?_, ?_, ?_, ?_⟩
    · simpa [timesDue] using hnone (.unusableText .blankHelp)
    · intro subject hrequired key
      have hmissing := hnone (.missingText subject key)
      have hunknown := hnone (.unknownSymbol subject key)
      simp only [timesDue, hrequired, true_and, ite_eq_right_iff, Nat.one_ne_zero, imp_false,
        not_and, not_not] at hmissing hunknown
      exact ⟨hunknown, hmissing⟩
    · intro key hkey
      have hunknown := hnone (.unknownSymbol .closeUp key)
      simp only [timesDue, ite_eq_right_iff, Nat.one_ne_zero, imp_false, not_and,
        not_not] at hunknown
      exact hunknown hkey
    · intro item name hname
      simpa [timesDue, hname] using hnone (.unusableText (.blankName item))
    · refine List.nodup_iff_count_le_one.mpr fun name => ?_
      exact Nat.sub_eq_zero_iff_le.mp (hnone (.unusableText (.sharedName name)))
  · intro hplayable fault
    cases fault with
    | missingText subject symbol =>
        refine if_neg ?_
        rintro ⟨hrequired, hsymbol, hmissing⟩
        exact hmissing ((hplayable.required subject hrequired symbol).mpr hsymbol)
    | unknownSymbol subject key =>
        refine if_neg ?_
        rintro ⟨hkey, hunknown⟩
        cases subject with
        | closeUp => exact hunknown (hplayable.closeUps key hkey)
        | room | item | message => exact hunknown ((hplayable.required _ rfl key).mp hkey)
    | unusableText flaw =>
        cases flaw with
        | blankHelp => exact if_neg (by simp [hplayable.help])
        | blankName item =>
            refine if_neg ?_
            rw [Option.any_eq_true]
            rintro ⟨name, hname, hblank⟩
            exact Bool.false_ne_true ((hplayable.names item name hname).symm.trans hblank)
        | sharedName name =>
            have honce := List.nodup_iff_count_le_one.mp hplayable.distinct name
            exact Nat.sub_eq_zero_iff_le.mpr honce

end Script

/-! ## What a wording says -/

/-- The short text is the text without the characters of a kind at its end. -/
def Text.IsWithoutLast (kind : Char → Bool) (text short : String) : Prop :=
  ∃ back, (∀ c ∈ back, kind c = true) ∧ text.toList = short.toList ++ back ∧
    ∀ c ∈ short.toList.getLast?, kind c = false

theorem Text.isWithoutLast_rdropWhile (kind : Char → Bool) (text : String) :
    IsWithoutLast kind text (.ofList (text.toList.rdropWhile kind)) := by
  refine ⟨text.toList.rtakeWhile kind, fun c hc => List.mem_rtakeWhile_imp hc, ?_, ?_⟩
  · rw [String.toList_ofList, List.rdropWhile_append_rtakeWhile]
  · intro c hc
    have hlast := List.head?_dropWhile_not kind text.toList.reverse
    rw [String.toList_ofList, List.rdropWhile, List.getLast?_reverse] at hc
    rw [hc] at hlast
    exact hlast

/-- The texts of the wording are those of the script, and no symbol stands in for one. -/
structure Wording.Quotes (wording : Wording) (script : Script) : Prop where
  intro : wording.intro = script.intro
  help : Text.IsWithoutLast Text.isBlank script.help wording.help
  room : ∀ room : Room, script.rooms.find? room.symbol = some (wording.room room)
  item : ∀ item : Item, script.items.find? item.symbol = some (wording.item item)
  closeUp : ∀ item : Item, wording.closeUp? item = script.closeUps.find? item.symbol
  withoutCloseUp : ∀ item : Item,
    wording.closeUp? item = none ↔ item.symbol ∉ script.closeUps.keys
  message : ∀ message : Message, ∃ text, script.messages.find? message.symbol = some text ∧
    Text.IsWithoutLast (· = '\n') text (wording.message message)

namespace Wording

variable {wording : Wording} {script : Script}

theorem exists_find?_of_required (wording : Wording) (subject : Subject)
    (hrequired : subject.isRequired = true) {symbol : String} (hsymbol : symbol ∈ subject.symbols) :
    ∃ text, (wording.script.lexicon subject).find? symbol = some text := by
  have hplayable := Script.faults_eq_nil_iff_isPlayable.mp wording.faultless
  have hkey := (hplayable.required subject hrequired symbol).mpr hsymbol
  exact Option.isSome_iff_exists.mp (Lexicon.mem_keys_iff.mp hkey)

/-- A wording says what is in its script. -/
theorem quotes_script (wording : Wording) : wording.Quotes wording.script where
  intro := rfl
  help := Text.isWithoutLast_rdropWhile Text.isBlank wording.script.help
  room := by
    intro room
    obtain ⟨text, htext⟩ := wording.exists_find?_of_required .room rfl
      (List.mem_map_of_mem (Room.mem_all room))
    rw [Wording.room, show wording.script.rooms.find? room.symbol = some text from htext]
    rfl
  item := wording.find?_item
  closeUp := fun _ => rfl
  withoutCloseUp := fun _ => Lexicon.find?_eq_none_iff
  message := by
    intro message
    obtain ⟨text, htext⟩ := wording.exists_find?_of_required .message rfl
      (List.mem_map_of_mem (Message.mem_all message))
    refine ⟨text, htext, ?_⟩
    rw [Wording.message, show wording.script.messages.find? message.symbol = some text from htext]
    exact Text.isWithoutLast_rdropWhile _ text

end Wording

/-! ## The script of symbols -/

theorem Item.isBlankText_symbol (item : Item) : Text.isBlankText item.symbol = false := by
  cases item <;> rfl

theorem Item.lowerCase_symbol (item : Item) : Text.lowerCase item.symbol = item.symbol := by
  cases item <;> decide +kernel

namespace Script

theorem find?_ofSymbols_eq_some_iff (subject : Subject) (hrequired : subject.isRequired = true)
    {key text : String} :
    (ofSymbols.lexicon subject).find? key = some text ↔ key ∈ subject.symbols ∧ key = text := by
  have hself := Lexicon.find?_ofList_self subject.symbols key
  have hfind : (ofSymbols.lexicon subject).find? key =
      if key ∈ subject.symbols then some key else none := by
    cases subject with
    | closeUp => cases hrequired
    | room | item | message =>
        rw [Subject.symbols, List.map_map] at hself
        exact hself
  rw [hfind, Option.ite_none_right_eq_some, Option.some.injEq]

theorem isPlayable_ofSymbols : ofSymbols.IsPlayable where
  help := by decide
  required := by
    intro subject hrequired key
    rw [Lexicon.mem_keys_iff, Lexicon.contains, Option.isSome_iff_exists]
    simp only [find?_ofSymbols_eq_some_iff subject hrequired, exists_eq_right']
  closeUps := List.forall_mem_nil _
  names := by
    intro item name hname
    obtain ⟨_, rfl⟩ := (find?_ofSymbols_eq_some_iff .item rfl).mp hname
    exact item.isBlankText_symbol
  distinct := by
    refine Lexicon.nodup_lowerCase_iff.mpr fun key name hname other more hmore hsmall => ?_
    obtain ⟨hkey, rfl⟩ := (find?_ofSymbols_eq_some_iff .item rfl).mp hname
    obtain ⟨hother, rfl⟩ := (find?_ofSymbols_eq_some_iff .item rfl).mp hmore
    obtain ⟨item, _, rfl⟩ := List.mem_map.mp hkey
    obtain ⟨otherItem, _, rfl⟩ := List.mem_map.mp hother
    rwa [Item.lowerCase_symbol, Item.lowerCase_symbol] at hsmall

/-- It makes a wording in which every item has its symbol for a name. -/
theorem exists_wording_ofSymbols :
    ∃ wording, Wording.ofScript? ofSymbols = .ok wording ∧
      ∀ item, wording.item item = item.symbol := by
  let wording : Wording := ⟨ofSymbols, faults_eq_nil_iff_isPlayable.mpr isPlayable_ofSymbols⟩
  refine ⟨wording, Wording.ofScript?_ok_iff.mpr rfl, fun item => ?_⟩
  exact ((find?_ofSymbols_eq_some_iff .item rfl).mp (wording.find?_item item)).2.symm

/-! ## The report is exact -/

/-- **Exactly what is wrong is reported.** There are no faults exactly in a script that can be
played, and every fault stands in the list as often as it is due, which can be told from its
description. A script without faults makes a wording, and the wording says what is in the script. -/
theorem faults_exact (script : Script) :
    (script.faults = [] ↔ script.IsPlayable) ∧
    (Subject.room.symbols.length = 59 ∧ Subject.item.symbols.length = 22 ∧
      Subject.message.symbols.length = 45 ∧ ∀ subject : Subject, subject.symbols.Nodup) ∧
    (∀ fault, script.faults.count fault = script.timesDue fault) ∧
    Function.Injective Fault.describe ∧
    ((∃ wording, Wording.ofScript? script = .ok wording) ↔ script.faults = []) ∧
    ∀ wording, Wording.ofScript? script = .ok wording → wording.Quotes script := by
  refine ⟨faults_eq_nil_iff_isPlayable, ⟨rfl, rfl, rfl, Subject.nodup_symbols⟩,
    script.count_faults, Fault.describe_injective, ?_, ?_⟩
  · constructor
    · rintro ⟨wording, hwording⟩
      rw [← Wording.ofScript?_ok_iff.mp hwording]
      exact wording.faultless
    · intro hnone
      exact ⟨⟨script, hnone⟩, Wording.ofScript?_ok_iff.mpr rfl⟩
  · intro wording hwording
    rw [← Wording.ofScript?_ok_iff.mp hwording]
    exact wording.quotes_script

/-- There is nothing wrong with the script of symbols, and a wording that says just the symbols. -/
theorem faults_exact_ofSymbols :
    ∃ wording, Wording.ofScript? ofSymbols = .ok wording ∧ wording.Quotes ofSymbols := by
  obtain ⟨hplayable, _, _, _, hmakes, hquotes⟩ := faults_exact ofSymbols
  obtain ⟨wording, hwording⟩ := hmakes.mpr (hplayable.mpr isPlayable_ofSymbols)
  exact ⟨wording, hwording, hquotes wording hwording⟩

end Script

end CastleEscape

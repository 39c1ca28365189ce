import CastleEscape.Proofs.Letters
import CastleEscape.Proofs.Parsing

/-!
# The grammar of lines

How a line has to be written to be read as a command, said without taking it apart: a line is a text
with blanks around it, and a text is a direction, or a word with perhaps a space and an object after
it. The parser reads exactly what is written in this way.

* `Text.TrimsTo` and `Text.HasObject` say what is around a text and what follows its first space;
* `Direction.IsSpelled` says how directions are written, and `Command.Reading` what a text means;
* `Command.IsPhrase` is a line of a word and an object, and such a line is read back as it was
  written.
-/

namespace CastleEscape

namespace Text

/-! ## Blanks around a text -/

/-- Blanks and nothing else. -/
def AllBlank (cs : List Char) : Prop := ∀ c ∈ cs, isBlank c = true

/-- The text neither begins nor ends with a blank. -/
def IsTrimmed (cs : List Char) : Prop :=
  (∀ c ∈ cs.head?, isBlank c = false) ∧ ∀ c ∈ cs.getLast?, isBlank c = false

/-- The text is what there is between the blanks at both ends. -/
def TrimsTo (cs text : List Char) : Prop :=
  ∃ front back, AllBlank front ∧ AllBlank back ∧ cs = front ++ text ++ back ∧ IsTrimmed text

/-- The object is what follows the first space, without the blanks around it. -/
def HasObject (cs object : List Char) : Prop :=
  ∃ word rest, cs = word ++ ' ' :: rest ∧ ' ' ∉ word ∧ TrimsTo rest object ∧ object ≠ []

theorem isTrimmed_of_ends {cs : List Char} {first last : Char} (hfirst : cs.head? = some first)
    (hlast : cs.getLast? = some last) (hstart : isBlank first = false)
    (hend : isBlank last = false) : IsTrimmed cs := by
  constructor
  · intro c hc
    rw [hfirst, Option.mem_some_iff] at hc
    exact hc ▸ hstart
  · intro c hc
    rw [hlast, Option.mem_some_iff] at hc
    exact hc ▸ hend

theorem trimChars_of_isTrimmed {cs : List Char} (htrimmed : IsTrimmed cs) : trimChars cs = cs := by
  cases cs with
  | nil => rfl
  | cons first rest =>
      obtain ⟨last, hlast⟩ := Option.isSome_iff_exists.mp
        (List.getLast?_isSome.mpr (List.cons_ne_nil first rest))
      exact trimChars_of_ends (htrimmed.1 first rfl) (htrimmed.2 last hlast) hlast

theorem isTrimmed_trimChars (cs : List Char) : IsTrimmed (trimChars cs) := by
  constructor
  · intro c hc
    -- what is left begins as it did before anything was taken from its end
    obtain ⟨back, hback⟩ : trimChars cs <+: trimStartChars cs :=
      List.rdropWhile_prefix isBlank (trimStartChars cs)
    have hhead := List.head?_dropWhile_not isBlank cs
    rw [show cs.dropWhile isBlank = trimStartChars cs from rfl, ← hback,
      List.mem_head?_append_of_mem_head? hc] at hhead
    exact hhead
  · intro c hc
    have hlast := List.head?_dropWhile_not isBlank (trimStartChars cs).reverse
    rw [trimChars, trimEndChars, List.getLast?_reverse] at hc
    rw [hc] at hlast
    exact hlast

/-- Blanks at the ends do not matter. -/
theorem trimChars_append {front back : List Char} (hfront : AllBlank front) (hback : AllBlank back)
    (cs : List Char) : trimChars (front ++ cs ++ back) = trimChars cs := by
  have hend : ∀ text, trimEndChars (text ++ back) = trimEndChars text := by
    intro text
    rw [trimEndChars, List.reverse_append, List.dropWhile_append_of_pos, trimEndChars]
    intro c hc
    exact hback c (List.mem_reverse.mp hc)
  rw [trimChars, trimStartChars, List.append_assoc, List.dropWhile_append_of_pos hfront,
    List.dropWhile_append]
  split
  case isTrue hnone =>
    -- all of it is blank, so that nothing is left either way
    have hblank : cs.dropWhile isBlank = [] := List.isEmpty_iff.mp hnone
    have hback' : back.dropWhile isBlank = [] := List.dropWhile_eq_nil_iff.mpr hback
    rw [hback', trimChars, trimStartChars, hblank]
  case isFalse => exact hend _

theorem trimChars_eq_iff {cs text : List Char} : trimChars cs = text ↔ TrimsTo cs text := by
  constructor
  · rintro rfl
    refine ⟨cs.takeWhile isBlank, (trimStartChars cs).rtakeWhile isBlank,
      fun c hc => List.mem_takeWhile_imp hc, fun c hc => List.mem_rtakeWhile_imp hc, ?_,
      isTrimmed_trimChars cs⟩
    rw [List.append_assoc]
    show cs = _ ++ ((trimStartChars cs).rdropWhile isBlank ++ _)
    rw [List.rdropWhile_append_rtakeWhile, trimStartChars, List.takeWhile_append_dropWhile]
  · rintro ⟨front, back, hfront, hback, rfl, htrimmed⟩
    rw [trimChars_append hfront hback, trimChars_of_isTrimmed htrimmed]

/-! ## What follows the first space -/

theorem dropWhile_of_space {word rest : List Char} (hword : ' ' ∉ word) :
    (word ++ ' ' :: rest).dropWhile (· != ' ') = ' ' :: rest := by
  rw [List.dropWhile_append_of_pos]
  · simp
  · intro c hc
    simpa using fun h : c = ' ' => hword (h ▸ hc)

theorem afterFirstSpace?_of_split {s : String} {word rest : List Char}
    (hsplit : s.toList = word ++ ' ' :: rest) (hword : ' ' ∉ word) :
    afterFirstSpace? s =
      if trimChars rest = [] then none else some (.ofList (trimChars rest)) := by
  rw [afterFirstSpace?, hsplit, dropWhile_of_space hword, List.drop_one, List.tail_cons]
  cases trimChars rest <;> rfl

theorem afterFirstSpace?_of_not_mem {s : String} (hnone : ' ' ∉ s.toList) :
    afterFirstSpace? s = none := by
  have hdrop : s.toList.dropWhile (· != ' ') = [] := by
    refine List.dropWhile_eq_nil_iff.mpr fun c hc => ?_
    simpa using fun h : c = ' ' => hnone (h ▸ hc)
  rw [afterFirstSpace?, hdrop]
  rfl

theorem afterFirstSpace?_eq_some_iff {s object : String} :
    afterFirstSpace? s = some object ↔ HasObject s.toList object.toList := by
  constructor
  · intro hobject
    by_cases hspace : ' ' ∈ s.toList
    · obtain ⟨word, rest, hsplit, hword⟩ := List.eq_append_cons_of_mem hspace
      rw [afterFirstSpace?_of_split hsplit hword] at hobject
      split at hobject
      · cases hobject
      case isFalse hsome =>
        cases hobject
        rw [String.toList_ofList]
        exact ⟨word, rest, hsplit, hword, trimChars_eq_iff.mp rfl, hsome⟩
    · rw [afterFirstSpace?_of_not_mem hspace] at hobject
      cases hobject
  · rintro ⟨word, rest, hsplit, hword, htrim, hsome⟩
    rw [afterFirstSpace?_of_split hsplit hword, trimChars_eq_iff.mpr htrim, if_neg hsome,
      String.ofList_toList]

/-! ## ASCII words in lower case -/

namespace LowerCase

theorem ofChars_of_ascii {cs : List Char} (hascii : ∀ c ∈ cs, c.toNat < 0x80)
    (before : List Char) : ofChars before cs = cs.map Char.toLower := by
  induction cs generalizing before with
  | nil => rfl
  | cons c rest ih =>
      obtain ⟨hc, hrest⟩ := List.forall_mem_cons.mp hascii
      have hsigma : c ≠ 'Σ' := by
        rintro rfl
        exact absurd hc (by decide)
      rw [ofChars, if_neg hsigma, ofChar_of_ascii hc, ih hrest]
      rfl

/-- Nothing but ASCII becomes a text in small letters of ASCII, if there is neither an i nor a k in
it. -/
theorem ascii_of_ofChars {before cs : List Char}
    (hsmall : ∀ c ∈ ofChars before cs, c.toNat < 0x80 ∧ c ≠ 'i' ∧ c ≠ 'k') :
    ∀ c ∈ cs, c.toNat < 0x80 := by
  induction cs generalizing before with
  | nil => exact List.forall_mem_nil _
  | cons c rest ih =>
      rw [ofChars, List.forall_mem_append] at hsmall
      obtain ⟨hfirst, hmore⟩ := hsmall
      refine List.forall_mem_cons.mpr ⟨?_, ih hmore⟩
      split at hfirst
      case isTrue =>
        -- neither form of the small sigma is a character of ASCII
        obtain ⟨hascii, _⟩ := List.forall_mem_singleton.mp hfirst
        split at hascii <;> exact absurd hascii (by decide)
      case isFalse =>
        obtain ⟨small, hmem⟩ := List.exists_mem_of_ne_nil _ (ofChar_ne_nil c)
        obtain ⟨hascii, hi, hk⟩ := hfirst small hmem
        rcases ascii_of_mem_ofChar hmem hascii with ⟨hplain, _⟩ | ⟨_, hsmall⟩ | ⟨_, hsmall⟩
        · exact hplain
        · exact absurd hsmall hi
        · exact absurd hsmall hk

theorem toNat_lt_of_toLower {c : Char} (hascii : c.toLower.toNat < 0x80) : c.toNat < 0x80 := by
  unfold Char.toLower at hascii
  split at hascii
  case isTrue hcapital =>
    have hle : c.val.toNat ≤ 90 := UInt32.le_iff_toNat_le.mp hcapital.2
    show c.val.toNat < 0x80
    omega
  case isFalse => exact hascii

theorem ofChars_eq_iff {word : List Char}
    (hword : ∀ c ∈ word, c.toNat < 0x80 ∧ c ≠ 'i' ∧ c ≠ 'k') (before cs : List Char) :
    ofChars before cs = word ↔ cs.map Char.toLower = word := by
  constructor
  · rintro rfl
    exact (ofChars_of_ascii (ascii_of_ofChars hword) before).symm
  · rintro rfl
    refine ofChars_of_ascii (fun c hc => ?_) before
    exact toNat_lt_of_toLower (hword c.toLower (List.mem_map_of_mem hc)).1

end LowerCase

end Text

/-! ## Directions -/

namespace Direction

/-- The name of the direction or the first letter of it, in whatever case its letters are. -/
def IsSpelled (direction : Direction) (cs : List Char) : Prop :=
  cs.map Char.toLower = direction.name.toList ∨
    cs.map Char.toLower = direction.name.toList.take 1

variable {direction other : Direction} {cs : List Char}

theorem toList_letter (direction : Direction) :
    direction.letter.toList = direction.name.toList.take 1 := by
  cases direction <;> rfl

theorem plain_of_mem_name (direction : Direction) :
    ∀ c ∈ direction.name.toList, c.toNat < 0x80 ∧ c ≠ 'i' ∧ c ≠ 'k' := by
  have hall : (direction.name.toList.all fun c =>
      decide (c.toNat < 0x80 ∧ c ≠ 'i' ∧ c ≠ 'k')) = true := by
    cases direction <;> decide
  simpa only [List.all_eq_true, decide_eq_true_eq] using hall

theorem head?_name_injective (hhead : direction.name.toList.head? = other.name.toList.head?) :
    direction = other := by
  cases direction <;> cases other <;> first | rfl | exact absurd hhead (by decide)

/-- Directions are told apart by their first letters. -/
theorem IsSpelled.head?_eq (hspelled : direction.IsSpelled cs) :
    (cs.map Char.toLower).head? = direction.name.toList.head? := by
  rcases hspelled with hname | hletter
  · rw [hname]
  · rw [hletter]
    cases direction <;> rfl

theorem IsSpelled.ne_nil (hspelled : direction.IsSpelled cs) : cs ≠ [] := by
  rintro rfl
  have hhead := hspelled.head?_eq
  cases direction <;> exact absurd hhead (by decide)

theorem IsSpelled.not_mem_space (hspelled : direction.IsSpelled cs) : ' ' ∉ cs := by
  intro hspace
  have hsmall : ' ' ∈ cs.map Char.toLower := List.mem_map_of_mem hspace
  have hname : ' ' ∉ direction.name.toList := by cases direction <;> decide
  rcases hspelled with h | h
  · exact hname (h ▸ hsmall)
  · exact hname (List.mem_of_mem_take (h ▸ hsmall))

theorem lowerCase_eq_iff {word : String} :
    (Text.lowerCase word = direction.name ∨ Text.lowerCase word = direction.letter) ↔
      direction.IsSpelled word.toList := by
  have hletter : ∀ c ∈ direction.letter.toList, c.toNat < 0x80 ∧ c ≠ 'i' ∧ c ≠ 'k' := by
    intro c hc
    rw [toList_letter] at hc
    exact direction.plain_of_mem_name c (List.mem_of_mem_take hc)
  rw [IsSpelled, ← Text.LowerCase.ofChars_eq_iff direction.plain_of_mem_name [],
    ← toList_letter, ← Text.LowerCase.ofChars_eq_iff hletter []]
  simp only [Text.lowerCase, ← String.toList_inj, String.toList_ofList]

/-- A word stands for a direction if it is a spelling of it, and no other word does. -/
theorem ofWord?_eq_some_iff {word : String} :
    ofWord? word = some direction ↔ direction.IsSpelled word.toList := by
  have hfound : ∀ found, ofWord? word = some found → found.IsSpelled word.toList := by
    intro found hword
    have hmatch := List.find?_some hword
    rw [Bool.or_eq_true, beq_iff_eq, beq_iff_eq] at hmatch
    exact lowerCase_eq_iff.mp hmatch
  constructor
  · exact hfound direction
  · intro hspelled
    cases hword : ofWord? word with
    | none =>
        have hnone := List.find?_eq_none.mp hword direction (mem_all direction)
        rw [Bool.or_eq_true, beq_iff_eq, beq_iff_eq] at hnone
        exact absurd (lowerCase_eq_iff.mpr hspelled) hnone
    | some found =>
        have hhead := (hfound found hword).head?_eq.symm.trans hspelled.head?_eq
        rw [head?_name_injective hhead]

end Direction

/-! ## Verbs -/

namespace Verb

variable {verb : Verb} {letter : Char}

theorem ofLetter?_eq_some_iff : ofLetter? letter = some verb ↔ letter.toLower = verb.letter := by
  unfold ofLetter?
  constructor
  · intro hfound
    have hmatch := List.find?_some hfound
    exact (beq_iff_eq.mp hmatch).symm
  · intro hletter
    rw [hletter]
    cases verb <;> rfl

theorem ofLetter?_eq_none_iff :
    ofLetter? letter = none ↔ ∀ verb : Verb, letter.toLower ≠ verb.letter := by
  constructor
  · intro hnone verb hletter
    rw [ofLetter?_eq_some_iff.mpr hletter] at hnone
    cases hnone
  · intro hall
    cases hfound : ofLetter? letter with
    | none => rfl
    | some verb => exact absurd (ofLetter?_eq_some_iff.mp hfound) (hall verb)

end Verb

/-! ## What a text means -/

namespace Command

/-- The object of a command, if the command is one that looks at an object and there is one. -/
def object? : Command → Option String
  | go object | take object | examine object | use object | drop object => object
  | help | inventory | look | quit | unknown => none

/-- What a text without blanks around it is read as. -/
inductive Reading (text : List Char) : Command → Prop where
  | direction (direction : Direction) (hspelled : direction.IsSpelled text) :
      Reading text (go (some (.ofList text)))
  | verb (verb : Verb) (first : Char) (object : Option String)
      (hnowhere : ∀ direction : Direction, ¬direction.IsSpelled text)
      (hfirst : text.head? = some first) (hletter : first.toLower = verb.letter)
      (hobject : ∀ typed, object = some typed ↔ Text.HasObject text typed.toList) :
      Reading text (ofVerb verb object)
  | unknown (first : Char)
      (hnowhere : ∀ direction : Direction, ¬direction.IsSpelled text)
      (hfirst : text.head? = some first) (hletter : ∀ verb : Verb, first.toLower ≠ verb.letter) :
      Reading text unknown

/-- A line of a word and an object, with any blanks around the line and around the object. -/
def IsPhrase (line : String) (word object : List Char) : Prop :=
  ∃ front rest back, Text.AllBlank front ∧ Text.AllBlank back ∧
    line.toList = front ++ (word ++ ' ' :: rest) ++ back ∧
    ' ' ∉ word ∧ (∃ first ∈ word.head?, Text.isBlank first = false) ∧
    Text.TrimsTo rest object ∧ object ≠ []

variable {line : String} {text word object : List Char}

/-- Only what is between the blanks of a line counts. -/
theorem parse?_congr {other : String}
    (htrim : Text.trimChars line.toList = Text.trimChars other.toList) :
    parse? line = parse? other := by
  have htext : Text.trim line = Text.trim other := congrArg String.ofList htrim
  rw [parse?, parse?, htext]

theorem ofWord?_eq_none_of (hnowhere : ∀ direction : Direction, ¬direction.IsSpelled text) :
    Direction.ofWord? (.ofList text) = none := by
  cases hword : Direction.ofWord? (.ofList text) with
  | none => rfl
  | some direction =>
      have hspelled := Direction.ofWord?_eq_some_iff.mp hword
      rw [String.toList_ofList] at hspelled
      exact absurd hspelled (hnowhere direction)

theorem parse?_of_reading {command : Command} (htext : Text.TrimsTo line.toList text)
    (hreading : Reading text command) : parse? line = some command := by
  have htrim := Text.trimChars_eq_iff.mpr htext
  cases hreading with
  | direction direction hspelled =>
      have hword : Direction.ofWord? (.ofList text) = some direction :=
        Direction.ofWord?_eq_some_iff.mpr (by rwa [String.toList_ofList])
      obtain ⟨first, rest, rfl⟩ := List.exists_cons_of_ne_nil hspelled.ne_nil
      rw [parse?_of_trimChars htrim, hword]
      rfl
  | verb verb first object hnowhere hfirst hletter hobject =>
      obtain ⟨rest, rfl⟩ := List.head?_eq_some_iff.mp hfirst
      have hafter : Text.afterFirstSpace? (.ofList (first :: rest)) = object := by
        refine Option.ext fun typed => ?_
        rw [Text.afterFirstSpace?_eq_some_iff, String.toList_ofList, hobject typed]
      rw [parse?_of_trimChars htrim, ofWord?_eq_none_of hnowhere,
        Verb.ofLetter?_eq_some_iff.mpr hletter, hafter]
      rfl
  | unknown first hnowhere hfirst hletter =>
      obtain ⟨rest, rfl⟩ := List.head?_eq_some_iff.mp hfirst
      rw [parse?_of_trimChars htrim, ofWord?_eq_none_of hnowhere,
        Verb.ofLetter?_eq_none_iff.mpr hletter]
      rfl

/-- Every text has a reading, unless there is nothing in it. -/
theorem exists_reading (hsome : text ≠ []) : ∃ command, Reading text command := by
  obtain ⟨first, rest, rfl⟩ := List.exists_cons_of_ne_nil hsome
  by_cases hspelled : ∃ direction : Direction, direction.IsSpelled (first :: rest)
  · obtain ⟨direction, hspelled⟩ := hspelled
    exact ⟨_, .direction direction hspelled⟩
  · have hnowhere := not_exists.mp hspelled
    cases hverb : Verb.ofLetter? first with
    | none => exact ⟨_, .unknown first hnowhere rfl (Verb.ofLetter?_eq_none_iff.mp hverb)⟩
    | some verb =>
        refine ⟨_, .verb verb first (Text.afterFirstSpace? (.ofList (first :: rest))) hnowhere rfl
          (Verb.ofLetter?_eq_some_iff.mp hverb) fun typed => ?_⟩
        rw [Text.afterFirstSpace?_eq_some_iff, String.toList_ofList]

theorem parse?_eq_some_iff {command : Command} :
    parse? line = some command ↔
      ∃ text, Text.TrimsTo line.toList text ∧ Reading text command := by
  constructor
  · intro hparse
    have htext : Text.TrimsTo line.toList (Text.trimChars line.toList) :=
      Text.trimChars_eq_iff.mp rfl
    have hsome : Text.trimChars line.toList ≠ [] := by
      intro hnone
      rw [parse?, Text.trim, hnone] at hparse
      cases hparse
    obtain ⟨other, hreading⟩ := exists_reading hsome
    have hother := parse?_of_reading htext hreading
    rw [hparse, Option.some.injEq] at hother
    exact ⟨_, htext, hother ▸ hreading⟩
  · rintro ⟨text, htext, hreading⟩
    exact parse?_of_reading htext hreading

/-! ## Lines of a word and an object -/

/-- Between the blanks around such a line there is a text that begins with the word and has the
object, and no direction has a space in it. -/
theorem IsPhrase.exists_text (hphrase : IsPhrase line word object) :
    ∃ text, Text.TrimsTo line.toList text ∧ text.head? = word.head? ∧
      Text.HasObject text object ∧ ∀ direction : Direction, ¬direction.IsSpelled text := by
  obtain ⟨front, rest, back, hfront, hback, hline, hspace, ⟨first, hhead, hstart⟩, hrest,
    hobject⟩ := hphrase
  obtain ⟨before, after, hbefore, hafter, rfl, hobjectTrimmed⟩ := hrest
  obtain ⟨letters, rfl⟩ := List.head?_eq_some_iff.mp hhead
  obtain ⟨last, hlast⟩ := Option.isSome_iff_exists.mp (List.getLast?_isSome.mpr hobject)
  refine ⟨first :: letters ++ ' ' :: (before ++ object), ?_, rfl, ?_, ?_⟩
  · refine ⟨front, after ++ back, hfront, List.forall_mem_append.mpr ⟨hafter, hback⟩, ?_, ?_⟩
    · rw [hline]
      simp
    · refine Text.isTrimmed_of_ends rfl ?_ hstart (hobjectTrimmed.2 last hlast)
      simp [List.getLast?_append, List.getLast?_cons, hlast]
  · refine ⟨first :: letters, before ++ object, rfl, hspace, ?_, hobject⟩
    exact ⟨before, [], hbefore, List.forall_mem_nil _, by simp, hobjectTrimmed⟩
  · intro direction hspelled
    exact hspelled.not_mem_space (by simp)

theorem parse?_of_isPhrase (hphrase : IsPhrase line word object) {first : Char}
    (hfirst : word.head? = some first) :
    parse? line = some ((Verb.ofLetter? first).elim unknown fun verb =>
      ofVerb verb (some (.ofList object))) := by
  obtain ⟨text, htext, hhead, hobject, hnowhere⟩ := hphrase.exists_text
  refine parse?_of_reading htext ?_
  rw [← hhead] at hfirst
  cases hverb : Verb.ofLetter? first with
  | none => exact .unknown first hnowhere hfirst (Verb.ofLetter?_eq_none_iff.mp hverb)
  | some verb =>
      have hafter : Text.afterFirstSpace? (.ofList text) = some (.ofList object) := by
        rw [Text.afterFirstSpace?_eq_some_iff, String.toList_ofList, String.toList_ofList]
        exact hobject
      have hletter := Verb.ofLetter?_eq_some_iff.mp hverb
      refine .verb verb first _ hnowhere hfirst hletter fun typed => ?_
      rw [← hafter, Text.afterFirstSpace?_eq_some_iff, String.toList_ofList]

/-- The name of a verb and anything after it are read as that verb, with the object trimmed. -/
theorem parse?_name_append (verb : Verb) {object : String}
    (hobject : ¬Text.AllBlank object.toList) :
    parse? (verb.name ++ " " ++ object) = some (ofVerb verb (some (Text.trim object))) := by
  obtain ⟨first, hfirst, hletter⟩ : ∃ first, verb.name.toList.head? = some first ∧
      Verb.ofLetter? first = some verb := by
    cases verb <;> exact ⟨_, rfl, by decide⟩
  have hphrase : IsPhrase (verb.name ++ " " ++ object) verb.name.toList
      (Text.trimChars object.toList) := by
    refine ⟨[], object.toList, [], List.forall_mem_nil _, List.forall_mem_nil _, by simp, ?_, ?_,
      Text.trimChars_eq_iff.mp rfl, mt Text.trimChars_eq_nil_iff.mp hobject⟩
    · cases verb <;> decide
    · cases verb <;> exact ⟨_, rfl, rfl⟩
  rw [parse?_of_isPhrase hphrase hfirst, hletter]
  rfl

/-- A line of a verb and an object is read as that command. -/
theorem parse?_verb (verb : Verb) {object : String} (htrim : Text.trim object = object)
    (hobject : object ≠ "") :
    parse? (verb.name ++ " " ++ object) = some (ofVerb verb (some object)) := by
  have hsome : ¬Text.AllBlank object.toList := by
    intro hblank
    rw [← htrim, Text.trim, Text.trimChars_eq_nil_iff.mpr hblank] at hobject
    exact hobject rfl
  rw [parse?_name_append verb hsome, htrim]

/-! ## The parser is exact -/

/-- The object of a command is what the verb was followed by. -/
theorem eq_of_object?_ofVerb {verb : Verb} {typed : Option String} {object : String}
    (hobject : (ofVerb verb typed).object? = some object) : typed = some object := by
  cases verb with
  | go | take | examine | use | drop => exact hobject
  | help | inventory | look | quit => cases hobject

/-- An object is never empty and has no blanks around it. -/
theorem Reading.isTrimmed_object {command : Command} {object : String}
    (hreading : Reading text command) (htrimmed : Text.IsTrimmed text)
    (hobject : command.object? = some object) :
    object ≠ "" ∧ Text.IsTrimmed object.toList := by
  cases hreading with
  | direction direction hspelled =>
      cases hobject
      rw [String.toList_ofList]
      exact ⟨by simpa using hspelled.ne_nil, htrimmed⟩
  | verb verb first typed hnowhere hfirst hletter htyped =>
      obtain ⟨word, rest, _, _, hrest, hne⟩ := (htyped object).mp (eq_of_object?_ofVerb hobject)
      obtain ⟨_, _, _, _, _, htrimmed⟩ := hrest
      exact ⟨by simpa using hne, htrimmed⟩
  | unknown => cases hobject

theorem isTrimmed_object_of_parse? {command : Command} {object : String}
    (hparse : parse? line = some command) (hobject : command.object? = some object) :
    object ≠ "" ∧ Text.IsTrimmed object.toList := by
  obtain ⟨text, ⟨_, _, _, _, _, htrimmed⟩, hreading⟩ := parse?_eq_some_iff.mp hparse
  exact hreading.isTrimmed_object htrimmed hobject

/-- **Lines are read by their grammar.** A line that is blank is no command, and any other line is
the command that the text between its blanks is to be read as. So blanks around a line do not
matter, no object is empty or has blanks around it, and what is written as a word and an object is
read as the verb of the word and that object. -/
theorem parse?_exact :
    (∀ line : String, parse? line = none ↔ Text.AllBlank line.toList) ∧
    (∀ (line : String) (command : Command), parse? line = some command ↔
      ∃ text, Text.TrimsTo line.toList text ∧ Reading text command) ∧
    (∀ (word : String) (direction : Direction), Direction.ofWord? word = some direction ↔
      direction.IsSpelled word.toList) ∧
    (∀ (line : String) (front back : List Char), Text.AllBlank front → Text.AllBlank back →
      parse? (.ofList (front ++ line.toList ++ back)) = parse? line) ∧
    (∀ (line : String) (command : Command) (object : String), parse? line = some command →
      command.object? = some object → object ≠ "" ∧ Text.IsTrimmed object.toList) ∧
    (∀ (verb : Verb) (word object : String), ' ' ∉ word.toList → Text.IsTrimmed word.toList →
      word.toList.head?.map Char.toLower = some verb.letter →
      Text.IsTrimmed object.toList → object ≠ "" →
      parse? (word ++ " " ++ object) = some (ofVerb verb (some object))) := by
  refine ⟨?_, fun line command => parse?_eq_some_iff,
    fun word direction => Direction.ofWord?_eq_some_iff, ?_,
    fun line command object => isTrimmed_object_of_parse?, ?_⟩
  · intro line
    rw [parse?_eq_none_iff, Text.isBlankText_iff, Text.AllBlank]
  · intro line front back hfront hback
    refine parse?_congr ?_
    rw [String.toList_ofList, Text.trimChars_append hfront hback]
  · intro verb word object hspace hword hletter hobject hsome
    obtain ⟨first, hfirst, hsmall⟩ := Option.map_eq_some_iff.mp hletter
    have hphrase : IsPhrase (word ++ " " ++ object) word.toList object.toList := by
      refine ⟨[], object.toList, [], List.forall_mem_nil _, List.forall_mem_nil _, by simp, hspace,
        ⟨first, hfirst, hword.1 first hfirst⟩, ?_, by simpa using hsome⟩
      exact ⟨[], [], List.forall_mem_nil _, List.forall_mem_nil _, by simp, hobject⟩
    rw [parse?_of_isPhrase hphrase hfirst, Verb.ofLetter?_eq_some_iff.mpr hsmall,
      String.ofList_toList]
    rfl

/-- Any word that begins like the verb will do, in capitals too. -/
theorem parse?_exact_throw :
    parse? ("Throw" ++ " " ++ "pool cue") = some (take (some "pool cue")) := by
  obtain ⟨_, _, _, _, _, hphrase⟩ := parse?_exact
  exact hphrase .take "Throw" "pool cue" (by decide) (Text.isTrimmed_of_ends rfl rfl rfl rfl)
    (by decide) (Text.isTrimmed_of_ends rfl rfl rfl rfl) (by decide)

end Command

end CastleEscape

import CastleEscape.Proofs.Grammar
import CastleEscape.Proofs.Rewording
import CastleEscape.Proofs.ShippedWording

/-!
# Ways to spell a line

Lines that mean the same. How the word before the object is spelled counts for its first letter
only, and the case of ASCII letters counts nowhere: not for the names of items, not for directions
and not for the fireplace. What comes of two such lines is the same, but that what is said back to
the player is what was typed (`Act.retype`, with one lemma for each command). A direction alone on a
line is a move that ends with it.
-/

namespace CastleEscape

/-! ## The case of ASCII letters -/

namespace Text

/-- The texts are the same but for the case of ASCII letters. -/
def SameLetters (cs ds : List Char) : Prop := cs.map Char.toLower = ds.map Char.toLower

namespace LowerCase

theorem isCased_toLower (c : Char) : isCased c.toLower = isCased c :=
  congr_toLower isCased (by decide +kernel) c

theorem isIgnorable_toLower (c : Char) : isIgnorable c.toLower = isIgnorable c :=
  congr_toLower isIgnorable (by decide +kernel) c

theorem ofChar_toLower (c : Char) : ofChar c.toLower = ofChar c :=
  congr_toLower ofChar (by decide +kernel) c

theorem toLower_eq_sigma_iff (c : Char) : c.toLower = 'Σ' ↔ c = 'Σ' := by
  have hsame := congr_toLower (fun c => decide (c = 'Σ')) (by decide +kernel) c
  exact decide_eq_decide.mp hsame

theorem meetsCased_map (cs : List Char) : meetsCased (cs.map Char.toLower) = meetsCased cs := by
  have hdrop : (cs.map Char.toLower).dropWhile isIgnorable =
      (cs.dropWhile isIgnorable).map Char.toLower := by
    rw [List.dropWhile_map]
    congr 2
    funext c
    exact isIgnorable_toLower c
  rw [meetsCased, meetsCased, hdrop]
  cases cs.dropWhile isIgnorable with
  | nil => rfl
  | cons c rest => exact isCased_toLower c

/-- Small letters are the same, whatever case the ASCII letters had: those do not become anything
else, and a sigma has the same letters around it. -/
theorem ofChars_map (before cs : List Char) :
    ofChars (before.map Char.toLower) (cs.map Char.toLower) = ofChars before cs := by
  induction cs generalizing before with
  | nil => rfl
  | cons c rest ih =>
      have hword : endsWord (before.map Char.toLower) (rest.map Char.toLower) =
          endsWord before rest := by
        rw [endsWord, endsWord, meetsCased_map, meetsCased_map]
      rw [List.map_cons, ofChars, ofChars, hword, ofChar_toLower, ← List.map_cons, ih]
      simp only [toLower_eq_sigma_iff]

end LowerCase

theorem SameLetters.lowerCase_eq {s t : String} (hsame : SameLetters s.toList t.toList) :
    lowerCase s = lowerCase t := by
  rw [lowerCase, lowerCase, ← LowerCase.ofChars_map [] s.toList,
    ← LowerCase.ofChars_map [] t.toList, hsame]

theorem lastWordBackwards_map (cs : List Char) :
    lastWordBackwards (cs.map Char.toLower) = (lastWordBackwards cs).map Char.toLower := by
  have hblank : isBlank ∘ Char.toLower = isBlank := funext isBlank_toLower
  have hword : (fun c => !isBlank c) ∘ Char.toLower = fun c => !isBlank c :=
    funext fun c => congrArg not (isBlank_toLower c)
  rw [lastWordBackwards, lastWordBackwards, ← List.map_reverse, List.dropWhile_map, hblank,
    List.takeWhile_map, hword]

/-! ## The last word -/

/-- The text ends with this word, and with any blanks after it. -/
def EndsInWord (cs word : List Char) : Prop :=
  ∃ front back, AllBlank back ∧ cs = front ++ word ++ back ∧ word ≠ [] ∧
    (∀ c ∈ word, isBlank c = false) ∧ ∀ c ∈ front.getLast?, isBlank c = true

theorem EndsInWord.lastWordBackwards_eq {cs word : List Char} (hends : EndsInWord cs word) :
    lastWordBackwards cs = word.reverse := by
  obtain ⟨front, back, hback, rfl, hsome, hword, hfront⟩ := hends
  have hskip : (back.reverse ++ (word.reverse ++ front.reverse)).dropWhile isBlank =
      word.reverse ++ front.reverse := by
    rw [List.dropWhile_append_of_pos fun c hc => hback c (List.mem_reverse.mp hc)]
    obtain ⟨last, letters, hreverse⟩ :=
      List.exists_cons_of_ne_nil (mt List.reverse_eq_nil_iff.mp hsome)
    have hlast : isBlank last = false :=
      hword last (List.mem_reverse.mp (hreverse ▸ List.mem_cons_self))
    rw [hreverse, List.cons_append, List.dropWhile_cons_of_neg (by simp [hlast])]
  have hstop : front.reverse.takeWhile (fun c => !isBlank c) = [] := by
    cases hreverse : front.reverse with
    | nil => rfl
    | cons c rest =>
        have hc : isBlank c = true := by
          refine hfront c ?_
          rw [← List.head?_reverse, hreverse]
          rfl
        simp [hc]
  rw [lastWordBackwards, List.reverse_append, List.reverse_append, hskip,
    List.takeWhile_append_of_pos, hstop, List.append_nil]
  intro c hc
  simpa using hword c (List.mem_reverse.mp hc)

theorem lastWord?_eq (s : String) :
    lastWord? s = if lastWordBackwards s.toList = [] then none
      else some (.ofList (lastWordBackwards s.toList).reverse) := by
  unfold lastWord? lastWordBackwards
  split
  case h_1 hnone => rw [if_pos hnone]
  case h_2 hsome => rw [if_neg hsome]

theorem EndsInWord.lastWord?_eq {s : String} {word : List Char}
    (hends : EndsInWord s.toList word) : lastWord? s = some (.ofList word) := by
  have hsome : word.reverse ≠ [] := by
    obtain ⟨_, _, _, _, hsome, _⟩ := hends
    exact mt List.reverse_eq_nil_iff.mp hsome
  rw [Text.lastWord?_eq, hends.lastWordBackwards_eq, if_neg hsome, List.reverse_reverse]

end Text

/-! ## What is typed is said back -/

/-- The same narration as if this had been typed. -/
def Narration.retype (typed : String) : Narration → Narration
  | echo said _ => echo said typed
  | narration => narration

def Act.retype (act : Act) (typed : String) : Act :=
  { act with speech := act.speech.map (Narration.retype typed) }

def Reaction.retype (typed : String) : Reaction → Reaction
  | .settled world speech => .settled world (speech.map (Narration.retype typed))
  | .asksToQuit => .asksToQuit

namespace World

variable {world : World} {typed other : String}

theorem heading?_congr (hsame : Text.SameLetters typed.toList other.toList) :
    heading? typed = heading? other := by
  have hwords : Text.SameLetters (Text.lastWordBackwards typed.toList)
      (Text.lastWordBackwards other.toList) := by
    rw [Text.SameLetters, ← Text.lastWordBackwards_map, ← Text.lastWordBackwards_map, hsame]
  have hnone : Text.lastWordBackwards typed.toList = [] ↔
      Text.lastWordBackwards other.toList = [] := by
    rw [← List.map_eq_nil_iff, hwords, List.map_eq_nil_iff]
  rw [heading?, heading?, Text.lastWord?_eq, Text.lastWord?_eq]
  by_cases hempty : Text.lastWordBackwards typed.toList = []
  · rw [if_pos hempty, if_pos (hnone.mp hempty)]
  · rw [if_neg hempty, if_neg (mt hnone.mpr hempty), Option.bind_some, Option.bind_some]
    have hlast : Text.lowerCase (.ofList (Text.lastWordBackwards typed.toList).reverse) =
        Text.lowerCase (.ofList (Text.lastWordBackwards other.toList).reverse) := by
      refine Text.SameLetters.lowerCase_eq ?_
      rw [String.toList_ofList, String.toList_ofList, Text.SameLetters, List.map_reverse,
        List.map_reverse, hwords]
    rw [Direction.ofWord?, Direction.ofWord?, hlast]

theorem retype_useItem (world : World) (item : Item) (typed : String) :
    (world.useItem item).retype typed = world.useItem item := by
  unfold useItem
  cases item with
  | key => dsimp only; split <;> rfl
  | knife => dsimp only; split <;> rfl
  | matchbox => dsimp only; split <;> rfl
  | steelBar => dsimp only; split <;> rfl
  | _ => rfl

theorem go_retype (hsame : Text.SameLetters typed.toList other.toList) :
    world.go (some other) = (world.go (some typed)).retype other := by
  unfold go
  rw [Option.bind_some, Option.bind_some, heading?_congr hsame]
  cases heading? other with
  | none => rfl
  | some direction =>
      dsimp only
      cases world.plan.exit? world.room direction with
      | none => rfl
      | some destination =>
          dsimp only
          split
          · cases world.missingCompanion? <;> rfl
          · rfl

section Names

variable (hsame : Text.SameLetters typed.toList other.toList)

include hsame

theorem itemNamed?_eq (wording : Wording) :
    wording.itemNamed? typed = wording.itemNamed? other := by
  rw [Wording.itemNamed?, Wording.itemNamed?, hsame.lowerCase_eq]

/-- Both names are found to be the same item, or both are refused. -/
theorem find_alike (scope : Scope) :
    (∃ item, world.find typed scope = .ok item ∧ world.find other scope = .ok item) ∨
      ∃ error more, world.find typed scope = .error error ∧
        world.find other scope = .error more := by
  unfold find
  rw [itemNamed?_eq hsame]
  cases world.wording.itemNamed? other with
  | none => exact Or.inr ⟨_, _, rfl, rfl⟩
  | some item =>
      dsimp only
      split
      · exact Or.inl ⟨item, rfl, rfl⟩
      · exact Or.inr ⟨_, _, rfl, rfl⟩

theorem take_retype : world.take (some other) = (world.take (some typed)).retype other := by
  unfold take findHere
  rcases world.find_alike hsame (.reachableFrom world.room) with
    ⟨item, htyped, hother⟩ | ⟨_, _, htyped, hother⟩
  · simp only [htyped, hother]
    split
    · rfl
    · cases world.whereabouts.pickUp? item <;> rfl
  · simp only [htyped, hother]
    rfl

theorem drop_retype : world.drop (some other) = (world.drop (some typed)).retype other := by
  unfold drop
  rcases world.find_alike hsame .carried with ⟨item, htyped, hother⟩ | ⟨_, _, htyped, hother⟩
  · simp only [htyped, hother]
    rfl
  · simp only [htyped, hother]
    rfl

theorem examine_retype :
    world.examine (some other) = (world.examine (some typed)).retype other := by
  have hfireplace : world.isFireplaceHere typed = world.isFireplaceHere other := by
    unfold isFireplaceHere Text.sameButAsciiCase
    rw [show typed.toList.map Char.toLower = other.toList.map Char.toLower from hsame]
  unfold examine findHere
  dsimp only
  rw [hfireplace]
  split
  · rfl
  · rcases world.find_alike hsame (.reachableFrom world.room) with
      ⟨item, htyped, hother⟩ | ⟨_, _, htyped, hother⟩
    · simp only [htyped, hother]
      cases item with
      | auntie => cases world.auntieIsTied <;> rfl
      | _ => rfl
    · simp only [htyped, hother]
      rfl

theorem use_retype : world.use (some other) = (world.use (some typed)).retype other := by
  unfold use findHere
  rcases world.find_alike hsame (.reachableFrom world.room) with
    ⟨item, htyped, hother⟩ | ⟨_, _, htyped, hother⟩
  · simp only [htyped, hother]
    exact (world.retype_useItem item other).symm
  · simp only [htyped, hother]
    rfl

end Names

end World

/-! ## The same reaction -/

theorem Act.speech_settle_retype (act : Act) (typed : String) :
    (act.retype typed).settle.2 = act.settle.2.map (Narration.retype typed) := by
  have hhazards : ∀ hazards : List Hazard,
      (hazards.map fun hazard => Narration.hazard hazard.message).map (Narration.retype typed) =
        hazards.map fun hazard => .hazard hazard.message := by
    intro hazards
    rw [List.map_map]
    rfl
  rw [speech_settle_eq, speech_settle_eq, List.map_append]
  show act.speech.map _ ++ (if act.isOver then [] else _) = _
  split
  · rfl
  · rw [hhazards]
    rfl

namespace World

variable {world : World} {typed other : String}

theorem settle_retype (act : Act) (typed : String) :
    respond.settle (act.retype typed) = (respond.settle act).retype typed := by
  have hworld : (act.retype typed).settle.1 = act.settle.1 := Act.settle_congr rfl rfl
  rw [respond.settle, hworld, act.speech_settle_retype]
  rfl

theorem retype_look (world : World) (typed : String) : world.look.retype typed = world.look := by
  unfold look
  cases world.isDark <;> rfl

/-- The command of a verb, for two objects with the same letters. -/
theorem respond_retype (world : World) (hsame : Text.SameLetters typed.toList other.toList)
    (verb : Verb) :
    world.respond (.ofVerb verb (some other)) =
      (world.respond (.ofVerb verb (some typed))).retype other := by
  cases verb with
  | help => exact settle_retype world.showHelp other
  | inventory => exact settle_retype world.listInventory other
  | go => exact (congrArg _ (go_retype hsame)).trans (settle_retype _ other)
  | look => exact (congrArg _ (world.retype_look other).symm).trans (settle_retype _ other)
  | take => exact (congrArg _ (take_retype hsame)).trans (settle_retype _ other)
  | examine => exact (congrArg _ (examine_retype hsame)).trans (settle_retype _ other)
  | use => exact (congrArg _ (use_retype hsame)).trans (settle_retype _ other)
  | drop => exact (congrArg _ (drop_retype hsame)).trans (settle_retype _ other)
  | quit => rfl

/-- Two lines of a word and an object, which begin with the same letter and go on with the same
letters after the space. -/
theorem hear_retype {line more : String} {word letters object objects : List Char}
    (hline : Command.IsPhrase line word object) (hmore : Command.IsPhrase more letters objects)
    (hhead : word.head?.map Char.toLower = letters.head?.map Char.toLower)
    (hsame : Text.SameLetters object objects) :
    world.hear more = (world.hear line).retype (.ofList objects) := by
  obtain ⟨_, _, _, _, _, _, _, ⟨first, hfirst, _⟩, _⟩ := id hline
  obtain ⟨_, _, _, _, _, _, _, ⟨second, hsecond, _⟩, _⟩ := id hmore
  have hverb : Verb.ofLetter? second = Verb.ofLetter? first := by
    rw [hfirst, hsecond, Option.map_some, Option.map_some, Option.some.injEq] at hhead
    rw [Verb.ofLetter?, Verb.ofLetter?, hhead]
  rw [hear, hear, Command.parse?_of_isPhrase hline hfirst, Command.parse?_of_isPhrase hmore hsecond,
    hverb]
  cases Verb.ofLetter? first with
  | none => rfl
  | some verb =>
      refine world.respond_retype ?_ verb
      rw [String.toList_ofList, String.toList_ofList]
      exact hsame

end World

/-! ## Directions alone and at the end of a move -/

namespace Command

/-- Nothing but a direction, with any blanks around it. -/
def IsBareDirection (line : String) (direction : Direction) : Prop :=
  ∃ text, Text.TrimsTo line.toList text ∧ direction.IsSpelled text

/-- A line that begins with a g, and that ends with the direction as a word somewhere after its
first space. -/
def IsMove (line : String) (direction : Direction) : Prop :=
  ∃ first word rest last, line.toList = first :: (word ++ ' ' :: rest) ∧
    (first = 'g' ∨ first = 'G') ∧ ' ' ∉ word ∧ Text.EndsInWord rest last ∧
    direction.IsSpelled last

end Command

theorem Direction.IsSpelled.isBlank_eq_false {direction : Direction} {cs : List Char}
    (hspelled : direction.IsSpelled cs) : ∀ c ∈ cs, Text.isBlank c = false := by
  intro c hc
  have hname : (direction.name.toList.all fun c => !Text.isBlank c) = true := by
    cases direction <;> decide
  have hsmall : c.toLower ∈ cs.map Char.toLower := List.mem_map_of_mem hc
  have hmem : c.toLower ∈ direction.name.toList := by
    rcases hspelled with h | h
    · exact h ▸ hsmall
    · exact List.mem_of_mem_take (h ▸ hsmall)
  rw [← Text.isBlank_toLower]
  simpa using List.all_eq_true.mp hname c.toLower hmem

namespace World

variable {world : World} {direction : Direction} {line : String}

theorem heading?_of_lastWord? {target : String} {last : List Char}
    (hlast : Text.lastWord? target = some (.ofList last)) (hspelled : direction.IsSpelled last) :
    heading? target = some direction := by
  rw [heading?, hlast, Option.bind_some, Direction.ofWord?_eq_some_iff, String.toList_ofList]
  exact hspelled

theorem exists_go_of_isBareDirection (hline : Command.IsBareDirection line direction) :
    ∃ target, Command.parse? line = some (.go (some target)) ∧
      heading? target = some direction := by
  obtain ⟨text, htext, hspelled⟩ := hline
  refine ⟨.ofList text, Command.parse?_of_reading htext (.direction direction hspelled), ?_⟩
  refine heading?_of_lastWord? (Text.EndsInWord.lastWord?_eq ?_) hspelled
  rw [String.toList_ofList]
  exact ⟨[], [], List.forall_mem_nil _, by simp, hspelled.ne_nil, hspelled.isBlank_eq_false,
    fun c hc => nomatch hc⟩

theorem exists_go_of_isMove (hline : Command.IsMove line direction) :
    ∃ target, Command.parse? line = some (.go (some target)) ∧
      heading? target = some direction := by
  obtain ⟨first, word, rest, last, hchars, hfirst, hword, hends, hspelled⟩ := hline
  have hverb : Verb.ofLetter? first = some .go := by
    rcases hfirst with rfl | rfl <;> rfl
  have hstart : Text.isBlank first = false := by
    rcases hfirst with rfl | rfl <;> rfl
  have hspace : ' ' ∉ first :: word := by
    rcases hfirst with rfl | rfl <;> simpa using hword
  have hsome : Text.trimChars rest ≠ [] := by
    intro hnone
    have hbackwards := Text.lastWordBackwards_trimChars rest
    rw [hnone, hends.lastWordBackwards_eq] at hbackwards
    obtain ⟨_, _, _, _, hne, _⟩ := hends
    exact hne (List.reverse_eq_nil_iff.mp hbackwards.symm)
  have hphrase : Command.IsPhrase line (first :: word) (Text.trimChars rest) :=
    ⟨[], rest, [], List.forall_mem_nil _, List.forall_mem_nil _, by simpa using hchars, hspace,
      ⟨first, rfl, hstart⟩, Text.trimChars_eq_iff.mp rfl, hsome⟩
  refine ⟨.ofList (Text.trimChars rest), ?_, heading?_of_lastWord? ?_ hspelled⟩
  · rw [Command.parse?_of_isPhrase hphrase rfl, hverb]
    rfl
  · have htrim := Text.lastWord?_trim (.ofList rest)
    rw [Text.trim, String.toList_ofList] at htrim
    rw [htrim]
    refine Text.EndsInWord.lastWord?_eq ?_
    rw [String.toList_ofList]
    exact hends

/-- A direction on its own and a move that ends with it come to the same. -/
theorem hear_of_isMove (world : World) {other : String}
    (hline : Command.IsBareDirection line direction) (hother : Command.IsMove other direction) :
    world.hear other = world.hear line := by
  obtain ⟨target, hparse, hheading⟩ := exists_go_of_isBareDirection hline
  obtain ⟨goal, hparse', hheading'⟩ := exists_go_of_isMove hother
  have hgo : world.go (some goal) = world.go (some target) := by
    rw [go, go, Option.bind_some, Option.bind_some, hheading, hheading']
  rw [hear, hear, hparse, hparse']
  exact congrArg respond.settle hgo

end World

theorem World.wantsAnswer_congr {world : World} {line other typed : String}
    (hhear : world.hear other = (world.hear line).retype typed) :
    world.wantsAnswer other = world.wantsAnswer line := by
  rw [wantsAnswer, wantsAnswer, hhear]
  cases world.hear line <;> rfl

/-- What becomes of lines that differ in what was typed alone. -/
theorem Scene.exists_hear_eq (scene : Scene) (answer : Event) (reaction : Reaction) :
    ∃ (world : World) (speech : List Narration) (shows : List Display)
      (failure : Option ReadFailure), ∀ line typed, scene.world.hear line = reaction.retype typed →
      scene.hear line answer =
        ⟨⟨world, (if scene.world.wantsAnswer line then [] else scene.waiting) ++
          speech.map (Narration.retype typed)⟩, shows, failure⟩ := by
  cases reaction with
  | settled world speech =>
      refine ⟨world, speech, [], none, fun line typed hhear => ?_⟩
      rw [hear, World.wantsAnswer, hhear]
      rfl
  | asksToQuit =>
      cases hanswer : answer.confirmsQuit with
      | ok confirmed =>
          refine ⟨(scene.world.leave confirmed).settle.1, (scene.world.leave confirmed).settle.2,
            scene.asks, none, fun line typed hhear => ?_⟩
          -- quitting says nothing, and the hazards after it do not say back what was typed
          have hspeech := (scene.world.leave confirmed).speech_settle_retype typed
          rw [hear, World.wantsAnswer, hhear, ← hspeech]
          simp only [Reaction.retype, hanswer]
          rfl
      | error failure =>
          refine ⟨scene.world, [], scene.asks, some failure, fun line typed hhear => ?_⟩
          rw [hear, World.wantsAnswer, hhear]
          simp only [Reaction.retype, hanswer]
          rfl

/-- **It is the same however it is spelled.** Take two lines of a word and an object, where the
words begin with the same letter and the objects have the same letters, whatever their case. They
come to the same world, the same is shown, the same failure comes up, and the same is added to what
waits, but that each line has its own object said back. And a direction on its own comes to just the
same as any line that begins with a g and ends, after a space, with a word for that direction. -/
theorem Scene.hear_spellings (scene : Scene) (answer : Event) :
    (∀ (line other : String) (word letters object objects : List Char),
      Command.IsPhrase line word object → Command.IsPhrase other letters objects →
      word.head?.map Char.toLower = letters.head?.map Char.toLower →
      Text.SameLetters object objects →
      scene.world.wantsAnswer other = scene.world.wantsAnswer line ∧
      ∃ (world : World) (speech : List Narration) (shows : List Display)
        (failure : Option ReadFailure),
        let kept := if scene.world.wantsAnswer line then [] else scene.waiting
        scene.hear line answer =
          ⟨⟨world, kept ++ speech.map (Narration.retype (.ofList object))⟩, shows, failure⟩ ∧
        scene.hear other answer =
          ⟨⟨world, kept ++ speech.map (Narration.retype (.ofList objects))⟩, shows, failure⟩) ∧
    (∀ (line other : String) (direction : Direction),
      Command.IsBareDirection line direction → Command.IsMove other direction →
      scene.world.wantsAnswer other = scene.world.wantsAnswer line ∧
      scene.hear other answer = scene.hear line answer) := by
  constructor
  · intro line other word letters object objects hline hother hhead hsame
    have hself : scene.world.hear line = (scene.world.hear line).retype (.ofList object) :=
      World.hear_retype hline hline rfl rfl
    have hmore : scene.world.hear other = (scene.world.hear line).retype (.ofList objects) :=
      World.hear_retype hline hother hhead hsame
    have hasks := World.wantsAnswer_congr hmore
    obtain ⟨world, speech, shows, failure, hhear⟩ :=
      scene.exists_hear_eq answer (scene.world.hear line)
    refine ⟨hasks, world, speech, shows, failure, hhear line _ hself, ?_⟩
    rw [← hasks]
    exact hhear other _ hmore
  · intro line other direction hline hother
    have hhear := scene.world.hear_of_isMove hline hother
    rw [hear, hear, World.wantsAnswer, World.wantsAnswer, hhear]
    exact ⟨rfl, rfl⟩

/-- Getting rid of the key and going north, each in two spellings. -/
theorem Scene.hear_spellings_atStart :
    ∃ wording, Wording.shipped = .ok wording ∧
      ((Scene.atStart wording).hear " DISCARD  KEY" .endOfInput).scene.world =
        ((Scene.atStart wording).hear "drop key" .endOfInput).scene.world ∧
      (Scene.atStart wording).hear "Go NORTH " .endOfInput =
        (Scene.atStart wording).hear "n" .endOfInput := by
  obtain ⟨wording, hshipped⟩ := Wording.exists_shipped
  have hkey : Text.TrimsTo "key".toList "key".toList :=
    ⟨[], [], List.forall_mem_nil _, List.forall_mem_nil _, rfl,
      Text.isTrimmed_of_ends rfl rfl rfl rfl⟩
  have hKEY : Text.TrimsTo " KEY".toList "KEY".toList :=
    ⟨[' '], [], List.forall_mem_singleton.mpr rfl, List.forall_mem_nil _, rfl,
      Text.isTrimmed_of_ends rfl rfl rfl rfl⟩
  have hdrop : Command.IsPhrase "drop key" "drop".toList "key".toList :=
    ⟨[], "key".toList, [], List.forall_mem_nil _, List.forall_mem_nil _, rfl, by decide,
      ⟨'d', rfl, rfl⟩, hkey, by decide⟩
  have hdiscard : Command.IsPhrase " DISCARD  KEY" "DISCARD".toList "KEY".toList :=
    ⟨[' '], " KEY".toList, [], List.forall_mem_singleton.mpr rfl, List.forall_mem_nil _, rfl,
      by decide, ⟨'D', rfl, rfl⟩, hKEY, by decide⟩
  have hnorth : Command.IsBareDirection "n" .north :=
    ⟨['n'], ⟨[], [], List.forall_mem_nil _, List.forall_mem_nil _, rfl,
      Text.isTrimmed_of_ends rfl rfl rfl rfl⟩, Or.inr rfl⟩
  have hspelled : Direction.north.IsSpelled "NORTH".toList := Or.inl rfl
  have hmove : Command.IsMove "Go NORTH " .north :=
    ⟨'G', ['o'], "NORTH ".toList, "NORTH".toList, rfl, Or.inr rfl, by decide,
      ⟨[], [' '], List.forall_mem_singleton.mpr rfl, rfl, hspelled.ne_nil,
        hspelled.isBlank_eq_false, fun c hc => nomatch hc⟩, hspelled⟩
  obtain ⟨hphrases, hmoves⟩ := (Scene.atStart wording).hear_spellings .endOfInput
  obtain ⟨_, world, speech, shows, failure, hline, hother⟩ :=
    hphrases _ _ _ _ _ _ hdrop hdiscard rfl rfl
  refine ⟨wording, hshipped, ?_, (hmoves _ _ _ hnorth hmove).2⟩
  rw [hline, hother]

end CastleEscape

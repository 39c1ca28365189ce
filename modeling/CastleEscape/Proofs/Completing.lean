import CastleEscape.Completion
import Mathlib.Data.List.DropRight
import Mathlib.Data.String.Basic

/-!
# Completing a word

A place in a line is one at which a character begins or ends (`String.Pos.Raw.IsValid`). At such a
place, and at no other, there is a word to complete, and the line is split around it in one way
(`Word.IsTypedAt`). Terms are sorted before repetitions are dropped, so that each is left once
(`pairwise_terms`). A term completes itself, since it is a single word and in small letters already
(`IsTerm.mem_candidatesFor`); that is why it is offered again once it has been put in.
-/

namespace CastleEscape.Completion

/-! ## Lists without repetitions -/

section Repetitions

variable {α : Type} [BEq α] [LawfulBEq α]

theorem mem_eraseRepsBy_loop {x a : α} {rest kept : List α} :
    x ∈ List.eraseRepsBy.loop (· == ·) a rest kept ↔ x ∈ kept ∨ x = a ∨ x ∈ rest := by
  induction rest generalizing a kept with
  | nil =>
      rw [List.eraseRepsBy.loop, List.mem_reverse, List.mem_cons]
      simp [or_comm]
  | cons b rest ih =>
      rw [List.eraseRepsBy.loop]
      cases hsame : a == b with
      | true =>
          obtain rfl := eq_of_beq hsame
          simp [ih]
      | false =>
          simp only [ih, List.mem_cons]
          tauto

theorem mem_eraseReps {x : α} {list : List α} : x ∈ list.eraseReps ↔ x ∈ list := by
  cases list with
  | nil => rfl
  | cons a rest =>
      rw [List.eraseReps, List.eraseRepsBy, mem_eraseRepsBy_loop, List.mem_cons]
      simp

variable [PartialOrder α]

/-- What has been kept so far ascends to `a`, and from there on nothing is smaller. -/
theorem pairwise_eraseRepsBy_loop {a : α} {rest kept : List α}
    (hkept : (a :: kept).Pairwise (· > ·)) (hrest : (a :: rest).Pairwise (· ≤ ·)) :
    (List.eraseRepsBy.loop (· == ·) a rest kept).Pairwise (· < ·) := by
  induction rest generalizing a kept with
  | nil => exact List.pairwise_reverse.mpr hkept
  | cons b rest ih =>
      rw [List.eraseRepsBy.loop]
      obtain ⟨hfirst, hothers⟩ := List.pairwise_cons.mp hrest
      cases hsame : a == b with
      | true =>
          obtain rfl := eq_of_beq hsame
          exact ih hkept hothers
      | false =>
          have hlt : a < b :=
            lt_of_le_of_ne (hfirst b List.mem_cons_self) (ne_of_beq_false hsame)
          refine ih (List.pairwise_cons.mpr ⟨fun c hc => ?_, hkept⟩) hothers
          rcases List.mem_cons.mp hc with rfl | hc
          · exact hlt
          · exact lt_trans (List.rel_of_pairwise_cons hkept hc) hlt

theorem pairwise_eraseReps {list : List α} (hsorted : list.Pairwise (· ≤ ·)) :
    list.eraseReps.Pairwise (· < ·) := by
  cases list with
  | nil => exact List.Pairwise.nil
  | cons a rest => exact pairwise_eraseRepsBy_loop (List.pairwise_singleton _ _) hsorted

end Repetitions

/-! ## Places -/

variable {line : String} {place : Nat}

theorem utf8ByteSize_ofList_cons (c : Char) (cs : List Char) :
    (String.ofList (c :: cs)).utf8ByteSize = c.utf8Size + (String.ofList cs).utf8ByteSize := by
  rw [String.ofList_cons, String.utf8ByteSize_append, String.utf8ByteSize_singleton]

theorem firstBytes?_cons {seen rest : List Char} {c : Char} {bytes : Nat}
    (hfits : c.utf8Size ≤ bytes) :
    firstBytes? seen bytes (c :: rest) = firstBytes? (c :: seen) (bytes - c.utf8Size) rest := by
  cases bytes with
  | zero => exact absurd hfits (Nat.not_le.mpr c.utf8Size_pos)
  | succ bytes =>
      rw [firstBytes?, if_pos hfits]
      exact Nat.succ_ne_zero bytes

theorem firstBytes?_append (before after seen : List Char) :
    firstBytes? seen (String.ofList before).utf8ByteSize (before ++ after) =
      some (before.reverse ++ seen) := by
  induction before generalizing seen with
  | nil =>
      rw [String.ofList_nil, String.utf8ByteSize_empty, firstBytes?]
      rfl
  | cons c before ih =>
      rw [utf8ByteSize_ofList_cons, List.cons_append, firstBytes?_cons (Nat.le_add_right _ _),
        Nat.add_sub_cancel_left, ih, List.reverse_cons, List.append_assoc, List.singleton_append]

theorem exists_of_firstBytes? {seen cs found : List Char}
    (hfound : firstBytes? seen place cs = some found) :
    ∃ before after, cs = before ++ after ∧ (String.ofList before).utf8ByteSize = place := by
  fun_induction firstBytes? seen place cs with
  | case1 cs => exact ⟨[], cs, rfl, rfl⟩
  | case2 => cases hfound
  | case3 seen bytes c rest hbytes hfits ih =>
      obtain ⟨before, after, rfl, hsize⟩ := ih hfound
      refine ⟨c :: before, after, rfl, ?_⟩
      rw [utf8ByteSize_ofList_cons, hsize, Nat.add_sub_cancel' hfits]
  | case4 => cases hfound

/-! ## Words -/

/-- The word that is being typed at a place, and the line around it. It takes up the bytes from
where it starts to the place, has no blank in it, and comes first in the line or after a blank. -/
structure Word.IsTypedAt (word : Word) (line : String) (place : Nat) (before after : String) :
    Prop where
  line_eq : line = before ++ word.text ++ after
  start_eq : word.start = before.utf8ByteSize
  place_eq : place = word.start + word.text.utf8ByteSize
  unbroken : ∀ c ∈ word.text.toList, Text.isBlank c = false
  setOff : before = "" ∨
    ∃ (front : String) (c : Char), before = front.push c ∧ Text.isBlank c = true

namespace Word.IsTypedAt

variable {word : Word} {before after : String}

theorem isValid_start (htyped : word.IsTypedAt line place before after) :
    String.Pos.Raw.IsValid line ⟨word.start⟩ := by
  refine String.Pos.Raw.isValid_iff_exists_append.mpr ⟨before, word.text ++ after, ?_, ?_⟩
  · rw [htyped.line_eq, String.append_assoc]
  · rw [htyped.start_eq]
    rfl

theorem start_le (htyped : word.IsTypedAt line place before after) : word.start ≤ place :=
  htyped.place_eq ▸ Nat.le_add_right _ _

/-- The word is the line from where it starts to the place. -/
theorem toByteArray_text (htyped : word.IsTypedAt line place before after) :
    word.text.toByteArray = line.toByteArray.extract word.start place := by
  have hskip := ByteArray.extract_append_size_add (a := before.toByteArray)
    (b := word.text.toByteArray ++ after.toByteArray) (i := 0) (j := word.text.utf8ByteSize)
  rw [ByteArray.extract_append_eq_left String.size_toByteArray.symm, Nat.add_zero] at hskip
  rw [htyped.line_eq, htyped.place_eq, htyped.start_eq, String.append_assoc,
    String.toByteArray_append, String.toByteArray_append]
  exact hskip.symm

theorem rtakeWhile_eq (htyped : word.IsTypedAt line place before after) :
    (before.toList ++ word.text.toList).rtakeWhile (fun c => !Text.isBlank c) =
      word.text.toList := by
  have hstop : before.toList.reverse.takeWhile (fun c => !Text.isBlank c) = [] := by
    rcases htyped.setOff with rfl | ⟨front, c, rfl, hblank⟩
    · rfl
    · simp [hblank]
  have hinner : ∀ c ∈ word.text.toList.reverse, (!Text.isBlank c) = true := by
    simpa using htyped.unbroken
  rw [List.rtakeWhile, List.reverse_append, List.takeWhile_append_of_pos hinner, hstop,
    List.append_nil, List.reverse_reverse]

/-- The word that is found is the one that is typed. -/
theorem wordAt?_eq (htyped : word.IsTypedAt line place before after) :
    wordAt? line place = some word := by
  have hchars : line.toList = (before.toList ++ word.text.toList) ++ after.toList := by
    rw [htyped.line_eq, String.toList_append, String.toList_append]
  have hplace : place = (String.ofList (before.toList ++ word.text.toList)).utf8ByteSize := by
    rw [String.ofList_append, String.ofList_toList, String.ofList_toList,
      String.utf8ByteSize_append, ← htyped.start_eq, htyped.place_eq]
  have hbytes : firstBytes? [] place line.toList =
      some (before.toList ++ word.text.toList).reverse := by
    rw [hchars, hplace, firstBytes?_append, List.append_nil]
  rw [wordAt?, hbytes]
  show some _ = some word
  rw [← List.rtakeWhile, htyped.rtakeWhile_eq, String.ofList_toList, htyped.place_eq,
    Nat.add_sub_cancel]

/-- A line is split around the word at a place in one way only. -/
theorem unique {other : Word} {before' after' : String}
    (htyped : word.IsTypedAt line place before after)
    (hother : other.IsTypedAt line place before' after') :
    word = other ∧ before = before' ∧ after = after' := by
  obtain rfl : word = other :=
    Option.some.inj (htyped.wordAt?_eq.symm.trans hother.wordAt?_eq)
  have hsplit : before ++ (word.text ++ after) = before' ++ (word.text ++ after') := by
    rw [← String.append_assoc, ← String.append_assoc, ← htyped.line_eq, ← hother.line_eq]
  have hbefore : before = before' := by
    have hbytes := congrArg String.toByteArray hsplit
    rw [String.toByteArray_append, String.toByteArray_append] at hbytes
    exact String.toByteArray_inj.mp
      (ByteArray.append_inj_left hbytes (htyped.start_eq.symm.trans hother.start_eq))
  obtain rfl := hbefore
  exact ⟨rfl, rfl, (String.append_right_inj _).mp ((String.append_right_inj _).mp hsplit)⟩

end Word.IsTypedAt

/-- Every text ends in a word, if only in one without a letter. -/
theorem exists_lastWord (cs : List Char) :
    ∃ before word, cs = before ++ word ∧ (∀ c ∈ word, Text.isBlank c = false) ∧
      (before = [] ∨ ∃ front c, before = front ++ [c] ∧ Text.isBlank c = true) := by
  induction cs using List.reverseRecOn with
  | nil => exact ⟨[], [], rfl, List.forall_mem_nil _, Or.inl rfl⟩
  | append_singleton cs c ih =>
      cases hblank : Text.isBlank c with
      | true =>
          exact ⟨cs ++ [c], [], (List.append_nil _).symm, List.forall_mem_nil _,
            Or.inr ⟨cs, c, rfl, hblank⟩⟩
      | false =>
          obtain ⟨before, word, rfl, hword, hbefore⟩ := ih
          refine ⟨before, word ++ [c], List.append_assoc _ _ _, ?_, hbefore⟩
          exact List.forall_mem_append.mpr ⟨hword, List.forall_mem_singleton.mpr hblank⟩

/-- Wherever a character begins or ends, a word is being typed. -/
theorem exists_isTypedAt (hplace : String.Pos.Raw.IsValid line ⟨place⟩) :
    ∃ word before after, Word.IsTypedAt word line place before after := by
  obtain ⟨upTo, after, rfl, hupTo⟩ := String.Pos.Raw.isValid_iff_exists_append.mp hplace
  obtain ⟨before, word, hchars, hword, hbefore⟩ := exists_lastWord upTo.toList
  have hsplit : String.ofList before ++ String.ofList word = upTo := by
    rw [← String.ofList_append, ← hchars, String.ofList_toList]
  refine ⟨⟨(String.ofList before).utf8ByteSize, String.ofList word⟩, String.ofList before, after,
    ?_, rfl, ?_, ?_, ?_⟩
  · rw [hsplit]
  · rw [← String.utf8ByteSize_append, hsplit]
    exact congrArg String.Pos.Raw.byteIdx hupTo
  · rwa [String.toList_ofList]
  · rcases hbefore with rfl | ⟨front, c, rfl, hblank⟩
    · exact Or.inl String.ofList_nil
    · refine Or.inr ⟨String.ofList front, c, ?_, hblank⟩
      rw [String.ofList_append, String.push_eq_append, String.singleton_eq_ofList]

theorem wordAt?_eq_none_iff :
    wordAt? line place = none ↔ ¬String.Pos.Raw.IsValid line ⟨place⟩ := by
  constructor
  · intro hnone hplace
    obtain ⟨word, before, after, htyped⟩ := exists_isTypedAt hplace
    rw [htyped.wordAt?_eq] at hnone
    cases hnone
  · intro hinside
    rw [wordAt?]
    cases hbytes : firstBytes? [] place line.toList with
    | none => rfl
    | some found =>
        -- Bytes that can be gone back over are those of whole characters.
        obtain ⟨before, after, hline, hsize⟩ := exists_of_firstBytes? hbytes
        apply absurd _ hinside
        refine String.Pos.Raw.isValid_iff_exists_append.mpr
          ⟨String.ofList before, String.ofList after, ?_, ?_⟩
        · rw [← String.ofList_append, ← hline, String.ofList_toList]
        · rw [← hsize]
          rfl

/-! ## Terms -/

/-- What can be completed: the nine verbs and the six directions. -/
def IsTerm (term : String) : Prop :=
  (∃ verb : Verb, verb.name = term) ∨ ∃ direction : Direction, direction.name = term

theorem mem_terms {term : String} : term ∈ terms ↔ IsTerm term := by
  simp [terms, mem_eraseReps, IsTerm]

theorem pairwise_terms : terms.Pairwise (· < ·) := by
  apply pairwise_eraseReps
  simpa using @List.pairwise_mergeSort String (fun a b => decide (a ≤ b))
    (by simpa using fun _ _ _ => le_trans) (by simpa using le_total)
    (Verb.all.map Verb.name ++ Direction.all.map Direction.name)

namespace IsTerm

variable {term : String}

theorem lowerCase_eq (hterm : IsTerm term) : Text.lowerCase term = term := by
  rcases hterm with ⟨verb, rfl⟩ | ⟨direction, rfl⟩
  · cases verb <;> decide +kernel
  · cases direction <;> decide +kernel

theorem isBlank_eq_false (hterm : IsTerm term) : ∀ c ∈ term.toList, Text.isBlank c = false := by
  -- Said with `all`, so that only the letters of the term are gone through, not every character.
  have hall : (term.toList.all fun c => !Text.isBlank c) = true := by
    rcases hterm with ⟨verb, rfl⟩ | ⟨direction, rfl⟩
    · cases verb <;> decide +kernel
    · cases direction <;> decide +kernel
  simpa using hall

theorem ne_empty (hterm : IsTerm term) : term ≠ "" := by
  rcases hterm with ⟨verb, rfl⟩ | ⟨direction, rfl⟩
  · cases verb <;> decide
  · cases direction <;> decide

end IsTerm

/-! ## Candidates -/

/-- What is offered for a word: nothing if there is no letter of it, and else every term that begins
with it in small letters, in alphabetical order and none twice, listed as it is put in. -/
structure AreCandidatesFor (candidates : List Candidate) (word : String) : Prop where
  eq_nil : word = "" → candidates = []
  mem_iff : word ≠ "" → ∀ candidate, candidate ∈ candidates ↔
    candidate.display = candidate.replacement ∧ IsTerm candidate.replacement ∧
      ∃ ending, candidate.replacement = Text.lowerCase word ++ ending
  ascending : (candidates.map Candidate.replacement).Pairwise (· < ·)

theorem isPrefixOf_iff {front whole : String} :
    front.toList.isPrefixOf whole.toList = true ↔ ∃ ending, whole = front ++ ending := by
  rw [List.isPrefixOf_iff_prefix]
  constructor
  · rintro ⟨ending, hwhole⟩
    refine ⟨String.ofList ending, ?_⟩
    rw [← String.toList_inj, String.toList_append, String.toList_ofList, hwhole]
  · rintro ⟨ending, rfl⟩
    rw [String.toList_append]
    exact List.prefix_append _ _

theorem mem_termsFor {word term : String} : term ∈ termsFor word ↔
    word ≠ "" ∧ IsTerm term ∧ ∃ ending, term = Text.lowerCase word ++ ending := by
  unfold termsFor
  split
  case isTrue hempty => simp [String.isEmpty_iff.mp hempty]
  case isFalse hsome =>
    have hword : word ≠ "" := fun hempty => hsome (String.isEmpty_iff.mpr hempty)
    rw [List.mem_filter, mem_terms, isPrefixOf_iff, and_iff_right hword]

theorem pairwise_termsFor (word : String) : (termsFor word).Pairwise (· < ·) := by
  unfold termsFor
  split
  case isTrue => exact List.Pairwise.nil
  case isFalse => exact pairwise_terms.filter _

theorem mem_candidatesFor {word : String} {candidate : Candidate} :
    candidate ∈ candidatesFor word ↔
      candidate.display = candidate.replacement ∧ candidate.replacement ∈ termsFor word := by
  rw [candidatesFor, List.mem_map]
  constructor
  · rintro ⟨term, hterm, rfl⟩
    exact ⟨rfl, hterm⟩
  · rintro ⟨hshown, hterm⟩
    obtain ⟨display, term⟩ := candidate
    obtain rfl : display = term := hshown
    exact ⟨display, hterm, rfl⟩

theorem map_replacement_candidatesFor (word : String) :
    (candidatesFor word).map Candidate.replacement = termsFor word := by
  rw [candidatesFor, List.map_map]
  exact List.map_id _

theorem areCandidatesFor (word : String) : AreCandidatesFor (candidatesFor word) word where
  eq_nil := by
    rintro rfl
    rfl
  mem_iff := by
    intro hword candidate
    rw [mem_candidatesFor, mem_termsFor, and_iff_right hword]
  ascending := by
    rw [map_replacement_candidatesFor]
    exact pairwise_termsFor word

/-- A term is offered for itself. -/
theorem IsTerm.mem_candidatesFor {term : String} (hterm : IsTerm term) :
    ⟨term, term⟩ ∈ candidatesFor term := by
  refine ((areCandidatesFor term).mem_iff hterm.ne_empty _).mpr ⟨rfl, hterm, "", ?_⟩
  rw [hterm.lowerCase_eq, String.append_empty]

/-! ## Offers -/

/-- A term in the place of a word is a word there. -/
theorem Word.IsTypedAt.replace {word : Word} {before after term : String}
    (htyped : word.IsTypedAt line place before after) (hterm : IsTerm term) :
    Word.IsTypedAt ⟨word.start, term⟩ (before ++ term ++ after)
      (word.start + term.utf8ByteSize) before after where
  line_eq := rfl
  start_eq := htyped.start_eq
  place_eq := rfl
  unbroken := hterm.isBlank_eq_false
  setOff := htyped.setOff

theorem offer?_of_wordAt? {word : Word} (hword : wordAt? line place = some word) :
    offer? line place = some ⟨word.start, candidatesFor word.text⟩ := by
  rw [offer?, hword]
  rfl

/-- Whatever is put in for a word is offered again in its place. -/
theorem exists_offer?_replace {word : Word} {before after : String} {candidate : Candidate}
    (htyped : word.IsTypedAt line place before after)
    (hcandidate : candidate ∈ candidatesFor word.text) :
    ∃ again,
      offer? (before ++ candidate.replacement ++ after)
          (word.start + candidate.replacement.utf8ByteSize) = some again ∧
        again.start = word.start ∧ candidate ∈ again.candidates := by
  obtain ⟨term, hoffered, rfl⟩ := List.mem_map.mp hcandidate
  obtain ⟨-, hterm, -⟩ := mem_termsFor.mp hoffered
  exact ⟨_, offer?_of_wordAt? (htyped.replace hterm).wordAt?_eq, rfl, hterm.mem_candidatesFor⟩

/-- What is offered at a place of a line. Where a character begins or ends, these are the ways to
complete the word that is being typed there, all of them and nothing else; and when one has been put
in for the word, it is offered again at its end, with the same start. Any other place is none, and
nothing is found or offered there. -/
theorem offer?_exact (line : String) (place : Nat) :
    (String.Pos.Raw.IsValid line ⟨place⟩ →
      ∃ word before after, wordAt? line place = some word ∧
        word.IsTypedAt line place before after ∧
        String.Pos.Raw.IsValid line ⟨word.start⟩ ∧ word.start ≤ place ∧
        word.text.toByteArray = line.toByteArray.extract word.start place ∧
        offer? line place = some ⟨word.start, candidatesFor word.text⟩ ∧
        AreCandidatesFor (candidatesFor word.text) word.text ∧
        ∀ candidate ∈ candidatesFor word.text, ∃ again,
          offer? (before ++ candidate.replacement ++ after)
              (word.start + candidate.replacement.utf8ByteSize) = some again ∧
            again.start = word.start ∧ candidate ∈ again.candidates) ∧
    (¬String.Pos.Raw.IsValid line ⟨place⟩ →
      wordAt? line place = none ∧ offer? line place = none) := by
  constructor
  · intro hplace
    obtain ⟨word, before, after, htyped⟩ := exists_isTypedAt hplace
    have hword := htyped.wordAt?_eq
    exact ⟨word, before, after, hword, htyped, htyped.isValid_start, htyped.start_le,
      htyped.toByteArray_text, offer?_of_wordAt? hword, areCandidatesFor word.text,
      fun candidate hcandidate => exists_offer?_replace htyped hcandidate⟩
  · intro hinside
    have hnone := wordAt?_eq_none_iff.mpr hinside
    refine ⟨hnone, ?_⟩
    rw [offer?, hnone]
    rfl

/-- The wide blank takes up three bytes, and the word after it is begun with a capital. -/
theorem offer?_exact_wideBlank :
    String.Pos.Raw.IsValid "go\u3000Dig" ⟨6⟩ ∧ ¬String.Pos.Raw.IsValid "go\u3000Dig" ⟨4⟩ ∧
      ⟨"drop", "drop"⟩ ∈ candidatesFor "D" ∧
      offer? "go\u3000Dig" 6 = some ⟨5, candidatesFor "D"⟩ ∧
      (∃ again, offer? "go\u3000dropig" 9 = some again ∧ again.start = 5 ∧
        ⟨"drop", "drop"⟩ ∈ again.candidates) ∧
      offer? "go\u3000Dig" 4 = none := by
  have hplace : String.Pos.Raw.IsValid "go\u3000Dig" ⟨6⟩ := by decide
  have hinside : ¬String.Pos.Raw.IsValid "go\u3000Dig" ⟨4⟩ := by decide
  have hsplit : Word.IsTypedAt ⟨5, "D"⟩ "go\u3000Dig" 6 "go\u3000" "ig" :=
    { line_eq := by decide
      start_eq := by decide
      place_eq := by decide
      unbroken := List.forall_mem_singleton.mpr rfl
      setOff := Or.inr ⟨"go", '\u3000', by decide, by decide⟩ }
  obtain ⟨word, before, after, -, htyped, -, -, -, hoffer, hcandidates, hagain⟩ :=
    (offer?_exact "go\u3000Dig" 6).1 hplace
  obtain ⟨rfl, rfl, rfl⟩ := htyped.unique hsplit
  have hdrop : ⟨"drop", "drop"⟩ ∈ candidatesFor "D" :=
    (hcandidates.mem_iff (by decide) _).mpr ⟨rfl, Or.inl ⟨.drop, rfl⟩, "rop", by decide +kernel⟩
  exact ⟨hplace, hinside, hdrop, hoffer, hagain _ hdrop,
    ((offer?_exact "go\u3000Dig" 4).2 hinside).2⟩

end CastleEscape.Completion

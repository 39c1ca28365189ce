import CastleEscape.Command
import Mathlib.Data.List.DropRight
import Mathlib.Data.List.TakeWhile

/-!
# What lines are parsed to

What trimming leaves of a line, which lines are blank, and the last word of a line, which is the last
word of its object too.
-/

namespace CastleEscape

namespace Text

/-! ## Trimming -/

theorem trimEndChars_eq_nil_iff {cs : List Char} :
    trimEndChars cs = [] ↔ ∀ c ∈ cs, isBlank c = true := by
  simp [trimEndChars]

theorem trimChars_eq_nil_iff {cs : List Char} :
    trimChars cs = [] ↔ ∀ c ∈ cs, isBlank c = true := by
  rw [trimChars, trimEndChars_eq_nil_iff, trimStartChars]
  constructor
  · intro hrest c hc
    rw [← List.takeWhile_append_dropWhile (p := isBlank) (l := cs), List.mem_append] at hc
    rcases hc with hc | hc
    · exact List.mem_takeWhile_imp hc
    · exact hrest c hc
  · intro hall c hc
    exact hall c ((List.dropWhile_sublist _).mem hc)

/-- Nothing is trimmed from a text whose first and last characters are not blank. -/
theorem trimChars_of_ends {first last : Char} {inner : List Char}
    (hfirst : isBlank first = false) (hlast : isBlank last = false)
    (hends : (first :: inner).getLast? = some last) :
    trimChars (first :: inner) = first :: inner := by
  obtain ⟨front, hfront⟩ := List.getLast?_eq_some_iff.mp hends
  have hstart : trimStartChars (first :: inner) = first :: inner := by
    simp [trimStartChars, hfirst]
  rw [trimChars, hstart, hfront]
  simp [trimEndChars, hlast]

theorem isBlankText_iff {s : String} :
    isBlankText s = true ↔ ∀ c ∈ s.toList, isBlank c = true := by
  simp [isBlankText]

/-! ## The last word -/

/-- The characters of the last word, from the last one back to the first. -/
def lastWordBackwards (cs : List Char) : List Char :=
  (cs.reverse.dropWhile isBlank).takeWhile (fun c => !isBlank c)

theorem lastWord?_congr {s t : String}
    (hsame : lastWordBackwards s.toList = lastWordBackwards t.toList) :
    lastWord? s = lastWord? t := by
  unfold lastWordBackwards at hsame
  rw [lastWord?, lastWord?, hsame]

/-- What stands before a blank has no say in the last word, if there is a word after it. -/
theorem lastWordBackwards_append {front back : List Char} {c : Char} (hblank : isBlank c = true)
    (hword : ∃ c ∈ back, isBlank c = false) :
    lastWordBackwards (front ++ c :: back) = lastWordBackwards back := by
  have hsome : back.reverse.dropWhile isBlank ≠ [] := by
    simpa [List.dropWhile_eq_nil_iff] using hword
  have hstop : (c :: front.reverse).takeWhile (fun c => !isBlank c) = [] := by simp [hblank]
  unfold lastWordBackwards
  rw [List.reverse_append, List.reverse_cons, List.append_assoc, List.singleton_append,
    List.dropWhile_append, if_neg (by simpa using hsome), List.takeWhile_append, hstop,
    List.append_nil]
  split
  case isTrue hlength => exact ((List.takeWhile_prefix _).eq_of_length hlength).symm
  case isFalse => rfl

theorem lastWordBackwards_eq_nil {cs : List Char} (hblank : ∀ c ∈ cs, isBlank c = true) :
    lastWordBackwards cs = [] := by
  have hnone : cs.reverse.dropWhile isBlank = [] := by simpa using hblank
  rw [lastWordBackwards, hnone, List.takeWhile_nil]

theorem lastWordBackwards_trimStartChars (cs : List Char) :
    lastWordBackwards (trimStartChars cs) = lastWordBackwards cs := by
  unfold trimStartChars
  induction cs with
  | nil => rfl
  | cons c rest ih =>
      by_cases hblank : isBlank c = true
      · rw [List.dropWhile_cons_of_pos hblank, ih]
        by_cases hword : ∃ c ∈ rest, isBlank c = false
        · exact (@lastWordBackwards_append [] rest c hblank hword).symm
        · have hrest : ∀ c ∈ rest, isBlank c = true := by simpa using hword
          rw [lastWordBackwards_eq_nil hrest,
            lastWordBackwards_eq_nil (List.forall_mem_cons.mpr ⟨hblank, hrest⟩)]
      · rw [List.dropWhile_cons_of_neg hblank]

theorem lastWordBackwards_trimChars (cs : List Char) :
    lastWordBackwards (trimChars cs) = lastWordBackwards cs := by
  rw [← lastWordBackwards_trimStartChars cs, trimChars, trimEndChars, lastWordBackwards,
    List.reverse_reverse, List.dropWhile_idempotent, lastWordBackwards]

theorem lastWord?_trim (s : String) : lastWord? (trim s) = lastWord? s :=
  lastWord?_congr (by rw [trim, String.toList_ofList, lastWordBackwards_trimChars])

theorem lastWord?_of_afterFirstSpace? {s rest : String} (hrest : afterFirstSpace? s = some rest) :
    lastWord? rest = lastWord? s := by
  unfold afterFirstSpace? at hrest
  have hsplit := List.takeWhile_append_dropWhile (p := (· != ' ')) (l := s.toList)
  have hspace := List.head?_dropWhile_not (· != ' ') s.toList
  cases htail : s.toList.dropWhile (· != ' ') with
  | nil =>
      rw [htail] at hrest
      cases hrest
  | cons c tail =>
      rw [htail, List.drop_one, List.tail_cons] at hrest
      rw [htail] at hsplit hspace
      have hc : c = ' ' := by simpa using hspace
      cases htrim : trimChars tail with
      | nil => simp [htrim] at hrest
      | cons first more =>
          simp only [htrim, Option.some.injEq] at hrest
          have hword : ∃ c ∈ tail, isBlank c = false := by
            by_contra hnone
            have hnil := trimChars_eq_nil_iff.mpr (by simpa using hnone)
            rw [htrim] at hnil
            cases hnil
          refine lastWord?_congr ?_
          rw [← hrest, String.toList_ofList, ← htrim, lastWordBackwards_trimChars, ← hsplit,
            lastWordBackwards_append (by rw [hc]; rfl) hword]

end Text

namespace Command

/-- A line with something on it, in terms of what is left after trimming. -/
theorem parse?_of_trimChars {line : String} {first : Char} {rest : List Char}
    (htrim : Text.trimChars line.toList = first :: rest) :
    parse? line =
      if (Direction.ofWord? (.ofList (first :: rest))).isSome then
        some (go (some (.ofList (first :: rest))))
      else
        some ((Verb.ofLetter? first).elim unknown fun verb =>
          ofVerb verb (Text.afterFirstSpace? (.ofList (first :: rest)))) := by
  simp only [parse?, Text.trim, htrim, String.toList_ofList]
  cases Verb.ofLetter? first <;> rfl

theorem parse?_eq_none_iff {line : String} :
    parse? line = none ↔ Text.isBlankText line = true := by
  rw [Text.isBlankText_iff, ← Text.trimChars_eq_nil_iff]
  cases htrim : Text.trimChars line.toList with
  | nil => simp [parse?, Text.trim, htrim]
  | cons first rest =>
      rw [parse?_of_trimChars htrim]
      simp only [reduceCtorEq, iff_false]
      split <;> simp

/-- The last word of a move is the last word of its line. -/
theorem lastWord?_of_parse?_go {line target : String}
    (hparse : parse? line = some (go (some target))) :
    Text.lastWord? target = Text.lastWord? line := by
  rw [← Text.lastWord?_trim line]
  cases htrim : Text.trimChars line.toList with
  | nil => simp [parse?, Text.trim, htrim] at hparse
  | cons first rest =>
      rw [parse?_of_trimChars htrim] at hparse
      rw [show Text.trim line = .ofList (first :: rest) by rw [Text.trim, htrim]]
      generalize String.ofList (first :: rest) = text at hparse ⊢
      split at hparse
      · cases hparse
        rfl
      · cases hverb : Verb.ofLetter? first with
        | none => simp [hverb] at hparse
        | some verb =>
            rw [hverb, Option.elim_some, Option.some.injEq] at hparse
            cases verb with
            | go => exact Text.lastWord?_of_afterFirstSpace? (go.inj hparse)
            | _ => cases hparse

/-- The name of a direction is a move in that direction. -/
theorem parse?_name (direction : Direction) :
    parse? direction.name = some (go (some direction.name)) := by
  cases direction <;> decide +kernel

end Command

end CastleEscape

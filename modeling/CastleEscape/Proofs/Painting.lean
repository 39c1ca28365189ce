import CastleEscape.Proofs.Encores
import CastleEscape.Proofs.Wrapping
import CastleEscape.Session.Display

/-!
# Painting

What colours add to the output are codes, `Escape.IsCode`, and `Escape.withoutCodes` takes codes
away from wherever they stand. A text is bare if the escape character is not in it: bare text is
wrapped and painted without a look at codes of its own, and taking the codes away afterwards gives
it back. So of displays with nothing but bare text in them, one after the other, the coloured output
is the plain output with codes in it (`Display.withoutCodes_printAll`).

Clearing the screen is a sequence as well, but no code: it is there with colours and without.
-/

namespace CastleEscape

/-! ## Codes and text without them -/

namespace Text.Escape

/-- The escape character and a bracket, digits and semicolons, and an m. -/
def IsCode (code : List Char) : Prop :=
  ∃ numbers, (∀ c ∈ numbers, c.isDigit || c == ';') ∧ code = escape :: '[' :: numbers ++ ['m']

/-- How many characters belong to a code after its bracket. -/
def tailLength? : List Char → Option Nat
  | [] => none
  | c :: rest =>
    if c = 'm' then some 1
    else if c.isDigit || c == ';' then (tailLength? rest).map (· + 1)
    else none

/-- How many characters the code has that a text begins with. -/
def codeLength? : List Char → Option Nat
  | c :: d :: rest => if c = escape ∧ d = '[' then (tailLength? rest).map (· + 2) else none
  | _ => none

/-- What is left without codes once `skip` characters of a code have been passed over. -/
def withoutCodesFrom : Nat → List Char → List Char
  | _, [] => []
  | skip + 1, _ :: rest => withoutCodesFrom skip rest
  | 0, c :: rest =>
    match codeLength? (c :: rest) with
    | some length => withoutCodesFrom (length - 1) rest
    | none => c :: withoutCodesFrom 0 rest

/-- A text without its codes. -/
def withoutCodes (cs : List Char) : List Char := withoutCodesFrom 0 cs

theorem tailLength?_eq_some_iff {cs : List Char} {length : Nat} :
    tailLength? cs = some length ↔ ∃ numbers rest, (∀ c ∈ numbers, c.isDigit || c == ';') ∧
      cs = numbers ++ 'm' :: rest ∧ length = numbers.length + 1 := by
  constructor
  · intro hlength
    induction cs generalizing length with
    | nil => cases hlength
    | cons c cs ih =>
        rw [tailLength?] at hlength
        split at hlength
        case isTrue hm =>
          cases hlength
          exact ⟨[], cs, List.forall_mem_nil _, hm ▸ rfl, rfl⟩
        split at hlength
        case isFalse => cases hlength
        case isTrue hc =>
          obtain ⟨length, htail, rfl⟩ := Option.map_eq_some_iff.mp hlength
          obtain ⟨numbers, rest, hnumbers, rfl, rfl⟩ := ih htail
          exact ⟨c :: numbers, rest, List.forall_mem_cons.mpr ⟨hc, hnumbers⟩, rfl, rfl⟩
  · rintro ⟨numbers, rest, hnumbers, rfl, rfl⟩
    induction numbers with
    | nil => rfl
    | cons c numbers ih =>
        obtain ⟨hc, hnumbers⟩ := List.forall_mem_cons.mp hnumbers
        have hm : c ≠ 'm' := by
          rintro rfl
          revert hc
          decide
        rw [List.cons_append, tailLength?, if_neg hm, if_pos hc, ih hnumbers]
        rfl

/-- It is told exactly where a code begins and how long it is. -/
theorem codeLength?_eq_some_iff {cs : List Char} {length : Nat} :
    codeLength? cs = some length ↔
      ∃ code rest, IsCode code ∧ cs = code ++ rest ∧ length = code.length := by
  constructor
  · intro hlength
    match cs, hlength with
    | c :: d :: cs, hlength =>
        rw [codeLength?] at hlength
        split at hlength
        case isFalse => cases hlength
        case isTrue hopens =>
          obtain ⟨rfl, rfl⟩ := hopens
          obtain ⟨length, htail, rfl⟩ := Option.map_eq_some_iff.mp hlength
          obtain ⟨numbers, rest, hnumbers, rfl, rfl⟩ := tailLength?_eq_some_iff.mp htail
          exact ⟨_, rest, ⟨numbers, hnumbers, rfl⟩, by simp, by simp⟩
  · rintro ⟨_, rest, ⟨numbers, hnumbers, rfl⟩, rfl, rfl⟩
    have htail := tailLength?_eq_some_iff.mpr ⟨numbers, rest, hnumbers, rfl, rfl⟩
    simp [codeLength?, htail]

theorem withoutCodesFrom_append (skipped rest : List Char) :
    withoutCodesFrom skipped.length (skipped ++ rest) = withoutCodes rest := by
  induction skipped with
  | nil => rfl
  | cons c skipped ih => exact ih

theorem withoutCodes_eq (c : Char) (rest : List Char) :
    withoutCodes (c :: rest) = match codeLength? (c :: rest) with
      | some length => withoutCodesFrom (length - 1) rest
      | none => c :: withoutCodes rest := rfl

/-- A code is taken away as a whole. -/
theorem withoutCodes_code_append {code : List Char} (hcode : IsCode code) (rest : List Char) :
    withoutCodes (code ++ rest) = withoutCodes rest := by
  have hlength := codeLength?_eq_some_iff.mpr ⟨code, rest, hcode, rfl, rfl⟩
  obtain ⟨numbers, _, rfl⟩ := hcode
  simp only [List.cons_append] at hlength ⊢
  rw [withoutCodes_eq, hlength]
  exact withoutCodesFrom_append ('[' :: numbers ++ ['m']) rest

/-- Where no code begins, nothing is taken away. -/
theorem withoutCodes_cons {c : Char} {rest : List Char}
    (hnone : ∀ code, IsCode code → ¬code <+: c :: rest) :
    withoutCodes (c :: rest) = c :: withoutCodes rest := by
  have hlength : codeLength? (c :: rest) = none := by
    rw [Option.eq_none_iff_forall_ne_some]
    intro length hlength
    obtain ⟨code, after, hcode, hsplit, _⟩ := codeLength?_eq_some_iff.mp hlength
    exact hnone code hcode (hsplit ▸ List.prefix_append code after)
  rw [withoutCodes_eq, hlength]

theorem withoutCodes_append {text : List Char} (hbare : escape ∉ text) (rest : List Char) :
    withoutCodes (text ++ rest) = text ++ withoutCodes rest := by
  induction text with
  | nil => rfl
  | cons c text ih =>
      rw [List.mem_cons, not_or] at hbare
      rw [List.cons_append, withoutCodes_cons, ih hbare.2]
      · rfl
      · rintro _ ⟨numbers, _, rfl⟩ hprefix
        exact hbare.1 (List.cons_prefix_cons.mp hprefix).1

end Text.Escape

/-! ## Bare text -/

/-- There is no escape character in the text. -/
def Text.IsBare (text : String) : Prop := Escape.escape ∉ text.toList

namespace Text

instance (text : String) : Decidable (IsBare text) :=
  inferInstanceAs (Decidable (Escape.escape ∉ text.toList))

theorem mem_replaceFrom {old new : List Char} {skip : Nat} {cs : List Char} {c : Char}
    (hc : c ∈ replaceFrom old new skip cs) : c ∈ new ∨ c ∈ cs := by
  fun_induction replaceFrom old new skip cs with
  | case1 => cases hc
  | case2 skip d rest ih => exact (ih hc).imp_right (List.mem_cons_of_mem d)
  | case3 d rest hold ih =>
      rcases List.mem_append.mp hc with hnew | hrest
      · exact Or.inl hnew
      · exact (ih hrest).imp_right (List.mem_cons_of_mem d)
  | case4 d rest hold ih =>
      rcases List.mem_cons.mp hc with rfl | hrest
      · exact Or.inr List.mem_cons_self
      · exact (ih hrest).imp_right (List.mem_cons_of_mem d)

/-- Replacing brings in nothing but what it puts in place. -/
theorem mem_replaceAll {text old new : String} {c : Char}
    (hc : c ∈ (replaceAll text old new).toList) : c ∈ new.toList ∨ c ∈ text.toList := by
  rw [replaceAll, String.toList_ofList] at hc
  unfold replaceChars at hc
  split at hc
  · simp only [List.mem_append, List.mem_flatMap, List.mem_cons] at hc
    rcases hc with hnew | ⟨d, hd, rfl | hnew⟩
    · exact Or.inl hnew
    · exact Or.inr hd
    · exact Or.inl hnew
  · exact mem_replaceFrom hc

/-- What begins with a character that is nowhere in the text is not replaced. -/
theorem replaceFrom_of_not_mem {first : Char} {old new cs : List Char} (hfirst : first ∉ cs) :
    replaceFrom (first :: old) new 0 cs = cs := by
  induction cs with
  | nil => rfl
  | cons c cs ih =>
      rw [List.mem_cons, not_or] at hfirst
      have hold : (first :: old).isPrefixOf (c :: cs) = false := by
        rw [List.isPrefixOf_cons_cons, beq_eq_false_iff_ne.mpr hfirst.1, Bool.false_and]
      rw [replaceFrom, hold, ih hfirst.2]
      rfl

theorem IsBare.replaceAll_reset {text : String} (hbare : IsBare text) (new : String) :
    replaceAll text Tone.reset new = text := by
  rw [replaceAll, ← String.toList_inj, String.toList_ofList]
  exact replaceFrom_of_not_mem hbare

theorem IsBare.append {text more : String} (hbare : IsBare text) (hmore : IsBare more) :
    IsBare (text ++ more) := by
  rw [IsBare, String.toList_append, List.mem_append, not_or]
  exact ⟨hbare, hmore⟩

/-- Wrapped bare text is bare. -/
theorem IsBare.fill {text : String} (hbare : IsBare text) : IsBare (Wrap.fill text) :=
  fun hc => hbare (Wrap.mem_fill (by decide) hc)

end Text

/-! ## Painting bare text -/

open Text.Escape (IsCode withoutCodes)

theorem Tone.isCode_opening {tone : Tone} {codes : String} (hcodes : tone.codes? = some codes) :
    IsCode (opening codes).toList := by
  refine ⟨codes.toList, ?_, ?_⟩
  · refine List.all_eq_true.mp ?_
    cases tone <;> cases hcodes <;> decide
  · rw [opening, String.toList_append, String.toList_append]
    rfl

theorem Tone.isCode_reset : IsCode reset.toList :=
  ⟨['0'], List.all_eq_true.mp (by decide), by decide⟩

/-- Painting puts codes around a bare text, and nothing else. -/
theorem Tone.withoutCodes_paint (tone : Tone) {text : String} (hbare : Text.IsBare text)
    (rest : List Char) :
    withoutCodes ((tone.paint true text).toList ++ rest) = text.toList ++ withoutCodes rest := by
  unfold paint
  cases hcodes : tone.codes? with
  | none => exact Text.Escape.withoutCodes_append hbare rest
  | some codes =>
      simp only [if_true, hbare.replaceAll_reset, String.toList_append, List.append_assoc]
      rw [Text.Escape.withoutCodes_code_append (isCode_opening hcodes),
        Text.Escape.withoutCodes_append hbare, Text.Escape.withoutCodes_code_append isCode_reset]

namespace Display

/-- There is no escape character in the text that is displayed. -/
def IsBare : Display → Prop
  | clearScreen => True
  | intro text | prompt text => Text.IsBare text
  | line l => Text.IsBare l.text

/-- Each display is painted by itself. -/
theorem withoutCodes_print {display : Display} (hbare : display.IsBare) (rest : List Char) :
    withoutCodes ((display.print true).toList ++ rest) =
      (display.print false).toList ++ withoutCodes rest := by
  have hfeed : ∀ rest, withoutCodes ("\n".toList ++ rest) = "\n".toList ++ withoutCodes rest :=
    Text.Escape.withoutCodes_append (by decide)
  cases display with
  | clearScreen =>
      have hscreen : "\x1b[2J\x1b[H".toList = ['\x1b', '[', '2', 'J', '\x1b', '[', 'H'] := by decide
      have hletter := Text.Escape.withoutCodes_append (show Text.Escape.escape ∉ ['H'] by decide)
      simp [print, hscreen, Text.Escape.withoutCodes_eq, Text.Escape.codeLength?,
        Text.Escape.tailLength?, ← hletter]
  | intro text =>
      simp only [print, String.toList_append, List.append_assoc, Tone.paint_false]
      rw [Tone.withoutCodes_paint _ hbare, hfeed]
  | prompt text =>
      simp only [print, Tone.paint_false]
      exact Tone.withoutCodes_paint _ hbare rest
  | line l =>
      simp only [print, String.toList_append, List.append_assoc, Tone.paint_false]
      rw [Tone.withoutCodes_paint _ hbare.fill, hfeed]

/-- Without its codes the coloured output is the plain output. -/
theorem withoutCodes_printAll {displays : List Display}
    (hbare : ∀ display ∈ displays, display.IsBare) :
    withoutCodes (printAll true displays).toList = (printAll false displays).toList := by
  induction displays with
  | nil => rfl
  | cons display displays ih =>
      obtain ⟨hdisplay, hdisplays⟩ := List.forall_mem_cons.mp hbare
      have hcons : ∀ colored, (printAll colored (display :: displays)).toList =
          (display.print colored).toList ++ (printAll colored displays).toList := by
        intro colored
        rw [printAll, List.map_cons, String.join_cons, String.toList_append]
        rfl
      rw [hcons, hcons, withoutCodes_print hdisplay, ih hdisplays]

end Display

end CastleEscape

import CastleEscape.Proofs.Wrapping
import Mathlib.Algebra.Ring.Nat

/-!
# Where lines are cut

The parts of a line, one by one. A word begins with a space only at the beginning of the line
(`exists_cons_of_mem_tail_words`), so that at most the first part is without text
(`text_ne_nil_of_mem_tail_parts`). A piece that is too wide for a line is cut into stretches as
long as a line can hold (`Stretches`), so that no part is too wide itself (`columns_of_mem_parts`).
Only such a stretch can end with a space (`exists_of_ends_with_space`).

All of this is about text without the escape character, so that every character is shown.
-/

namespace CastleEscape.Text

/-! ## Columns -/

/-- All characters can be seen or are spaces, and there is nothing beyond ASCII. -/
def IsPrintable (cs : List Char) : Prop := ∀ c ∈ cs, 0x20 ≤ c.toNat ∧ c.toNat < 0x7F

instance (cs : List Char) : Decidable (IsPrintable cs) :=
  List.decidableBAll (fun c : Char => 0x20 ≤ c.toNat ∧ c.toNat < 0x7F) cs

theorem IsPrintable.not_mem {cs : List Char} (hprint : IsPrintable cs) {c : Char}
    (hcontrol : c.toNat < 0x20) : c ∉ cs := fun hc => by
  have hlow := (hprint c hc).1
  omega

theorem Columns.ofChar_le (c : Char) : ofChar c ≤ 3 := by
  unfold ofChar
  repeat' split
  all_goals omega

theorem columns_of_bare {cs : List Char} (hbare : Escape.escape ∉ cs) :
    columns cs = (cs.map Columns.ofChar).sum := by
  rw [columns, Escape.shown_of_not_mem hbare]
  induction cs with
  | nil => rfl
  | cons c cs ih =>
      rw [List.foldr_cons, ih (List.not_mem_of_not_mem_cons hbare), List.map_cons, List.sum_cons]

theorem columns_singleton_le (c : Char) : columns [c] ≤ 3 := by
  by_cases hescape : c = Escape.escape
  · rw [hescape]
    decide
  · rw [columns_of_bare (by simpa using Ne.symm hescape)]
    exact Columns.ofChar_le c

theorem columns_append {cs ds : List Char} (hbare : Escape.escape ∉ cs ++ ds) :
    columns (cs ++ ds) = columns cs + columns ds := by
  rw [List.mem_append, not_or] at hbare
  rw [columns_of_bare hbare.1, columns_of_bare hbare.2, columns_of_bare (by simp [hbare]),
    List.map_append, List.sum_append]

theorem columns_replicate_space (n : Nat) : columns (List.replicate n ' ') = n := by
  have hbare : Escape.escape ∉ List.replicate n ' ' := fun hc => by
    cases List.eq_of_mem_replicate hc
  rw [columns_of_bare hbare, List.map_replicate, List.sum_replicate_nat,
    Columns.ofChar_of_printable (by decide) (by decide), Nat.mul_one]

theorem IsPrintable.columns_eq {cs : List Char} (hprint : IsPrintable cs) :
    columns cs = cs.length := by
  rw [columns_of_bare (hprint.not_mem (by decide))]
  induction cs with
  | nil => rfl
  | cons c cs ih =>
      obtain ⟨hc, hprint⟩ := List.forall_mem_cons.mp hprint
      rw [List.map_cons, List.sum_cons, ih hprint, Columns.ofChar_of_printable hc.1 hc.2,
        List.length_cons, Nat.add_comm]

/-! ## No line is broken before a space -/

namespace LineBreak

open BreakClass

theorem Before.mayBreak_space {before : Before} (hopen : before.last.endsLine = false)
    (rest : List BreakClass) : before.mayBreak space rest = false := by
  simp [mayBreak, hopen]

/-- Whatever came before, a character that does not end the line leaves it open. -/
theorem Before.endsLine_pass (before : Before) {next : BreakClass}
    (hnext : next.endsLine = false) : (before.pass next).last.endsLine = false := by
  unfold pass
  split
  case isTrue hmark =>
    simp only [isMarkedBy, Bool.and_eq_true, Bool.not_eq_true'] at hmark
    exact hmark.1.1.2
  split
  · cases hended : before.last.endsLine with
    | true => rfl
    | false => exact hended
  · show next.asLetter.endsLine = false
    unfold asLetter
    split
    · rfl
    · exact hnext

theorem ne_space_of_mem_placesFrom {before : Before} (hopen : before.last.endsLine = false)
    {classes : List BreakClass} (hclasses : ∀ cls ∈ classes, cls.endsLine = false)
    {cls : BreakClass} (hplace : (cls, true) ∈ classes.zip (placesFrom before classes)) :
    cls ≠ space := by
  induction classes generalizing before with
  | nil => simp at hplace
  | cons next rest ih =>
      obtain ⟨hnext, hrest⟩ := List.forall_mem_cons.mp hclasses
      rw [placesFrom, List.zip_cons_cons, List.mem_cons, Prod.mk.injEq] at hplace
      rcases hplace with ⟨rfl, hbreak⟩ | hplace
      · rintro rfl
        rw [Before.mayBreak_space hopen] at hbreak
        cases hbreak
      · exact ih (before.endsLine_pass hnext) hrest hplace

theorem endsLine_ofChar {c : Char} (hlow : 0x20 ≤ c.toNat) (hhigh : c.toNat < 0x7F) :
    (ofChar c).endsLine = false := by
  have hall : ∀ code < 0x7F, 0x20 ≤ code → (ofAscii (Char.ofNat code)).endsLine = false := by
    decide +kernel
  have hchar := hall c.toNat hhigh hlow
  rw [Char.ofNat_toNat] at hchar
  rw [ofChar, if_pos (by omega)]
  exact hchar

/-- A place where a printable line may be broken is not before a space. -/
theorem ne_space_of_mem_places {line : List Char} (hprint : IsPrintable line) {c : Char}
    (hplace : (c, true) ∈ line.zip (places line)) : c ≠ ' ' := by
  have hclasses : ∀ cls ∈ line.map ofChar, cls.endsLine = false := by
    intro cls hcls
    obtain ⟨d, hd, rfl⟩ := List.mem_map.mp hcls
    exact endsLine_ofChar (hprint d hd).1 (hprint d hd).2
  cases line with
  | nil => simp at hplace
  | cons first rest =>
      obtain ⟨hfirst, hrest⟩ := List.forall_mem_cons.mp hclasses
      rw [places, List.map_cons] at hplace
      simp only [List.zip_cons_cons, List.mem_cons, Prod.mk.injEq, Bool.true_eq_false, and_false,
        false_or] at hplace
      have hopen := Before.start.endsLine_pass hfirst
      have hclass : (ofChar c, true) ∈
          (rest.map ofChar).zip
            (placesFrom (Before.start.pass (ofChar first)) (rest.map ofChar)) := by
        rw [List.zip_map_left, List.mem_map]
        exact ⟨(c, true), hplace, rfl⟩
      rintro rfl
      exact ne_space_of_mem_placesFrom hopen hrest hclass rfl

end LineBreak

namespace Wrap

/-! ## Words -/

theorem prepend_prepend (front text : List Char) (pieces : List (List Char)) :
    prepend front (prepend text pieces) = prepend (front ++ text) pieces := by
  cases pieces <;> simp [prepend]

theorem cutAtPlaces_ne_nil (afterHyphen : Bool) (hidden : List Char) (line : List (Char × Bool))
    (places : List Bool) : cutAtPlaces afterHyphen hidden line places ≠ [] := by
  induction line generalizing hidden with
  | nil => exact List.cons_ne_nil _ _
  | cons marked rest ih =>
      obtain ⟨c, _ | _⟩ := marked
      · exact ih (c :: hidden)
      · simp only [cutAtPlaces]
        split
        · exact List.cons_ne_nil _ _
        · exact prepend_ne_nil _ _

/-- Every piece but the first begins at a place where the line may be broken. -/
theorem exists_place_of_mem_cutAtPlaces {afterHyphen : Bool} {line piece : List Char}
    {places : List Bool}
    (hpiece : piece ∈ (cutAtPlaces afterHyphen [] (line.map (·, true)) places).tail) :
    ∃ c rest, piece = c :: rest ∧ (c, true) ∈ line.zip places := by
  induction line generalizing afterHyphen places with
  | nil => cases hpiece
  | cons c line ih =>
      obtain ⟨first, others, hpieces⟩ := List.exists_cons_of_ne_nil
        (cutAtPlaces_ne_nil (isHyphen c) [] (line.map (·, true)) places.tail)
      have hothers : piece ∈ others →
          ∃ d rest, piece = d :: rest ∧ (d, true) ∈ (c :: line).zip places := by
        intro hmem
        obtain ⟨d, rest, rfl, hplace⟩ :=
          @ih (isHyphen c) places.tail (by rw [hpieces]; exact hmem)
        refine ⟨d, rest, rfl, ?_⟩
        cases places with
        | nil => simp at hplace
        | cons place places => exact List.mem_cons_of_mem _ hplace
      rw [List.map_cons, cutAtPlaces, hpieces] at hpiece
      split at hpiece
      case isTrue hbreak =>
        rcases List.mem_cons.mp hpiece with rfl | hmem
        · refine ⟨c, first, rfl, ?_⟩
          cases places with
          | nil => simp at hbreak
          | cons place places =>
              have hplace : place = true := by simpa using (Bool.and_eq_true_iff.mp hbreak).1
              rw [hplace]
              exact List.mem_cons_self
        · exact hothers hmem
      case isFalse => exact hothers hpiece

/-- Taking the last cut back leaves every piece beginning as it did. -/
theorem exists_prefix_of_mem_joinLast {pieces : List (List Char)} {piece : List Char}
    (hpiece : piece ∈ joinLast pieces) : ∃ begun ∈ pieces, begun <+: piece := by
  fun_induction joinLast pieces with
  | case1 => cases hpiece
  | case2 only => exact ⟨only, List.mem_cons_self, (List.mem_singleton.mp hpiece) ▸ List.prefix_rfl⟩
  | case3 first last =>
      rw [List.mem_singleton.mp hpiece]
      exact ⟨first, List.mem_cons_self, List.prefix_append first last⟩
  | case4 first rest _ _ ih =>
      rcases List.mem_cons.mp hpiece with rfl | hmem
      · exact ⟨piece, List.mem_cons_self, List.prefix_rfl⟩
      · obtain ⟨begun, hbegun, hprefix⟩ := ih hmem
        exact ⟨begun, List.mem_cons_of_mem first hbegun, hprefix⟩

theorem exists_prefix_of_mem_tail_joinLast {pieces : List (List Char)} {piece : List Char}
    (hpiece : piece ∈ (joinLast pieces).tail) : ∃ begun ∈ pieces.tail, begun <+: piece := by
  match pieces with
  | [] => cases hpiece
  | [_] => cases hpiece
  | [_, _] => cases hpiece
  | _ :: second :: third :: rest =>
      exact @exists_prefix_of_mem_joinLast (second :: third :: rest) piece hpiece

/-- Every word of a printable line but the first begins with something else than a space. -/
theorem exists_cons_of_mem_tail_words {line word : List Char} (hprint : IsPrintable line)
    (hword : word ∈ (words line).tail) : ∃ c rest, word = c :: rest ∧ c ≠ ' ' := by
  have hbare := hprint.not_mem (show Escape.escape.toNat < 0x20 by decide)
  have hpieces : ∃ begun ∈ (cutAtPlaces false [] (line.map (·, true))
      (LineBreak.places line)).tail, begun <+: word := by
    simp only [words, Escape.shown_of_not_mem hbare, Escape.mark_of_not_mem hbare] at hword
    split at hword
    · exact exists_prefix_of_mem_tail_joinLast hword
    · exact ⟨word, hword, List.prefix_rfl⟩
  obtain ⟨begun, hbegun, hprefix⟩ := hpieces
  obtain ⟨c, more, rfl, hplace⟩ := exists_place_of_mem_cutAtPlaces hbegun
  obtain ⟨rest, rfl⟩ := hprefix
  exact ⟨c, more ++ rest, rfl, LineBreak.ne_space_of_mem_places hprint hplace⟩

/-! ## Pieces between hyphens -/

/-- A piece of something is something, and ends with a space only if the whole does. -/
theorem piece_of_mem_cutAtHyphens {joined : Bool} {text piece : List Char}
    (hpiece : piece ∈ cutAtHyphens joined text) :
    (text ≠ [] → piece ≠ []) ∧ (piece.getLast? = some ' ' → text.getLast? = some ' ') := by
  induction text generalizing joined piece with
  | nil =>
      rw [List.mem_singleton.mp hpiece]
      exact ⟨fun h => absurd rfl h, id⟩
  | cons c rest ih =>
      cases rest with
      | nil =>
          have honly : piece = [c] := by simpa [cutAtHyphens, prepend] using hpiece
          exact ⟨fun _ => honly ▸ List.cons_ne_nil c [], fun hlast => honly ▸ hlast⟩
      | cons d rest =>
          have hrest : ∀ piece ∈ cutAtHyphens (isAlphanumeric c) (d :: rest), piece ≠ [] ∧
              (piece.getLast? = some ' ' → (c :: d :: rest).getLast? = some ' ') :=
            fun piece hmem =>
              ⟨(ih hmem).1 (List.cons_ne_nil d rest),
                fun hlast => List.getLast?_cons_cons.trans ((ih hmem).2 hlast)⟩
          obtain ⟨first, others, hpieces⟩ :=
            List.exists_cons_of_ne_nil (cutAtHyphens_ne_nil (isAlphanumeric c) (d :: rest))
          rw [hpieces] at hrest
          obtain ⟨hfirst, hothers⟩ := List.forall_mem_cons.mp hrest
          rw [cutAtHyphens, hpieces] at hpiece
          split at hpiece
          case isTrue hhyphen =>
            rcases List.mem_cons.mp hpiece with rfl | hmem
            · refine ⟨fun _ => List.cons_ne_nil c [], fun hlast => ?_⟩
              rw [hhyphen.1] at hlast
              cases hlast
            · exact (hrest piece hmem).imp_left fun hne _ => hne
          case isFalse =>
            rcases List.mem_cons.mp hpiece with rfl | hmem
            · refine ⟨fun _ => List.cons_ne_nil c first, fun hlast => hfirst.2 ?_⟩
              obtain ⟨e, more, rfl⟩ := List.exists_cons_of_ne_nil hfirst.1
              exact List.getLast?_cons_cons.symm.trans hlast
            · exact (hothers piece hmem).imp_left fun hne _ => hne

/-! ## Stretches of the full width -/

/-- A piece is cut into stretches that fit on a line, each as long as it can be. -/
inductive Stretches : List Char → List (List Char) → Prop where
  | last {piece : List Char} (hfits : columns piece ≤ width) : Stretches piece [piece]
  | full {stretch rest : List Char} {next : Char} {stretches : List (List Char)}
      (hfits : columns stretch ≤ width) (hfull : width < columns (stretch ++ [next]))
      (hrest : Stretches (next :: rest) stretches) :
      Stretches (stretch ++ next :: rest) (stretch :: stretches)

theorem stretches_prepend_cutWide {front piece : List Char}
    (hbare : Escape.escape ∉ front ++ piece) (hfits : columns front ≤ width) :
    Stretches (front ++ piece)
      (prepend front (cutWide (columns front) (piece.map (·, true)))) := by
  induction piece generalizing front with
  | nil =>
      rw [List.map_nil, cutWide, prepend, List.append_nil]
      exact .last hfits
  | cons c piece ih =>
      have hbareAll : Escape.escape ∉ (front ++ [c]) ++ piece := by simpa using hbare
      have hbareFront : Escape.escape ∉ front ++ [c] :=
        fun hmem => hbareAll (List.mem_append_left _ hmem)
      have hbareRest : Escape.escape ∉ [c] ++ piece :=
        fun hmem => hbare (List.mem_append_right front hmem)
      have hcolumns := columns_append hbareFront
      have hc : columns [c] = Columns.ofChar c := by
        rw [columns_of_bare fun hmem => hbareRest (List.mem_append_left _ hmem)]
        exact Nat.add_zero _
      have hle := Columns.ofChar_le c
      simp only [List.map_cons, cutWide, true_and, if_true]
      split
      case isTrue hfull =>
        rw [prepend, List.append_nil]
        refine .full hfits (by omega) ?_
        rw [← hc]
        exact ih hbareRest (by unfold width; omega)
      case isFalse hroom =>
        rw [prepend_prepend, List.append_cons front c piece, ← hc, ← hcolumns]
        refine ih hbareAll ?_
        unfold width at hroom hfits ⊢
        omega

theorem stretches_cutWide {piece : List Char} (hbare : Escape.escape ∉ piece) :
    Stretches piece (cutWide 0 (Escape.mark piece)) := by
  have hstretches := @stretches_prepend_cutWide [] piece hbare (Nat.zero_le width)
  rw [Escape.mark_of_not_mem hbare]
  obtain ⟨first, others, hpieces⟩ :=
    List.exists_cons_of_ne_nil (cutWide_ne_nil 0 (piece.map (·, true)))
  rw [show columns [] = 0 from rfl, hpieces] at hstretches
  rwa [hpieces]

theorem Stretches.columns_le {piece : List Char} {stretches : List (List Char)}
    (hcut : Stretches piece stretches) : ∀ stretch ∈ stretches, columns stretch ≤ width := by
  induction hcut with
  | last hfits => exact List.forall_mem_singleton.mpr hfits
  | full hfits _ _ ih => exact List.forall_mem_cons.mpr ⟨hfits, ih⟩

theorem Stretches.ne_nil {piece : List Char} {stretches : List (List Char)}
    (hcut : Stretches piece stretches) (hsome : piece ≠ []) :
    ∀ stretch ∈ stretches, stretch ≠ [] := by
  induction hcut with
  | last => exact List.forall_mem_singleton.mpr hsome
  | full hfits hfull _ ih =>
      refine List.forall_mem_cons.mpr ⟨?_, ih (List.cons_ne_nil _ _)⟩
      rintro rfl
      exact absurd (columns_singleton_le _) (Nat.not_le_of_lt (Nat.lt_trans (by decide) hfull))

/-- A stretch either ends the piece or is as long as it can be. -/
theorem Stretches.ends {piece : List Char} {stretches : List (List Char)}
    (hcut : Stretches piece stretches) :
    ∀ stretch ∈ stretches, stretch <:+ piece ∨
      ∃ next, width < columns (stretch ++ [next]) ∧ stretch ++ [next] <:+: piece := by
  induction hcut with
  | last => exact List.forall_mem_singleton.mpr (Or.inl List.suffix_rfl)
  | @full stretch rest next stretches _ hfull _ ih =>
      refine List.forall_mem_cons.mpr ⟨Or.inr ⟨next, hfull, [], rest, by simp⟩, ?_⟩
      intro other hother
      rcases ih other hother with hends | ⟨d, hwide, hwithin⟩
      · exact Or.inl (hends.trans (List.suffix_append stretch (next :: rest)))
      · have hrest := (List.suffix_append stretch (next :: rest)).isInfix
        exact Or.inr ⟨d, hwide, hwithin.trans hrest⟩

/-! ## Parts -/

theorem getLast?_rdropWhile_ne_space (text : List Char) :
    (text.rdropWhile (· = ' ')).getLast? ≠ some ' ' := by
  intro hlast
  have hsome : text.rdropWhile (· = ' ') ≠ [] := fun hnil => by simp [hnil] at hlast
  have hend := (List.getLast_eq_iff_getLast?_eq_some hsome).mpr hlast
  exact List.rdropWhile_last_not _ _ hsome (decide_eq_true hend)

theorem exists_of_mem_withGap {gap : Nat} {pieces : List (List Char)} {part : Part}
    (hpart : part ∈ withGap gap pieces) :
    part.text ∈ pieces ∧ part.columns = columns part.text := by
  fun_induction withGap gap pieces with
  | case1 => cases hpart
  | case2 piece =>
      rw [List.mem_singleton.mp hpart]
      exact ⟨List.mem_cons_self, rfl⟩
  | case3 piece rest _ ih =>
      rcases List.mem_cons.mp hpart with rfl | hmem
      · exact ⟨List.mem_cons_self, rfl⟩
      · exact (ih hmem).imp_left (List.mem_cons_of_mem piece)

/-- A part is a stretch of a piece of its word. -/
theorem exists_of_mem_partsOfWord {word : List Char} {part : Part}
    (hpart : part ∈ partsOfWord word) :
    part.columns = columns part.text ∧
      ∃ piece ∈ cutAtHyphens false (word.rdropWhile (· = ' ')),
        part.text ∈ cutWide 0 (Escape.mark piece) := by
  obtain ⟨hmem, hcolumns⟩ := exists_of_mem_withGap hpart
  exact ⟨hcolumns, List.mem_flatMap.mp hmem⟩

theorem infix_of_mem_cutAtHyphens {joined : Bool} {text piece : List Char}
    (hpiece : piece ∈ cutAtHyphens joined text) : piece <:+: text := by
  rw [← flatten_cutAtHyphens joined text]
  exact List.infix_of_mem_flatten hpiece

theorem infix_of_mem_words {line word : List Char} (hword : word ∈ words line) :
    word <:+: line := by
  rw [← flatten_words line]
  exact List.infix_of_mem_flatten hword

variable {line : List Char} {part : Part}

/-- A part takes up the columns of its text, and fits on a line. -/
theorem columns_of_mem_parts (hbare : Escape.escape ∉ line) (hpart : part ∈ parts line) :
    part.columns = columns part.text ∧ part.columns ≤ width := by
  obtain ⟨word, hword, hpart⟩ := List.mem_flatMap.mp hpart
  obtain ⟨hcolumns, piece, hpiece, htext⟩ := exists_of_mem_partsOfWord hpart
  have hwithin : piece <:+: line :=
    ((infix_of_mem_cutAtHyphens hpiece).trans (List.rdropWhile_prefix _ word).isInfix).trans
      (infix_of_mem_words hword)
  have hstretches := stretches_cutWide fun hmem => hbare (hwithin.subset hmem)
  exact ⟨hcolumns, hcolumns ▸ hstretches.columns_le part.text htext⟩

theorem text_ne_nil_of_mem_partsOfWord {word : List Char} (hbare : Escape.escape ∉ word)
    (hsome : word.rdropWhile (· = ' ') ≠ []) (hpart : part ∈ partsOfWord word) :
    part.text ≠ [] := by
  obtain ⟨_, piece, hpiece, htext⟩ := exists_of_mem_partsOfWord hpart
  have hwithin : piece <:+: word :=
    (infix_of_mem_cutAtHyphens hpiece).trans (List.rdropWhile_prefix _ word).isInfix
  have hstretches := stretches_cutWide fun hmem => hbare (hwithin.subset hmem)
  exact hstretches.ne_nil ((piece_of_mem_cutAtHyphens hpiece).1 hsome) part.text htext

/-- Every part but the first has text. -/
theorem text_ne_nil_of_mem_tail_parts (hprint : IsPrintable line)
    (hpart : part ∈ (parts line).tail) : part.text ≠ [] := by
  have hbare : ∀ word ∈ words line, Escape.escape ∉ word := fun word hword hmem =>
    hprint.not_mem (by decide) ((infix_of_mem_words hword).subset hmem)
  have hbegin := fun {word : List Char} => @exists_cons_of_mem_tail_words line word hprint
  unfold parts at hpart
  cases hwords : words line with
  | nil =>
      rw [hwords] at hpart
      cases hpart
  | cons first others =>
      rw [hwords] at hpart hbare hbegin
      obtain ⟨hfirst, hothers⟩ := List.forall_mem_cons.mp hbare
      have hcases : part ∈ (partsOfWord first).tail ∨ part ∈ others.flatMap partsOfWord := by
        rw [List.flatMap_cons] at hpart
        cases hparts : partsOfWord first with
        | nil =>
            rw [hparts] at hpart
            exact Or.inr (List.mem_of_mem_tail hpart)
        | cons head rest =>
            rw [hparts] at hpart
            exact List.mem_append.mp hpart
      rcases hcases with hmem | hmem
      · by_cases hblank : first.rdropWhile (· = ' ') = []
        · -- a word of spaces is one part without text
          have hnothing : (first.reverse.dropWhile (· = ' ')).reverse = [] := hblank
          rw [partsOfWord, hnothing] at hmem
          cases hmem
        · exact text_ne_nil_of_mem_partsOfWord hfirst hblank (List.mem_of_mem_tail hmem)
      · obtain ⟨word, hword, hmem⟩ := List.mem_flatMap.mp hmem
        obtain ⟨c, rest, rfl, hc⟩ := hbegin hword
        refine text_ne_nil_of_mem_partsOfWord (hothers _ hword) (fun hblank => hc ?_) hmem
        simpa using List.rdropWhile_eq_nil_iff.mp hblank c List.mem_cons_self

/-- A part that ends with a space is a stretch of the full width, cut out of a word in which
something else comes after it. -/
theorem exists_of_ends_with_space (hprint : IsPrintable line) (hpart : part ∈ parts line)
    (hspace : part.text.getLast? = some ' ') :
    part.text.length = width ∧
      ∃ word ∈ words line, ∃ next, part.text ++ [next] <:+: word.rdropWhile (· = ' ') := by
  obtain ⟨word, hword, hpart⟩ := List.mem_flatMap.mp hpart
  obtain ⟨_, piece, hpiece, htext⟩ := exists_of_mem_partsOfWord hpart
  have hwithin : word.rdropWhile (· = ' ') <:+: line :=
    (List.rdropWhile_prefix _ word).isInfix.trans (infix_of_mem_words hword)
  have hpieceWithin := infix_of_mem_cutAtHyphens hpiece
  have hprintPiece : IsPrintable piece := fun c hc =>
    hprint c (hwithin.subset (hpieceWithin.subset hc))
  have hstretches := stretches_cutWide (hprintPiece.not_mem (by decide))
  rcases hstretches.ends part.text htext with hends | ⟨next, hwide, hstretch⟩
  · -- the end of the piece is the end of the word, which is no space
    have hpieceEnd : piece.getLast? = some ' ' := by
      obtain ⟨front, rfl⟩ := hends
      rw [List.getLast?_append, hspace]
      rfl
    have hwordEnd := (piece_of_mem_cutAtHyphens hpiece).2 hpieceEnd
    exact absurd hwordEnd (getLast?_rdropWhile_ne_space word)
  · have hprintNext : IsPrintable (part.text ++ [next]) := fun c hc =>
      hprintPiece c (hstretch.subset hc)
    have hprintText : IsPrintable part.text := fun c hc =>
      hprintNext c (List.mem_append_left _ hc)
    have hle := hstretches.columns_le part.text htext
    rw [hprintNext.columns_eq, List.length_append, List.length_singleton] at hwide
    rw [hprintText.columns_eq] at hle
    exact ⟨by omega, word, hword, next, hstretch.trans hpieceWithin⟩

end Wrap

end CastleEscape.Text

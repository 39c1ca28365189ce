import CastleEscape.Text.Wrap
import Mathlib.Data.List.DropRight

/-!
# What wrapping keeps

Which of all layouts is the best is a matter of costs, but every layout that is considered has all
the parts in their order (`flatten_wrapParts`), and the parts with the spaces after them are the
line (`flatMap_chars_parts`). So a wrapped line has no character in it that the line has not
(`mem_of_mem_wrapLine`), and nothing but line feeds is ever added (`mem_fill`).
-/

namespace CastleEscape.Text.Wrap

/-! ## The parts of a line -/

/-- A part as it stands in the line, with the spaces after it. -/
def Part.chars (part : Part) : List Char := part.text ++ List.replicate part.gap ' '

theorem prepend_ne_nil (text : List Char) (pieces : List (List Char)) :
    prepend text pieces ≠ [] := by
  cases pieces <;> simp [prepend]

theorem cutAtHyphens_ne_nil (joined : Bool) (text : List Char) : cutAtHyphens joined text ≠ [] := by
  cases text with
  | nil => simp [cutAtHyphens]
  | cons c rest =>
      simp only [cutAtHyphens]
      split
      · exact List.cons_ne_nil _ _
      · exact prepend_ne_nil _ _

theorem flatten_cutAtHyphens (joined : Bool) (text : List Char) :
    (cutAtHyphens joined text).flatten = text := by
  induction text generalizing joined with
  | nil => rfl
  | cons c rest ih =>
      simp only [cutAtHyphens]
      split
      · rw [List.flatten_cons, ih, List.singleton_append]
      · rw [flatten_prepend, ih, List.singleton_append]

theorem cutWide_ne_nil (used : Nat) (piece : List (Char × Bool)) : cutWide used piece ≠ [] := by
  cases piece with
  | nil => simp [cutWide]
  | cons marked rest =>
      obtain ⟨c, isShown⟩ := marked
      simp only [cutWide]
      generalize (if isShown = true then Columns.ofChar c else 0) = taken
      split
      · exact List.cons_ne_nil _ _
      · exact prepend_ne_nil _ _

theorem flatten_cutWide (used : Nat) (piece : List (Char × Bool)) :
    (cutWide used piece).flatten = piece.map (·.1) := by
  induction piece generalizing used with
  | nil => rfl
  | cons marked rest ih =>
      obtain ⟨c, isShown⟩ := marked
      simp only [cutWide]
      generalize (if isShown = true then Columns.ofChar c else 0) = taken
      split
      · simp [flatten_prepend, ih]
      · simp [flatten_prepend, ih]

theorem flatMap_chars_withGap (gap : Nat) {pieces : List (List Char)} (hsome : pieces ≠ []) :
    (withGap gap pieces).flatMap Part.chars = pieces.flatten ++ List.replicate gap ' ' := by
  fun_induction withGap gap pieces with
  | case1 => exact absurd rfl hsome
  | case2 piece => simp [Part.chars, Part.of]
  | case3 piece rest hrest ih =>
      rw [List.flatMap_cons, ih hrest, List.flatten_cons, List.append_assoc]
      simp [Part.chars, Part.of]

/-- The spaces at the end of a text, and the rest of it. -/
theorem rdropWhile_append_spaces (text : List Char) :
    text.rdropWhile (· = ' ') ++
      List.replicate (text.length - (text.rdropWhile (· = ' ')).length) ' ' = text := by
  have hspaces : text.rtakeWhile (· = ' ') =
      List.replicate (text.rtakeWhile (· = ' ')).length ' ' := by
    refine List.eq_replicate_iff.mpr ⟨rfl, fun c hc => ?_⟩
    simpa using List.mem_rtakeWhile_imp hc
  have hsplit : text.rdropWhile (· = ' ') ++ text.rtakeWhile (· = ' ') = text :=
    List.rdropWhile_append_rtakeWhile
  have hlength := congrArg List.length hsplit
  rw [List.length_append] at hlength
  have hgap : text.length - (text.rdropWhile (· = ' ')).length =
      (text.rtakeWhile (· = ' ')).length := by
    omega
  rw [hgap, ← hspaces, hsplit]

theorem flatMap_chars_partsOfWord (word : List Char) :
    (partsOfWord word).flatMap Part.chars = word := by
  have hpieces : ∀ text : List Char,
      (cutAtHyphens false text).flatMap (cutWide 0 ∘ Escape.mark) ≠ [] := by
    intro text hnil
    obtain ⟨piece, hpiece⟩ := List.exists_mem_of_ne_nil _ (cutAtHyphens_ne_nil false text)
    exact cutWide_ne_nil 0 (Escape.mark piece) (List.flatMap_eq_nil_iff.mp hnil piece hpiece)
  have hflatten : ∀ text : List Char,
      ((cutAtHyphens false text).flatMap (cutWide 0 ∘ Escape.mark)).flatten = text := by
    intro text
    rw [List.flatMap_def, List.flatten_flatten, List.map_map]
    have hpiece : List.flatten ∘ cutWide 0 ∘ Escape.mark = id := by
      funext piece
      exact (flatten_cutWide 0 _).trans (Escape.map_fst_mark piece)
    rw [hpiece, List.map_id, flatten_cutAtHyphens]
  rw [partsOfWord, flatMap_chars_withGap _ (hpieces _), hflatten]
  exact rdropWhile_append_spaces word

/-- Nothing of a line is lost between its parts. -/
theorem flatMap_chars_parts (line : List Char) : (parts line).flatMap Part.chars = line := by
  rw [parts, List.flatMap_assoc]
  simp only [flatMap_chars_partsOfWord]
  rw [List.flatMap_id', flatten_words]

/-! ## The lines of a layout -/

/-- All the parts that have been laid out, from the first line to the last. -/
def Layout.parts (layout : Layout) : List Part := layout.lines.reverse.flatten

theorem Layout.parts_below (layout : Layout) (last : Bool) (line : List Part) (columns : Nat) :
    (layout.below last line columns).parts = layout.parts ++ line := by
  simp [below, parts]

/-- In each of these layouts there is everything before the part that it stands with. -/
def Precede (before : Layout) : List (Part × Layout) → Prop
  | [] => True
  | (part, layout) :: earlier => before.parts = layout.parts ++ [part] ∧ Precede layout earlier

/-- However the last line is begun, the same parts are laid out. -/
theorem parts_bestFrom (last : Bool) (limit : Nat) (line : List Part) (columns : Nat)
    {before : Layout} {earlier : List (Part × Layout)} (hearlier : Precede before earlier) :
    (bestFrom last limit line columns before earlier).parts = before.parts ++ line := by
  induction earlier generalizing line columns before with
  | nil => exact before.parts_below last line columns
  | cons entry earlier ih =>
      obtain ⟨part, layout⟩ := entry
      obtain ⟨hbefore, hlayout⟩ := hearlier
      have hlonger := ih (part :: line) (part.columns + part.gap + columns) hlayout
      simp only [bestFrom]
      split
      · exact before.parts_below last line columns
      split
      · rw [hlonger, hbefore, List.append_assoc, List.singleton_append]
      · exact before.parts_below last line columns

theorem parts_layOut (ps : List Part) {before : Layout} {earlier : List (Part × Layout)}
    (hearlier : Precede before earlier) : (layOut before earlier ps).parts = before.parts ++ ps := by
  induction ps generalizing before earlier with
  | nil => exact (List.append_nil _).symm
  | cons part rest ih =>
      have hbest := parts_bestFrom rest.isEmpty
        (before.below rest.isEmpty [part] part.columns).cost [part] part.columns hearlier
      have hnext : Precede _ ((part, before) :: earlier) := ⟨hbest, hearlier⟩
      rw [layOut, ih hnext, hbest, List.append_assoc, List.singleton_append]

/-- No part is lost, added or moved. -/
theorem flatten_wrapParts (ps : List Part) : (wrapParts ps).flatten = ps :=
  parts_layOut ps trivial

/-! ## Lines of text -/

/-- All that a line of text lacks of its parts is the spaces after the last of them. -/
theorem exists_lineText_append (line : List Part) :
    ∃ gap, lineText line ++ List.replicate gap ' ' = line.flatMap Part.chars := by
  fun_induction lineText line with
  | case1 => exact ⟨0, rfl⟩
  | case2 part => exact ⟨part.gap, by simp [Part.chars]⟩
  | case3 part rest _ ih =>
      obtain ⟨gap, hgap⟩ := ih
      refine ⟨gap, ?_⟩
      rw [List.append_assoc, hgap, List.flatMap_cons, Part.chars]

theorem mem_of_mem_wrapLine {line wrapped : List Char} {c : Char}
    (hwrapped : wrapped ∈ wrapLine line) (hc : c ∈ wrapped) : c ∈ line := by
  unfold wrapLine at hwrapped
  split at hwrapped
  · rw [List.mem_singleton] at hwrapped
    subst hwrapped
    exact (List.rdropWhile_prefix _ line).subset hc
  · obtain ⟨row, hrow, rfl⟩ := List.mem_map.mp hwrapped
    obtain ⟨gap, hgap⟩ := exists_lineText_append row
    have hrowChars : c ∈ row.flatMap Part.chars := hgap ▸ List.mem_append_left _ hc
    obtain ⟨part, hpart, hcpart⟩ := List.mem_flatMap.mp hrowChars
    have hparts : part ∈ parts line := by
      rw [← flatten_wrapParts (parts line)]
      exact List.mem_flatten.mpr ⟨row, hrow, hpart⟩
    rw [← flatMap_chars_parts line]
    exact List.mem_flatMap.mpr ⟨part, hparts, hcpart⟩

theorem mem_intercalate_iff {separator c : Char} {pieces : List (List Char)} (hne : c ≠ separator) :
    c ∈ [separator].intercalate pieces ↔ ∃ piece ∈ pieces, c ∈ piece := by
  induction pieces with
  | nil => simp [List.intercalate]
  | cons piece pieces ih =>
      cases pieces with
      | nil => simp
      | cons next rest =>
          rw [List.intercalate_cons_cons, List.mem_append, List.mem_append, ih]
          simp [hne]

/-- Wrapping adds nothing but line feeds. -/
theorem mem_fill {text : String} {c : Char} (hfeed : c ≠ '\n') (hc : c ∈ (fill text).toList) :
    c ∈ text.toList := by
  rw [fill, String.toList_ofList, mem_intercalate_iff hfeed] at hc
  obtain ⟨wrapped, hwrapped, hc⟩ := hc
  obtain ⟨line, hline, hwrapped⟩ := List.mem_flatMap.mp hwrapped
  have hlines : ['\n'].intercalate (text.toList.splitOn '\n') = text.toList :=
    List.intercalate_splitOn '\n'
  rw [← hlines, mem_intercalate_iff hfeed]
  exact ⟨line, hline, mem_of_mem_wrapLine hwrapped hc⟩

end CastleEscape.Text.Wrap

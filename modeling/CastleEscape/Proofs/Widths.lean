import CastleEscape.Proofs.Painting
import CastleEscape.Proofs.Printing

/-!
# How wide printed lines are

A line that is a little too wide only costs something, and so does a line more; the cheapest layout
can have lines that are wider than the terminal. But never by more than five columns: every line of
six columns too many can be cut in two that cost less together (`exists_cut`, `price_cut_lt`), since
no part of it is too wide by itself. So the cheapest layout has no such line
(`columnsOf_le_of_mem_wrapParts`), and that many columns are what its text takes up
(`columns_lineText`).
-/

namespace CastleEscape.Text

/-! ## Columns and bytes -/

theorem Columns.ofChar_le_utf8Size (c : Char) : ofChar c ≤ c.utf8Size := by
  have hpos := c.utf8Size_pos
  have hbeyond : ¬c.toNat < 0x80 → 2 ≤ c.utf8Size := by
    intro hhigh
    simp only [Char.utf8Size]
    split
    case isTrue hlow => exact absurd (Nat.lt_succ_of_le hlow) hhigh
    case isFalse =>
      split
      · exact le_rfl
      split <;> omega
  unfold ofChar
  split
  · exact Nat.zero_le _
  split
  · exact hpos
  case isFalse hhigh =>
    split
    · exact Nat.zero_le _
    split
    · exact hbeyond hhigh
    split
    case isTrue habbreviation =>
      rw [habbreviation]
      decide
    case isFalse => exact hpos

/-- No text is wider than its bytes. -/
theorem columns_le_utf8ByteSize {cs : List Char} (hbare : Escape.escape ∉ cs) :
    columns cs ≤ (String.ofList cs).utf8ByteSize := by
  rw [columns_of_bare hbare]
  clear hbare
  induction cs with
  | nil => exact Nat.zero_le _
  | cons c cs ih =>
      have hc := Columns.ofChar_le_utf8Size c
      rw [List.map_cons, List.sum_cons, String.ofList_cons, String.utf8ByteSize_append,
        String.utf8ByteSize_singleton]
      omega

theorem columns_le_of_prefix {cs ds : List Char} (hbare : Escape.escape ∉ ds)
    (hshorter : cs <+: ds) :
    columns cs ≤ columns ds := by
  obtain ⟨more, rfl⟩ := hshorter
  rw [columns_append hbare]
  exact Nat.le_add_right _ _

namespace Wrap

/-- As many columns as a line has parts for are what its text takes up. -/
theorem columns_lineText {row : List Part} (hbare : Escape.escape ∉ lineText row)
    (hmeasured : ∀ part ∈ row, part.columns = columns part.text) :
    columns (lineText row) = columnsOf row := by
  fun_induction lineText row with
  | case1 => rfl
  | case2 part => exact (hmeasured part List.mem_cons_self).symm
  | case3 part rest hrest ih =>
      have hfront : Escape.escape ∉ part.text ++ List.replicate part.gap ' ' :=
        fun hc => hbare (List.mem_append_left _ hc)
      have hback : Escape.escape ∉ lineText rest := fun hc => hbare (List.mem_append_right _ hc)
      obtain ⟨hpart, hothers⟩ := List.forall_mem_cons.mp hmeasured
      rw [columns_append hbare, columns_append hfront, columns_replicate_space, ← hpart,
        ih hback hothers, columnsOf_cons part hrest]

/-! ## Cutting a line in two -/

/-- How many columns a printed line can have too many. -/
def overhang : Nat := 5

/-- A line with columns to spare for a whole line can be cut where `need` of them are gone. -/
theorem exists_cut {need : Nat} {row : List Part} (hparts : ∀ part ∈ row, part.columns ≤ width)
    (hneed : 0 < need) (hwide : need + width ≤ columnsOf row) :
    ∃ front back gap, row = front ++ back ∧ front ≠ [] ∧ back ≠ [] ∧
      columnsOf row = columnsOf front + gap + columnsOf back ∧
      need ≤ columnsOf front + gap ∧ columnsOf front < need + width := by
  induction row generalizing need with
  | nil => exact absurd hwide (by simp [columnsOf, width])
  | cons part rest ih =>
      obtain ⟨hpart, hothers⟩ := List.forall_mem_cons.mp hparts
      have hrest : rest ≠ [] := by
        rintro rfl
        simp only [columnsOf] at hwide
        omega
      rw [columnsOf_cons part hrest] at hwide ⊢
      by_cases henough : need ≤ part.columns + part.gap
      · exact ⟨[part], rest, part.gap, rfl, List.cons_ne_nil part [], hrest, rfl, henough,
          by simp only [columnsOf]; omega⟩
      · have hmore : 0 < need - (part.columns + part.gap) := by omega
        have hstill : need - (part.columns + part.gap) + width ≤ columnsOf rest := by omega
        obtain ⟨front, back, gap, rfl, hfront, hback, hsame, hless, hroom⟩ :=
          ih hothers hmore hstill
        refine ⟨part :: front, back, gap, rfl, List.cons_ne_nil part front, hback, ?_⟩
        rw [columnsOf_cons part hfront, hsame]
        omega

theorem price_of_wide (last : Bool) {row : List Part} (hwide : width < columnsOf row) :
    price last row = 1000 + 2500 * (columnsOf row - width) := by
  rw [price, lineCost, if_pos hwide, excessCost]

/-- A line that is hardly too wide costs less than three columns too many do. -/
theorem price_le (last : Bool) {row : List Part} (hcolumns : columnsOf row ≤ width + 2) :
    price last row ≤ 7400 := by
  have hroom : (width - columnsOf row) * (width - columnsOf row) ≤ 80 * 80 :=
    Nat.mul_le_mul (Nat.sub_le _ _) (Nat.sub_le _ _)
  unfold price lineCost excessCost
  unfold width at *
  split
  · omega
  split
  · omega
  split <;> omega

/-- Two lines cost less than one with too large an overhang, if at least three of its columns stand
on the first of them, and hardly more than fit. -/
theorem price_cut_lt {row front back : List Part} {gap : Nat} (last : Bool)
    (hwide : width + overhang < columnsOf row)
    (hsame : columnsOf row = columnsOf front + gap + columnsOf back)
    (hless : 3 ≤ columnsOf front + gap) (hroom : columnsOf front ≤ width + 2) :
    price false front + price last back < price last row := by
  have hrow : price last row = _ := price_of_wide last (by omega)
  have hfront := price_le false hroom
  by_cases hback : width < columnsOf back
  · -- three columns less are worth more than any first line
    have hbackPrice := price_of_wide last hback
    omega
  · have hbackPrice : price last back ≤ 7400 := price_le last (by omega)
    unfold width overhang at *
    omega

/-! ## The widest lines of the cheapest layout -/

theorem costOf_append_lt {rows others : List (List Part)} (hrows : rows ≠ [])
    (hothers : others ≠ []) (hless : costOf rows < costOf others) (above : List (List Part)) :
    costOf (above ++ rows) < costOf (above ++ others) := by
  induction above with
  | nil => exact hless
  | cons row above ih =>
      have hrest : (above ++ rows).isEmpty = false := by simp [hrows]
      have hother : (above ++ others).isEmpty = false := by simp [hothers]
      simp only [List.cons_append, costOf, hrest, hother]
      omega

/-- Where no part is too wide, no line of the cheapest layout has more than five columns too
many. -/
theorem columnsOf_le_of_mem_wrapParts {ps : List Part} (hparts : ∀ part ∈ ps, part.columns ≤ width)
    {row : List Part} (hrow : row ∈ wrapParts ps) : columnsOf row ≤ width + overhang := by
  by_contra hwide
  rw [not_le] at hwide
  obtain ⟨above, below, hlines⟩ := List.append_of_mem hrow
  have hflat : (above ++ row :: below).flatten = ps := by rw [← hlines, flatten_wrapParts]
  have hrowParts : ∀ part ∈ row, part.columns ≤ width := fun part hpart =>
    hparts part (hflat ▸ List.mem_flatten.mpr ⟨row, by simp, hpart⟩)
  have hspare : 3 + width ≤ columnsOf row := by
    unfold overhang at hwide
    omega
  obtain ⟨front, back, gap, rfl, hfront, hback, hsame, hless, hroom⟩ :=
    exists_cut hrowParts (by decide) hspare
  have hcheaper : costOf (front :: back :: below) < costOf ((front ++ back) :: below) := by
    have hcut := price_cut_lt below.isEmpty hwide hsame hless (by omega)
    simp only [costOf, List.isEmpty_cons]
    omega
  have hrows : ∀ r ∈ above ++ front :: back :: below, r ≠ [] := by
    have hmem : ∀ r ∈ above ++ (front ++ back) :: below, r ≠ [] := fun r hr =>
      ne_nil_of_mem_wrapParts (hlines ▸ hr)
    simp only [List.forall_mem_append, List.forall_mem_cons] at hmem ⊢
    exact ⟨hmem.1, hfront, hback, hmem.2.2⟩
  have hleast := costOf_wrapParts_le hrows
  rw [show (above ++ front :: back :: below).flatten = ps by simpa using hflat, hlines] at hleast
  have hlt := costOf_append_lt (List.cons_ne_nil _ _) (List.cons_ne_nil _ _) hcheaper above
  omega

/-! ## What becomes of a line -/

/-- What becomes of one line when it is printed, as far as its width goes: either it is short, or it
is laid out as cheaply as its parts can be. -/
structure IsFit (text : List Char) (lines : List (List Char)) : Prop where
  unfed : ∀ line ∈ lines, '\n' ∉ line
  columns_le : ∀ line ∈ lines, columns line ≤ width + overhang
  cheapest : width ≤ (String.ofList text).utf8ByteSize →
    ∃ rows : List (List Part), lines = rows.map lineText ∧ rows.flatten = parts text ∧
      ∀ others : List (List Part), others.flatten = parts text → (∀ row ∈ others, row ≠ []) →
        costOf rows ≤ costOf others

theorem columns_le_of_mem_wrapLine {text line : List Char} (hbare : Escape.escape ∉ text)
    (hline : line ∈ wrapLine text) : columns line ≤ width + overhang := by
  have hlineBare : Escape.escape ∉ line := fun hc => hbare (mem_of_mem_wrapLine hline hc)
  unfold wrapLine at hline
  split at hline
  case isTrue hshort =>
    rw [List.mem_singleton] at hline
    subst hline
    have hshorter := columns_le_of_prefix hbare (List.rdropWhile_prefix (· = ' ') text)
    have hbytes := columns_le_utf8ByteSize hbare
    have htext : columns text ≤ width + overhang := by omega
    exact hshorter.trans htext
  case isFalse =>
    obtain ⟨row, hrow, rfl⟩ := List.mem_map.mp hline
    have hmeasured : ∀ part ∈ row, part.columns = columns part.text := fun part hpart =>
      (columns_of_mem_parts hbare (flatten_wrapParts (parts text) ▸
        List.mem_flatten.mpr ⟨row, hrow, hpart⟩)).1
    rw [columns_lineText hlineBare hmeasured]
    refine columnsOf_le_of_mem_wrapParts (fun part hpart => ?_) hrow
    exact (columns_of_mem_parts hbare hpart).2

theorem isFit_wrapLine {text : List Char} (hbare : Escape.escape ∉ text) (hunfed : '\n' ∉ text) :
    IsFit text (wrapLine text) where
  unfed := fun _ hline hfeed => hunfed (mem_of_mem_wrapLine hline hfeed)
  columns_le := fun _ => columns_le_of_mem_wrapLine hbare
  cheapest := fun hlong => by
    refine ⟨wrapParts (parts text), if_neg (by omega), flatten_wrapParts _,
      fun others hothers hrows => ?_⟩
    rw [← hothers]
    exact costOf_wrapParts_le hrows

theorem bare_of_mem_splitOn {text piece : List Char} (hbare : Escape.escape ∉ text)
    (hpiece : piece ∈ text.splitOn '\n') : Escape.escape ∉ piece := fun hc => by
  have hmem : Escape.escape ∈ ['\n'].intercalate (text.splitOn '\n') :=
    (mem_intercalate_iff (by decide)).mpr ⟨piece, hpiece, hc⟩
  rw [List.intercalate_splitOn] at hmem
  exact hbare hmem

theorem unfed_of_mem_splitOn {text piece : List Char} (hpiece : piece ∈ text.splitOn '\n') :
    '\n' ∉ piece := by
  induction text generalizing piece with
  | nil =>
      rw [List.splitOn_nil, List.mem_singleton] at hpiece
      rw [hpiece]
      exact List.not_mem_nil
  | cons c text ih =>
      rw [List.splitOn_cons_eq_if_modifyHead] at hpiece
      split at hpiece
      · rcases List.mem_cons.mp hpiece with rfl | hmore
        · exact List.not_mem_nil
        · exact ih hmore
      case isFalse hother =>
        obtain ⟨first, rest, hsplit⟩ :=
          List.exists_cons_of_ne_nil (List.splitOn_ne_nil '\n' text)
        rw [hsplit] at hpiece ih
        rcases List.mem_cons.mp hpiece with rfl | hmore
        · rw [List.mem_cons, not_or]
          exact ⟨fun hfeed => hother (beq_iff_eq.mpr hfeed.symm), ih List.mem_cons_self⟩
        · exact ih (List.mem_cons_of_mem first hmore)

end CastleEscape.Text.Wrap

namespace CastleEscape

open Text (IsBare IsPrintable)
open Text.Wrap (IsFit width overhang)

/-- **How wide printed lines are.** If there are no escape characters in what waits to be shown,
every line of it is printed, without colours, as lines that are at most five columns wider than the
terminal: the lines of a layout that no other layout of the same parts is cheaper than. -/
theorem Scene.print_fits (scene : Scene) (hbare : ∀ text ∈ scene.rendered, IsBare text) :
    ∃ printed : List (List (List Char)),
      List.Forall₂ IsFit (scene.rendered.flatMap fun text => text.toList.splitOn '\n') printed ∧
        (Display.printAll false scene.shows).toList = printed.flatten.flatMap (· ++ ['\n']) := by
  refine ⟨(scene.rendered.flatMap fun text => text.toList.splitOn '\n').map Text.Wrap.wrapLine, ?_,
    by rw [Scene.toList_print, ← List.flatMap_def]⟩
  refine List.forall₂_map_right_iff.mpr (List.forall₂_same.mpr fun piece hpiece => ?_)
  obtain ⟨text, htext, hpiece⟩ := List.mem_flatMap.mp hpiece
  exact Text.Wrap.isFit_wrapLine (Text.Wrap.bare_of_mem_splitOn (hbare text htext) hpiece)
    (Text.Wrap.unfed_of_mem_splitOn hpiece)

/-- No layout is cheaper than the one with five columns too many on its first line. -/
theorem Scene.print_fits_overhang :
    ∃ wording, Wording.ofScript? (Script.ofSymbols.rename .soap (.ofList
        ('a' :: List.replicate 81 ' ' ++ 'b' :: List.replicate 10 ' ' ++ List.replicate 80 'c'))) =
          .ok wording ∧
      (∀ text ∈ (Scene.listsSoap wording).rendered, IsBare text) ∧
      (∃ printed : List (List (List Char)),
        List.Forall₂ IsFit ((Scene.listsSoap wording).rendered.flatMap fun text =>
          text.toList.splitOn '\n') printed ∧
        (Display.printAll false (Scene.listsSoap wording).shows).toList =
          printed.flatten.flatMap (· ++ ['\n'])) ∧
      ∃ line ∈ (Display.printAll false (Scene.listsSoap wording).shows).toList.splitOn '\n',
        Text.columns line = width + overhang := by
  obtain ⟨wording, hwording, _, hprint, hprinted⟩ := @Scene.exists_listsSoap
    ('a' :: List.replicate 81 ' ' ++ 'b' :: List.replicate 10 ' ' ++ List.replicate 80 'c')
    (by decide +kernel) (by decide +kernel) (by decide +kernel)
  have hbare : ∀ text ∈ (Scene.listsSoap wording).rendered, IsBare text := fun text htext =>
    (hprint text htext).not_mem (by decide)
  have hlaid : Text.Wrap.wrapLine (' ' :: ' ' ::
      ('a' :: List.replicate 81 ' ' ++ 'b' :: List.replicate 10 ' ' ++ List.replicate 80 'c')) =
        [' ' :: ' ' :: 'a' :: List.replicate 81 ' ' ++ ['b'], List.replicate 80 'c'] := by
    decide +kernel
  refine ⟨wording, hwording, hbare, Scene.print_fits (Scene.listsSoap wording) hbare,
    ' ' :: ' ' :: 'a' :: List.replicate 81 ' ' ++ ['b'], ?_, by decide +kernel⟩
  rw [hprinted, hlaid]
  decide +kernel

/-- A line with one column too many is cheaper than two lines. -/
theorem Scene.prints_wide_line :
    ∃ wording, Wording.ofScript? (Script.ofSymbols.rename .soap (.ofList
        (List.replicate 38 'a' ++ ' ' :: List.replicate 40 'b'))) = .ok wording ∧
      (∀ text ∈ (Scene.listsSoap wording).rendered, IsPrintable text.toList) ∧
      (Display.printAll false (Scene.listsSoap wording).shows).toList =
        "carrying\n".toList ++ "  ".toList ++ List.replicate 38 'a' ++
          ' ' :: List.replicate 40 'b' ++ ['\n'] ∧
      ∃ line ∈ (Display.printAll false (Scene.listsSoap wording).shows).toList.splitOn '\n',
        width < Text.columns line := by
  obtain ⟨wording, hwording, _, hprint, hprinted⟩ := @Scene.exists_listsSoap
    (List.replicate 38 'a' ++ ' ' :: List.replicate 40 'b')
    (by decide +kernel) (by decide +kernel) (by decide +kernel)
  have hwhole : Text.Wrap.wrapLine
      (' ' :: ' ' :: (List.replicate 38 'a' ++ ' ' :: List.replicate 40 'b')) =
        [' ' :: ' ' :: (List.replicate 38 'a' ++ ' ' :: List.replicate 40 'b')] := by
    decide +kernel
  have houtput : (Display.printAll false (Scene.listsSoap wording).shows).toList =
      "carrying\n".toList ++ "  ".toList ++ List.replicate 38 'a' ++
        ' ' :: List.replicate 40 'b' ++ ['\n'] := by
    rw [hprinted, hwhole]
    decide +kernel
  refine ⟨wording, hwording, hprint, houtput,
    ' ' :: ' ' :: (List.replicate 38 'a' ++ ' ' :: List.replicate 40 'b'), ?_, by decide +kernel⟩
  rw [houtput]
  decide +kernel

end CastleEscape

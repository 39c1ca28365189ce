import CastleEscape.Proofs.Cutting
import CastleEscape.Proofs.Encores
import CastleEscape.Proofs.Layouts
import CastleEscape.Proofs.TypedNames

/-!
# What is printed and what is recorded

What waits to be shown is recorded line by line, and printed with every line wrapped by itself. A
line is broken into lines between which nothing is lost but spaces (`BreaksInto`), so that nothing
but spaces and line feeds tells what is printed from what is recorded.

The spaces around a break go, those inside a part stay. So a printed line can end with spaces after
all: where a word that is too wide for the terminal is cut to its width, and there are spaces in the
word. `EndsInStretch` is what is known of such a line.
-/

namespace CastleEscape

namespace Text.Wrap

/-! ## Breaking a line -/

/-- The text is these lines one after the other, with nothing but spaces after each of them. -/
inductive BreaksInto : List Char → List (List Char) → Prop where
  | nil : BreaksInto [] []
  | cons (line : List Char) (gap : Nat) {text : List Char} {lines : List (List Char)}
      (hrest : BreaksInto text lines) :
      BreaksInto (line ++ List.replicate gap ' ' ++ text) (line :: lines)

theorem BreaksInto.filter_flatten {text : List Char} {lines : List (List Char)}
    (hbreaks : BreaksInto text lines) :
    lines.flatten.filter (· ≠ ' ') = text.filter (· ≠ ' ') := by
  induction hbreaks with
  | nil => rfl
  | cons line gap _ ih =>
      have hspaces : (List.replicate gap ' ').filter (· ≠ ' ') = [] := by simp
      rw [List.flatten_cons, List.filter_append, List.filter_append, List.filter_append, hspaces,
        List.append_nil, ih]

theorem breaksInto_of_rows (rows : List (List Part)) :
    BreaksInto (rows.flatten.flatMap Part.chars) (rows.map lineText) := by
  induction rows with
  | nil => exact .nil
  | cons row rows ih =>
      obtain ⟨gap, hgap⟩ := exists_lineText_append row
      rw [List.flatten_cons, List.flatMap_append, ← hgap]
      exact .cons (lineText row) gap ih

/-- Nothing but spaces is lost when a line is wrapped. -/
theorem breaksInto_wrapLine (text : List Char) : BreaksInto text (wrapLine text) := by
  unfold wrapLine
  split
  · have hbreaks := BreaksInto.cons (text.rdropWhile (· = ' '))
      (text.length - (text.rdropWhile (· = ' ')).length) .nil
    rwa [rdropWhile_append_spaces, List.append_nil] at hbreaks
  · have hbreaks := breaksInto_of_rows (wrapParts (parts text))
    rwa [flatten_wrapParts, flatMap_chars_parts] at hbreaks

theorem wrapLine_of_short {text : List Char}
    (hshort : (String.ofList text).utf8ByteSize < width) :
    wrapLine text = [text.rdropWhile (· = ' ')] := if_pos hshort

theorem wrapLine_ne_nil (text : List Char) : wrapLine text ≠ [] := by
  intro hnil
  have hbreaks := breaksInto_wrapLine text
  rw [hnil] at hbreaks
  -- a text that becomes no lines at all is too short for that
  cases hbreaks
  rw [wrapLine_of_short (by decide)] at hnil
  cases hnil

/-! ## The end of a printed line -/

/-- The line ends with a stretch of the full width that stands inside a word of the text, where
something else comes after it. -/
def EndsInStretch (text line : List Char) : Prop :=
  ∃ stretch, stretch.length = width ∧ stretch <:+ line ∧
    ∃ word ∈ words text, ∃ next, stretch ++ [next] <:+: word.rdropWhile (· = ' ')

theorem suffix_lineText {row : List Part} {part : Part} (hlast : row.getLast? = some part) :
    part.text <:+ lineText row := by
  fun_induction lineText row with
  | case1 => cases hlast
  | case2 only =>
      cases hlast
      exact List.suffix_rfl
  | case3 first rest hrest ih =>
      obtain ⟨next, more, rfl⟩ := List.exists_cons_of_ne_nil hrest
      exact (ih hlast).trans (List.suffix_append _ _)

theorem eq_singleton_or_mem_tail {row : List Part} {part : Part}
    (hlast : row.getLast? = some part) : row = [part] ∨ part ∈ row.tail := by
  match row, hlast with
  | [only], hlast => exact Or.inl (congrArg (fun p => [p]) (Option.some.inj hlast))
  | _ :: next :: rest, hlast =>
      exact Or.inr (List.mem_of_getLast? (List.getLast?_cons_cons.symm.trans hlast))

/-- What is not the first part of its line is not the first of all. -/
theorem mem_tail_flatten {rows : List (List Part)} (hrows : ∀ row ∈ rows, row ≠ [])
    {row : List Part} (hrow : row ∈ rows) {part : Part} (hpart : part ∈ row.tail) :
    part ∈ rows.flatten.tail := by
  obtain ⟨before, after, rfl⟩ := List.append_of_mem hrow
  rw [List.flatten_append, List.flatten_cons]
  cases before with
  | nil =>
      obtain ⟨first, rest, rfl⟩ := List.exists_cons_of_ne_nil (hrows row hrow)
      exact List.mem_append_left _ hpart
  | cons top before =>
      obtain ⟨first, rest, rfl⟩ := List.exists_cons_of_ne_nil (hrows top List.mem_cons_self)
      have hmem := List.mem_append_left after.flatten (List.mem_of_mem_tail hpart)
      exact List.mem_append_right (rest ++ before.flatten) hmem

/-- A printed line has spaces at its end only where a word was cut to the full width. -/
theorem endsInStretch_of_mem_wrapLine {text line : List Char} (hprint : IsPrintable text)
    (hline : line ∈ wrapLine text) (hspace : line.getLast? = some ' ') :
    EndsInStretch text line := by
  unfold wrapLine at hline
  split at hline
  · rw [List.mem_singleton.mp hline] at hspace
    exact absurd hspace (getLast?_rdropWhile_ne_space text)
  · obtain ⟨row, hrow, rfl⟩ := List.mem_map.mp hline
    obtain ⟨part, hlast⟩ : ∃ part, row.getLast? = some part :=
      Option.isSome_iff_exists.mp (List.getLast?_isSome.mpr (ne_nil_of_mem_wrapParts hrow))
    have hmem : part ∈ parts text := by
      rw [← flatten_wrapParts (parts text)]
      exact List.mem_flatten.mpr ⟨row, hrow, List.mem_of_getLast? hlast⟩
    have hsome : part.text ≠ [] := by
      intro hblank
      rcases eq_singleton_or_mem_tail hlast with rfl | hmore
      · -- a part without text is alone on its line, and the line is empty
        rw [lineText, hblank] at hspace
        cases hspace
      · have htail := mem_tail_flatten (fun _ => ne_nil_of_mem_wrapParts) hrow hmore
        rw [flatten_wrapParts] at htail
        exact text_ne_nil_of_mem_tail_parts hprint htail hblank
    have hsuffix := suffix_lineText hlast
    have hend : part.text.getLast? = some ' ' := by
      rw [← hspace]
      obtain ⟨front, hfront⟩ := hsuffix
      rw [← hfront, List.getLast?_append_of_ne_nil front hsome]
    obtain ⟨hlength, word, hword, next, hwithin⟩ := exists_of_ends_with_space hprint hmem hend
    exact ⟨part.text, hlength, hsuffix, word, hword, next, hwithin⟩

/-! ## Lines below each other -/

/-- What becomes of one line when it is printed. -/
structure IsWrapping (text : List Char) (lines : List (List Char)) : Prop where
  nonempty : lines ≠ []
  breaks : BreaksInto text lines
  unfed : ∀ line ∈ lines, '\n' ∉ line
  short : (String.ofList text).utf8ByteSize < width → lines = [text.rdropWhile (· = ' ')]
  ends : ∀ line ∈ lines, line.getLast? = some ' ' → EndsInStretch text line

theorem isWrapping_wrapLine {text : List Char} (hprint : IsPrintable text) :
    IsWrapping text (wrapLine text) where
  nonempty := wrapLine_ne_nil text
  breaks := breaksInto_wrapLine text
  unfed := fun _ hline hfeed =>
    hprint.not_mem (by decide) (mem_of_mem_wrapLine hline hfeed)
  short := wrapLine_of_short
  ends := fun _ => endsInStretch_of_mem_wrapLine hprint

theorem intercalate_append_feed {lines : List (List Char)} (hsome : lines ≠ []) :
    ['\n'].intercalate lines ++ ['\n'] = lines.flatMap (· ++ ['\n']) := by
  induction lines with
  | nil => exact absurd rfl hsome
  | cons line lines ih =>
      cases lines with
      | nil => simp
      | cons next rest =>
          rw [List.intercalate_cons_cons, List.append_assoc, ih (List.cons_ne_nil next rest),
            List.append_assoc]
          simp

/-- Every line of a text is wrapped by itself. -/
theorem toList_fill_append_feed (text : String) :
    (fill text).toList ++ ['\n'] =
      ((text.toList.splitOn '\n').flatMap wrapLine).flatMap (· ++ ['\n']) := by
  rw [fill, String.toList_ofList, intercalate_append_feed]
  intro hnil
  obtain ⟨line, rest, hlines⟩ := List.exists_cons_of_ne_nil (List.splitOn_ne_nil '\n' text.toList)
  rw [hlines] at hnil
  exact wrapLine_ne_nil line (List.append_eq_nil_iff.mp hnil).1

/-- Without its spaces and line feeds, what is printed is the text without its spaces. -/
theorem IsWrapping.filter_flatMap {text : List Char} {lines : List (List Char)}
    (hwrapping : IsWrapping text lines) :
    (lines.flatMap (· ++ ['\n'])).filter (fun c => c ≠ ' ' ∧ c ≠ '\n') =
      text.filter (· ≠ ' ') := by
  have hline : ∀ line ∈ lines, (line ++ ['\n']).filter (fun c => c ≠ ' ' ∧ c ≠ '\n') =
      line.filter (· ≠ ' ') := by
    intro line hline
    have hfeed : ['\n'].filter (fun c => c ≠ ' ' ∧ c ≠ '\n') = [] := by decide
    rw [List.filter_append, hfeed, List.append_nil]
    refine List.filter_congr fun c hc => ?_
    have hunfed : c ≠ '\n' := ne_of_mem_of_not_mem hc (hwrapping.unfed line hline)
    simp [hunfed]
  rw [List.filter_flatMap, List.flatMap_congr hline, ← hwrapping.breaks.filter_flatten,
    List.filter_flatten, List.flatMap_def]

end Text.Wrap

/-! ## What waits to be shown -/

open Text (IsPrintable)
open Text.Wrap (IsWrapping)

/-- The lines of what waits to be shown, before any wrapping. -/
def Scene.rendered (scene : Scene) : List String :=
  (Narration.allLines scene.world.wording scene.waiting).map (·.text)

namespace Display

theorem transcript_append (displays more : List Display) :
    transcript (displays ++ more) = transcript displays ++ transcript more :=
  List.filterMap_append

theorem transcript_map_line (lines : List Line) :
    transcript (lines.map line) = lines.map (·.text) := by
  simp [transcript, List.filterMap_map]

/-- Every line is printed by itself, and every line that it becomes ends with a line feed. -/
theorem toList_printAll_lines (lines : List Line) :
    (printAll false (lines.map line)).toList =
      ((lines.flatMap fun line => line.text.toList.splitOn '\n').flatMap
        Text.Wrap.wrapLine).flatMap (· ++ ['\n']) := by
  induction lines with
  | nil => rfl
  | cons l lines ih =>
      have hfirst : (printAll false [line l]).toList =
          ((l.text.toList.splitOn '\n').flatMap Text.Wrap.wrapLine).flatMap (· ++ ['\n']) := by
        rw [← Text.Wrap.toList_fill_append_feed]
        simp [printAll, print]
      rw [List.map_cons, ← List.singleton_append, printAll_append, String.toList_append, hfirst,
        ih, List.flatMap_cons, List.flatMap_append, List.flatMap_append]

end Display

theorem Scene.toList_print (scene : Scene) :
    (Display.printAll false scene.shows).toList =
      ((scene.rendered.flatMap fun text => text.toList.splitOn '\n').flatMap
        Text.Wrap.wrapLine).flatMap (· ++ ['\n']) := by
  rw [Scene.rendered, List.flatMap_map]
  exact Display.toList_printAll_lines _

/-- Texts without line feeds are lines. -/
theorem flatMap_splitOn_of_unfed {texts : List String}
    (hunfed : ∀ text ∈ texts, '\n' ∉ text.toList) :
    texts.flatMap (fun text => text.toList.splitOn '\n') = texts.map String.toList := by
  rw [List.map_eq_flatMap]
  exact List.flatMap_congr fun text htext => List.splitOn_eq_singleton (hunfed text htext)

/-! ## A name on a line of its own -/

namespace Wording

theorem message_of_symbols {wording : Wording}
    (hsymbols : wording.script.messages = Script.ofSymbols.messages) (message : Message) :
    wording.message message = message.symbol := by
  have hfind : Script.ofSymbols.messages.find? message.symbol = some message.symbol :=
    (Script.find?_ofSymbols_eq_some_iff .message rfl).mpr
      ⟨List.mem_map_of_mem (Message.mem_all message), rfl⟩
  rw [Wording.message, hsymbols, hfind]
  cases message <;> decide +kernel

end Wording

/-- Two lines, the second of which is the name of the soap with two spaces in front of it. -/
def Scene.listsSoap (wording : Wording) : Scene :=
  (Scene.atStart wording).say [.inventory [.soap]]

/-- Any printable name that has a space in it, and not only spaces, can be that of the soap. -/
theorem Scene.exists_listsSoap {name : List Char} (hprint : IsPrintable name) (hspace : ' ' ∈ name)
    (hsome : name.all Text.isBlank = false) :
    ∃ wording, Wording.ofScript? (Script.ofSymbols.rename .soap (.ofList name)) = .ok wording ∧
      (listsSoap wording).rendered = ["carrying", .ofList (' ' :: ' ' :: name)] ∧
      (∀ text ∈ (listsSoap wording).rendered, IsPrintable text.toList) ∧
      (Display.printAll false (listsSoap wording).shows).toList =
        "carrying\n".toList ++
          (Text.Wrap.wrapLine (' ' :: ' ' :: name)).flatMap (· ++ ['\n']) := by
  have hplayable : (Script.ofSymbols.rename .soap (.ofList name)).IsPlayable := by
    refine Script.isPlayable_ofSymbols.rename ?_ fun other _ used hused hsame => ?_
    · rwa [Text.isBlankText, String.toList_ofList]
    · -- a symbol has no space in it
      obtain ⟨_, rfl⟩ := (Script.find?_ofSymbols_eq_some_iff .item rfl).mp hused
      have hascii : ∀ c ∈ name, c.toNat < 0x80 := fun c hc => by
        have hhigh := (hprint c hc).2
        omega
      rw [Item.lowerCase_symbol, Text.lowerCase, String.toList_ofList,
        Text.LowerCase.ofChars_of_ascii hascii] at hsame
      have hmem : ' ' ∈ other.symbol.toList := by
        rw [hsame, String.toList_ofList]
        exact List.mem_map.mpr ⟨' ', hspace, rfl⟩
      revert hmem
      cases other <;> decide +kernel
  let wording : Wording := ⟨_, Script.faults_eq_nil_iff_isPlayable.mpr hplayable⟩
  have hitem : "  " ++ wording.item .soap = .ofList (' ' :: ' ' :: name) := by
    have hfind := wording.find?_item .soap
    rw [Script.find?_rename, if_pos rfl] at hfind
    rw [← Option.some.inj hfind]
    simp [← String.toList_inj]
  have hlines : Narration.allLines wording [.inventory [.soap]] =
      [⟨.plain, "carrying"⟩, ⟨.item, .ofList (' ' :: ' ' :: name)⟩] := by
    rw [← hitem, ← show wording.message .carrying = "carrying" from
      Wording.message_of_symbols rfl .carrying]
    rfl
  have hrendered : (listsSoap wording).rendered = ["carrying", .ofList (' ' :: ' ' :: name)] :=
    congrArg (List.map Line.text) hlines
  have hunfed : '\n' ∉ name := hprint.not_mem (by decide)
  have hindented : IsPrintable (' ' :: ' ' :: name) := by
    have hspace : 0x20 ≤ ' '.toNat ∧ ' '.toNat < 0x7F := by decide
    exact List.forall_mem_cons.mpr ⟨hspace, List.forall_mem_cons.mpr ⟨hspace, hprint⟩⟩
  have hcarrying : Text.Wrap.wrapLine "carrying".toList = ["carrying".toList] := by
    decide +kernel
  refine ⟨wording, Wording.ofScript?_ok_iff.mpr rfl, hrendered, ?_, ?_⟩
  · rw [hrendered, List.forall_mem_cons, List.forall_mem_singleton]
    exact ⟨by decide +kernel, by rwa [String.toList_ofList]⟩
  · rw [Scene.toList_print, hrendered, flatMap_splitOn_of_unfed (by simpa using hunfed),
      List.map_cons, List.flatMap_cons, hcarrying]
    simp

/-! ## The print and the record -/

/-- **What is printed says what is recorded.** What waits to be shown is recorded line by line,
after all that has been recorded, and nothing waits any longer. If it can all be printed, every line
of it becomes one or more lines of the output: nothing but spaces is lost between them and at their
ends, a line of fewer bytes than the terminal has columns only loses the spaces at its end, and the
output has the characters of the record in their order, but for spaces and line feeds. A printed
line that still ends with a space ends with a stretch of the full width, which stands inside a
longer word. -/
theorem Scene.print_says_record (scene : Scene) :
    (∀ before, Display.transcript (before ++ scene.shows) =
        Display.transcript before ++ scene.rendered) ∧
    scene.shown.waiting = [] ∧ scene.shown.world = scene.world ∧
    ((∀ text ∈ scene.rendered, IsPrintable text.toList) →
      (∃ printed : List (List (List Char)),
        List.Forall₂ (fun text lines => IsWrapping text.toList lines) scene.rendered printed ∧
          (Display.printAll false scene.shows).toList =
            printed.flatten.flatMap (· ++ ['\n'])) ∧
      (Display.printAll false scene.shows).toList.filter (fun c => c ≠ ' ' ∧ c ≠ '\n') =
        scene.rendered.flatMap fun text => text.toList.filter (· ≠ ' ')) := by
  have htranscript : Display.transcript scene.shows = scene.rendered :=
    Display.transcript_map_line _
  refine ⟨fun before => ?_, rfl, rfl, fun hprint => ?_⟩
  · rw [Display.transcript_append, htranscript]
  · have hwrapping : List.Forall₂ (fun text lines => IsWrapping text.toList lines) scene.rendered
        (scene.rendered.map fun text => Text.Wrap.wrapLine text.toList) := by
      refine List.forall₂_map_right_iff.mpr (List.forall₂_same.mpr fun text htext => ?_)
      exact Text.Wrap.isWrapping_wrapLine (hprint text htext)
    have houtput : (Display.printAll false scene.shows).toList =
        (scene.rendered.map fun text =>
          Text.Wrap.wrapLine text.toList).flatten.flatMap (· ++ ['\n']) := by
      rw [Scene.toList_print, flatMap_splitOn_of_unfed fun text htext =>
        (hprint text htext).not_mem (by decide), List.flatMap_map, ← List.flatMap_def]
    refine ⟨⟨_, hwrapping, houtput⟩, ?_⟩
    rw [houtput, ← List.flatMap_def, List.flatMap_assoc, List.filter_flatMap]
    exact List.flatMap_congr fun text htext =>
      (Text.Wrap.isWrapping_wrapLine (hprint text htext)).filter_flatMap

/-- The record of two words, the second of which is wider than the terminal, has the same characters
as their print. -/
theorem Scene.print_says_record_longWord :
    ∃ wording, Wording.ofScript? (Script.ofSymbols.rename .soap
        (.ofList (List.replicate 60 'a' ++ ' ' :: List.replicate 100 'b'))) = .ok wording ∧
      (∀ text ∈ (Scene.listsSoap wording).rendered, IsPrintable text.toList) ∧
      (Display.printAll false (Scene.listsSoap wording).shows).toList.filter
          (fun c => c ≠ ' ' ∧ c ≠ '\n') =
        (Scene.listsSoap wording).rendered.flatMap fun text => text.toList.filter (· ≠ ' ') := by
  obtain ⟨wording, hwording, _, hprint, _⟩ := @Scene.exists_listsSoap
    (List.replicate 60 'a' ++ ' ' :: List.replicate 100 'b')
    (by decide +kernel) (by decide +kernel) (by decide +kernel)
  obtain ⟨_, _, _, hsaid⟩ := Scene.print_says_record (Scene.listsSoap wording)
  exact ⟨wording, hwording, hprint, (hsaid hprint).2⟩

/-- A line of spaces with a hyphen after them is one word, since no line is broken at its last place
if it ends with a hyphen. Where that word is cut, a line of spaces is printed. -/
theorem Scene.prints_trailing_spaces :
    ∃ wording, Wording.ofScript? (Script.ofSymbols.rename .soap
        (.ofList (List.replicate 78 ' ' ++ ['-']))) = .ok wording ∧
      (∀ text ∈ (Scene.listsSoap wording).rendered, IsPrintable text.toList) ∧
      (Display.printAll false (Scene.listsSoap wording).shows).toList =
        "carrying\n".toList ++ List.replicate 80 ' ' ++ "\n-\n".toList ∧
      ∃ line ∈ (Display.printAll false (Scene.listsSoap wording).shows).toList.splitOn '\n',
        line.getLast? = some ' ' := by
  obtain ⟨wording, hwording, _, hprint, hprinted⟩ := @Scene.exists_listsSoap
    (List.replicate 78 ' ' ++ ['-']) (by decide +kernel) (by decide +kernel) (by decide +kernel)
  have hcut : Text.Wrap.wrapLine (' ' :: ' ' :: (List.replicate 78 ' ' ++ ['-'])) =
      [List.replicate 80 ' ', ['-']] := by
    decide +kernel
  have houtput : (Display.printAll false (Scene.listsSoap wording).shows).toList =
      "carrying\n".toList ++ List.replicate 80 ' ' ++ "\n-\n".toList := by
    rw [hprinted, hcut]
    decide +kernel
  refine ⟨wording, hwording, hprint, houtput, List.replicate 80 ' ', ?_, by decide⟩
  rw [houtput]
  decide +kernel

end CastleEscape

import CastleEscape.Proofs.Names
import CastleEscape.Wording.Load
import Mathlib.Data.List.Forall2

/-!
# The shipped wording

The document that comes with the program holds a script without faults, and every item of it has a
name that can be typed: one with no blanks around it, which trimming a line would take away. Both
are seen by reading the document.

Reading starts from the characters of the document, and those have to be there one by one before
it is worth evaluating anything, so the lines are spelled first (`Spells`).
-/

namespace CastleEscape

namespace Script

/-- The script in a document that is given by its characters. -/
def ofChars? (cs : List Char) : Option Script := do
  let cs := Toml.withoutMark cs
  let statements ← Toml.readLines (cs.length + 1) cs
  let progress ← statements.foldlM Toml.Progress.carryOut ⟨[], []⟩
  ofDatum? (.table (Toml.entriesToData progress.root))

theorem ofDocument?_eq_ofChars? (source : String) :
    ofDocument? source = ofChars? source.toList := by
  simp only [ofDocument?, Toml.document?, ofChars?, Option.bind_eq_bind, Option.bind_assoc,
    Option.pure_def, Option.bind_some]

/-- The script has no faults, and no name of an item has blanks around it. -/
def isTidy (script : Script) : Bool :=
  script.helpFaults.isEmpty && script.roomFaults.isEmpty && script.itemFaults.isEmpty &&
    script.messageFaults.isEmpty && script.keyFaults.isEmpty &&
    decide (script.items.texts.map Text.lowerCase).Nodup &&
    Item.all.all fun item =>
      (script.items.find? item.symbol).all fun name => Text.trim name == name

variable {script : Script}

theorem faults_of_isTidy (htidy : script.isTidy = true) : script.faults = [] := by
  simp only [isTidy, Bool.and_eq_true, List.isEmpty_iff, decide_eq_true_eq] at htidy
  obtain ⟨⟨⟨⟨⟨⟨hhelp, hrooms⟩, hitems⟩, hmessages⟩, hkeys⟩, hnames⟩, _⟩ := htidy
  exact faults_eq_nil_iff.mpr
    ⟨hhelp, hrooms, hitems, hmessages, hkeys, nameFaults_eq_nil_iff.mpr hnames⟩

theorem trim_of_isTidy (htidy : script.isTidy = true) {item : Item} {name : String}
    (hname : script.items.find? item.symbol = some name) : Text.trim name = name := by
  have hall := (Bool.and_eq_true_iff.mp htidy).2
  have hitem := List.all_eq_true.mp hall item (Item.mem_all item)
  simpa [hname] using hitem

end Script

namespace Wording

theorem ofDocument_ok_iff {source : String} {wording : Wording} :
    ofDocument source = .ok wording ↔ Script.ofDocument? source = some wording.script := by
  unfold ofDocument
  cases hscript : Script.ofDocument? source with
  | none => simp
  | some script =>
      have hmap : (ofScript? script).mapError LoadError.faulty = .ok wording ↔
          ofScript? script = .ok wording := by
        cases ofScript? script <;> simp [Except.mapError]
      simp only [hmap, ofScript?_ok_iff, Option.some.injEq]
      exact eq_comm

/-! ## Spelling -/

/-- The lines are spelled by these characters. -/
abbrev Spells (css : List (List Char)) (lines : List String) : Prop :=
  List.Forall₂ (fun cs line => line.toList = cs) css lines

theorem Spells.cons {cs : List Char} {css : List (List Char)} {lines : List String}
    (hrest : Spells css lines) : Spells (cs :: css) (String.ofList cs :: lines) :=
  List.Forall₂.cons String.toList_ofList hrest

/-- A line that is written down in two pieces. -/
theorem Spells.cons_append {front back : List Char} {css : List (List Char)} {lines : List String}
    (hrest : Spells css lines) :
    Spells ((front ++ back) :: css) ((String.ofList front ++ String.ofList back) :: lines) :=
  List.Forall₂.cons (by simp) hrest

theorem Spells.toList_join {css : List (List Char)} {lines : List String}
    (hspells : Spells css lines) :
    (String.join (lines.map fun line => line ++ "\n")).toList =
      css.flatMap fun cs => cs ++ ['\n'] := by
  induction hspells with
  | nil => simp
  | cons hline _ ih => simp_all [List.flatMap_cons]

/-! ## Reading -/

set_option maxRecDepth 100000 in
theorem exists_spelling :
    ∃ css, Spells css shippedLines ∧
      (Script.ofChars? (css.flatMap fun cs => cs ++ ['\n'])).any Script.isTidy = true := by
  apply Exists.intro
  constructor
  · -- every line is a literal, whose characters are known without evaluating anything
    unfold shippedLines
    dsimp only
    repeat first
      | exact List.Forall₂.nil
      | apply Spells.cons_append
      | apply Spells.cons
  · decide +kernel

theorem exists_isTidy :
    ∃ script, Script.ofDocument? shippedDocument = some script ∧ script.isTidy = true := by
  obtain ⟨css, hspells, hread⟩ := exists_spelling
  rw [← hspells.toList_join, ← shippedDocument, ← Script.ofDocument?_eq_ofChars?,
    Option.any_eq_true] at hread
  exact hread

/-- The wording that comes with the program is one. -/
theorem exists_shipped : ∃ wording, shipped = .ok wording := by
  obtain ⟨script, hscript, htidy⟩ := exists_isTidy
  exact ⟨⟨script, Script.faults_of_isTidy htidy⟩, ofDocument_ok_iff.mpr hscript⟩

/-- Trimming a line takes nothing away from a name of the shipped wording. -/
theorem trim_item_of_shipped {wording : Wording} (hshipped : shipped = .ok wording) (item : Item) :
    Text.trim (wording.item item) = wording.item item := by
  obtain ⟨script, hscript, htidy⟩ := exists_isTidy
  have hread : Script.ofDocument? shippedDocument = some wording.script :=
    ofDocument_ok_iff.mp hshipped
  rw [hread, Option.some.injEq] at hscript
  subst hscript
  exact Script.trim_of_isTidy htidy (wording.find?_item item)

end Wording

end CastleEscape

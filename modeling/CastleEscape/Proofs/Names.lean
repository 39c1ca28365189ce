import CastleEscape.Wording
import Mathlib.Data.List.Nodup

/-!
# Names of items

In a wording no two items share a name, in whatever case it is written, so a typed name stands for
an item exactly if it is that item's name (`Wording.itemNamed?_eq_some_iff`). This is what the
search for shared names is for: it sorts the names, and in a sorted list whatever stands twice
stands twice in a row.
-/

namespace CastleEscape

/-! ## Entries and their texts -/

namespace Lexicon

variable {lexicon : Lexicon} {key text : String}

theorem mem_entries_iff : (key, text) ∈ lexicon.entries ↔ lexicon.find? key = some text := by
  rw [find?, List.lookup_eq_some_iff]
  constructor
  · intro hmem
    obtain ⟨before, after, hsplit⟩ := List.append_of_mem hmem
    refine ⟨before, after, hsplit, fun entry hentry => ?_⟩
    -- no key stands twice, so what is before the entry has other keys
    have hrise := lexicon.keysRise
    rw [hsplit, KeysRise, List.pairwise_append] at hrise
    exact bne_iff_ne.mpr (String.ne_of_lt (hrise.2.2 entry hentry _ List.mem_cons_self)).symm
  · rintro ⟨before, after, hsplit, _⟩
    rw [hsplit]
    exact List.mem_append_right _ List.mem_cons_self

/-- The texts are told apart in small letters exactly if no two keys have the same one. -/
theorem nodup_lowerCase_iff :
    (lexicon.texts.map Text.lowerCase).Nodup ↔
      ∀ key text, lexicon.find? key = some text → ∀ other more, lexicon.find? other = some more →
        Text.lowerCase text = Text.lowerCase more → key = other := by
  have hentries : lexicon.entries.Nodup :=
    lexicon.keysRise.imp fun hlt heq => String.ne_of_lt hlt (congrArg Prod.fst heq)
  rw [texts, List.map_map, List.nodup_map_iff_inj_on hentries]
  constructor
  · intro hinjective key text htext other more hmore hsmall
    exact congrArg Prod.fst
      (hinjective _ (mem_entries_iff.mpr htext) _ (mem_entries_iff.mpr hmore) hsmall)
  · rintro hdistinct ⟨key, text⟩ hentry ⟨other, more⟩ hother hsmall
    have htext := mem_entries_iff.mp hentry
    have hmore := mem_entries_iff.mp hother
    obtain rfl := hdistinct key text htext other more hmore hsmall
    rw [Option.some.inj (htext.symm.trans hmore)]

end Lexicon

/-! ## Repeats in a sorted list -/

namespace Script

/-- In a sorted list what stands `m` times is repeated `m - 1` times. -/
theorem count_repeats {names : List String} (hsorted : names.Pairwise (· ≤ ·)) (name : String) :
    (repeats names).count name = names.count name - 1 := by
  induction names with
  | nil => rfl
  | cons first rest ih =>
      obtain ⟨hfirst, hrest⟩ := List.pairwise_cons.mp hsorted
      cases rest with
      | nil => by_cases hname : first = name <;> simp [repeats, hname]
      | cons second rest =>
          have hmore := ih hrest
          by_cases hsame : first = second
          · subst hsame
            rw [repeats, if_pos rfl]
            by_cases hname : first = name
            · subst hname
              simp only [List.count_cons_self] at hmore ⊢
              omega
            · simp only [List.count_cons_of_ne hname] at hmore ⊢
              exact hmore
          · rw [repeats, if_neg hsame, hmore]
            by_cases hname : first = name
            · subst hname
              have hlast : first ∉ second :: rest := by
                intro hmem
                -- what stands again further on is no more than the second, and no less
                rcases List.mem_cons.mp hmem with h | h
                · exact hsame h
                · have hle : second ≤ first := (List.pairwise_cons.mp hrest).1 first h
                  exact hsame (String.le_antisymm (hfirst second List.mem_cons_self) hle)
              rw [List.count_cons_self, List.count_eq_zero_of_not_mem hlast]
            · rw [List.count_cons_of_ne hname]

theorem pairwise_sortedNames (script : Script) : script.sortedNames.Pairwise (· ≤ ·) := by
  have hsorted := @List.pairwise_mergeSort String (fun a b => decide (a ≤ b))
    (fun a b c hab hbc => decide_eq_true
      (String.le_trans (of_decide_eq_true hab) (of_decide_eq_true hbc)))
    (fun a b => by simpa using String.le_total a b)
    (script.items.texts.map Text.lowerCase)
  exact hsorted.imp of_decide_eq_true

theorem perm_sortedNames (script : Script) :
    script.sortedNames.Perm (script.items.texts.map Text.lowerCase) :=
  List.mergeSort_perm _ _

/-- Names are told apart if none is repeated. -/
theorem nameFaults_eq_nil_iff {script : Script} :
    script.nameFaults = [] ↔ (script.items.texts.map Text.lowerCase).Nodup := by
  rw [nameFaults, List.map_eq_nil_iff, ← script.perm_sortedNames.nodup_iff,
    List.nodup_iff_count_le_one, List.eq_nil_iff_forall_not_mem]
  refine forall_congr' fun name => ?_
  rw [← List.count_eq_zero, count_repeats script.pairwise_sortedNames, Nat.sub_eq_zero_iff_le]

theorem faults_eq_nil_iff {script : Script} :
    script.faults = [] ↔ script.helpFaults = [] ∧ script.roomFaults = [] ∧
      script.itemFaults = [] ∧ script.messageFaults = [] ∧ script.keyFaults = [] ∧
      script.nameFaults = [] := by
  simp [faults]

end Script

/-! ## Names of a wording -/

namespace Wording

variable {wording : Wording}

/-- Every item has its name in the script. -/
theorem find?_item (wording : Wording) (item : Item) :
    wording.script.items.find? item.symbol = some (wording.item item) := by
  obtain ⟨_, _, hitems, _⟩ := Script.faults_eq_nil_iff.mp wording.faultless
  have hfault := List.filterMap_eq_nil_iff.mp hitems item (Item.mem_all item)
  unfold Wording.item
  cases hfind : wording.script.items.find? item.symbol with
  | none => simp [hfind] at hfault
  | some name => rfl

/-- No name of an item is blank. -/
theorem isBlankText_item (wording : Wording) (item : Item) :
    Text.isBlankText (wording.item item) = false := by
  obtain ⟨_, _, hitems, _⟩ := Script.faults_eq_nil_iff.mp wording.faultless
  have hfault := List.filterMap_eq_nil_iff.mp hitems item (Item.mem_all item)
  simpa [wording.find?_item] using hfault

theorem item_ne_empty (wording : Wording) (item : Item) : wording.item item ≠ "" := by
  intro hempty
  have hsome := wording.isBlankText_item item
  rw [hempty] at hsome
  exact absurd hsome (by decide)

/-- No two items share a name. -/
theorem item_injective {a b : Item}
    (hname : Text.lowerCase (wording.item a) = Text.lowerCase (wording.item b)) : a = b := by
  obtain ⟨_, _, _, _, _, hnames⟩ := Script.faults_eq_nil_iff.mp wording.faultless
  have hnodup := Script.nameFaults_eq_nil_iff.mp hnames
  exact Item.symbol_injective (Lexicon.nodup_lowerCase_iff.mp hnodup _ _ (wording.find?_item a) _ _
    (wording.find?_item b) hname)

/-- A typed name stands for the item whose name it is. -/
theorem itemNamed?_eq_some_iff {typed : String} {item : Item} :
    wording.itemNamed? typed = some item ↔
      Text.lowerCase (wording.item item) = Text.lowerCase typed := by
  constructor
  · intro hnamed
    simpa using List.find?_some hnamed
  · intro hname
    cases hnamed : wording.itemNamed? typed with
    | none =>
        have hnone := List.find?_eq_none.mp hnamed item (Item.mem_all item)
        simp [hname] at hnone
    | some found =>
        have hfound : Text.lowerCase (wording.item found) = Text.lowerCase typed := by
          simpa using List.find?_some hnamed
        rw [item_injective (hfound.trans hname.symm)]

theorem itemNamed?_item (wording : Wording) (item : Item) :
    wording.itemNamed? (wording.item item) = some item :=
  itemNamed?_eq_some_iff.mpr rfl

end Wording

end CastleEscape

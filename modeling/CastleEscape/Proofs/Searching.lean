import CastleEscape.Game.Search
import CastleEscape.Proofs.Faults
import CastleEscape.Proofs.Places

/-!
# What a search by name finds

A typed name stands for the one item whose name it is, so it does not matter in which order a search
goes through the items. `Wording.firstNamed?` and `World.findAmong` go through any list of items; as
no two items share a name, they find the same as the game does whenever every item stands somewhere
in the list.

* `World.InScope` says where an item has to be, without asking the whereabouts anything;
* `World.find_exact` says of every search what comes of it.
-/

namespace CastleEscape

/-! ## Names in any order -/

namespace Wording

/-- The first of these items whose name a typed name is, in whatever case it was typed. -/
def firstNamed? (wording : Wording) (items : List Item) (typed : String) : Option Item :=
  items.find? fun item => Text.lowerCase (wording.item item) == Text.lowerCase typed

variable {wording : Wording} {items : List Item} {typed : String} {item : Item}

theorem lowerCase_of_firstNamed? (hfirst : wording.firstNamed? items typed = some item) :
    Text.lowerCase (wording.item item) = Text.lowerCase typed := by
  have hname := List.find?_some hfirst
  exact beq_iff_eq.mp hname

/-- Whatever stands before the item in the list has another name. -/
theorem firstNamed?_eq_some_iff :
    wording.firstNamed? items typed = some item ↔
      item ∈ items ∧ Text.lowerCase (wording.item item) = Text.lowerCase typed := by
  constructor
  · intro hfirst
    exact ⟨List.mem_of_find?_eq_some hfirst, lowerCase_of_firstNamed? hfirst⟩
  · rintro ⟨hitem, hname⟩
    cases hfirst : wording.firstNamed? items typed with
    | none =>
        have hother := List.find?_eq_none.mp hfirst item hitem
        rw [beq_iff_eq] at hother
        exact absurd hname hother
    | some found =>
        have hfound := lowerCase_of_firstNamed? hfirst
        rw [item_injective (hfound.trans hname.symm)]

/-- The order of the items makes no difference. -/
theorem firstNamed?_eq_itemNamed? (hall : ∀ item, item ∈ items) (typed : String) :
    wording.firstNamed? items typed = wording.itemNamed? typed := by
  ext item
  rw [firstNamed?_eq_some_iff, itemNamed?_eq_some_iff]
  exact and_iff_right (hall item)

end Wording

/-! ## Searches -/

namespace World

/-- The item is carried or, if the scope is a room, lies there. -/
def InScope (world : World) (item : Item) : Scope → Prop
  | .carried => ∃ slot, world.whereabouts.placeOf item = .carried slot
  | .reachableFrom room =>
    (∃ slot, world.whereabouts.placeOf item = .carried slot) ∨
      world.whereabouts.placeOf item = .lying room

/-- A search that compares the names of these items, in their order. -/
def findAmong (world : World) (items : List Item) (typed : String) (scope : Scope) :
    Except SearchError Item :=
  match world.wording.firstNamed? items typed with
  | none => .error (.noSuchName typed)
  | some item => if world.isInScope item scope then .ok item else .error (.outOfScope typed item)

variable {world : World} {typed : String} {scope : Scope} {item : Item}

theorem isInScope_iff : world.isInScope item scope = true ↔ world.InScope item scope := by
  cases scope with
  | carried => exact Whereabouts.isCarried_iff
  | reachableFrom room => exact Whereabouts.isWithinReach_iff

theorem find_of_unnamed (hnone : world.wording.itemNamed? typed = none) :
    world.find typed scope = .error (.noSuchName typed) := by
  simp only [find, hnone]

theorem find_of_inScope (hnamed : world.wording.itemNamed? typed = some item)
    (hscope : world.InScope item scope) : world.find typed scope = .ok item := by
  simp only [find, hnamed, isInScope_iff.mpr hscope, if_true]

theorem find_of_not_inScope (hnamed : world.wording.itemNamed? typed = some item)
    (hscope : ¬world.InScope item scope) :
    world.find typed scope = .error (.outOfScope typed item) := by
  simp only [find, hnamed, isInScope_iff, hscope, if_false]

/-- A search comes to one of three things, and the name and the scope tell to which. -/
theorem find_cases (world : World) (typed : String) (scope : Scope) :
    (world.wording.itemNamed? typed = none ∧
      world.find typed scope = .error (.noSuchName typed)) ∨
    ∃ item, world.wording.itemNamed? typed = some item ∧
      (world.InScope item scope ∧ world.find typed scope = .ok item ∨
        ¬world.InScope item scope ∧
          world.find typed scope = .error (.outOfScope typed item)) := by
  cases hnamed : world.wording.itemNamed? typed with
  | none => exact Or.inl ⟨rfl, find_of_unnamed hnamed⟩
  | some item =>
      refine Or.inr ⟨item, rfl, ?_⟩
      by_cases hscope : world.InScope item scope
      · exact Or.inl ⟨hscope, find_of_inScope hnamed hscope⟩
      · exact Or.inr ⟨hscope, find_of_not_inScope hnamed hscope⟩

theorem find_eq_ok_iff :
    world.find typed scope = .ok item ↔
      world.wording.itemNamed? typed = some item ∧ world.InScope item scope := by
  constructor
  · intro hfind
    rcases world.find_cases typed scope with
      ⟨_, herror⟩ | ⟨found, hnamed, ⟨hscope, hok⟩ | ⟨_, herror⟩⟩
    · rw [hfind] at herror
      cases herror
    · rw [hfind] at hok
      cases hok
      exact ⟨hnamed, hscope⟩
    · rw [hfind] at herror
      cases herror
  · rintro ⟨hnamed, hscope⟩
    exact find_of_inScope hnamed hscope

theorem find_eq_error_iff {error : SearchError} :
    world.find typed scope = .error error ↔
      (error = .noSuchName typed ∧ world.wording.itemNamed? typed = none) ∨
      ∃ item, error = .outOfScope typed item ∧ world.wording.itemNamed? typed = some item ∧
        ¬world.InScope item scope := by
  constructor
  · intro hfind
    rcases world.find_cases typed scope with
      ⟨hnone, herror⟩ | ⟨item, hnamed, ⟨_, hok⟩ | ⟨hscope, herror⟩⟩
    · rw [hfind] at herror
      exact Or.inl ⟨Except.error.inj herror, hnone⟩
    · rw [hfind] at hok
      cases hok
    · rw [hfind] at herror
      exact Or.inr ⟨item, Except.error.inj herror, hnamed, hscope⟩
  · rintro (⟨rfl, hnone⟩ | ⟨item, rfl, hnamed, hscope⟩)
    · exact find_of_unnamed hnone
    · exact find_of_not_inScope hnamed hscope

/-- Whatever a search fails with, its message has in it what was typed. -/
theorem exists_typed_in_message {error : SearchError}
    (herror : world.find typed scope = .error error) :
    ∃ before after, error.message = before ++ typed ++ after := by
  rcases find_eq_error_iff.mp herror with ⟨rfl, _⟩ | ⟨item, rfl, _, _⟩
  · exact ⟨"no item named '", "'", rfl⟩
  · refine ⟨"'", "' names " ++ item.symbol ++ ", which is not in scope", ?_⟩
    simp [SearchError.message, String.append_assoc]

theorem findAmong_eq_find {items : List Item} (hall : ∀ item, item ∈ items) :
    world.findAmong items typed scope = world.find typed scope := by
  have hsame := world.wording.firstNamed?_eq_itemNamed? hall typed
  cases hnamed : world.wording.itemNamed? typed with
  | none =>
      rw [hnamed] at hsame
      simp only [findAmong, find, hsame, hnamed]
  | some item =>
      rw [hnamed] at hsame
      simp only [findAmong, find, hsame, hnamed]

/-- **A search by name is exact.** With any script that makes a wording, a typed name stands for the
item whose name the script has under its symbol, but for case, and for no other. So a search finds
that item if it is carried or lies in the room that is searched; it says that there is no such name
exactly if no item has it, and names the item exactly if that is somewhere else. In whatever order
the items are gone through, the same is found. -/
theorem find_exact :
    (∀ (script : Script) (wording : Wording), Wording.ofScript? script = .ok wording →
      ∀ (typed : String) (item : Item),
        script.items.find? item.symbol = some (wording.item item) ∧
        (wording.itemNamed? typed = some item ↔
          Text.lowerCase typed = Text.lowerCase (wording.item item))) ∧
    (∀ (world : World) (typed : String) (scope : Scope) (item : Item),
      world.find typed scope = .ok item ↔
        Text.lowerCase typed = Text.lowerCase (world.wording.item item) ∧
          world.InScope item scope) ∧
    (∀ (world : World) (typed : String) (scope : Scope) (error : SearchError),
      world.find typed scope = .error error ↔
        (error = .noSuchName typed ∧
          ∀ item, Text.lowerCase typed ≠ Text.lowerCase (world.wording.item item)) ∨
        ∃ item, error = .outOfScope typed item ∧
          Text.lowerCase typed = Text.lowerCase (world.wording.item item) ∧
          ¬world.InScope item scope) ∧
    (∀ (world : World) (items : List Item) (typed : String) (scope : Scope),
      (∀ item, item ∈ items) →
        world.wording.firstNamed? items typed = world.wording.itemNamed? typed ∧
        world.findAmong items typed scope = world.find typed scope) := by
  have hnamed : ∀ (wording : Wording) (typed : String) (item : Item),
      wording.itemNamed? typed = some item ↔
        Text.lowerCase typed = Text.lowerCase (wording.item item) := by
    intro wording typed item
    rw [Wording.itemNamed?_eq_some_iff, eq_comm]
  refine ⟨?_, ?_, ?_, ?_⟩
  · intro script wording hwording typed item
    obtain rfl := Wording.ofScript?_ok_iff.mp hwording
    exact ⟨wording.find?_item item, hnamed wording typed item⟩
  · intro world typed scope item
    rw [find_eq_ok_iff, hnamed]
  · intro world typed scope error
    rw [find_eq_error_iff, Option.eq_none_iff_forall_ne_some]
    simp only [ne_eq, hnamed]
  · intro world items typed scope hall
    exact ⟨Wording.firstNamed?_eq_itemNamed? hall typed, findAmong_eq_find hall⟩

/-- The key is in the hands of the player from the beginning on, and the pool cue is elsewhere; a
search that begins with the last item finds no more and no less. -/
theorem find_exact_atStart :
    ∃ wording, Wording.ofScript? Script.ofSymbols = .ok wording ∧
      (atStart wording).find "KEY" .carried = .ok .key ∧
      (atStart wording).find "Pool_Cue" (.reachableFrom .frontEntrance) =
        .error (.outOfScope "Pool_Cue" .poolCue) ∧
      (atStart wording).find "cue" .carried = .error (.noSuchName "cue") ∧
      (∀ item, item ∈ Item.all.reverse) ∧
      (atStart wording).findAmong Item.all.reverse "KEY" .carried = .ok .key := by
  obtain ⟨wording, hwording, hsymbol⟩ := Script.exists_wording_ofSymbols
  obtain ⟨_, hfinds, hfails, horder⟩ := find_exact
  have hall : ∀ item, item ∈ Item.all.reverse := by
    intro item
    rw [List.mem_reverse]
    exact Item.mem_all item
  have hkey : (atStart wording).find "KEY" .carried = .ok .key := by
    refine (hfinds _ _ _ _).mpr ⟨?_, 0, rfl⟩
    rw [show (atStart wording).wording.item .key = "key" from hsymbol .key]
    decide +kernel
  refine ⟨wording, hwording, hkey, ?_, ?_, hall, ?_⟩
  · refine (hfails _ _ _ _).mpr (Or.inr ⟨.poolCue, rfl, ?_, ?_⟩)
    · rw [show (atStart wording).wording.item .poolCue = "pool_cue" from hsymbol .poolCue]
      decide +kernel
    · rintro (⟨slot, hslot⟩ | hlying)
      · cases hslot
      · cases hlying
  · refine (hfails _ _ _ _).mpr (Or.inl ⟨rfl, ?_⟩)
    intro item
    rw [show (atStart wording).wording.item item = item.symbol from hsymbol item,
      Item.lowerCase_symbol]
    cases item <;> decide +kernel
  · rw [(horder (atStart wording) _ "KEY" .carried hall).2]
    exact hkey

end World

end CastleEscape

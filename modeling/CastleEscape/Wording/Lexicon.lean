/-!
# Lexicons

Texts looked up by key. The entries stand in the order of their keys, and no key occurs twice.

* `find?` is the view that everything else is explained by (`find?_insert`);
* `entries` shows the keys in their order.
-/

namespace CastleEscape

/-- Keys rise from entry to entry. -/
def KeysRise (entries : List (String × String)) : Prop :=
  entries.Pairwise fun a b => a.1 < b.1

structure Lexicon where
  entries : List (String × String)
  keysRise : KeysRise entries

namespace Lexicon

def empty : Lexicon := ⟨[], .nil⟩

instance : Inhabited Lexicon := ⟨empty⟩

def keys (lexicon : Lexicon) : List String := lexicon.entries.map (·.1)

def texts (lexicon : Lexicon) : List String := lexicon.entries.map (·.2)

def find? (lexicon : Lexicon) (key : String) : Option String :=
  lexicon.entries.lookup key

def contains (lexicon : Lexicon) (key : String) : Bool :=
  (lexicon.find? key).isSome

/-! ## Changing entries -/

def insertEntry (key text : String) : List (String × String) → List (String × String)
  | [] => [(key, text)]
  | entry :: rest =>
    if key < entry.1 then (key, text) :: entry :: rest
    else if key = entry.1 then (key, text) :: rest
    else entry :: insertEntry key text rest

theorem mem_insertEntry {key text : String} {entries : List (String × String)}
    {entry : String × String} (h : entry ∈ insertEntry key text entries) :
    entry = (key, text) ∨ entry ∈ entries := by
  induction entries with
  | nil => simpa [insertEntry] using h
  | cons first rest ih =>
    unfold insertEntry at h
    split at h
    · simpa using h
    · split at h
      · rcases List.mem_cons.1 h with h | h
        · exact .inl h
        · exact .inr (List.mem_cons_of_mem _ h)
      · rcases List.mem_cons.1 h with h | h
        · exact .inr (h ▸ List.mem_cons_self)
        · exact (ih h).imp_right (List.mem_cons_of_mem _)

theorem keysRise_insertEntry (key text : String) {entries : List (String × String)}
    (h : KeysRise entries) : KeysRise (insertEntry key text entries) := by
  induction entries with
  | nil => exact List.pairwise_singleton _ _
  | cons first rest ih =>
    obtain ⟨below, rises⟩ := List.pairwise_cons.1 h
    unfold insertEntry
    split
    case isTrue lt =>
      refine List.pairwise_cons.2 ⟨fun entry mem => ?_, h⟩
      rcases List.mem_cons.1 mem with rfl | mem
      · exact lt
      · exact String.lt_trans lt (below entry mem)
    case isFalse notLt =>
      split
      case isTrue eq => exact List.pairwise_cons.2 ⟨fun entry mem => eq ▸ below entry mem, rises⟩
      case isFalse ne =>
        refine List.pairwise_cons.2 ⟨fun entry mem => ?_, ih rises⟩
        rcases mem_insertEntry mem with rfl | mem
        · exact Decidable.byContradiction fun notGt =>
            ne (String.le_antisymm (String.not_lt.1 notGt) (String.not_lt.1 notLt))
        · exact below entry mem

/-- Puts a text under a key, in place of any text that was there. -/
def insert (lexicon : Lexicon) (key text : String) : Lexicon :=
  ⟨insertEntry key text lexicon.entries, keysRise_insertEntry key text lexicon.keysRise⟩

/-- Of several texts for one key the last counts. -/
def ofList (entries : List (String × String)) : Lexicon :=
  entries.foldl (fun lexicon entry => lexicon.insert entry.1 entry.2) empty

/-! ## Looking up -/

@[simp] theorem find?_empty (key : String) : empty.find? key = none := rfl

theorem lookup_cons_ite (key text other : String) (entries : List (String × String)) :
    ((key, text) :: entries).lookup other =
      if other = key then some text else entries.lookup other := by
  by_cases h : other = key <;> simp [List.lookup_cons, beq_eq_false_iff_ne.2, h]

theorem find?_insert (lexicon : Lexicon) (key text other : String) :
    (lexicon.insert key text).find? other =
      if other = key then some text else lexicon.find? other := by
  obtain ⟨entries, rises⟩ := lexicon
  simp only [find?, insert]
  clear rises
  induction entries with
  | nil => exact lookup_cons_ite key text other []
  | cons first rest ih =>
    obtain ⟨firstKey, firstText⟩ := first
    unfold insertEntry
    split
    · rw [lookup_cons_ite]
    · split
      case isTrue eq => simp only at eq; subst eq; grind [lookup_cons_ite]
      case isFalse ne => grind [lookup_cons_ite]

end Lexicon

end CastleEscape

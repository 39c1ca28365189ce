/-!
# Items

The 22 things, and people, that can be carried. They are numbered from one in the order of
`Item.all`, and each has a symbol: the key under which the wording names it.
-/

namespace CastleEscape

inductive Item where
  | poolCue | umbrella | newspaper | sandwich | cat | wine | knife | candle | matchbox | auntie
  | doll | skye | steelBar | book | hairbrush | note | perfume | businessCard | soap | menu
  | lightBulb | key
  deriving DecidableEq

namespace Item

def all : List Item :=
  [poolCue, umbrella, newspaper, sandwich, cat, wine, knife, candle, matchbox, auntie, doll,
   skye, steelBar, book, hairbrush, note, perfume, businessCard, soap, menu, lightBulb, key]

def symbol : Item → String
  | poolCue => "pool_cue"
  | umbrella => "umbrella"
  | newspaper => "newspaper"
  | sandwich => "sandwich"
  | cat => "cat"
  | wine => "wine"
  | knife => "knife"
  | candle => "candle"
  | matchbox => "matches"
  | auntie => "auntie"
  | doll => "doll"
  | skye => "skye"
  | steelBar => "steel_bar"
  | book => "book"
  | hairbrush => "hairbrush"
  | note => "note"
  | perfume => "perfume"
  | businessCard => "business_card"
  | soap => "soap"
  | menu => "menu"
  | lightBulb => "light_bulb"
  | key => "key"

/-- Items are counted from one. -/
def number (item : Item) : Nat := item.ctorIdx + 1

def ofSymbol? (symbol : String) : Option Item :=
  all.find? fun item => item.symbol == symbol

/-! ## The enumeration -/

@[simp] theorem mem_all (item : Item) : item ∈ all := by
  cases item <;> decide

theorem length_all : all.length = 22 := rfl

theorem nodup_all : all.Nodup := by decide

theorem ofSymbol?_symbol (item : Item) : ofSymbol? item.symbol = some item := by
  cases item <;> decide +kernel

theorem symbol_injective {a b : Item} (h : a.symbol = b.symbol) : a = b := by
  have := ofSymbol?_symbol a
  rw [h, ofSymbol?_symbol] at this
  exact (Option.some.inj this).symm

end Item

end CastleEscape

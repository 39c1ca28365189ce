/-!
# Escape sequences

Instructions to the terminal within a text. They begin with the escape character and are not shown,
so they take up no columns and nothing in them counts when it is asked where a line may be broken.

* `mark` gives every character with the answer whether it is shown, and keeps them all;
* `shown` leaves out those that are not; it is the whole text if that has no escape character.
-/

namespace CastleEscape.Text.Escape

def escape : Char := '\x1B'

/-- What a character belongs to. -/
inductive Mode where
  /-- It is shown, unless it begins a sequence. -/
  | text
  /-- It follows the escape character. A sequence that goes on with no bracket ends with it. -/
  | opened
  /-- It is in a sequence that ends with a letter or with one of the signs beside the letters. -/
  | control
  /-- It is in a sequence that ends with a bell, or with the escape character and a backslash, of
  which the first may have come already. -/
  | command (escaped : Bool)

def Mode.shows : Mode → Char → Bool
  | text, c => c != escape
  | _, _ => false

/-- What the next character belongs to. A sequence without its end goes on to the end of the
text. -/
def Mode.pass : Mode → Char → Mode
  | text, c => if c = escape then opened else text
  | opened, c => if c = '[' then control else if c = ']' then command false else text
  | control, c => if 0x40 ≤ c.toNat ∧ c.toNat ≤ 0x7E then text else control
  | command escaped, c =>
    if c = '\x07' ∨ (c = '\\' ∧ escaped) then text else command (c == escape)

def markFrom (mode : Mode) : List Char → List (Char × Bool)
  | [] => []
  | c :: rest => (c, mode.shows c) :: markFrom (mode.pass c) rest

def mark (cs : List Char) : List (Char × Bool) := markFrom .text cs

def shown (cs : List Char) : List Char := ((mark cs).filter (·.2)).map (·.1)

theorem map_fst_markFrom (mode : Mode) (cs : List Char) : (markFrom mode cs).map (·.1) = cs := by
  induction cs generalizing mode with
  | nil => rfl
  | cons c rest ih => simp [markFrom, ih]

theorem map_fst_mark (cs : List Char) : (mark cs).map (·.1) = cs := map_fst_markFrom .text cs

theorem mark_of_not_mem {cs : List Char} (h : escape ∉ cs) : mark cs = cs.map (·, true) := by
  induction cs with
  | nil => rfl
  | cons c rest ih =>
    have ⟨hc, hrest⟩ : escape ≠ c ∧ escape ∉ rest := by simpa using h
    simpa [mark, markFrom, Mode.shows, Mode.pass, hc.symm] using ih hrest

theorem shown_of_not_mem {cs : List Char} (h : escape ∉ cs) : shown cs = cs := by
  rw [shown, mark_of_not_mem h]
  simp [List.filter_map, Function.comp_def]

end CastleEscape.Text.Escape

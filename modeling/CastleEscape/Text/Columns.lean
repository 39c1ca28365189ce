import CastleEscape.Text.Columns.Table
import CastleEscape.Text.Escape
import CastleEscape.Text.Ranges

/-!
# Columns

How wide text is on the terminal. Most characters take up one column; control characters, marks on
other characters and all of an escape sequence take up none, East Asian characters and pictures two.
-/

namespace CastleEscape.Text

namespace Columns

def isControl (c : Char) : Bool :=
  c.toNat < 0x20 || (0x7F ≤ c.toNat && c.toNat < 0xA0)

/-- The sign for "and so on" in Khmer, which is as wide as the three signs that it stands for. -/
def abbreviation : Char := '\u17D8'

def ofChar (c : Char) : Nat :=
  if isControl c then 0
  else if c.toNat < 0x80 then 1
  else if inRanges narrowRanges c then 0
  else if inRanges wideRanges c then 2
  else if c = abbreviation then 3
  else 1

theorem ofChar_of_printable {c : Char} (h : 0x20 ≤ c.toNat) (h' : c.toNat < 0x7F) :
    ofChar c = 1 := by
  have : isControl c = false := by simp [isControl]; omega
  have : c.toNat < 0x80 := by omega
  simp [ofChar, *]

end Columns

def columns (cs : List Char) : Nat :=
  (Escape.shown cs).foldr (fun c total => Columns.ofChar c + total) 0

end CastleEscape.Text

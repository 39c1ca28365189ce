import CastleEscape.Text.Alphanumeric.Table
import CastleEscape.Text.Ranges

/-!
# Letters and digits

Which characters are letters or numbers, in every script.
-/

namespace CastleEscape.Text

def isAlphanumeric (c : Char) : Bool :=
  if c.toNat < 0x80 then c.isAlphanum else inRanges Alphanumeric.alphanumericRanges c

end CastleEscape.Text

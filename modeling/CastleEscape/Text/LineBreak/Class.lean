/-!
# Classes of line breaking

The classes into which characters fall when it is asked where a line may be broken.
-/

namespace CastleEscape.Text

inductive BreakClass where
  /-- Letters, and every character that is in no other class. -/
  | alphabetic
  | hebrew
  | numeric
  | ideographic
  /-- A line may be broken after these, or before them, or on both sides. -/
  | breakAfter | breakBefore | breakBoth
  /-- What is around these decides. -/
  | contingent
  | hyphen
  | space
  /-- The line ends after these. -/
  | mandatory | carriageReturn | lineFeed
  | opening | closing | closingParenthesis
  /-- Opening brackets as wide as ideographs. -/
  | openingWide
  /-- Quotation marks of no direction, and those that begin and end a quotation. -/
  | quotation | initialQuotation | finalQuotation
  | exclamation
  /-- Commas, full stops and colons, as they stand in numbers. -/
  | separator
  | slash
  /-- Signs in front of numbers and after them. -/
  | numericPrefix | numericSuffix
  | inseparable
  /-- These do not begin a line. -/
  | nonstarter
  /-- These hold on to what is on both sides of them. -/
  | glue | wordJoiner
  | zeroWidthSpace | zeroWidthJoiner
  /-- Marks on the character before. -/
  | combining
  | emojiBase | emojiModifier
  /-- Letters that make up the picture of a flag in pairs. -/
  | regional
  | jamoLead | jamoVowel | jamoTail | syllableOpen | syllableClosed
  /-- Letters of scripts that write a syllable around its consonant: consonants that can be joined
  below others, other bases of a syllable, and letters that stand in front of one. -/
  | aksara | aksaraStart | aksaraPrebase
  /-- Signs that take the vowel from a consonant, at the end of a syllable or within it. -/
  | viramaFinal | virama
  /-- The circle that stands for a consonant; a letter otherwise. -/
  | dottedCircle
  deriving DecidableEq

end CastleEscape.Text

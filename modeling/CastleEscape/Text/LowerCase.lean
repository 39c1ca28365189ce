import CastleEscape.Text.LowerCase.Table
import CastleEscape.Text.Ranges

/-!
# Lower case

Full lower-casing of text. Most characters become one small letter on their own; the dotted capital
I becomes two characters, and a capital sigma becomes the final form at the end of a word.
-/

namespace CastleEscape.Text

namespace LowerCase

def isIgnorable (c : Char) : Bool := inRanges ignorableRanges c

def isCased (c : Char) : Bool := inRanges casedRanges c

/-- Whether the nearest character that is not to be looked through is a letter with case. -/
def meetsCased (cs : List Char) : Bool :=
  match cs.dropWhile isIgnorable with
  | [] => false
  | c :: _ => isCased c

/-- A word ends at a place with a letter before it and none after it. -/
def endsWord (before after : List Char) : Bool :=
  meetsCased before && !meetsCased after

/-- The small form of a character that does not look at its neighbours. -/
def ofChar (c : Char) : List Char :=
  if c.toNat < 0x80 then [c.toLower]
  else if c = 'İ' then ['i', '\u0307']
  else [((capitalRuns.findSome? (·.small? c.toNat)).map Char.ofNat).getD c]

/-- The rest of a text whose beginning, in reverse, is `before`. -/
def ofChars (before : List Char) : List Char → List Char
  | [] => []
  | c :: rest =>
    (if c = 'Σ' then [if endsWord before rest then 'ς' else 'σ'] else ofChar c) ++
      ofChars (c :: before) rest

theorem ofChar_of_ascii {c : Char} (h : c.toNat < 0x80) : ofChar c = [c.toLower] := by
  simp [ofChar, h]

end LowerCase

def lowerCase (s : String) : String := .ofList (LowerCase.ofChars [] s.toList)

/-- Equality of texts but for the case of ASCII letters. -/
def sameButAsciiCase (a b : String) : Bool :=
  a.toList.map Char.toLower == b.toList.map Char.toLower

end CastleEscape.Text

/-!
# Blank characters

Which characters count as white space (the Unicode class, beyond ASCII too), and the trimming and
word-finding that players' lines go through. The functions are on lists of characters; those on
strings are read off them.
-/

namespace CastleEscape.Text

/-- The Unicode class of white space: 25 characters. -/
def isBlank (c : Char) : Bool :=
  let n := c.toNat
  (0x09 ≤ n && n ≤ 0x0D) || n == 0x20 || n == 0x85 || n == 0xA0 || n == 0x1680 ||
    (0x2000 ≤ n && n ≤ 0x200A) || n == 0x2028 || n == 0x2029 || n == 0x202F || n == 0x205F ||
    n == 0x3000

/-! ## Trimming -/

def trimStartChars (cs : List Char) : List Char :=
  cs.dropWhile isBlank

def trimEndChars (cs : List Char) : List Char :=
  (cs.reverse.dropWhile isBlank).reverse

def trimChars (cs : List Char) : List Char :=
  trimEndChars (trimStartChars cs)

def trimStart (s : String) : String := .ofList (trimStartChars s.toList)

def trimEnd (s : String) : String := .ofList (trimEndChars s.toList)

def trim (s : String) : String := .ofList (trimChars s.toList)

/-- No character, or blank ones only. -/
def isBlankText (s : String) : Bool := s.toList.all isBlank

/-! ## Words -/

/-- The last of the words between blanks, if there is a word. -/
def lastWord? (s : String) : Option String :=
  match (s.toList.reverse.dropWhile isBlank).takeWhile (fun c => !isBlank c) with
  | [] => none
  | word => some (.ofList word.reverse)

/-- What follows the first space (U+0020), trimmed, unless nothing is left of it. -/
def afterFirstSpace? (s : String) : Option String :=
  match trimChars ((s.toList.dropWhile (· != ' ')).drop 1) with
  | [] => none
  | rest => some (.ofList rest)

end CastleEscape.Text

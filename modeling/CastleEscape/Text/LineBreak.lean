import CastleEscape.Text.LineBreak.Table
import CastleEscape.Text.Ranges

/-!
# Line breaking

Where a line may be broken, by the classes of the characters around a place. The rules are tried
one after the other, and the first that applies decides; where none applies, the line may be broken.

* `Before.mayBreak` decides about one place;
* `places` goes through a line and gives the decision about the place before every character.
-/

namespace CastleEscape.Text

namespace BreakClass

def ofAscii (c : Char) : BreakClass :=
  match c with
  | ' ' => space
  | '\t' | '|' => breakAfter
  | '\n' => lineFeed
  | '\x0B' | '\x0C' => mandatory
  | '\r' => carriageReturn
  | '!' | '?' => exclamation
  | '"' | '\'' => quotation
  | '$' | '+' | '\\' => numericPrefix
  | '%' => numericSuffix
  | '(' | '[' | '{' => opening
  | ')' | ']' => closingParenthesis
  | '}' => closing
  | ',' | '.' | ':' | ';' => separator
  | '-' => hyphen
  | '/' => slash
  | _ =>
    if c.isDigit then numeric
    else if c.toNat < 0x20 || c.toNat == 0x7F then combining
    else alphabetic

/-- A syllable of Hangul; every twenty-eighth ends with its vowel. -/
def ofSyllable (c : Char) : BreakClass :=
  if (c.toNat - 0xAC00) % 28 = 0 then syllableOpen else syllableClosed

def ofChar (c : Char) : BreakClass :=
  if c.toNat < 0x80 then ofAscii c
  else if 0xAC00 ≤ c.toNat ∧ c.toNat ≤ 0xD7A3 then ofSyllable c
  else
    ((LineBreak.classRanges.find? fun entry => inRanges entry.2 c).map (·.1)).getD alphabetic

def endsLine (cls : BreakClass) : Bool :=
  cls ∈ [mandatory, carriageReturn, lineFeed]

def isOpening (cls : BreakClass) : Bool :=
  cls ∈ [opening, openingWide]

def isQuotation (cls : BreakClass) : Bool :=
  cls ∈ [quotation, initialQuotation, finalQuotation]

/-- Whether characters of a class can be marks on the character before. -/
def canMark (cls : BreakClass) : Bool :=
  cls ∈ [combining, zeroWidthJoiner]

/-- What a class counts as where there is nothing to mark. -/
def asLetter (cls : BreakClass) : BreakClass :=
  if cls.canMark then alphabetic else cls

end BreakClass

namespace LineBreak

open BreakClass

/-! ## Rules for neighbours -/

/-- The bases of syllables. -/
def bases : List BreakClass := [aksara, aksaraStart, dottedCircle]

/-- Classes that stay together when they follow each other. -/
def pairs : List (List BreakClass × List BreakClass) :=
  let letters := [alphabetic, hebrew, dottedCircle]
  let pictures := [ideographic, emojiBase, emojiModifier]
  let hangul := [jamoLead, jamoVowel, jamoTail, syllableOpen, syllableClosed]
  [([slash], [hebrew]),
   (letters, [numeric]), ([numeric], letters),
   ([numericPrefix], pictures), (pictures, [numericSuffix]),
   ([numericPrefix, numericSuffix], letters), (letters, [numericPrefix, numericSuffix]),
   ([closing, closingParenthesis, numeric], [numericPrefix, numericSuffix]),
   ([numericPrefix, numericSuffix], [opening, openingWide, numeric]),
   ([hyphen, separator, slash, numeric], [numeric]),
   ([jamoLead], [jamoLead, jamoVowel, syllableOpen, syllableClosed]),
   ([jamoVowel, syllableOpen], [jamoVowel, jamoTail]),
   ([jamoTail, syllableClosed], [jamoTail]),
   (hangul, [numericSuffix]), ([numericPrefix], hangul),
   (letters, letters), ([aksaraPrebase], bases), (bases, [viramaFinal, virama]),
   ([separator], letters),
   (letters ++ [numeric], [opening]), ([closingParenthesis], letters ++ [numeric]),
   ([emojiBase], [emojiModifier])]

def arePaired (last next : BreakClass) : Bool :=
  pairs.any fun pair => pair.1.contains last && pair.2.contains next

/-- The class of the first character that is no mark. -/
def following? (classes : List BreakClass) : Option BreakClass :=
  classes.find? (!·.canMark)

/-- Whether a quotation can end before these: no word goes on with the first that is no mark. -/
def endsQuotation (classes : List BreakClass) : Bool :=
  (following? classes).all fun cls =>
    cls.endsLine || cls.isQuotation ||
      cls ∈ [space, glue, wordJoiner, closing, closingParenthesis, exclamation, separator, slash,
        zeroWidthSpace]

/-- Whether no line is broken before a character, even after spaces. -/
def isHeldBack (next : BreakClass) (rest : List BreakClass) : Bool :=
  next ∈ [wordJoiner, closing, closingParenthesis, exclamation, separator, slash] ||
    (next == finalQuotation && endsQuotation rest)

/-! ## Rules for a place -/

/-- What counts about the characters before a place. -/
structure Before where
  /-- The class of the nearest of them that is neither a space nor a mark. -/
  last : BreakClass
  /-- There are spaces after it. -/
  spaced : Bool
  /-- It is a hyphen after Hebrew. -/
  afterHebrew : Bool
  /-- It is the first half of a flag. -/
  opensFlag : Bool
  /-- It begins a quotation: no word comes right before it. -/
  opensQuotation : Bool
  /-- It joins the consonant before it to the next one. -/
  joinsConsonants : Bool
  /-- The place is right after a zero width joiner. -/
  joined : Bool

/-- The beginning of a line. -/
def Before.start : Before :=
  { last := lineFeed
    spaced := false
    afterHebrew := false
    opensFlag := false
    opensQuotation := false
    joinsConsonants := false
    joined := false }

/-- Whether a character is a mark on the one before. Without one before, it counts as a letter. -/
def Before.isMarkedBy (before : Before) (next : BreakClass) : Bool :=
  next.canMark && !before.spaced && !before.last.endsLine && before.last != space &&
    before.last != zeroWidthSpace

/-- Whether a quotation can begin here. -/
def Before.admitsQuotation (before : Before) : Bool :=
  before.spaced || before.last.endsLine || before.last.isOpening || before.last.isQuotation ||
    before.last ∈ [glue, space, zeroWidthSpace]

/-- Whether a character stays with the last one even if there are spaces between them. -/
def Before.isBoundAcross (before : Before) (next : BreakClass) : Bool :=
  before.last.isOpening || before.opensQuotation ||
    (before.last ∈ [closing, closingParenthesis] && next == nonstarter) ||
    (before.last == breakBoth && next == breakBoth)

/-- Whether a character goes on with the syllable of the one right before it. -/
def Before.isSyllableWith (before : Before) (next : BreakClass) (rest : List BreakClass) : Bool :=
  (before.joinsConsonants && next ∈ [aksara, dottedCircle]) ||
    (before.last ∈ bases && next ∈ bases && following? rest == some viramaFinal)

/-- Whether a character that is no mark stays with the one right before it. -/
def Before.isBoundTo (before : Before) (next : BreakClass) (rest : List BreakClass) : Bool :=
  let last := before.last
  last ∈ [wordJoiner, glue] || last.isQuotation || next.isQuotation ||
    (next == glue && !(last ∈ [breakAfter, hyphen])) || before.isBoundAcross next ||
    (last != contingent && next != contingent &&
      (next ∈ [breakAfter, hyphen, nonstarter, inseparable] || last == breakBefore ||
        before.afterHebrew || arePaired last next || (before.opensFlag && next == regional) ||
        before.isSyllableWith next rest))

/-- Whether the line may be broken before a character, which `rest` follows. -/
def Before.mayBreak (before : Before) (next : BreakClass) (rest : List BreakClass) : Bool :=
  if before.last.endsLine then !(before.last == carriageReturn && next == lineFeed)
  else if next.endsLine || next == space || next == zeroWidthSpace then false
  else if before.last == zeroWidthSpace then true
  else if before.joined || before.isMarkedBy next || isHeldBack next rest then false
  else if before.spaced then !before.isBoundAcross next.asLetter
  else !before.isBoundTo next.asLetter rest

/-- What counts at the place after one more character. -/
def Before.pass (before : Before) (next : BreakClass) : Before :=
  let joined := next == zeroWidthJoiner
  if before.isMarkedBy next then { before with joined := joined }
  else if next == space then
    { before with
      last := if before.last.endsLine then space else before.last
      spaced := true
      joined := false }
  else
    let adjacent (cls : BreakClass) := before.last == cls && !before.spaced
    { last := next.asLetter
      spaced := false
      afterHebrew := adjacent hebrew && next ∈ [hyphen, breakAfter]
      opensFlag := next == regional && !(adjacent regional && before.opensFlag)
      opensQuotation := next == initialQuotation && before.admitsQuotation
      joinsConsonants := next == virama && bases.any adjacent
      joined := joined }

def placesFrom (before : Before) : List BreakClass → List Bool
  | [] => []
  | next :: rest => before.mayBreak next rest :: placesFrom (before.pass next) rest

/-- For every character of a line, whether the line may be broken before it. It is never broken at
its beginning. -/
def places (line : List Char) : List Bool :=
  match line.map ofChar with
  | [] => []
  | first :: rest => false :: placesFrom (Before.start.pass first) rest

theorem length_placesFrom (before : Before) (classes : List BreakClass) :
    (placesFrom before classes).length = classes.length := by
  induction classes generalizing before with
  | nil => rfl
  | cons next rest ih => simp [placesFrom, ih]

theorem length_places (line : List Char) : (places line).length = line.length := by
  cases line with
  | nil => rfl
  | cons c rest => simp [places, length_placesFrom]

end LineBreak

end CastleEscape.Text

import CastleEscape.Text.Alphanumeric
import CastleEscape.Text.Columns
import CastleEscape.Text.Escape
import CastleEscape.Text.LineBreak

/-!
# Wrapping

Breaking of long lines at the width of the terminal. A line is cut into parts, between which it can
be broken, and of all ways to lay the parts out in lines one of least cost is taken. Every line
costs something, so that few lines are used; a line that is too wide costs much; any other costs
more the more room it leaves, only the last line may be short, as long as it is not a single short
part. Nothing but spaces at the ends of lines is lost.
-/

namespace CastleEscape.Text.Wrap

/-- The width of the terminal, in columns. -/
def width : Nat := 80

/-! ## Parts -/

/-- A stretch of a line, with as many spaces after it as `gap` says and the columns it takes up
without them. -/
structure Part where
  text : List Char
  gap : Nat
  columns : Nat
  deriving DecidableEq

def Part.of (text : List Char) (gap : Nat) : Part := ⟨text, gap, Text.columns text⟩

/-- Puts text in front of the first of some pieces. -/
def prepend (text : List Char) : List (List Char) → List (List Char)
  | [] => [text]
  | piece :: rest => (text ++ piece) :: rest

theorem flatten_prepend (text : List Char) (pieces : List (List Char)) :
    (prepend text pieces).flatten = text ++ pieces.flatten := by
  cases pieces <;> simp [prepend]

/-- Hyphens and soft hyphens. -/
def isHyphen (c : Char) : Bool := c == '-' || c == '\u00AD'

/-- Cuts a marked line at the places where it may be broken, unless the character before the place
is a hyphen. There is a place for each character that is shown; escape sequences before it, of
which `hidden` has come already in reverse, stay with it. -/
def cutAtPlaces (afterHyphen : Bool) (hidden : List Char) :
    List (Char × Bool) → List Bool → List (List Char)
  | [], _ => [hidden.reverse]
  | (c, false) :: rest, places => cutAtPlaces afterHyphen (c :: hidden) rest places
  | (c, true) :: rest, places =>
    let pieces := prepend (c :: hidden).reverse (cutAtPlaces (isHyphen c) [] rest places.tail)
    if places.head?.any id && !afterHyphen then [] :: pieces else pieces

theorem flatten_cutAtPlaces (afterHyphen : Bool) (hidden : List Char) (line : List (Char × Bool))
    (places : List Bool) :
    (cutAtPlaces afterHyphen hidden line places).flatten = hidden.reverse ++ line.map (·.1) := by
  induction line generalizing afterHyphen hidden places with
  | nil => simp [cutAtPlaces]
  | cons marked rest ih =>
    obtain ⟨c, _ | _⟩ := marked
    · simp [cutAtPlaces, ih]
    · simp only [cutAtPlaces]
      split <;> simp [flatten_prepend, ih]

/-- Takes back the last cut. -/
def joinLast : List (List Char) → List (List Char)
  | [] => []
  | [piece] => [piece]
  | [piece, last] => [piece ++ last]
  | piece :: rest => piece :: joinLast rest

theorem flatten_joinLast (pieces : List (List Char)) :
    (joinLast pieces).flatten = pieces.flatten := by
  fun_induction joinLast pieces <;> simp_all

/-- The words of a line, with the spaces after them. A line that ends with a hyphen is not broken
at the last of its places. -/
def words (line : List Char) : List (List Char) :=
  let shown := Escape.shown line
  let pieces := cutAtPlaces false [] (Escape.mark line) (LineBreak.places shown)
  if shown.getLast?.any isHyphen then joinLast pieces else pieces

/-- Nothing of a line is lost between its words. -/
theorem flatten_words (line : List Char) : (words line).flatten = line := by
  simp only [words]
  split <;> simp [flatten_joinLast, flatten_cutAtPlaces, Escape.map_fst_mark]

/-- Cuts a word after every hyphen that joins two letters or digits. -/
def cutAtHyphens (joined : Bool) : List Char → List (List Char)
  | [] => [[]]
  | c :: rest =>
    let pieces := cutAtHyphens (isAlphanumeric c) rest
    if c = '-' ∧ joined ∧ (rest.head?.any isAlphanumeric) then [c] :: pieces
    else prepend [c] pieces

/-- Cuts a marked piece into stretches of the full width, of which the first has `used` columns
already. -/
def cutWide (used : Nat) : List (Char × Bool) → List (List Char)
  | [] => [[]]
  | (c, isShown) :: rest =>
    let taken := if isShown then Columns.ofChar c else 0
    if isShown ∧ 0 < used ∧ width < used + taken then [] :: prepend [c] (cutWide taken rest)
    else prepend [c] (cutWide (used + taken) rest)

/-- The pieces of a word as parts; the spaces stay after the last of them. -/
def withGap (gap : Nat) : List (List Char) → List Part
  | [] => []
  | [piece] => [.of piece gap]
  | piece :: rest => .of piece 0 :: withGap gap rest

/-- The parts into which a word can be divided. -/
def partsOfWord (word : List Char) : List Part :=
  let text := (word.reverse.dropWhile (· = ' ')).reverse
  withGap (word.length - text.length) ((cutAtHyphens false text).flatMap (cutWide 0 ∘ Escape.mark))

def parts (line : List Char) : List Part :=
  (words line).flatMap partsOfWord

/-! ## Lines -/

def lineText : List Part → List Char
  | [] => []
  | [part] => part.text
  | part :: rest => part.text ++ List.replicate part.gap ' ' ++ lineText rest

/-- What a line costs for the columns that it has too many. -/
def excessCost (columns : Nat) : Nat := 2500 * (columns - width)

/-- What a line of `columns` columns costs, with `single` for one part alone on the line. -/
def lineCost (last single : Bool) (columns : Nat) : Nat :=
  1000 +
    if width < columns then excessCost columns
    else if !last then (width - columns) * (width - columns)
    else if single ∧ columns < 20 then 25
    else 0

/-- Some parts laid out in lines, of which the last comes first. -/
structure Layout where
  cost : Nat
  lines : List (List Part)

/-- A layout with one more line below it. -/
def Layout.below (layout : Layout) (last : Bool) (line : List Part) (columns : Nat) : Layout :=
  ⟨layout.cost + lineCost last line.tail.isEmpty columns, line :: layout.lines⟩

/-- The best layout of which the last line ends with the parts in `line`. The best layout of what
comes before them is `before`; in `earlier` each part before them, the nearest first, stands with
the best layout of what comes before it. Among equals the longest last line is best. Once the
excess of a line alone costs more than `limit`, which some layout keeps, no longer line is tried. -/
def bestFrom (last : Bool) (limit : Nat) (line : List Part) (columns : Nat) (before : Layout) :
    List (Part × Layout) → Layout
  | [] => before.below last line columns
  | (part, layout) :: earlier =>
    let shorter := before.below last line columns
    if limit < excessCost columns then shorter
    else
      let longer :=
        bestFrom last limit (part :: line) (part.columns + part.gap + columns) layout earlier
      if longer.cost ≤ shorter.cost then longer else shorter

/-- The best layout of everything, once the beginning of it has been laid out. -/
def layOut (before : Layout) (earlier : List (Part × Layout)) : List Part → Layout
  | [] => before
  | part :: rest =>
    let limit := (before.below rest.isEmpty [part] part.columns).cost
    layOut (bestFrom rest.isEmpty limit [part] part.columns before earlier)
      ((part, before) :: earlier) rest

def wrapParts (ps : List Part) : List (List Part) :=
  (layOut ⟨0, []⟩ [] ps).lines.reverse

/-! ## Filling -/

/-- The lines that one line becomes. A line of fewer bytes than the width holds columns fits as it
is. -/
def wrapLine (line : List Char) : List (List Char) :=
  if (String.ofList line).utf8ByteSize < width then
    [(line.reverse.dropWhile (· = ' ')).reverse]
  else
    (wrapParts (parts line)).map lineText

/-- Wraps every line of a text by itself. -/
def fill (text : String) : String :=
  .ofList (['\n'].intercalate ((text.toList.splitOn '\n').flatMap wrapLine))

end CastleEscape.Text.Wrap

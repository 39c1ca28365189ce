import CastleEscape.Text.Utf8

/-!
# Lines

One rule for lines of characters and of bytes: a line ends at a line feed, and a single carriage
return right before that line feed belongs to the ending. What follows the last line feed is a line
of its own, kept as it is, unless it is empty.

* `ofText` and `ofBytes` have all the lines at once;
* `read?` reads one line of an input, and `Reads` reads one after the other.
-/

namespace CastleEscape.Text.Lines

variable {α : Type} [DecidableEq α]

/-- A line that was ended by a line feed, given in reverse. -/
def ended (ret : α) : List α → List α
  | [] => []
  | x :: line => if x = ret then line.reverse else (x :: line).reverse

/-- The lines of a sequence of which the current line has begun with `line`, in reverse. -/
def splitFrom (feed ret : α) (line : List α) : List α → List (List α)
  | [] => if line.isEmpty then [] else [line.reverse]
  | x :: rest =>
    if x = feed then ended ret line :: splitFrom feed ret [] rest
    else splitFrom feed ret (x :: line) rest

def split (feed ret : α) (xs : List α) : List (List α) :=
  splitFrom feed ret [] xs

/-- A line feed separates what comes before it from what comes after it. -/
theorem splitFrom_append (feed ret : α) (line before rest : List α) :
    splitFrom feed ret line (before ++ feed :: rest) =
      splitFrom feed ret line (before ++ [feed]) ++ splitFrom feed ret [] rest := by
  induction before generalizing line with
  | nil => simp [splitFrom]
  | cons x before ih => by_cases hx : x = feed <;> simp [splitFrom, hx, ih]

def ofChars (cs : List Char) : List (List Char) :=
  split '\n' '\r' cs

def ofText (text : String) : List String :=
  (ofChars text.toList).map .ofList

/-- The lines that a stream of bytes holds, each decoded by itself. -/
def ofBytes (bytes : List UInt8) : List String :=
  (split 0x0A 0x0D bytes).map fun line => .ofList (Utf8.decodeLossy line)

/-- An input that stops with a line feed can be followed by another. -/
theorem ofBytes_append {bytes : List UInt8} (hended : bytes.getLast? = some 0x0A)
    (more : List UInt8) : ofBytes (bytes ++ more) = ofBytes bytes ++ ofBytes more := by
  obtain ⟨before, rfl⟩ := List.getLast?_eq_some_iff.mp hended
  rw [ofBytes, ofBytes, ofBytes, split, List.append_assoc, List.singleton_append,
    splitFrom_append, List.map_append]
  rfl

/-! ## One line after the other -/

/-- A line that was ended by a line feed, without the return that belongs to the ending. -/
def withoutReturn (ret : α) (line : List α) : List α :=
  if line.getLast? = some ret then line.dropLast else line

@[simp] theorem withoutReturn_concat {ret : α} (line : List α) :
    withoutReturn ret (line ++ [ret]) = line := by
  simp [withoutReturn]

/-- The bytes up to the first line feed and with it, and what comes after them. -/
def readUntilFeed : List UInt8 → List UInt8 × List UInt8
  | [] => ([], [])
  | b :: bytes =>
    if b = 0x0A then ([b], bytes)
    else
      let (line, rest) := readUntilFeed bytes
      (b :: line, rest)

/-- The bytes of a line without its line feed, and without the return before that. -/
def withoutEnding (line : List UInt8) : List UInt8 :=
  if line.getLast? = some 0x0A then withoutReturn 0x0D line.dropLast else line

/-- Reads one line and leaves what comes after it; there is none if there is nothing to read. -/
def read? (bytes : List UInt8) : Option (String × List UInt8) :=
  match readUntilFeed bytes with
  | ([], _) => none
  | (line, rest) => some (.ofList (Utf8.decodeLossy (withoutEnding line)), rest)

/-- One line is read after the other, until there is none. -/
inductive Reads : List UInt8 → List String → Prop where
  | done {bytes : List UInt8} (hnone : read? bytes = none) : Reads bytes []
  | line {bytes rest : List UInt8} {line : String} {lines : List String}
      (hline : read? bytes = some (line, rest)) (hlines : Reads rest lines) :
      Reads bytes (line :: lines)

end CastleEscape.Text.Lines

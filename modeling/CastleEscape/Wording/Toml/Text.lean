/-!
# Texts of a TOML document

The blank stretches between the tokens of a document, and the four kinds of quoted text: with or
without escapes, on one line or on several. A reader takes the characters that are left and gives
what it has read with the characters after it, or nothing where the document is malformed.
-/

namespace CastleEscape.Toml

/-! ## Between the tokens -/

def isSpace (c : Char) : Bool := c == ' ' || c == '\t'

/-- Characters that texts and comments may hold as they are: no control characters but the tab. -/
def isTextChar (c : Char) : Bool :=
  c == '\t' || (0x20 ≤ c.toNat && c.toNat ≠ 0x7F)

def skipSpaces (cs : List Char) : List Char := cs.dropWhile isSpace

/-- The characters after the line ending with which these begin, if they do: a line feed, or a
carriage return with a line feed. -/
def afterLineEnd? : List Char → Option (List Char)
  | '\n' :: rest => some rest
  | '\r' :: '\n' :: rest => some rest
  | _ => none

def skipComment (cs : List Char) : List Char :=
  match cs with
  | '#' :: rest => rest.dropWhile isTextChar
  | _ => cs

/-- What can stand after a statement: spaces and a comment, up to the end of the line or of the
document. -/
def endOfLine? (cs : List Char) : Option (List Char) :=
  match skipComment (skipSpaces cs) with
  | [] => some []
  | rest => afterLineEnd? rest

/-- Skips spaces, comments and line endings. A comment has to be followed by a line ending. -/
def skipBlank (inComment : Bool) : List Char → Option (List Char)
  | [] => if inComment then none else some []
  | c :: rest =>
    if c = '\n' then skipBlank false rest
    else if c = '\r' ∧ rest.head? = some '\n' then skipBlank inComment rest
    else if inComment then if isTextChar c then skipBlank true rest else none
    else if isSpace c then skipBlank false rest
    else if c = '#' then skipBlank true rest
    else some (c :: rest)

/-! ## Escapes -/

def hexDigit? (c : Char) : Option Nat :=
  if c.isDigit then some (c.toNat - '0'.toNat)
  else if 'a' ≤ c ∧ c ≤ 'f' then some (c.toNat - 'a'.toNat + 10)
  else if 'A' ≤ c ∧ c ≤ 'F' then some (c.toNat - 'A'.toNat + 10)
  else none

/-- The character with this many hexadecimal digits as its code point. -/
def hexChar? (digits : Nat) (cs : List Char) : Option Char := do
  let values ← (cs.take digits).mapM hexDigit?
  let code := values.foldl (fun sum value => 16 * sum + value) 0
  if values.length = digits ∧ code.isValidChar then return .ofNat code else none

/-- The character that an escape stands for, and how many characters it takes up after the
backslash. -/
def escape? : List Char → Option (Char × Nat)
  | 'b' :: _ => some ('\x08', 1)
  | 't' :: _ => some ('\t', 1)
  | 'n' :: _ => some ('\n', 1)
  | 'f' :: _ => some ('\x0C', 1)
  | 'r' :: _ => some ('\r', 1)
  | '"' :: _ => some ('"', 1)
  | '\\' :: _ => some ('\\', 1)
  | 'u' :: rest => (hexChar? 4 rest).map (·, 5)
  | 'U' :: rest => (hexChar? 8 rest).map (·, 9)
  | _ => none

/-- Whether what follows a backslash is nothing up to the end of the line, so that the line break
and all blanks after it are left out of the text. -/
def joinsLines (cs : List Char) : Bool :=
  (afterLineEnd? (skipSpaces cs)).isSome

/-! ## Quoted texts -/

def prepend (c : Char) (read : Option (List Char × List Char)) : Option (List Char × List Char) :=
  read.map fun (text, rest) => (c :: text, rest)

/-- The end of a text between triple quotes: at most two more quotes may stand before it, which
belong to the text. -/
def closing? (quote : Char) (cs : List Char) : Option (List Char × List Char) :=
  let run := min (cs.takeWhile (· == quote)).length 5
  if run < 3 then none else some (List.replicate (run - 3) quote, cs.drop run)

/-- The rest of a text with escapes, up to its closing quote or quotes. The first `skip` characters
are the end of an escape; with `joining`, blanks are left out up to the next character. -/
def escaped (triple : Bool) :
    (skip : Nat) → (joining : Bool) → List Char → Option (List Char × List Char)
  | _, _, [] => none
  | skip + 1, joining, _ :: rest => escaped triple skip joining rest
  | 0, joining, c :: rest =>
    let isLineEnd := (afterLineEnd? (c :: rest)).isSome
    if joining && (isSpace c || isLineEnd) then escaped triple 0 true rest
    else if c = '"' then
      if triple then
        (closing? '"' (c :: rest)).or (prepend c (escaped triple 0 false rest))
      else some ([], rest)
    else if c = '\\' then
      if triple && joinsLines rest then escaped triple 0 true rest
      else do
        let (meant, length) ← escape? rest
        prepend meant (escaped triple length false rest)
    else if isLineEnd then
      if triple then
        if c = '\r' then escaped triple 0 false rest else prepend c (escaped triple 0 false rest)
      else none
    else if isTextChar c then prepend c (escaped triple 0 false rest)
    else none

/-- The rest of a text without escapes, up to its closing quote or quotes. -/
def literal (triple : Bool) : List Char → Option (List Char × List Char)
  | [] => none
  | c :: rest =>
    if c = '\'' then
      if triple then (closing? '\'' (c :: rest)).or (prepend c (literal triple rest))
      else some ([], rest)
    else if (afterLineEnd? (c :: rest)).isSome then
      if triple then if c = '\r' then literal triple rest else prepend c (literal triple rest)
      else none
    else if isTextChar c then prepend c (literal triple rest)
    else none

/-- A line ending right after triple quotes is left out of the text. -/
def skipFirstLineEnd (cs : List Char) : List Char := (afterLineEnd? cs).getD cs

/-- A quoted text of any kind. -/
def quoted : List Char → Option (List Char × List Char)
  | '"' :: '"' :: '"' :: rest => escaped true 0 false (skipFirstLineEnd rest)
  | '"' :: rest => escaped false 0 false rest
  | '\'' :: '\'' :: '\'' :: rest => literal true (skipFirstLineEnd rest)
  | '\'' :: rest => literal false rest
  | _ => none

end CastleEscape.Toml

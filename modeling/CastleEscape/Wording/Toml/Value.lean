import CastleEscape.Wording.Toml.Scalar
import CastleEscape.Wording.Toml.Tree

/-!
# Keys and values of a TOML document

Keys may be dotted, and values may hold values: in arrays, which can go over several lines, and in
inline tables, which cannot. Both the parts of a key and the depth of a value are limited.
-/

namespace CastleEscape.Toml

/-- A key has fewer parts than this, and a value has fewer values around it. -/
def depthLimit : Nat := 80

/-! ## Keys -/

def isBareKeyChar (c : Char) : Bool := c.isAlphanum || c == '_' || c == '-'

/-- One part of a key: a quoted text on one line, or a bare word. -/
def keyPart (cs : List Char) : Option (String × List Char) :=
  match cs with
  | '"' :: rest => (escaped false 0 false rest).map fun (text, rest) => (.ofList text, rest)
  | '\'' :: rest => (literal false rest).map fun (text, rest) => (.ofList text, rest)
  | _ =>
    match cs.takeWhile isBareKeyChar with
    | [] => none
    | word => some (.ofList word, cs.drop word.length)

/-- A key of at most `parts` parts, with the spaces around it. -/
def keyWithin : (parts : Nat) → List Char → Option (List String × List Char)
  | 0, _ => none
  | parts + 1, cs => do
    let (part, rest) ← keyPart (skipSpaces cs)
    match skipSpaces rest with
    | '.' :: rest =>
      let (path, rest) ← keyWithin parts rest
      return (part :: path, rest)
    | rest => return ([part], rest)

def key (cs : List Char) : Option (List String × List Char) :=
  keyWithin (depthLimit - 1) cs

/-! ## Values -/

/-- What has been given to keys, in its order. -/
abbrev Assignments := List (List String × Datum)

def Assignments.apply (assignments : Assignments) (origin : Origin) (entries : Entries) :
    Option Entries :=
  assignments.foldlM (fun entries item => entries.assign item.1 item.2 origin) entries

section Nested

variable (value : List Char → Option (Datum × List Char))

/-- The elements of an array up to its end; a comma may follow the last. -/
def elements : (fuel : Nat) → List Char → Option (List Datum × List Char)
  | 0, _ => none
  | fuel + 1, cs => do
    match ← skipBlank false cs with
    | ']' :: rest => return ([], rest)
    | cs =>
      let (first, rest) ← value cs
      match ← skipBlank false rest with
      | ',' :: rest =>
        let (others, rest) ← elements fuel rest
        return (first :: others, rest)
      | ']' :: rest => return ([first], rest)
      | _ => none

def assignment (cs : List Char) : Option ((List String × Datum) × List Char) := do
  let (path, rest) ← key cs
  let (given, rest) ← value (skipSpaces (← expect '=' rest))
  return ((path, given), rest)

/-- The assignments of an inline table up to its end; no comma may follow the last. -/
def assignments : (fuel : Nat) → List Char → Option (Assignments × List Char)
  | 0, _ => none
  | fuel + 1, cs => do
    let (first, rest) ← assignment value cs
    match skipSpaces rest with
    | ',' :: rest =>
      let (others, rest) ← assignments fuel rest
      return (first :: others, rest)
    | '}' :: rest => return ([first], rest)
    | _ => none

def inlineTable (cs : List Char) : Option (Datum × List Char) := do
  match skipSpaces cs with
  | '}' :: rest => return (.table [], rest)
  | cs =>
    let (items, rest) ← assignments value cs.length cs
    return (.table (entriesToData (← items.apply .header [])), rest)

end Nested

/-- A value with at most `depth` values inside one another. -/
def valueWithin : (depth : Nat) → List Char → Option (Datum × List Char)
  | depth, '[' :: rest =>
    match depth with
    | 0 => none
    | depth + 1 =>
      (elements (valueWithin depth) (rest.length + 1) rest).map fun (items, rest) =>
        (.list items, rest)
  | depth, '{' :: rest =>
    match depth with
    | 0 => none
    | depth + 1 => inlineTable (valueWithin depth) rest
  | _, cs => scalar cs

def value (cs : List Char) : Option (Datum × List Char) :=
  valueWithin (depthLimit - 1) cs

end CastleEscape.Toml

import CastleEscape.Wording.Toml.Value

/-!
# TOML documents

A document is read into statements, one to a line, and the statements are carried out one after the
other: a header opens a table, and an assignment gives a value to a key of the table opened last.
-/

namespace CastleEscape.Toml

inductive Statement where
  | table (path : List String)
  | element (path : List String)
  | assign (path : List String) (value : Datum)

/-! ## Reading -/

/-- The statement at the beginning of some characters, with what follows its line. -/
def Statement.read (cs : List Char) : Option (Statement × List Char) := do
  match cs with
  | '[' :: '[' :: rest =>
    let (path, rest) ← key rest
    return (.element path, ← endOfLine? (← expect ']' (← expect ']' rest)))
  | '[' :: rest =>
    let (path, rest) ← key rest
    return (.table path, ← endOfLine? (← expect ']' rest))
  | _ =>
    let ((path, given), rest) ← assignment value cs
    return (.assign path given, ← endOfLine? rest)

/-- The statements on the lines of some characters. -/
def readLines : (fuel : Nat) → List Char → Option (List Statement)
  | 0, cs => if cs.isEmpty then some [] else none
  | fuel + 1, cs =>
    match skipSpaces cs with
    | [] => some []
    | cs =>
      if (afterLineEnd? cs).isSome || cs.head? == some '#' then do
        readLines fuel (← endOfLine? cs)
      else do
        let (statement, rest) ← Statement.read cs
        return statement :: (← readLines fuel rest)

/-- A byte order mark at the beginning is left out. -/
def withoutMark : List Char → List Char
  | '\uFEFF' :: rest => rest
  | cs => cs

/-! ## Carrying out -/

/-- The whole document with the path of the table that was opened last. -/
structure Progress where
  root : Entries
  path : List String

def Progress.carryOut (progress : Progress) : Statement → Option Progress
  | .table path => do return ⟨← progress.root.openTable path, path⟩
  | .element path => do return ⟨← progress.root.openElement path, path⟩
  | .assign path value => do
    let change (origin : Origin) (entries : Entries) := entries.assign path value origin
    return { progress with root := ← progress.root.alter false change progress.path .header }

/-- The table that a document holds. -/
def document? (source : String) : Option Datum := do
  let cs := withoutMark source.toList
  let statements ← readLines (cs.length + 1) cs
  let progress ← statements.foldlM Progress.carryOut ⟨[], []⟩
  return .table (entriesToData progress.root)

end CastleEscape.Toml

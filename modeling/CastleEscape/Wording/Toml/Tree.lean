import CastleEscape.Wording.Datum

/-!
# Tables of a TOML document

How tables come about: by a header, on the way to a table with a header, or by a dotted key. What
has come about in one way cannot be changed in every other way, and no key can be given twice.
-/

namespace CastleEscape.Toml

/-- How a table has come about. -/
inductive Origin where
  /-- By a header of its own, or as the root. -/
  | header
  /-- On the way to a table with a header. -/
  | passage
  /-- By a dotted key. -/
  | dotted
  deriving DecidableEq

inductive Node where
  | value (datum : Datum)
  | table (origin : Origin) (entries : List (String × Node))
  /-- An array of tables. Only the last of them, which stands first here, can still grow. -/
  | tables (last : List (String × Node)) (earlier : List (List (String × Node)))

abbrev Entries := List (String × Node)

namespace Entries

/-- Puts a node under a key: in place of the node that is there, or at the end. -/
def put (key : String) (node : Node) : Entries → Entries
  | [] => [(key, node)]
  | entry :: rest => if entry.1 = key then (key, node) :: rest else entry :: put key node rest

/-- Changes the table at the end of a path. Tables that are not there yet are made on the way, and
of an array of tables the last one is meant. A dotted key must not lead into a table that has a
header. -/
def alter (dotted : Bool) (change : Origin → Entries → Option Entries) :
    List String → Origin → Entries → Option Entries
  | [], origin, entries => change origin entries
  | key :: path, _, entries =>
    match entries.lookup key with
    | none => do
      let origin := if dotted then Origin.dotted else .passage
      return entries.put key (.table origin (← alter dotted change path origin []))
    | some (.value _) => none
    | some (.tables last earlier) => do
      return entries.put key (.tables (← alter dotted change path .header last) earlier)
    | some (.table origin inner) => do
      if dotted && origin == .header then none
      else return entries.put key (.table origin (← alter dotted change path origin inner))

/-- Opens the table of a header: a new one, or one that has so far only been passed through. -/
def openTable (path : List String) (root : Entries) : Option Entries := do
  let key ← path.getLast?
  let change (_ : Origin) (entries : Entries) : Option Entries :=
    match entries.lookup key with
    | none => some (entries.put key (.table .header []))
    | some (.table .passage inner) => some (entries.put key (.table .header inner))
    | some _ => none
  root.alter false change path.dropLast .header

/-- Opens one more table of an array of tables. -/
def openElement (path : List String) (root : Entries) : Option Entries := do
  let key ← path.getLast?
  let change (_ : Origin) (entries : Entries) : Option Entries :=
    match entries.lookup key with
    | none => some (entries.put key (.tables [] []))
    | some (.tables last earlier) => some (entries.put key (.tables [] (last :: earlier)))
    | some _ => none
  root.alter false change path.dropLast .header

/-- Gives a value to a key, dotted or not, of a table. -/
def assign (path : List String) (value : Datum) (origin : Origin) (entries : Entries) :
    Option Entries := do
  let key ← path.getLast?
  let isDotted := !path.dropLast.isEmpty
  let change (origin : Origin) (entries : Entries) : Option Entries :=
    if (origin == .dotted) != isDotted || (entries.lookup key).isSome then none
    else some (entries.put key (.value value))
  entries.alter true change path.dropLast origin

end Entries

mutual

def Node.toDatum : Node → Datum
  | .value datum => datum
  | .table _ entries => .table (entriesToData entries)
  | .tables last earlier => .list (tablesToData earlier (.table (entriesToData last)))

def entriesToData : Entries → List (String × Datum)
  | [] => []
  | (key, node) :: rest => (key, node.toDatum) :: entriesToData rest

/-- The tables of an array, to be followed by one more. -/
def tablesToData : List Entries → Datum → List Datum
  | [], last => [last]
  | entries :: earlier, last => tablesToData earlier (.table (entriesToData entries)) ++ [last]

end

end CastleEscape.Toml

/-!
# Paths

Joining of paths and going up to the directory that holds one. Only the text of a path counts:
nothing is looked up, and two dots are a name like any other.
-/

namespace CastleEscape.Path

/-- A path below another; one that begins at the root stays as it is. -/
def join (base relative : String) : String :=
  if relative.toList.head? == some '/' then relative
  else if base.isEmpty || base.toList.getLast? == some '/' then base ++ relative
  else base ++ "/" ++ relative

/-- The names between slashes. -/
def names (cs : List Char) : List (List Char) := cs.splitOn '/'

/-- Names that lead nowhere: none at all, and the single dot. -/
def isIdle (name : List Char) : Bool := name == [] || name == ['.']

/-- What a path begins with that is not a name: the root, or the dot for the place it starts at. -/
def lead : List Char → List Char
  | '/' :: _ => ['/']
  | ['.'] => ['.']
  | '.' :: '/' :: _ => ['.']
  | _ => []

/-- The path without its last name. A path without any name has no parent, except that the dot has
the empty path. -/
def parent? (path : String) : Option String :=
  let cs := path.toList
  let start := lead cs
  match (names (cs.drop start.length)).reverse.dropWhile isIdle with
  | [] => if start = ['.'] then some "" else none
  | _ :: above =>
    some (.ofList (start ++ ['/'].intercalate (above.dropWhile isIdle).reverse))

end CastleEscape.Path

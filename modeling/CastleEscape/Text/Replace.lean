/-!
# Replacing

Replacing of every occurrence of one text by another, from left to right and without overlap. The
empty text occurs before each character and at the end.
-/

namespace CastleEscape.Text

/-- Replacing in what is left once `skip` characters of an occurrence have been passed over. -/
def replaceFrom (old new : List Char) : Nat → List Char → List Char
  | _, [] => []
  | skip + 1, _ :: rest => replaceFrom old new skip rest
  | 0, c :: rest =>
    if old.isPrefixOf (c :: rest) then new ++ replaceFrom old new (old.length - 1) rest
    else c :: replaceFrom old new 0 rest

def replaceChars (old new cs : List Char) : List Char :=
  match old with
  | [] => new ++ cs.flatMap (· :: new)
  | _ => replaceFrom old new 0 cs

def replaceAll (text old new : String) : String :=
  .ofList (replaceChars old.toList new.toList text.toList)

end CastleEscape.Text

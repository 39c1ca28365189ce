import CastleEscape.Wording.Load

/-!
# The data directory

Where the program looks for the file with its wording. The first of several candidates that is a
directory is taken, whatever is in it; only if there is no such file in it, the shipped wording is
used.
-/

namespace CastleEscape.DataFiles

/-- The variable of the environment that names a directory to be tried first. -/
def overrideVariable : String := "CASTLE_DATA_DIR"

def mainDirectory : String := "castle_engine/data"

def wordingFile : String := "text.toml"

/-- The places below one directory. -/
def placesBelow (directory : String) : List String :=
  [Path.join directory mainDirectory, Path.join directory "data"]

/-- Where data may be, the best place first: in the directory that was asked for, where the program
was started, beside the program, and beside the directory of the program. -/
def candidates (override programDirectory : Option String) : List String :=
  override.toList ++ [mainDirectory, "data"] ++
    match programDirectory with
    | none => []
    | some directory =>
      placesBelow directory ++ ((Path.parent? directory).map placesBelow).getD []

def root (disk : Disk) (override programDirectory : Option String) : String :=
  ((candidates override programDirectory).find? disk.isDirectory).getD mainDirectory

/-- The wording to play with. -/
def wording (disk : Disk) (override programDirectory : Option String) :
    Except LoadError Wording :=
  match disk (Path.join (root disk override programDirectory) wordingFile) with
  | .file contents => Wording.ofEntry (.file contents)
  | _ => Wording.shipped

end CastleEscape.DataFiles

import CastleEscape.DataFiles.Path

/-!
# Disks

What can be found under a path. A disk can also be given by a listing of files and directories,
with paths that begin where the program is started.
-/

namespace CastleEscape

inductive DiskEntry where
  | nothing
  | directory
  /-- A file with its bytes, or with the reason why they cannot be read. -/
  | file (contents : Except String (List UInt8))

abbrev Disk := String → DiskEntry

namespace Disk

def isDirectory (disk : Disk) (path : String) : Bool :=
  match disk path with
  | .directory => true
  | _ => false

/-! ## Listings -/

/-- Directories and files with their bytes. Of several files under one path the last counts. -/
structure Listing where
  directories : List String
  files : List (String × List UInt8)

/-- The names on the way to something, without the idle ones. -/
def route (path : String) : List (List Char) :=
  (Path.names path.toList).filter fun name => !Path.isIdle name

/-- A place on the disk, by the names of the directories around it, its own name first. -/
abbrev Spot := List (List Char)

def isUpward (name : List Char) : Bool := name == ['.', '.']

/-- The place to which a name leads from another. Two dots lead back up. -/
def Spot.enter (spot : Spot) (name : List Char) : Spot :=
  if isUpward name then spot.tail else name :: spot

/-- All places on a route, with both its ends. -/
def Spot.passed (spot : Spot) : List (List Char) → List Spot
  | [] => [spot]
  | name :: rest => spot :: Spot.passed (spot.enter name) rest

/-- Where a path of a listing leads. -/
def Spot.ofPath (path : String) : Spot := (route path).foldl Spot.enter []

/-- What a listing has in a spot. Every place on the way to something listed is a directory. -/
def Listing.entryAt (listing : Listing) (spot : Spot) : DiskEntry :=
  match listing.files.reverse.find? fun file => Spot.ofPath file.1 == spot with
  | some file => .file (.ok file.2)
  | none =>
    if (listing.directories ++ listing.files.map (·.1)).any fun path =>
        (Spot.passed [] (route path)).contains spot
    then .directory else .nothing

/-- Follows names from a directory. Nothing but a directory has anything below it. The directories
above the one where paths begin are there, but nothing can be seen in them. -/
def Listing.follow (listing : Listing) (spot : Spot) : List (List Char) → DiskEntry
  | [] => .directory
  | name :: rest =>
    if isUpward name && spot.isEmpty then
      if rest.all isUpward then .directory else .nothing
    else
      let next := spot.enter name
      match if isUpward name then .directory else listing.entryAt next with
      | .directory => listing.follow next rest
      | entry => if rest.isEmpty then entry else .nothing

/-! ## Paths -/

/-- The most bytes that a path can have. -/
def longestPath : Nat := 4095

/-- The disk with nothing on it but what is listed. No file is found under a path that ends with a
slash, and nothing at all under the empty path, one that is too long or one that begins at the
root. -/
def ofListing (listing : Listing) : Disk := fun path =>
  if path.isEmpty || longestPath < path.utf8ByteSize || path.toList.head? == some '/' then .nothing
  else
    match listing.follow [] (route path) with
    | .file contents =>
      if path.toList.getLast? == some '/' then .nothing else .file contents
    | entry => entry

end Disk

end CastleEscape

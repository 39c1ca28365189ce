import CastleEscape.DataFiles.Disk
import CastleEscape.Text.Utf8
import CastleEscape.Wording
import CastleEscape.Wording.Shipped
import CastleEscape.Wording.Toml.Document

/-!
# Loading a wording

From a file or a document to a wording, with every way in which that can fail. A file that cannot
be loaded is never passed over for something else.
-/

namespace CastleEscape

inductive LoadError where
  | notFound
  | isDirectory
  | unreadable (reason : String)
  /-- The bytes are no UTF-8. -/
  | notText
  /-- The text is no TOML document, or not one of a script. -/
  | malformed
  | faulty (faults : List Fault)

namespace LoadError

/-- What is said about the file under a path: why it could not be read, or what its text fails
to be. -/
def message (path : String) : LoadError → String
  | notFound => unread "No such file or directory (os error 2)"
  | isDirectory => unread "Is a directory (os error 21)"
  | unreadable reason => unread reason
  | notText => unread "stream did not contain valid UTF-8"
  | malformed => unparsed
  | faulty faults => unparsed ++ ": " ++ Fault.report faults
where
  unread (reason : String) : String := "reading text table from '" ++ path ++ "': " ++ reason
  unparsed : String := "parsing text table '" ++ path ++ "'"

end LoadError

def Script.ofDocument? (source : String) : Option Script :=
  (Toml.document? source).bind ofDatum?

namespace Wording

def ofDocument (source : String) : Except LoadError Wording :=
  match Script.ofDocument? source with
  | none => .error .malformed
  | some script => (ofScript? script).mapError .faulty

/-- The wording that comes with the program. -/
def shipped : Except LoadError Wording := ofDocument shippedDocument

def ofEntry : DiskEntry → Except LoadError Wording
  | .nothing => .error .notFound
  | .directory => .error .isDirectory
  | .file (.error reason) => .error (.unreadable reason)
  | .file (.ok bytes) =>
    match Text.Utf8.decode? bytes with
    | none => .error .notText
    | some cs => ofDocument (.ofList cs)

end Wording

end CastleEscape

import CastleEscape.Launch
import CastleEscape.Proofs.Decoding
import CastleEscape.Proofs.ShippedWording

/-!
# Where the wording comes from

One directory is chosen, and then one file in it; that file decides, whatever is wrong with it.
Nothing that lies in another directory is looked at, and the shipped wording is for those who have
no such file, not for those who have a broken one.

* `Wording.IsIn` and `IsBroken` are the two things that can be said of a file
  (`exists_isIn_or_isBroken`);
* `Surroundings.IsRoot` is which directory is chosen;
* `Disk.IsSound` is what is known of every disk: a file lies in a directory. It is known of the
  disks that are given by a listing (`Disk.isSound_ofListing`).
-/

namespace CastleEscape

/-! ## What is in a file -/

/-- The file can be read, its bytes are those of a text, and that text is a document with the script
of the wording. -/
def Wording.IsIn (wording : Wording) (contents : Except String (List UInt8)) : Prop :=
  ∃ source : List Char, contents = .ok (source.flatMap String.utf8EncodeChar) ∧
    Script.ofDocument? (.ofList source) = some wording.script

/-- There is no wording in the file, for one of four reasons. -/
inductive IsBroken : Except String (List UInt8) → Prop where
  | unreadable (reason : String) : IsBroken (.error reason)
  | notText {bytes : List UInt8}
      (hbytes : ∀ source : List Char, bytes ≠ source.flatMap String.utf8EncodeChar) :
      IsBroken (.ok bytes)
  | malformed {source : List Char} (hdocument : Script.ofDocument? (.ofList source) = none) :
      IsBroken (.ok (source.flatMap String.utf8EncodeChar))
  | faulty {source : List Char} {script : Script}
      (hdocument : Script.ofDocument? (.ofList source) = some script)
      (hfaults : script.faults ≠ []) : IsBroken (.ok (source.flatMap String.utf8EncodeChar))

variable {contents : Except String (List UInt8)}

/-- There is a wording in a file, or something is wrong with it. -/
theorem exists_isIn_or_isBroken (contents : Except String (List UInt8)) :
    (∃ wording : Wording, wording.IsIn contents) ∨ IsBroken contents := by
  cases contents with
  | error reason => exact Or.inr (.unreadable reason)
  | ok bytes =>
      by_cases htext : ∃ source : List Char, bytes = source.flatMap String.utf8EncodeChar
      · obtain ⟨source, rfl⟩ := htext
        cases hdocument : Script.ofDocument? (.ofList source) with
        | none => exact Or.inr (.malformed hdocument)
        | some script =>
            by_cases hfaults : script.faults = []
            · exact Or.inl ⟨⟨script, hfaults⟩, source, rfl, hdocument⟩
            · exact Or.inr (.faulty hdocument hfaults)
      · exact Or.inr (.notText (not_exists.mp htext))

theorem Wording.IsIn.ofEntry_eq {wording : Wording} (hin : wording.IsIn contents) :
    Wording.ofEntry (.file contents) = .ok wording := by
  obtain ⟨source, rfl, hscript⟩ := hin
  rw [ofEntry, Text.Utf8.decode?_flatMap_encode]
  exact ofDocument_ok_iff.mpr hscript

theorem IsBroken.ofEntry_eq (hbroken : IsBroken contents) :
    ∃ error, Wording.ofEntry (.file contents) = .error error := by
  cases hbroken with
  | unreadable reason => exact ⟨_, rfl⟩
  | @notText bytes hbytes =>
      cases hdecode : Text.Utf8.decode? bytes with
      | none => exact ⟨.notText, by rw [Wording.ofEntry, hdecode]⟩
      | some source => exact absurd (Text.Utf8.decode?_eq_some_iff.mp hdecode) (hbytes source)
  | malformed hdocument =>
      refine ⟨.malformed, ?_⟩
      rw [Wording.ofEntry, Text.Utf8.decode?_flatMap_encode]
      simp only [Wording.ofDocument, hdocument]
  | @faulty source script hdocument hfaults =>
      refine ⟨.faulty script.faults, ?_⟩
      rw [Wording.ofEntry, Text.Utf8.decode?_flatMap_encode]
      simp only [Wording.ofDocument, hdocument, Wording.ofScript?_error_iff.mpr ⟨rfl, hfaults⟩]
      rfl

/-! ## What is in a directory -/

/-- Nothing but a directory has a file in it. -/
def Disk.IsSound (disk : Disk) : Prop :=
  ∀ (directory name : String) (contents : Except String (List UInt8)), directory ≠ "" →
    '/' ∉ name.toList → Path.isIdle name.toList = false →
    disk (Path.join directory name) = .file contents → disk.isDirectory directory = true

namespace Disk

/-- The way to something in a directory leads through it. -/
theorem route_join {directory name : String} (hsome : directory ≠ "")
    (hslash : '/' ∉ name.toList) (hname : Path.isIdle name.toList = false) :
    route (Path.join directory name) = route directory ++ [name.toList] ∧
      ∃ more, Path.join directory name = directory ++ more := by
  have hrelative : (name.toList.head? == some '/') = false := by
    simpa using fun hhead => hslash (List.mem_of_head? hhead)
  have hempty : directory.isEmpty = false := by simpa using hsome
  have hnames : Path.names name.toList = [name.toList] := List.splitOn_eq_singleton hslash
  have hbelow : ∀ above : List Char, (Path.names (above ++ '/' :: name.toList)).filter
      (fun name => !Path.isIdle name) =
        (Path.names above).filter (fun name => !Path.isIdle name) ++ [name.toList] := by
    intro above
    rw [Path.names, List.splitOn_append_cons_self, ← Path.names, ← Path.names, hnames,
      List.filter_append]
    simp [hname]
  rw [Path.join, hrelative, if_neg Bool.false_ne_true]
  by_cases hended : directory.toList.getLast? = some '/'
  · -- the slash that is there already ends a name that is none
    obtain ⟨above, habove⟩ := List.getLast?_eq_some_iff.mp hended
    have hidle : Path.isIdle [] = true := rfl
    have hroute : route directory =
        (Path.names above).filter fun name => !Path.isIdle name := by
      rw [route, habove, Path.names, List.splitOn_append_cons_self, List.splitOn_nil,
        List.filter_append, ← Path.names]
      simp [hidle]
    rw [if_pos (by simp [hended])]
    refine ⟨?_, name, rfl⟩
    rw [hroute, ← hbelow, route, String.toList_append, habove, List.append_assoc]
    rfl
  · rw [if_neg (by simp [hempty, hended])]
    refine ⟨?_, "/" ++ name, String.append_assoc⟩
    rw [route, route, ← hbelow, String.toList_append, String.toList_append, List.append_assoc]
    rfl

theorem follow_append {listing : Listing} {spot : Spot} {names : List (List Char)}
    {last : List Char} {contents : Except String (List UInt8)}
    (hfile : listing.follow spot (names ++ [last]) = .file contents) :
    listing.follow spot names = .directory := by
  induction names generalizing spot with
  | nil => rfl
  | cons name rest ih =>
      simp only [List.cons_append, Listing.follow] at hfile ⊢
      split at hfile
      · split at hfile <;> cases hfile
      case isFalse hdown =>
        rw [if_neg hdown]
        split at hfile
        case h_1 => exact ih hfile
        case h_2 => simp at hfile

/-- Every disk that is given by a listing is sound. -/
theorem isSound_ofListing (listing : Listing) : (ofListing listing).IsSound := by
  intro directory name contents hsome hslash hname hfile
  obtain ⟨hroute, more, hpath⟩ := route_join hsome hslash hname
  have hhead : (Path.join directory name).toList.head? = directory.toList.head? := by
    obtain ⟨first, rest, hfirst⟩ :=
      List.exists_cons_of_ne_nil (mt String.toList_eq_nil_iff.mp hsome)
    rw [hpath, String.toList_append, hfirst]
    rfl
  have hsize : directory.utf8ByteSize ≤ (Path.join directory name).utf8ByteSize := by
    rw [hpath, String.utf8ByteSize_append]
    exact Nat.le_add_right _ _
  unfold ofListing at hfile
  split at hfile
  · cases hfile
  case isFalse hfits =>
    have hfollow :
        ∃ found, listing.follow [] (route (Path.join directory name)) = .file found := by
      split at hfile
      case h_1 found hfound => exact ⟨found, hfound⟩
      case h_2 => exact ⟨contents, hfile⟩
    obtain ⟨found, hfound⟩ := hfollow
    rw [hroute] at hfound
    have hdirectory := follow_append hfound
    simp only [Bool.or_eq_true, decide_eq_true_eq, not_or, not_lt] at hfits
    obtain ⟨⟨_, hlength⟩, hrelative⟩ := hfits
    have hplace : ofListing listing directory = .directory := by
      rw [hhead] at hrelative
      have hshort : ¬longestPath < directory.utf8ByteSize := by omega
      rw [ofListing, if_neg (by simp [hsome, hshort, hrelative]), hdirectory]
    rw [isDirectory, hplace]

end Disk

/-! ## Which directory is chosen -/

namespace Surroundings

variable {surroundings : Surroundings} {before : List String} {chosen : String}

def candidates (surroundings : Surroundings) : List String :=
  DataFiles.candidates surroundings.override surroundings.programDirectory

/-- The directory in which the file with the wording is looked for. -/
def root (surroundings : Surroundings) : String :=
  DataFiles.root surroundings.disk surroundings.override surroundings.programDirectory

/-- What is found under the name of the file with the wording. -/
def entryIn (surroundings : Surroundings) (directory : String) : DiskEntry :=
  surroundings.disk (Path.join directory DataFiles.wordingFile)

/-- The first of the candidates that is a directory, and those before it. -/
structure IsRoot (surroundings : Surroundings) (before : List String) (chosen : String) : Prop where
  isCandidate : before ++ [chosen] <+: surroundings.candidates
  before : ∀ directory ∈ before, surroundings.disk.isDirectory directory = false
  found : surroundings.disk.isDirectory chosen = true

theorem IsRoot.root_eq (hroot : surroundings.IsRoot before chosen) :
    surroundings.root = chosen := by
  obtain ⟨after, hsplit⟩ := hroot.isCandidate
  have hnone : before.find? surroundings.disk.isDirectory = none :=
    List.find?_eq_none.mpr fun directory hdirectory => by simp [hroot.before directory hdirectory]
  rw [root, DataFiles.root, ← candidates, ← hsplit, List.append_assoc, List.find?_append, hnone]
  simp [hroot.found]

theorem exists_isRoot (surroundings : Surroundings) :
    (∃ before chosen, surroundings.IsRoot before chosen) ∨
      ∀ directory ∈ surroundings.candidates, surroundings.disk.isDirectory directory = false := by
  cases hfind : surroundings.candidates.find? surroundings.disk.isDirectory with
  | none =>
      refine Or.inr fun directory hdirectory => ?_
      exact Bool.eq_false_iff.mpr (List.find?_eq_none.mp hfind directory hdirectory)
  | some chosen =>
      obtain ⟨hfound, before, after, hsplit, hbefore⟩ := List.find?_eq_some_iff_append.mp hfind
      refine Or.inl ⟨before, chosen, ⟨after, ?_⟩, ?_, hfound⟩
      · rw [hsplit, List.append_assoc, List.singleton_append]
      · exact fun directory hdirectory => by simpa using hbefore directory hdirectory

theorem wording_eq (surroundings : Surroundings) :
    surroundings.wording = match surroundings.entryIn surroundings.root with
      | .file contents => Wording.ofEntry (.file contents)
      | _ => Wording.shipped := rfl

/-- Where no file is found the shipped wording is taken. -/
theorem wording_of_no_file
    (hnone : ∀ contents, surroundings.entryIn surroundings.root ≠ .file contents) :
    surroundings.wording = Wording.shipped := by
  rw [wording_eq]
  split
  case h_1 contents hentry => exact absurd hentry (hnone contents)
  case h_2 => rfl

/-- If no candidate is a directory, there is no file in the one that is taken instead. -/
theorem ne_file_of_no_root (hdisk : surroundings.disk.IsSound)
    (hnone : ∀ directory ∈ surroundings.candidates,
      surroundings.disk.isDirectory directory = false)
    (contents : Except String (List UInt8)) :
    surroundings.entryIn surroundings.root ≠ .file contents := by
  intro hfile
  have hroot : surroundings.root = DataFiles.mainDirectory := by
    have hfind : surroundings.candidates.find? surroundings.disk.isDirectory = none :=
      List.find?_eq_none.mpr fun directory hdirectory => by simp [hnone directory hdirectory]
    rw [root, DataFiles.root, ← candidates, hfind]
    rfl
  rw [hroot] at hfile
  have hdirectory := hdisk DataFiles.mainDirectory DataFiles.wordingFile contents (by decide)
    (by decide) (by decide) hfile
  have hmain : DataFiles.mainDirectory ∈ surroundings.candidates := by
    simp [candidates, DataFiles.candidates]
  rw [hnone _ hmain] at hdirectory
  cases hdirectory

/-- Nothing but the directories up to the one that is chosen and the file in it is looked at. -/
theorem IsRoot.wording_congr (hroot : surroundings.IsRoot before chosen) {other : Disk}
    (hdirectories : ∀ directory ∈ before ++ [chosen],
      other.isDirectory directory = surroundings.disk.isDirectory directory)
    (hentry : other (Path.join chosen DataFiles.wordingFile) = surroundings.entryIn chosen) :
    ({ surroundings with disk := other } : Surroundings).wording = surroundings.wording := by
  have hother : ({ surroundings with disk := other } : Surroundings).IsRoot before chosen := by
    refine ⟨hroot.isCandidate, fun directory hdirectory => ?_, ?_⟩
    · exact (hdirectories directory (List.mem_append_left _ hdirectory)).trans
        (hroot.before directory hdirectory)
    · exact (hdirectories chosen (by simp)).trans hroot.found
  have hsame : ({ surroundings with disk := other } : Surroundings).entryIn chosen =
      surroundings.entryIn chosen := hentry
  rw [wording_eq, wording_eq, hother.root_eq, hroot.root_eq, hsame]

end Surroundings

/-! ## What the program does with it -/

/-- What the program does with a wording. -/
def Wording.launch (wording : Wording) (colored : Bool) (input : List UInt8) : Launch :=
  let (program, shows) := Program.play wording (Text.Lines.ofBytes input)
  ⟨program.exitCode, Display.printAll colored shows⟩

variable {surroundings : Surroundings} {wording : Wording}

theorem launch_of_loaded (hloaded : surroundings.wording = .ok wording) (input : List UInt8) :
    launch surroundings input = wording.launch surroundings.colored input := by
  rw [launch, hloaded]
  rfl

theorem launch_of_error {error : LoadError} (hfailed : surroundings.wording = .error error)
    (input : List UInt8) : launch surroundings input = ⟨1, ""⟩ := by
  rw [launch, hfailed]

/-- **The wording comes from one place.** The first candidate that is a directory is taken. If there
is a file with the right name in it, the program plays with the wording in that file; if the file is
broken, it leaves with a one and prints nothing. If there is no such file, or no candidate is a
directory, it plays with the shipped wording. So all that counts of a disk is which of the
candidates are directories, as far as the first that is one, and that one file. Only where no
candidate is a directory does it matter that a file lies in one. -/
theorem launch_sources (surroundings : Surroundings) (input : List UInt8) :
    (∀ before root contents, surroundings.IsRoot before root →
      surroundings.entryIn root = .file contents →
      ((∃ wording : Wording, wording.IsIn contents) ∨ IsBroken contents) ∧
      (∀ wording : Wording, wording.IsIn contents →
        launch surroundings input = wording.launch surroundings.colored input) ∧
      (IsBroken contents → launch surroundings input = ⟨1, ""⟩)) ∧
    (surroundings.disk.IsSound →
      (∀ before root contents, surroundings.IsRoot before root →
        surroundings.entryIn root ≠ .file contents) →
      ∃ wording, Wording.shipped = .ok wording ∧
        launch surroundings input = wording.launch surroundings.colored input) ∧
    (∀ before root (other : Disk), surroundings.IsRoot before root →
      (∀ directory ∈ before ++ [root],
        other.isDirectory directory = surroundings.disk.isDirectory directory) →
      other (Path.join root DataFiles.wordingFile) = surroundings.entryIn root →
      launch { surroundings with disk := other } input = launch surroundings input) := by
  refine ⟨fun before root contents hroot hentry => ?_, fun hdisk hnone => ?_,
    fun before root other hroot hdirectories hentry => ?_⟩
  · have hwording : surroundings.wording = Wording.ofEntry (.file contents) := by
      rw [surroundings.wording_eq, hroot.root_eq, hentry]
    refine ⟨exists_isIn_or_isBroken contents, fun wording hin => ?_, fun hbroken => ?_⟩
    · exact launch_of_loaded (hwording.trans hin.ofEntry_eq) input
    · obtain ⟨error, herror⟩ := hbroken.ofEntry_eq
      exact launch_of_error (hwording.trans herror) input
  · have hshipped : surroundings.wording = Wording.shipped := by
      refine Surroundings.wording_of_no_file fun contents => ?_
      rcases surroundings.exists_isRoot with ⟨before, root, hroot⟩ | hnowhere
      · rw [hroot.root_eq]
        exact hnone before root contents hroot
      · exact Surroundings.ne_file_of_no_root hdisk hnowhere contents
    obtain ⟨wording, hwording⟩ := Wording.exists_shipped
    exact ⟨wording, hwording, launch_of_loaded (hshipped.trans hwording) input⟩
  · rw [launch, launch, hroot.wording_congr hdirectories hentry]

/-- A file that is no text stops the program, although the shipped document lies in the next of the
candidates; with a directory of that name instead, the shipped wording is taken. -/
theorem launch_sources_notText :
    (∀ input, launch ⟨Disk.ofListing ⟨[], [("castle_engine/data/text.toml", [0xFF]),
      ("data/text.toml", Wording.shippedDocument.toList.flatMap String.utf8EncodeChar)]⟩,
        none, none, false⟩ input = ⟨1, ""⟩) ∧
    ∀ input, ∃ wording, Wording.shipped = .ok wording ∧
      launch ⟨Disk.ofListing ⟨["castle_engine/data/text.toml"], [("data/text.toml", [0xFF])]⟩,
        none, none, false⟩ input = wording.launch false input := by
  constructor
  · intro input
    let surroundings : Surroundings :=
      ⟨Disk.ofListing ⟨[], [("castle_engine/data/text.toml", [0xFF]),
        ("data/text.toml", Wording.shippedDocument.toList.flatMap String.utf8EncodeChar)]⟩,
          none, none, false⟩
    have hroot : surroundings.IsRoot [] "castle_engine/data" :=
      ⟨⟨["data"], rfl⟩, List.forall_mem_nil _, by decide +kernel⟩
    have hentry : surroundings.entryIn "castle_engine/data" = .file (.ok [0xFF]) := by rfl
    have hbroken : IsBroken (.ok [0xFF]) := by
      refine .notText fun source hsource => ?_
      have hnone : Text.Utf8.decode? [0xFF] = none := by decide +kernel
      rw [Text.Utf8.decode?_eq_some_iff.mpr hsource] at hnone
      cases hnone
    obtain ⟨hplays, _⟩ := launch_sources surroundings input
    obtain ⟨_, _, hstops⟩ := hplays [] "castle_engine/data" (.ok [0xFF]) hroot hentry
    exact hstops hbroken
  · intro input
    let surroundings : Surroundings :=
      ⟨Disk.ofListing ⟨["castle_engine/data/text.toml"], [("data/text.toml", [0xFF])]⟩,
        none, none, false⟩
    have hroot : surroundings.IsRoot [] "castle_engine/data" :=
      ⟨⟨["data"], rfl⟩, List.forall_mem_nil _, by decide +kernel⟩
    have hentry : surroundings.entryIn "castle_engine/data" = .directory := by rfl
    obtain ⟨_, hships, _⟩ := launch_sources surroundings input
    refine hships (Disk.isSound_ofListing _) fun before root contents hother hfile => ?_
    rw [← hother.root_eq, hroot.root_eq, hentry] at hfile
    cases hfile

end CastleEscape

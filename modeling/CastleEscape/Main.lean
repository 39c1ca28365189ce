import CastleEscape.Launch

/-!
# The command line

Plays the game on the terminal: looks at the disk and the environment, reads lines and prints what
there is to show as soon as it is there.
-/

namespace CastleEscape.CommandLine

/-- What is under a path at the moment. -/
def entryAt (path : String) : IO DiskEntry := do
  if path.isEmpty then return .nothing
  -- The path as it is given, so that it is no longer than it was.
  let file := { ← IO.currentDir with toString := path }
  if ← file.isDir then return .directory
  if !(← file.pathExists) then return .nothing
  try
    return .file (.ok (← IO.FS.readBinFile file).toList)
  catch error =>
    return .file (.error (toString error))

/-- The disk, as far as it is looked at in search of the wording. -/
def diskFor (override programDirectory : Option String) : IO Disk := do
  let directories := DataFiles.candidates override programDirectory
  let files := directories.map fun directory => Path.join directory DataFiles.wordingFile
  let entries ← (directories ++ files).mapM fun path => do return (path, ← entryAt path)
  return fun path => (entries.lookup path).getD .nothing

def surroundings : IO Surroundings := do
  let override ← IO.getEnv DataFiles.overrideVariable
  let programDirectory := (← IO.appPath).parent.map fun directory => directory.toString
  let colored := wantsColor (← IO.getEnv "CLICOLOR_FORCE") (← IO.getEnv "NO_COLOR")
    (← IO.getEnv "CLICOLOR") (← (← IO.getStdout).isTty)
  return ⟨← diskFor override programDirectory, override, programDirectory, colored⟩

/-- The bytes up to the next line feed, and with it. -/
partial def readBytes (input : IO.FS.Stream) (seen : List UInt8) : IO (List UInt8) := do
  match (← input.read 1).toList with
  | [] => return seen.reverse
  | byte :: _ =>
    if byte = 0x0A then return (byte :: seen).reverse else readBytes input (byte :: seen)

def readEvent (input : IO.FS.Stream) : IO Event := do
  try
    match Text.Lines.read? (← readBytes input []) with
    | none => return .endOfInput
    | some (line, _) => return .line line
  catch error =>
    return .failure (toString error)

def present (colored : Bool) (displays : List Display) : IO Unit := do
  let output ← IO.getStdout
  output.putStr (Display.printAll colored displays)
  output.flush

partial def playOn (colored : Bool) (program : Program) : IO Program := do
  match program with
  | .finished | .failed _ => return program
  | .playing _ | .offering _ =>
    let (next, displays) := program.feed (← readEvent (← IO.getStdin))
    present colored displays
    playOn colored next

def run : IO UInt32 := do
  let around ← surroundings
  match around.wording with
  | .error error =>
    let root := DataFiles.root around.disk around.override around.programDirectory
    IO.eprintln ("Error: " ++ error.message (Path.join root DataFiles.wordingFile))
    return 1
  | .ok wording =>
    let (program, displays) := Program.start wording
    present around.colored displays
    let last ← playOn around.colored program
    if let .failed message := last then IO.eprintln ("Error: " ++ message)
    return last.exitCode.toUInt32

end CastleEscape.CommandLine

def main : IO UInt32 := CastleEscape.CommandLine.run

import CrateReadme.Command.Run

/-!
# The program

The outer layer of the command: it gathers the files below the working directory, runs the command
on them and writes what has changed. The description of the workspace comes from standard input,
where the build tool writes it.
-/

namespace CrateReadme.Program

/-- The directories that hold nothing the command reads. -/
def skipped : List String :=
  [".git", "target"]

/-- The files and directories at and below an entry of a directory. -/
partial def gather (directory : List String) (entry : IO.FS.DirEntry) (store : Files.Store) :
    IO Files.Store := do
  let place := directory ++ [entry.fileName]
  if ← entry.path.isDir then
    if entry.fileName ∈ skipped then
      return store
    let mut store := store.set place .directory
    for inner in ← entry.path.readDir do
      store ← gather place inner store
    return store
  else
    return store.set place (.file (← IO.FS.readBinFile entry.path).toList)

/-- Everything that a stream gives. -/
partial def readAll (stream : IO.FS.Stream) (content : ByteArray) : IO ByteArray := do
  let part ← stream.read 65536
  if part.isEmpty then return content else readAll stream (content ++ part)

/-- Whether a command line gets as far as needing the description of the workspace. -/
def needsMetadata (texts : List String) : Bool :=
  match Command.Arguments.parse texts with
  | .ok arguments => arguments.notice?.isNone
  | .error _ => false

def drawMark : IO String := do
  let letters := "abcdefghijklmnopqrstuvwxyz0123456789_".toList
  let drawn ← (List.range 8).mapM fun _ => IO.rand 0 (letters.length - 1)
  return String.ofList (drawn.map fun place => letters.getD place '_')

def observe (texts : List String) : IO Command.World := do
  let here ← IO.currentDir
  let directory := Files.Location.ofText here.toString
  let (_, start) := (Files.Store.makeDirectories {} [] directory.names).toOption.getD ([], {})
  let mut files := start
  for entry in ← here.readDir do
    files ← gather directory.names entry files
  let described ←
    if needsMetadata texts then readAll (← IO.getStdin) ByteArray.empty else pure ByteArray.empty
  return {
    files
    directory
    metadata := if described.isEmpty then none else some { output := described.toList }
    logSetting := ← IO.getEnv "DOC2README_LOG_LEVEL"
    terminal := ← (← IO.getStderr).isTty
    marks := [← drawMark] }

def store (before after : Files.Store) : IO Unit := do
  for (place, entry) in after.entries do
    match entry with
    | .directory => pure ()
    | .file content =>
      if before.get? place ≠ some entry then
        let directory := "/" ++ "/".intercalate place.dropLast
        IO.FS.createDirAll directory
        IO.FS.writeBinFile ("/" ++ "/".intercalate place) ⟨content.toArray⟩

end CrateReadme.Program

def main (texts : List String) : IO UInt32 := do
  let world ← CrateReadme.Program.observe texts
  let transcript := CrateReadme.Command.run world texts
  (← IO.getStdout).putStr transcript.out
  (← IO.getStderr).putStr transcript.err
  CrateReadme.Program.store world.files transcript.files
  return transcript.status.toUInt32

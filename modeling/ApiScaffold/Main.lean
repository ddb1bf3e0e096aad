import ApiScaffold.CommandLine.Run
import ApiScaffold.Storage.Changes

/-!
# The program

A command runs on a storage that holds what it may look at.  What is at these places is
read from the file system first, and what the command has changed is written back.
-/

namespace ApiScaffold.CommandLine

/-- The path of a location. -/
def locationText (location : Location) : String :=
  Text.unicode (FilePath.mk .root location).text

/-- Read what is at a location. -/
def look (storage : Storage) (location : Location) : IO Storage := do
  try
    let content ← IO.FS.readBinFile (locationText location)
    pure (storage.put location (.file content))
  catch
    | .noFileOrDirectory .. => pure storage
    | _ => pure (storage.put location .directory)

/-- Read what is at a path and on the way to it. -/
def lookAlong (storage : Storage) (path : FilePath) : IO Storage := do
  let mut known := storage
  let mut location := storage.startLocation path.start
  for name in path.names do
    if name = FilePath.parentName then
      location := location.dropLast
    else
      location := location ++ [name]
      known ← look known location
  pure known

/-- The paths that a command reads. -/
def Command.inputs : Command → List FilePath
  | .generate request =>
      let configurations :=
        match request.configuration with
        | some path => [FilePath.ofText path]
        | none => []
      let usual := Configuration.fileNames ++ [Configuration.projectFileName]
      FilePath.ofText request.source :: configurations ++ usual.map FilePath.ofText
  | _ => []

/-- Write a file or make a directory. -/
def writeBack (location : Location) (node : FileNode) : IO Unit :=
  match node with
  | .directory => IO.FS.createDirAll (locationText location)
  | .file content => IO.FS.writeBinFile (locationText location) content

/-- Run a command on the file system.  A first run shows where it would write; it counts
only once these places are known. -/
def Command.execute (command : Command) : IO Report := do
  let here ← IO.currentDir
  let mut storage := Storage.empty (FilePath.ofText (Text.ofUnicode here.toString)).names
  for path in command.inputs do
    storage ← lookAlong storage path
  for (location, _) in (command.run Storage.paths storage storage).2.changesSince storage do
    storage ← look storage location
  let (report, later) := command.run Storage.paths storage storage
  for (location, node) in later.changesSince storage do
    writeBack location node
  pure report

end ApiScaffold.CommandLine

open ApiScaffold ApiScaffold.CommandLine in
/-- Run the command that the words make. -/
def main (words : List String) : IO UInt32 := do
  let report ←
    match Command.ofWords (words.map Text.ofUnicode) with
    | .ok command => command.execute
    | .error _ => pure Report.misuse
  IO.print (Text.unicode report.output)
  IO.eprint (Text.unicode report.errors)
  match report.escaped with
  | some failure =>
      IO.eprintln (Text.unicode (Text.escapeHalves ("Unexpected failure " ++ failure.message)))
  | none => pure ()
  pure report.exitCode.toUInt32

import ApiScaffold.Storage.Basic

/-!
# Paths for output

The path for generated files need not be a local one.  Whatever serves it reads its text,
makes the directory and writes the files, and by this changes a world of its own.
`PathSystem` is what is used of it.

The paths of a storage are such a system.
-/

namespace ApiScaffold

/-- Paths that files can be written to. -/
structure PathSystem (World Place : Type) where
  /-- The place that a text names. -/
  ofText : String → Except Fault Place
  /-- The text of a place. -/
  text : Place → String
  /-- The place with a name in a directory. -/
  child : Place → String → Place
  /-- Make a directory unless it is there, and those on the way to it. -/
  makeDirectory : World → Place → Except Fault Unit × World
  /-- Open a file, which makes or empties it, and write a text. -/
  writeText : World → Place → String → Except Fault Unit × World

/-- Write files into a directory, one after the other, until one cannot be written. -/
def PathSystem.writeTexts {World Place : Type} (paths : PathSystem World Place)
    (directory : Place) : World → List (String × String) → Except Fault Unit × World
  | world, [] => (.ok (), world)
  | world, (name, text) :: rest =>
      match paths.writeText world (paths.child directory name) text with
      | (.ok (), world) => paths.writeTexts directory world rest
      | (.error fault, world) => (.error fault, world)

/-- The paths of a storage. -/
def Storage.paths : PathSystem Storage FilePath where
  ofText text := .ok (.ofText text)
  text := FilePath.text
  child := FilePath.child
  makeDirectory storage path :=
    let (made, storage) := storage.makeDirectory path
    (made.map fun _ => (), storage)
  writeText := Storage.writeText

end ApiScaffold

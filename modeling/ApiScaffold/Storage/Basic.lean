import ApiScaffold.Collection.Entries
import ApiScaffold.Failure
import ApiScaffold.Storage.Path
import ApiScaffold.Text.Lines

/-!
# Files and directories

A storage holds files and directories by their location, which is the row of names
that leads to them from the root.  The root is always a directory.

A path that is followed name by name may come to a place where nothing is, or to a
name that is too long for the file system.  What a change that fails has done until
then stays done, so changes return a storage in any case.
-/

namespace ApiScaffold

/-- The names that lead from the root to a file or a directory. -/
abbrev Location := List String

/-- What is at a location. -/
inductive FileNode where
  | file (content : ByteArray)
  | directory

/-- Files and directories, and the directory where paths start. -/
structure Storage where
  workingDirectory : Location
  nodes : Entries Location FileNode

/-- Why a path leads nowhere. -/
inductive PathFault where
  /-- Nothing is there. -/
  | absent
  /-- The file system does not take such a path. -/
  | refused
  deriving DecidableEq, Repr

namespace Storage

/-- What is at a location, if there is anything. -/
def node? (storage : Storage) (location : Location) : Option FileNode :=
  if location.isEmpty then some .directory else storage.nodes.get? location

/-- Whether a location is that of a directory. -/
def isDirectory (storage : Storage) (location : Location) : Bool :=
  match storage.node? location with
  | some .directory => true
  | _ => false

/-- Put a file or a directory at a location. -/
def put (storage : Storage) (location : Location) (node : FileNode) : Storage :=
  { storage with nodes := storage.nodes.put location node }

/-- The most bytes that a name can have. -/
def longestName : Nat := 255

/-- The most bytes that a path can have. -/
def longestPath : Nat := 4095

/-- The location where a path starts. -/
def startLocation (storage : Storage) : PathStart → Location
  | .here => storage.workingDirectory
  | .root | .doubleRoot => []

/-- Why a path is refused before the file system looks for it. -/
def objection? (path : FilePath) : Option Fault :=
  match path.strayHalves? with
  | some stray => some (.notEncodable stray)
  | none =>
      if path.text.toList.contains '\x00' then some (.invalidValue "embedded null byte")
      else if FilePath.byteCount path.text > longestPath then some .fileSystem
      else none

/-- Follow names from a location. -/
def follow (storage : Storage) (current : Location) : List String → Except PathFault Location
  | [] => .ok current
  | name :: rest =>
      if !storage.isDirectory current then .error .absent
      else if name = FilePath.parentName then storage.follow current.dropLast rest
      else if FilePath.byteCount name > longestName then .error .refused
      else if (storage.node? (current ++ [name])).isSome then
        storage.follow (current ++ [name]) rest
      else .error .absent

/-- The location that a path leads to. -/
def locate (storage : Storage) (path : FilePath) : Except PathFault Location :=
  match objection? path with
  | some .fileSystem => .error .refused
  | some _ => .error .absent
  | none => storage.follow (storage.startLocation path.start) path.names

/-- Whether a path leads to a file or a directory. -/
def isPresent (storage : Storage) (path : FilePath) : Except Fault Bool :=
  match storage.locate path with
  | .ok _ => .ok true
  | .error .absent => .ok false
  | .error .refused => .error .fileSystem

/-- The bytes of a file. -/
def readBytes (storage : Storage) (path : FilePath) : Except Fault ByteArray :=
  match storage.locate path with
  | .error _ => .error .fileSystem
  | .ok location =>
      match storage.node? location with
      | some (.file content) => .ok content
      | _ => .error .fileSystem

/-- The text of a file, with every line end as a line feed. -/
def readText (storage : Storage) (path : FilePath) : Except Fault String := do
  let content ← storage.readBytes path
  match Text.decode? content with
  | some text => .ok (Text.unifyLineEnds text)
  | none => .error .notUnicode

/-- Follow names from a location and make the directories that are not there.  The
answer is the location of the last one. -/
def makeDirectories (storage : Storage) (current : Location) :
    List String → Except Fault Location × Storage
  | [] =>
      (if storage.isDirectory current then .ok current else .error .fileSystem, storage)
  | name :: rest =>
      if !storage.isDirectory current then (.error .fileSystem, storage)
      else if name = FilePath.parentName then storage.makeDirectories current.dropLast rest
      else if FilePath.byteCount name > longestName then (.error .fileSystem, storage)
      else
        match storage.node? (current ++ [name]) with
        | some _ => storage.makeDirectories (current ++ [name]) rest
        | none =>
            (storage.put (current ++ [name]) .directory).makeDirectories (current ++ [name]) rest

/-- Make the directory that a path leads to, and those on the way. -/
def makeDirectory (storage : Storage) (path : FilePath) : Except Fault Location × Storage :=
  match objection? path with
  | some fault => (.error fault, storage)
  | none => storage.makeDirectories (storage.startLocation path.start) path.names

/-- The directory that names lead to from a location. -/
def directoryAt (storage : Storage) (current : Location) :
    List String → Except PathFault Location
  | [] => if storage.isDirectory current then .ok current else .error .absent
  | name :: rest =>
      if !storage.isDirectory current then .error .absent
      else if name = FilePath.parentName then storage.directoryAt current.dropLast rest
      else if FilePath.byteCount name > longestName then .error .refused
      else storage.directoryAt (current ++ [name]) rest

/-- The location with a name in a directory. -/
def entryIn (directory : Location) (name : String) : Except PathFault Location :=
  if name = FilePath.parentName then .ok directory.dropLast
  else if FilePath.byteCount name > longestName then .error .refused
  else .ok (directory ++ [name])

/-- The location that a path names, whether or not something is there. -/
def entryAt (storage : Storage) (path : FilePath) : Except PathFault Location :=
  match path.names.getLast? with
  | none => .ok (storage.startLocation path.start)
  | some name =>
      (storage.directoryAt (storage.startLocation path.start) path.names.dropLast).bind
        fun directory => entryIn directory name

/-- Open a file at a location, which makes or empties it, and write a text.  There must not be a
directory. -/
def writeAt (storage : Storage) (location : Location) (text : String) :
    Except Fault Unit × Storage :=
  if storage.isDirectory location then (.error .fileSystem, storage)
  else
    match Text.encode text with
    | .ok bytes => (.ok (), storage.put location (.file bytes))
    | .error stray => (.error (.notEncodable stray), storage.put location (.file .empty))

/-- Write a text to the file that a path names. -/
def writeText (storage : Storage) (path : FilePath) (text : String) :
    Except Fault Unit × Storage :=
  match objection? path with
  | some fault => (.error fault, storage)
  | none =>
      match storage.entryAt path with
      | .error _ => (.error .fileSystem, storage)
      | .ok location => storage.writeAt location text

/-- A storage with an empty working directory. -/
def empty (workingDirectory : Location) : Storage :=
  ((Storage.mk workingDirectory []).makeDirectories [] workingDirectory).2

/-- The files below the working directory, with their paths from there. -/
def localFiles (storage : Storage) : List (String × ByteArray) :=
  storage.nodes.filterMap fun (location, node) =>
    match node with
    | .directory => none
    | .file content =>
        if storage.workingDirectory.isPrefixOf location then
          let below := location.drop storage.workingDirectory.length
          some ((FilePath.mk .here below).text, content)
        else none

/-- The texts of the files below the working directory, in the order of their paths. -/
def localTexts (storage : Storage) : List (String × String) :=
  let texts := storage.localFiles.filterMap fun (path, content) =>
    (Text.decode? content).map fun text => (path, text)
  texts.mergeSort fun first second => decide (first.1 ≤ second.1)

/-- What is put at a location is there. -/
theorem node?_put_self (storage : Storage) {location : Location} (below : location ≠ [])
    (node : FileNode) : (storage.put location node).node? location = some node := by
  cases location with
  | nil => exact absurd rfl below
  | cons name rest => simp [node?, put, Entries.get?_put_self]

/-- Other locations are not touched. -/
theorem node?_put_of_ne (storage : Storage) {location other : Location} (node : FileNode)
    (different : location ≠ other) :
    (storage.put location node).node? other = storage.node? other := by
  simp [node?, put, Entries.get?_put_of_ne _ _ different]

end Storage

end ApiScaffold

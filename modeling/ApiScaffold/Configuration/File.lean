import ApiScaffold.Configuration.Basic
import ApiScaffold.Storage.Decoded

/-!
# Configuration files

A configuration is read from a file that is named, or else from the first of the
default files that is in the working directory, or else from the table of tools in the
project file there.
-/

namespace ApiScaffold.Configuration

/-- The default names of configuration files; the first one that is present counts. -/
def fileNames : List String :=
  ["apiforge.yaml", "apiforge.yml", "apiforge.json"]

/-- The name of the project file. -/
def projectFileName : String := "pyproject.toml"

/-- The table of the project file that holds the tables of tools. -/
def toolsName : String := "tool"

/-- The name of the table with the settings. -/
def toolName : String := "apiforge"

/-- The format of a configuration file. -/
def formatOf (path : FilePath) : Format :=
  if path.extension? = some "json" then .json else .yaml

/-- The failure for a file that could not be read; `problem` is that of a malformed text. -/
def readingFailure (problem : ConfigurationProblem) (path : FilePath) : Fault → Failure
  | .malformed _ => .configuration problem (some path.text) none
  | fault => .fault fault

/-- The settings in a configuration file.  A file without a value has no settings. -/
def readSettings (storage : Storage) (path : FilePath) : Outcome Decoded :=
  match storage.isPresent path with
  | .error fault => .error (.fault fault)
  | .ok false => .error (.configuration .missingFile (some path.text) none)
  | .ok true =>
      match storage.readValue path (formatOf path) with
      | .error fault => .error (readingFailure .malformedFile path fault)
      | .ok content =>
          match content.form with
          | .scalar .null => .ok (.ofValue (.mapping []))
          | .mapping _ => .ok content
          | _ => .error (.configuration .notMapping (some path.text) none)

/-- Whether some characters occur in a row. -/
def occursIn (part : List Char) : List Char → Bool
  | [] => part.isEmpty
  | first :: rest => part.isPrefixOf (first :: rest) || occursIn part rest

/-- Whether a value is this text. -/
def isText (text : String) (decoded : Decoded) : Bool :=
  match decoded.form with
  | .scalar (.text value) => value = text
  | _ => false

/-- The kind of a scalar, as its name appears in faults. -/
def kindName : Scalar → String
  | .null => "NoneType"
  | .bool _ => "bool"
  | .int _ => "int"
  | .float _ => "float"
  | .text _ => "str"
  | .bytes _ => "bytes"
  | .date _ => "datetime.date"
  | .time _ => "datetime.time"
  | .moment _ => "datetime.datetime"

/-- The settings among the tables of tools.  What is no table can still hold the name. -/
def toolSettings? (tools : Decoded) : Except Fault (Option Decoded) :=
  match tools.entries?, tools.items?, tools.form with
  | some entries, _, _ => .ok (Value.findText entries toolName)
  | _, some items, _ =>
      if items.any (isText toolName) then
        .error (.wrongType "list indices must be integers or slices, not str")
      else .ok none
  | _, _, .scalar (.text text) =>
      if occursIn toolName.toList text.toList then
        .error (.wrongType "string indices must be integers, not 'str'")
      else .ok none
  | _, _, .scalar scalar =>
      .error (.wrongType ("argument of type '" ++ kindName scalar ++ "' is not iterable"))
  | _, _, _ => .ok none

/-- The configuration in a project file, if there is one. -/
def ofProject (storage : Storage) (path : FilePath) : Outcome Configuration := do
  let project ← (storage.readValue path .toml).mapError (readingFailure .malformedProject path)
  let tools := Value.findText (project.entries?.getD []) toolsName
  match ← (toolSettings? (tools.getD (.ofValue (.mapping [])))).mapError Failure.fault with
  | some settings => ofDecoded path.text settings
  | none => pure default

/-- The configuration in a file. -/
def ofFile (storage : Storage) (path : FilePath) (source : String) : Outcome Configuration := do
  let settings ← readSettings storage path
  ofDecoded source settings

/-- The first of the files in a directory that is present. -/
def findFile (storage : Storage) (directory : FilePath) : List String → Outcome (Option FilePath)
  | [] => .ok none
  | name :: rest =>
      match storage.isPresent (directory.child name) with
      | .error fault => .error (.fault fault)
      | .ok true => .ok (some (directory.child name))
      | .ok false => findFile storage directory rest

/-- The configuration of the working directory. -/
def ofWorkingDirectory (storage : Storage) : Outcome Configuration := do
  let directory : FilePath := ⟨.root, storage.workingDirectory⟩
  match ← findFile storage directory fileNames with
  | some path => ofFile storage path path.text
  | none =>
      match ← findFile storage directory [projectFileName] with
      | some path => ofProject storage path
      | none => pure default

/-- The configuration in the named file, or that of the working directory. -/
def load (storage : Storage) : Option String → Outcome Configuration
  | none => ofWorkingDirectory storage
  | some source =>
      if source.isEmpty then ofWorkingDirectory storage
      else ofFile storage (.ofText source) source

end ApiScaffold.Configuration

import ApiScaffold.Document.Validation
import ApiScaffold.Storage.Decoded

/-!
# Document files

A document is read from a JSON or a YAML file; the extension says which.  The file is
decoded, and the decoded value is checked.
-/

namespace ApiScaffold.Document

/-- What stands for the name of a document that is in no file. -/
def anonymousName : String := "<document>"

/-- The document in a decoded value; `source` names it in failures. -/
def ofData (content : Decoded) (source : String) : Outcome Document :=
  match content.form with
  | .mapping _ =>
      match Document.ofDecoded content with
      | .ok document => .ok document
      | .error (.issues issues) =>
          .error (.undecodable source (some (.invalidDocument issues)))
      | .error .unwritable => .error (.fault .unwritableNumber)
  | _ => .error (.undecodable source (some (.wrongType "document root must be a mapping")))

/-- The format that an extension stands for. -/
def formatOf? (extension : String) : Option Format :=
  if extension = "json" then some .json
  else if extension = "yaml" || extension = "yml" then some .yaml
  else none

/-- The failure for a file that could not be decoded.  Malformed texts and refusals of the
file system are documented failures. -/
def decodingFailure (path : FilePath) : Fault → Failure
  | .malformed format => .undecodable path.text (some (.malformed format))
  | .fileSystem => .undecodable path.text (some .fileSystem)
  | fault => .fault fault

/-- The value in a document file. -/
def decodeFile (storage : Storage) (path : FilePath) : Outcome Decoded :=
  let extension := path.extension?.getD ""
  match formatOf? extension with
  | none => .error (.unsupportedExtension extension)
  | some format =>
      match storage.isPresent path with
      | .error fault => .error (.fault fault)
      | .ok false => .error (.undecodable path.text (some (.missingFile path.text)))
      | .ok true => (storage.readValue path format).mapError (decodingFailure path)

/-- The directory where document files are looked for: the given one, or else the working
directory. -/
def baseDirectory (storage : Storage) : Option String → FilePath
  | none => ⟨.root, storage.workingDirectory⟩
  | some base => if base.isEmpty then ⟨.root, storage.workingDirectory⟩ else .ofText base

/-- The document in a file. -/
def load (storage : Storage) (base : Option String) (source : String) : Outcome Document := do
  let content ← decodeFile storage ((baseDirectory storage base).join (.ofText source))
  ofData content source

end ApiScaffold.Document

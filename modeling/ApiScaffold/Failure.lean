import ApiScaffold.Document.Issue
import ApiScaffold.Model.Kind
import ApiScaffold.Text.LetterCase

/-!
# Failures

A `Failure` says why no code could be generated.  The documented failures know
what they are about: a document, a schema, an operation, a configuration.  Each
belongs to families of failures, from the most special to the most general.

What lies outside of these families is a `Fault`: a text that is not in its format,
a file that cannot be read, a value that no rule allows.  Faults of formats and of
the file system have no text of their own.
-/

namespace ApiScaffold

/-- The formats of the texts that are read. -/
inductive Format where
  | json
  | yaml
  | toml
  deriving DecidableEq, Repr

/-- What went wrong outside of the documented failures. -/
inductive Fault where
  /-- A document does not have the expected shape. -/
  | invalidDocument (issues : List Issue)
  /-- A text is not in its format. -/
  | malformed (format : Format)
  /-- The bytes of a file are no UTF-8 text. -/
  | notUnicode
  /-- Halves of surrogate pairs in a text, which has no bytes for this reason. -/
  | notEncodable (stray : Text.StrayHalves)
  /-- The file system refused. -/
  | fileSystem
  /-- The generated code is not well formed. -/
  | invalidCode
  /-- Something is nested too deeply, or contains itself, so that a walk through it comes to
  no end. -/
  | tooDeep
  /-- There is no file at a path. -/
  | missingFile (path : String)
  | wrongType (message : String)
  | invalidValue (message : String)
  /-- A number is outside of the range that is needed. -/
  | overflow (message : String)
  /-- A number has too many digits to be written out. -/
  | unwritableNumber
  /-- There is no entry under a key. -/
  | unknownKey (key : Option String)
  /-- An empty set has no last item. -/
  | emptySet
  /-- A number has no characters. -/
  | emptyNumber
  /-- A part that has to be there is not. -/
  | missingPart (name : String)
  deriving DecidableEq, Repr

/-- The fault of a value that does not pass a check. -/
def Fault.ofObjection : Objection → Fault
  | .issues issues => .invalidDocument issues
  | .unwritable => .unwritableNumber

/-- The text for something that may be absent. -/
def textOrNone (text : Option String) : String :=
  text.getD "None"

/-- The text for halves of surrogate pairs that have no bytes. -/
def strayText (stray : Text.StrayHalves) : String :=
  let first := toString stray.position
  let place :=
    if stray.further = 0 then
      "character '" ++ String.ofList (Text.codeEscape (Text.CodePoint.half stray.first).toNat) ++
        "' in position " ++ first
    else "characters in position " ++ first ++ "-" ++ toString (stray.position + stray.further)
  "'utf-8' codec can't encode " ++ place ++ ": surrogates not allowed"

/-- The text of a fault, if it has one. -/
def Fault.text? : Fault → Option String
  | .invalidDocument _ | .malformed _ | .notUnicode | .fileSystem | .invalidCode | .tooDeep => none
  | .notEncodable stray => some (strayText stray)
  | .missingFile path => some ("File not found: " ++ path)
  | .wrongType message | .invalidValue message | .overflow message => some message
  | .unwritableNumber =>
      some ("Exceeds the limit (4300 digits) for integer string conversion; " ++
        "use sys.set_int_max_str_digits() to increase the limit")
  | .unknownKey key => some ((key.map Text.quoted).getD "None")
  | .emptySet => some "pop from empty list"
  | .emptyNumber => some "string index out of range"
  | .missingPart name => some ("'NoneType' object has no attribute " ++ Text.quoted name)

/-- Why code could not be generated from a service. -/
inductive GenerationProblem where
  /-- A model of this kind has no type of its own. -/
  | anonymousModel (kind : ModelKind)
  | invalidCode
  | other (message : String)
  deriving DecidableEq, Repr

/-- The text of a problem. -/
def GenerationProblem.message : GenerationProblem → String
  | .anonymousModel kind => "Cannot render an anonymous " ++ kind.name ++ " model"
  | .invalidCode => "Generated code has invalid syntax"
  | .other message => message

/-- Why a configuration cannot be used. -/
inductive ConfigurationProblem where
  | missingFile
  | malformedFile
  | notMapping
  | malformedProject
  /-- The target of the configuration is none of those that exist. -/
  | notTarget
  | notTruth
  | unclearTruth
  | notText
  /-- The bytes are no text. -/
  | notUnicode
  /-- The table of settings is no table. -/
  | notSettings
  /-- No target has this name. -/
  | unknownTarget (name : String) (choices : List String)
  | other (message : String)
  deriving DecidableEq, Repr

/-- The text of a problem. -/
def ConfigurationProblem.message : ConfigurationProblem → String
  | .missingFile => "Configuration file not found"
  | .malformedFile => "Invalid configuration"
  | .notMapping => "Configuration must be a mapping"
  | .malformedProject => "Invalid pyproject.toml"
  | .notTarget => "Input should be 'python' or 'rust'"
  | .notTruth => "Input should be a valid boolean"
  | .unclearTruth => "Input should be a valid boolean, unable to interpret input"
  | .notText => "Input should be a valid string"
  | .notUnicode =>
      "Input should be a valid string, unable to parse raw data as a unicode string"
  | .notSettings => "Input should be a valid dictionary or instance of GeneratorConfig"
  | .unknownTarget name choices =>
      "Unknown target '" ++ name ++ "' (choose from " ++ ", ".intercalate choices ++ ")"
  | .other message => message

/-- The families of the documented failures. -/
inductive Family where
  | any
  | document
  | undecodable
  | unsupportedExtension
  | missingComponents
  | schema
  | missingField
  | unresolvedReference
  | invalidLocation
  | duplicateName
  | cycle
  | generation
  | operation
  | configuration
  deriving DecidableEq, Repr

/-- A family and the families that it belongs to, the most special first. -/
def Family.lineage : Family → List Family
  | .any => [.any]
  | .document => [.document, .any]
  | .undecodable => [.undecodable, .document, .any]
  | .unsupportedExtension => [.unsupportedExtension, .document, .any]
  | .missingComponents => [.missingComponents, .document, .any]
  | .schema => [.schema, .any]
  | .missingField => [.missingField, .schema, .any]
  | .unresolvedReference => [.unresolvedReference, .schema, .any]
  | .invalidLocation => [.invalidLocation, .schema, .any]
  | .duplicateName => [.duplicateName, .schema, .any]
  | .cycle => [.cycle, .any]
  | .generation => [.generation, .any]
  | .operation => [.operation, .generation, .any]
  | .configuration => [.configuration, .any]

/-- Every family is the first of its lineage. -/
theorem Family.head?_lineage (family : Family) : family.lineage.head? = some family := by
  cases family <;> rfl

/-- Every lineage ends with the family of all failures. -/
theorem Family.any_mem_lineage (family : Family) : Family.any ∈ family.lineage := by
  cases family <;> decide

/-- Why no code could be generated. -/
inductive Failure where
  /-- A document could not be read, or does not have the expected shape. -/
  | undecodable (source : String) (cause : Option Fault)
  /-- No format belongs to the extension of a file. -/
  | unsupportedExtension (extension : String)
  /-- A pointer leads into the components of a document that has none. -/
  | missingComponents (reference : String)
  /-- A field that is needed is absent. -/
  | missingField (field : String) (context : Option String)
  /-- Nothing has the name that a pointer leads to. -/
  | unresolvedReference (reference context : Option String)
  /-- A parameter is at no place where parameters can be. -/
  | invalidLocation (location parameter : Option String)
  /-- Two definitions have one name. -/
  | duplicateName (name owner : String)
  /-- Definitions depend on themselves; the path ends with a node that is on it already. -/
  | cycle (path : List (Option String))
  /-- Code could not be generated. -/
  | generation (problem : GenerationProblem) (context : Option String) (cause : Option Fault)
  /-- An operation of the document could not be built. -/
  | operation (id : String) (method uri : Option String) (cause : Option Failure)
  /-- The configuration cannot be used. -/
  | configuration (problem : ConfigurationProblem) (path field : Option String)
  /-- A failure of which only a message and a family are known. -/
  | general (family : Family) (message : String)
  /-- What is outside of the documented failures. -/
  | fault (fault : Fault)

/-- The result of something that can fail. -/
abbrev Outcome (α : Type) := Except Failure α

namespace Failure

/-- The family of a failure; a fault has none. -/
def family? : Failure → Option Family
  | .undecodable _ _ => some .undecodable
  | .unsupportedExtension _ => some .unsupportedExtension
  | .missingComponents _ => some .missingComponents
  | .missingField _ _ => some .missingField
  | .unresolvedReference _ _ => some .unresolvedReference
  | .invalidLocation _ _ => some .invalidLocation
  | .duplicateName _ _ => some .duplicateName
  | .cycle _ => some .cycle
  | .generation _ _ _ => some .generation
  | .operation _ _ _ _ => some .operation
  | .configuration _ _ _ => some .configuration
  | .general family _ => some family
  | .fault _ => none

/-- Whether a failure belongs to the documented families. -/
def isDocumented (failure : Failure) : Bool :=
  failure.family?.isSome

/-- A detail of a message: an empty or absent one is left out. -/
def detail (opening : String) (text : Option String) (closing : String) : String :=
  match text with
  | none => ""
  | some text => if text.isEmpty then "" else opening ++ text ++ closing

/-- The end of a message that gives the text of a cause. -/
def causeText : Option String → String
  | none => ""
  | some text => ": " ++ text

/-- The method and the address of an operation, if both are known. -/
def routeText (method uri : Option String) : String :=
  match method, uri with
  | some method, some uri =>
      if method.isEmpty || uri.isEmpty then ""
      else " (" ++ Text.upperText method ++ " " ++ uri ++ ")"
  | _, _ => ""

/-- The text of a failure, if it has one. -/
def text? : Failure → Option String
  | .undecodable source cause =>
      some ("Failed to decode document '" ++ source ++ "'" ++ causeText (cause.bind Fault.text?))
  | .unsupportedExtension extension =>
      some ("Unsupported file extension '" ++ extension ++ "'. Expected json, yaml or yml")
  | .missingComponents reference =>
      some ("Reference '" ++ reference ++ "' requires a components section, " ++
        "but the document declares none")
  | .missingField field context =>
      some ("Missing required field '" ++ field ++ "'" ++ detail " in '" context "'")
  | .unresolvedReference reference context =>
      some ("Failed to resolve reference '" ++ textOrNone reference ++ "'" ++
        detail " (in '" context "')")
  | .invalidLocation location parameter =>
      some ("Invalid parameter location '" ++ textOrNone location ++ "'" ++
        detail " for parameter '" parameter "'")
  | .duplicateName name owner => some ("Duplicate name '" ++ name ++ "' in " ++ owner)
  | .cycle path =>
      some ("Dependency cycle detected: " ++ " -> ".intercalate (path.map textOrNone))
  | .generation problem context cause =>
      some (problem.message ++ detail " (while generating " context ")" ++
        causeText (cause.bind Fault.text?))
  | .operation id method uri none =>
      some ("Failed to build operation '" ++ id ++ "'" ++ routeText method uri)
  | .operation id method uri (some cause) =>
      some ("Failed to build operation '" ++ id ++ "'" ++ routeText method uri ++
        causeText cause.text?)
  | .configuration problem path field =>
      some (problem.message ++ detail " in '" path "'" ++ detail " (field: " field ")")
  | .general _ message => some message
  | .fault reason => reason.text?

/-- The text of a failure; empty for a fault without a text. -/
def message (failure : Failure) : String :=
  failure.text?.getD ""

end Failure

end ApiScaffold

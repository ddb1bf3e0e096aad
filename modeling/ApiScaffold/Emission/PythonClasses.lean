import ApiScaffold.Emission.Field
import ApiScaffold.Emission.PythonTypes
import ApiScaffold.Naming.PythonName

/-!
# Classes in Python

A struct becomes a class with one annotated name per field.  A field whose name in the
document is no legal name keeps it as an alias.  Fields that may be absent are
optional with the default `None`.
-/

namespace ApiScaffold.PythonCode

/-- The legal name of a field or an argument. -/
def legalName (name : String) : Outcome String :=
  match Naming.fieldName? name with
  | some legal => .ok legal
  | none => .error (.fault (.invalidValue "Name cannot be empty"))

/-- A field of a class. -/
structure FieldCode where
  name : String
  type : Expression
  /-- The arguments of the field definition; without any there is none. -/
  keywords : List (String × Expression)
  /-- Whether the field has a name of its own in the document. -/
  aliased : Bool
  /-- Whether the value is read piece by piece. -/
  streamed : Bool
  imports : List (String × String)

/-- A keyword with a text that is left out if it is empty. -/
def textKeyword (keyword : String) (text : Option String) : List (String × Expression) :=
  match text with
  | none => []
  | some text => if text.isEmpty then [] else [(keyword, .text text)]

/-- The code of a field. -/
def fieldCode (service : Service) (field : Field) : Outcome FieldCode := do
  let type ← typeCode service field.model
  let name ← legalName field.name
  let aliased := name != field.name
  let keywords :=
    (if field.mandatory then [] else [("default", Expression.none)]) ++
      (if aliased then [("alias", .text field.name)] else []) ++
      textKeyword "description" field.description
  pure
    { name := name
      type := (if field.mandatory then type else type.optional).expression
      keywords := keywords
      aliased := aliased
      streamed := field.model.kind = .iterator
      imports :=
        type.imports ++ (if keywords.isEmpty then [] else [("pydantic", "Field")]) }

/-- The line that defines a field. -/
def FieldCode.line (code : FieldCode) : Line :=
  .annotated code.name code.type
    (if code.keywords.isEmpty then none
    else some (.call (.name "Field") [] code.keywords))

/-- The code of the fields of a class.  No two fields may have the same legal name. -/
def fieldCodes (service : Service) (owner : String) : List String → List Field →
    Outcome (List FieldCode)
  | _, [] => .ok []
  | seen, field :: rest => do
      let code ← fieldCode service field
      if seen.contains code.name then throw (.duplicateName code.name owner)
      let codes ← fieldCodes service owner (code.name :: seen) rest
      pure (code :: codes)

/-- The settings that the fields of a class call for, in the order in which they are
first needed. -/
def settingsOf (codes : List FieldCode) : List String :=
  (codes.flatMap fun code =>
    (if code.aliased then ["populate_by_name"] else []) ++
      (if code.streamed then ["arbitrary_types_allowed"] else [])).eraseDups

/-- A class and the imports that it needs. -/
structure ClassCode where
  definition : ClassDefinition
  imports : List (String × String)

/-- The line that sets the configuration of a class. -/
def settingsLine (settings : List String) : List Line :=
  if settings.isEmpty then []
  else
    [.assignment "model_config" (.call (.name "ConfigDict") []
      (settings.map fun setting => (setting, .true)))]

/-- The documentation of a class, if there is any. -/
def documentationLine (documentation : Option String) : List Line :=
  match documentation with
  | none => []
  | some text => if text.isEmpty then [] else [.documentation text]

/-- The class of some fields. -/
def classCode (service : Service) (name : String) (fields : List Field)
    (documentation : Option String) : Outcome ClassCode := do
  let codes ← fieldCodes service name [] fields
  let settings := settingsOf codes
  let body :=
    documentationLine documentation ++ settingsLine settings ++ codes.map FieldCode.line
  pure
    { definition :=
        { name := name
          base := "BaseModel"
          body := if body.isEmpty then [.pass] else body }
      imports :=
        codes.flatMap FieldCode.imports ++
          (if settings.isEmpty then [] else [("pydantic", "ConfigDict")]) ++
          [("pydantic", "BaseModel")] }

/-- The class of a named struct. -/
def modelClass (service : Service) (name : String) (model : Model) : Outcome ClassCode :=
  classCode service (Naming.typeName name) (model.properties.map Field.ofProperty)
    model.description

/-- The classes of all named structs, dependencies first. -/
def modelClasses (service : Service) : Outcome (List ClassCode) := do
  let structs ← service.structs
  structs.mapM fun (name, model) => modelClass service name model

/-- The class of the input of an operation. -/
def inputClass (service : Service) (operation : Operation) : Outcome ClassCode := do
  let fields ← service.inputFields operation
  classCode service (inputTypeName operation.id) fields
    (some ("Input of " ++ operation.id ++ "."))

/-- The class of the output of an operation. -/
def outputClass (service : Service) (operation : Operation) : Outcome ClassCode := do
  let fields ← service.outputFields operation
  classCode service (outputTypeName operation.id) fields
    (some ("Output of " ++ operation.id ++ "."))

/-- The classes of the inputs and outputs of all operations. -/
def operationClasses (service : Service) : Outcome (List ClassCode) := do
  let pairs ← service.operations.mapM fun operation => do
    let input ← inputClass service operation
    let output ← outputClass service operation
    pure [input, output]
  pure pairs.flatten

end ApiScaffold.PythonCode

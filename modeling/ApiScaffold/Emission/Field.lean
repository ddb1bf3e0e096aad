import ApiScaffold.Service.Basic

/-!
# The fields of inputs and outputs

The input of an operation is one flat struct: path, query and header parameters, then
the body.  The output is made of its headers and its body.  A body that is a struct
gives its properties as fields; a raw body is read piece by piece; any other body is
one field.

No two fields of a struct have the same name.
-/

namespace ApiScaffold

/-- Where the value of a field comes from. -/
inductive FieldLocation where
  | path
  | query
  | header
  | body
  deriving DecidableEq, Repr

/-- A field of a struct in the generated code. -/
structure Field where
  /-- The name in the document. -/
  name : String
  model : Model
  /-- Whether a value is always present. -/
  mandatory : Bool
  location : FieldLocation
  description : Option String

namespace Field

/-- The field of a parameter. -/
def ofParameter (location : FieldLocation) (parameter : Parameter) : Field :=
  ⟨parameter.name, parameter.model, parameter.mandatory, location, parameter.description⟩

/-- The field of a property. -/
def ofProperty (property : String × Model) : Field :=
  ⟨property.1, property.2, false, .body, property.2.description⟩

/-- The name of a field that holds a whole body. -/
def bodyName : String := "body"

end Field

/-- The fields of a body. -/
def bodyFields (service : Service) : Option Model → Outcome (List Field)
  | none => .ok []
  | some body => do
      let target ← service.dereference body
      if target.isRawPayload then
        pure [⟨Field.bodyName, Model.byteStream, true, .body, none⟩]
      else if target.isStruct then pure (target.properties.map Field.ofProperty)
      else pure [⟨Field.bodyName, body, true, .body, body.description⟩]

/-- Check that no two fields have the same name. -/
def checkDistinct (owner : String) : List String → List Field → Outcome Unit
  | _, [] => .ok ()
  | seen, field :: rest =>
      if seen.contains field.name then .error (.duplicateName field.name owner)
      else checkDistinct owner (field.name :: seen) rest

namespace Service

/-- The fields of the input of an operation. -/
def inputFields (service : Service) (operation : Operation) : Outcome (List Field) := do
  let input := operation.input
  let body ← bodyFields service input.body
  let fields :=
    input.path.map (Field.ofParameter .path) ++ input.query.map (Field.ofParameter .query) ++
      input.header.map (Field.ofParameter .header) ++ body
  checkDistinct (inputTypeName operation.id) [] fields
  pure fields

/-- The fields of the output of an operation. -/
def outputFields (service : Service) (operation : Operation) : Outcome (List Field) := do
  let body ← bodyFields service operation.output.body
  let fields := operation.output.header.map (Field.ofParameter .header) ++ body
  checkDistinct (outputTypeName operation.id) [] fields
  pure fields

end Service

/-- What is generated besides the inputs and outputs of the operations. -/
structure EmissionOptions where
  /-- Whether named models are generated. -/
  models : Bool
  /-- Whether routes and handlers are generated. -/
  routes : Bool
  /-- Whether generated code is checked. -/
  checked : Bool
  deriving DecidableEq, Repr

end ApiScaffold

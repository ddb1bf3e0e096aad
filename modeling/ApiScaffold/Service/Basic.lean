import ApiScaffold.Model.Basic
import ApiScaffold.Naming.TypeName

/-!
# Services

A service is what a document says once every pointer is resolved: named models,
parameters, and operations with their inputs and outputs.  Everything that is
generated is generated from a service.
-/

namespace ApiScaffold

/-- A parameter of an operation, or a header of its output. -/
structure Parameter where
  name : String
  model : Model
  /-- Whether it is always given. -/
  mandatory : Bool
  description : Option String

/-- What an operation takes. -/
structure OperationInput where
  path : List Parameter
  query : List Parameter
  header : List Parameter
  body : Option Model

/-- All parameters of an input. -/
def OperationInput.parameters (input : OperationInput) : List Parameter :=
  input.path ++ input.query ++ input.header

/-- What an operation gives. -/
structure OperationOutput where
  statusCode : Option Int
  header : List Parameter
  body : Option Model

/-- An operation whose pointers are resolved. -/
structure Operation where
  id : String
  method : String
  uri : String
  /-- The status codes of success. -/
  expect : List Int
  input : OperationInput
  output : OperationOutput
  summary : Option String
  description : Option String
  tags : List String

/-- The type name of the input of an operation. -/
def inputTypeName (operationId : String) : String :=
  Naming.typeName operationId ++ "Input"

/-- The type name of the output of an operation. -/
def outputTypeName (operationId : String) : String :=
  Naming.typeName operationId ++ "Output"

/-- The kinds of anomalies that do not stop the work. -/
inductive DiagnosticCategory where
  /-- More than one response of success has content. -/
  | duplicateOutput
  /-- A declared response is no response of success. -/
  | ignoredResponse
  deriving DecidableEq, Repr

/-- An anomaly that does not stop the work. -/
structure Diagnostic where
  category : DiagnosticCategory
  message : String
  operationId : Option String
  deriving DecidableEq, Repr

/-- The text of a diagnostic. -/
def Diagnostic.text (diagnostic : Diagnostic) : String :=
  match diagnostic.operationId with
  | some id => if id.isEmpty then diagnostic.message else id ++ ": " ++ diagnostic.message
  | none => diagnostic.message

/-- A service. -/
structure Service where
  models : Entries String Model
  parameters : Entries String Parameter
  operations : List Operation
  diagnostics : List Diagnostic
  /-- The names of the models, dependencies first. -/
  modelOrder : List String
  title : Option String
  version : Option String

namespace Service

/-- The model with a name. -/
def model (service : Service) (name : Option String) : Outcome Model :=
  match name.bind service.models.get? with
  | some model => .ok model
  | none => .error (.unresolvedReference name none)

/-- The model that a reference refers to; other models stand for themselves. -/
def dereference (service : Service) (model : Model) : Outcome Model :=
  if model.isReference then service.model model.name else .ok model

/-- The operation with an identifier. -/
def operation (service : Service) (id : String) : Outcome Operation :=
  match service.operations.find? fun operation => operation.id = id with
  | some operation => .ok operation
  | none => .error (.fault (.unknownKey (some id)))

/-- The names of the models in the order in which they are defined. -/
def definitionOrder (service : Service) : List String :=
  if service.modelOrder.isEmpty then service.models.keys else service.modelOrder

/-- The structs of some names. -/
def structsAmong (models : Entries String Model) : List String → Outcome (List (String × Model))
  | [] => .ok []
  | name :: rest =>
      match models.get? name with
      | none => .error (.fault (.unknownKey (some name)))
      | some model => do
          let structs ← structsAmong models rest
          pure (if model.isStruct then (name, model) :: structs else structs)

/-- The named structs, dependencies first. -/
def structs (service : Service) : Outcome (List (String × Model)) :=
  structsAmong service.models service.definitionOrder

end Service

end ApiScaffold

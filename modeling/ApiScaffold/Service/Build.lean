import ApiScaffold.Service.Hoisting
import ApiScaffold.Service.ModelOrder
import ApiScaffold.Service.Operations

/-!
# The service of a document

A service is built in steps.  The schemas of the components become models and their
parameters become parameters.  Then the operations are built, and every nested struct
gets a name.  In the end names must be unique as type names, every reference must
have a model, and the models are put in order.

The type names of inputs and outputs are reserved from the start, so a nested struct
never takes one of them.
-/

namespace ApiScaffold

/-- The type names that the operations of a document will need. -/
def Document.operationTypeNames (document : Document) : List String :=
  document.paths.flatMap fun (uri, item) =>
    item.operations.flatMap fun (method, object) =>
      let id := operationIdOf method uri object
      [inputTypeName id, outputTypeName id]

/-- The models of the schemas of the components, as they are declared. -/
def Document.declaredModels (document : Document) : Outcome (Entries String Model) :=
  document.schemas.mapM fun (name, schema) => do
    pure (name, ← Model.ofSchema schema name)

/-- Hoist what is nested in each of the given models, and put the results in place. -/
def hoistDeclared : List (String × Model) → Hoist Unit
  | [] => pure ()
  | (name, model) :: rest => do
      let hoisted ← model.hoistNested name
      modify fun registry => { registry with models := registry.models.put name hoisted }
      hoistDeclared rest

/-- The parameters of the components, as they are declared. -/
def Document.declaredParameters (document : Document) : Outcome (Entries String Parameter) :=
  document.parameters.mapM fun (name, object) => do
    let context := "parameters." ++ name
    let definition ← document.resolve object (some context)
    pure (name, ← Parameter.ofObject definition context)

/-- Hoist the models of parameters. -/
def hoistParameters (owner : String → String) : List (String × Parameter) →
    Hoist (List (String × Parameter))
  | [] => pure []
  | (name, parameter) :: rest => do
      let model ← parameter.model.hoist (owner name)
      pure ((name, { parameter with model := model }) :: (← hoistParameters owner rest))

/-- Hoist the models of the parameters of an operation. -/
def hoistOperationParameters (base : String) (parameters : List Parameter) :
    Hoist (List Parameter) := do
  let hoisted ← hoistParameters (fun name => base ++ Naming.typeName name)
    (parameters.map fun parameter => (parameter.name, parameter))
  pure (hoisted.map Prod.snd)

/-- Hoist the structs of an operation.  The body of the output is flattened, so only
what is nested in it gets names. -/
def Operation.hoist (operation : Operation) : Hoist Operation := do
  let base := Naming.typeName operation.id
  let body ← operation.input.body.mapM fun model => model.hoist (base ++ "Request")
  let outputBody ← operation.output.body.mapM fun model => model.hoistNested (base ++ "Response")
  let path ← hoistOperationParameters base operation.input.path
  let query ← hoistOperationParameters base operation.input.query
  let header ← hoistOperationParameters base operation.input.header
  let outputHeader ← hoistOperationParameters base operation.output.header
  pure { operation with
    input := ⟨path, query, header, body⟩
    output := ⟨operation.output.statusCode, outputHeader, outputBody⟩ }

/-- The first item that occurs again, if all items before it are unique. -/
def firstRepeated? : List String → List String → Option String
  | _, [] => none
  | seen, name :: rest =>
      if seen.contains name then some name else firstRepeated? (name :: seen) rest

/-- Check that no two models have the same type name. -/
def checkModelNames (typeNames : List String) : Outcome Unit :=
  match firstRepeated? [] typeNames with
  | some name => .error (.duplicateName name "models")
  | none => .ok ()

/-- Check that operations differ, and that no model has the type name of an input or an
output. -/
def checkOperationNames (typeNames : List String) : List String → List Operation → Outcome Unit
  | _, [] => .ok ()
  | seen, operation :: rest =>
      if seen.contains operation.id then .error (.duplicateName operation.id "operations")
      else if typeNames.contains (inputTypeName operation.id) then
        .error (.duplicateName (inputTypeName operation.id) "models")
      else if typeNames.contains (outputTypeName operation.id) then
        .error (.duplicateName (outputTypeName operation.id) "models")
      else checkOperationNames typeNames (operation.id :: seen) rest

/-- Check that every reference inside a model has a model. -/
def checkReferences (models : Entries String Model) (context : String) (model : Model) :
    Outcome Unit :=
  match model.references.find? fun name => ((name.bind models.get?).isNone) with
  | some name => .error (.unresolvedReference name (some context))
  | none => .ok ()

/-- The models of an operation, with the places at which they are. -/
def Operation.placedModels (operation : Operation) : List (String × Model) :=
  let ofParameter := fun (parameter : Parameter) =>
    (operation.id ++ "." ++ parameter.name, parameter.model)
  let input := operation.input.parameters.map ofParameter
  let body := operation.input.body.toList.map fun model => (operation.id ++ ".requestBody", model)
  let header := operation.output.header.map ofParameter
  let output := operation.output.body.toList.map fun model => (operation.id ++ ".response", model)
  input ++ body ++ header ++ output

/-- Check that every reference inside an operation has a model. -/
def Operation.checkReferences (models : Entries String Model) (operation : Operation) :
    Outcome Unit :=
  let check := operation.placedModels.forM fun (context, model) =>
    ApiScaffold.checkReferences models context model
  check.mapError fun failure =>
    .operation operation.id (some operation.method) (some operation.uri) (some failure)

/-- The service of a document. -/
def Document.service (document : Document) : Outcome Service := do
  let declared ← document.declaredModels
  let registry : ModelRegistry := ⟨declared, document.operationTypeNames⟩
  let (_, registry) := (hoistDeclared declared).run registry
  let declaredParameters ← document.declaredParameters
  let (parameters, registry) :=
    (hoistParameters (fun name => Naming.typeName name ++ "Parameter") declaredParameters).run
      registry
  let (built, diagnostics) ← Definitions.operations ⟨document, registry.models, parameters⟩
  let (operations, registry) := (built.mapM Operation.hoist).run registry
  let models := registry.models
  let typeNames := models.keys.map Naming.typeName
  checkModelNames typeNames
  checkOperationNames typeNames [] operations
  models.forM fun (name, model) => checkReferences models name model
  parameters.forM fun (name, parameter) =>
    checkReferences models ("parameters." ++ name) parameter.model
  operations.forM (Operation.checkReferences models)
  let order ← orderModels models
  pure
    { models := models
      parameters := parameters
      operations := operations
      diagnostics := diagnostics
      modelOrder := order.filterMap id
      title := document.info.bind InfoObject.title
      version := document.info.bind InfoObject.version }

end ApiScaffold

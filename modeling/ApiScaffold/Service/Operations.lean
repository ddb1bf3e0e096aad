import ApiScaffold.Document.Reference
import ApiScaffold.Naming.TypeName
import ApiScaffold.Service.Parameters
import ApiScaffold.Text.Digit

/-!
# Operations of declared operations

A declared operation becomes an operation whose parameters are sorted by location,
with at most one request body and exactly one output.

The output is that of the least status code of success whose response has content or
headers.  Responses that are left out are reported by diagnostics.
-/

namespace ApiScaffold

/-- What operations are built from: the document, and what its components became. -/
structure Definitions where
  document : Document
  models : Entries String Model
  parameters : Entries String Parameter

/-- The identifier of an operation: the declared one, or one made of its route. -/
def operationIdOf (method : Method) (uri : String) (object : OperationObject) : String :=
  match object.operationId with
  | some id => if id.isEmpty then Naming.routeName method.name uri else id
  | none => Naming.routeName method.name uri

/-- The entry with the least key. -/
def Entries.least? {α : Type} : Entries String α → Option (String × α)
  | [] => none
  | entry :: rest =>
      match Entries.least? rest with
      | none => some entry
      | some other => if other.1 < entry.1 then some other else some entry

/-- The schema of the media type that is used: the one whose name is least. -/
def contentSchema? (content : Option (Entries String MediaTypeObject)) : Option SchemaObject :=
  (Entries.least? (content.getD [])).bind fun entry => entry.2.schema

namespace Definitions

/-- The parameter that an operation declares, and where it is given. -/
def parameterFor (definitions : Definitions) (operationId : String) (object : ParameterObject) :
    Outcome (ParameterLocation × Parameter) := do
  let (definition, parameter) ←
    match object.ref with
    | none => do
        let parameter ← Parameter.ofObject object operationId
        pure (object, parameter)
    | some pointer => do
        let definition ← definitions.document.resolve object (some operationId)
        match definitions.parameters.get? (pointerName pointer) with
        | some parameter => pure (definition, parameter)
        | none => throw (.unresolvedReference (some pointer) (some operationId))
  match definition.location.bind ParameterLocation.ofName? with
  | some location => pure (location, parameter)
  | none => throw (.invalidLocation definition.location definition.name)

/-- The parameters of an operation by name and location.  A later declaration
replaces an earlier one and keeps its place. -/
def mergedParameters (definitions : Definitions) (operationId : String)
    (objects : List ParameterObject) :
    Outcome (Entries (String × ParameterLocation) Parameter) := do
  let resolved ← objects.mapM (definitions.parameterFor operationId)
  pure (Entries.ofList (resolved.map fun (location, parameter) =>
    ((parameter.name, location), parameter)))

/-- The parameters at one location. -/
def parametersAt (merged : Entries (String × ParameterLocation) Parameter)
    (location : ParameterLocation) : List Parameter :=
  (merged.filter fun entry => entry.1.2 = location).map Prod.snd

/-- The model of the request body. -/
def requestBody (definitions : Definitions) (operationId : String) (object : OperationObject) :
    Outcome (Option Model) := do
  match object.requestBody with
  | none => pure none
  | some body =>
      let definition ← definitions.document.resolve body (some operationId)
      match contentSchema? definition.content with
      | none => pure none
      | some schema => do
          pure (some (← Model.ofSchema schema (operationId ++ ".requestBody")))

end Definitions

/-- What the key of a response means. -/
inductive ResponseKey where
  /-- A status code of success. -/
  | success (statusCode : Int)
  /-- A key that is left out, and why. -/
  | ignored (reason : String)
  deriving DecidableEq, Repr

/-- Read the key of a response. -/
def ResponseKey.ofText (key : String) : ResponseKey :=
  if key = "default" then .ignored "Ignoring 'default' response"
  else
    match Text.readInteger? key with
    | none => .ignored ("Skipping non-numeric status code '" ++ key ++ "'")
    | some statusCode =>
        if 100 ≤ statusCode ∧ statusCode < 300 then .success statusCode
        else .ignored ("Ignoring non-success response " ++ toString statusCode)

/-- The responses of success under their status codes; of two with the same code the
later one counts. -/
def keptResponses (responses : Entries String ResponseObject) : Entries Int ResponseObject :=
  Entries.ofList (responses.filterMap fun (key, response) =>
    match ResponseKey.ofText key with
    | .success statusCode => some (statusCode, response)
    | .ignored _ => none)

/-- The diagnostics for the responses that are left out. -/
def ignoredResponses (operationId : String) (responses : Entries String ResponseObject) :
    List Diagnostic :=
  responses.filterMap fun (key, _) =>
    match ResponseKey.ofText key with
    | .success _ => none
    | .ignored reason => some ⟨.ignoredResponse, reason, some operationId⟩

/-- Status codes in ascending order. -/
def ascending (codes : List Int) : List Int :=
  codes.mergeSort fun first second => decide (first ≤ second)

/-- Whether a response says anything about its headers or its content. -/
def ResponseObject.isInformative (response : ResponseObject) : Bool :=
  !(response.content.getD []).isEmpty || !(response.headers.getD []).isEmpty

namespace Definitions

/-- The model that a reference in an output stands for.  Headers keep naming their
structs. -/
def flatten (definitions : Definitions) (keepStructs : Bool) (context : String) (model : Model) :
    Outcome Model :=
  if model.isReference then
    match model.name.bind definitions.models.get? with
    | none => .error (.unresolvedReference model.name (some context))
    | some target => .ok (if target.isStruct && keepStructs then model else target)
  else .ok model

/-- One header of a response. -/
def responseHeader (definitions : Definitions) (context name : String) (object : HeaderObject) :
    Outcome Parameter := do
  let header ← definitions.document.resolve object (some (context ++ "." ++ name))
  match header.schema with
  | none => throw (.missingField "schema" (some (context ++ ".headers." ++ name)))
  | some schema =>
      let model ← Model.ofSchema schema (context ++ ".headers." ++ name)
      pure
        { name := name
          model := (← definitions.flatten true context model)
          mandatory := header.required.getD false
          description := header.description }

/-- The body of a response. -/
def responseBody (definitions : Definitions) (context : String) (response : ResponseObject) :
    Outcome (Option Model) := do
  match contentSchema? response.content with
  | none => pure none
  | some schema =>
      let model ← Model.ofSchema schema (context ++ ".body")
      pure (some (← definitions.flatten false context model))

/-- The output that a response declares. -/
def outputOf (definitions : Definitions) (context : String) (statusCode : Int)
    (response : ResponseObject) : Outcome OperationOutput := do
  let headers ← (response.headers.getD []).mapM fun (name, header) =>
    definitions.responseHeader context name header
  let body ← definitions.responseBody context response
  pure ⟨some statusCode, headers, body⟩

/-- The output of the first of these responses that is informative, and diagnostics
for those that come after it. -/
def selectOutput (definitions : Definitions) (operationId : String)
    (found : Option OperationOutput) :
    List (Int × ResponseObject) → Outcome (Option OperationOutput × List Diagnostic)
  | [] => .ok (found, [])
  | (statusCode, declared) :: rest => do
      let context := operationId ++ ".responses." ++ toString statusCode
      let response ← definitions.document.resolve declared (some context)
      if response.isInformative then
        match found with
        | none =>
            let output ← definitions.outputOf context statusCode response
            definitions.selectOutput operationId (some output) rest
        | some output =>
            let message :=
              "Response " ++ toString statusCode ++ " also declares content; keeping response " ++
                textOrNone (output.statusCode.map toString)
            let (selected, diagnostics) ← definitions.selectOutput operationId found rest
            pure (selected, ⟨.duplicateOutput, message, some operationId⟩ :: diagnostics)
      else definitions.selectOutput operationId found rest

/-- The status codes of success, the output, and what was left out. -/
def responses (definitions : Definitions) (operationId : String)
    (declared : Entries String ResponseObject) :
    Outcome (List Int × OperationOutput × List Diagnostic) := do
  let kept := keptResponses declared
  let expect := ascending kept.keys
  let ordered := expect.filterMap fun code => (kept.get? code).map fun response => (code, response)
  let (output?, diagnostics) ← definitions.selectOutput operationId none ordered
  pure (expect, output?.getD ⟨expect.head?, [], none⟩,
    ignoredResponses operationId declared ++ diagnostics)

/-- An operation, with its diagnostics. -/
def assemble (definitions : Definitions) (operationId uri : String) (method : Method)
    (shared : List ParameterObject) (object : OperationObject) :
    Outcome (Operation × List Diagnostic) := do
  let merged ←
    definitions.mergedParameters operationId (shared ++ object.parameters.getD [])
  let body ← definitions.requestBody operationId object
  let (expect, output, diagnostics) ←
    definitions.responses operationId (object.responses.getD [])
  let operation : Operation :=
    { id := operationId
      method := method.name
      uri := uri
      expect := expect
      input :=
        { path := parametersAt merged .path
          query := parametersAt merged .query
          header := parametersAt merged .header
          body := body }
      output := output
      summary := object.summary
      description := object.description
      tags := object.tags.getD [] }
  pure (operation, diagnostics)

/-- An operation at its route.  A failure says which operation could not be built. -/
def operationAt (definitions : Definitions) (uri : String) (method : Method)
    (shared : List ParameterObject) (object : OperationObject) :
    Outcome (Operation × List Diagnostic) :=
  let operationId := operationIdOf method uri object
  (definitions.assemble operationId uri method shared object).mapError fun failure =>
    if failure.isDocumented then
      .operation operationId (some method.name) (some uri) (some failure)
    else failure

end Definitions

/-- An operation of a document with its route. -/
structure DeclaredOperation where
  uri : String
  method : Method
  /-- The parameters of all operations at the path. -/
  shared : List ParameterObject
  object : OperationObject

/-- The paths of a document in ascending order. -/
def sortedPaths (document : Document) : Entries String PathItemObject :=
  document.paths.mergeSort fun first second => decide (first.1 ≤ second.1)

/-- The operations of a document: paths ascend, methods are in canonical order. -/
def Document.declaredOperations (document : Document) : List DeclaredOperation :=
  (sortedPaths document).flatMap fun (uri, item) =>
    item.operations.map fun (method, object) => ⟨uri, method, item.parameters.getD [], object⟩

/-- All operations of the document, with all diagnostics. -/
def Definitions.operations (definitions : Definitions) :
    Outcome (List Operation × List Diagnostic) := do
  let built ← definitions.document.declaredOperations.mapM fun declared =>
    definitions.operationAt declared.uri declared.method declared.shared declared.object
  pure (built.map Prod.fst, built.flatMap Prod.snd)

end ApiScaffold

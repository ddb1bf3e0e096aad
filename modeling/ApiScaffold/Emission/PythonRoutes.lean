import ApiScaffold.Emission.PythonClasses
import ApiScaffold.Naming.SnakeCase
import ApiScaffold.Text.LetterCase

/-!
# Routes in Python

Every operation has a handler: an asynchronous function whose arguments are its
parameters and its body.  Arguments that may be absent come last.  A table of routes
says which handler answers which request.
-/

namespace ApiScaffold.PythonCode

/-- The marker of a parameter at a location. -/
def parameterMarker : FieldLocation → String
  | .path => "Path"
  | .query => "Query"
  | .header => "Header"
  | .body => "Body"

/-- An argument of a handler and what it needs. -/
structure ArgumentCode where
  name : String
  type : TypeCode
  mandatory : Bool

/-- Mark an annotation with the place that its value comes from. -/
def TypeCode.marked (type : TypeCode) (marker : String)
    (keywords : List (String × Expression)) : TypeCode :=
  (type.inside fun expression =>
    .generic "Annotated" [expression, .call (.name marker) [] keywords]).importing
      [("fastapi", marker), ("typing", "Annotated")]

/-- The argument of a parameter. -/
def parameterArgument (service : Service) (location : FieldLocation) (parameter : Parameter) :
    Outcome ArgumentCode := do
  let name ← legalName parameter.name
  let type ← typeCode service parameter.model
  let keywords :=
    if name = parameter.name then [] else [("alias", Expression.text parameter.name)]
  let type := if parameter.mandatory then type else type.optional
  pure ⟨name, type.marked (parameterMarker location) keywords, parameter.mandatory⟩

/-- The argument of a body: the request itself if the body is raw. -/
def bodyArgument (service : Service) (body : Model) : Outcome ArgumentCode := do
  let target ← service.dereference body
  if target.isRawPayload then
    pure ⟨"request", .imported "fastapi" "Request", true⟩
  else do
    let type ← typeCode service body
    pure ⟨Field.bodyName, type.marked (parameterMarker .body) [], true⟩

/-- Work out arguments one after the other.  No two may have the same name. -/
def distinctArguments (owner : String) : List String → List (Outcome ArgumentCode) →
    Outcome (List ArgumentCode)
  | _, [] => .ok []
  | seen, argument :: rest => do
      let argument ← argument
      if seen.contains argument.name then throw (.duplicateName argument.name owner)
      let arguments ← distinctArguments owner (argument.name :: seen) rest
      pure (argument :: arguments)

/-- The arguments of a handler in the order of the input. -/
def handlerArguments (service : Service) (owner : String) (input : OperationInput) :
    Outcome (List ArgumentCode) :=
  distinctArguments owner []
    (input.path.map (parameterArgument service .path) ++
      input.query.map (parameterArgument service .query) ++
      input.header.map (parameterArgument service .header) ++
      input.body.toList.map (bodyArgument service))

/-- An argument as it is written; one that may be absent is `None` by default. -/
def ArgumentCode.argument (code : ArgumentCode) : Argument :=
  ⟨code.name, code.type.expression, if code.mandatory then none else some .none⟩

/-- The name of the handler of an operation. -/
def handlerName (operation : Operation) : Outcome String :=
  legalName (Naming.snakeCase operation.id)

/-- The documentation of a handler. -/
def handlerDocumentation (operation : Operation) : String :=
  let route := "Handle " ++ Text.upperText operation.method ++ " " ++ operation.uri ++ "."
  match operation.summary with
  | none => route
  | some summary => if summary.isEmpty then route else summary ++ "\n\n" ++ route

/-- A handler and what it needs. -/
structure HandlerCode where
  definition : FunctionDefinition
  imports : List (String × String)
  /-- The names of the classes that it mentions. -/
  structs : List String

/-- The handler of an operation, which is still to be written. -/
def handlerCode (service : Service) (operation : Operation) : Outcome HandlerCode := do
  let name ← handlerName operation
  let arguments ← handlerArguments service name operation.input
  let (required, optional) := arguments.partition ArgumentCode.mandatory
  pure
    { definition :=
        { name := name
          arguments := (required ++ optional).map ArgumentCode.argument
          result := outputTypeName operation.id
          body :=
            [.documentation (handlerDocumentation operation),
              .raise (.call (.name "NotImplementedError") [.text operation.id] [])] }
      imports := arguments.flatMap fun argument => argument.type.imports
      structs :=
        (arguments.flatMap fun argument => argument.type.structs) ++
          [outputTypeName operation.id] }

/-- Work out handlers one after the other.  No two may have the same name. -/
def handlerCodes (service : Service) : List String → List Operation → Outcome (List HandlerCode)
  | _, [] => .ok []
  | seen, operation :: rest => do
      let handler ← handlerCode service operation
      let name := handler.definition.name
      if seen.contains name then throw (.duplicateName name "routes")
      let handlers ← handlerCodes service (name :: seen) rest
      pure (handler :: handlers)

/-- The handlers of all operations. -/
def handlers (service : Service) : Outcome (List HandlerCode) :=
  handlerCodes service [] service.operations

/-- The name of the table of routes. -/
def routerName : String := "router"

/-- The status codes whose responses have no body. -/
def bodylessCodes : List Int :=
  [204, 205, 304]

/-- The arguments that a status code adds to a route.  A response without a body has no
model. -/
def statusKeywords : Option Int → List (String × Expression)
  | none => []
  | some code =>
      ("status_code", .integer code) ::
        if code < 200 || bodylessCodes.contains code then [("response_model", .none)] else []

/-- The line that adds the route of an operation to the table. -/
def routeLine (operation : Operation) : Outcome Line := do
  let handler ← handlerName operation
  let keywords :=
    [("methods", Expression.list [.text (Text.upperText operation.method)]),
      ("operation_id", .text operation.id)] ++
      statusKeywords operation.output.statusCode ++
      (if operation.tags.isEmpty then [] else [("tags", .list (operation.tags.map .text))])
  pure (.expression
    (.call (.member routerName "add_api_route") [.text operation.uri, .name handler] keywords))

/-- The lines that make the table of routes. -/
def routeLines (service : Service) : Outcome (List Line) := do
  let routes ← service.operations.mapM routeLine
  pure (.assignment routerName (.call (.name "APIRouter") [] []) :: routes)

/-- What the table of routes needs. -/
def routeImports : List (String × String) :=
  [("fastapi", "APIRouter")]

end ApiScaffold.PythonCode

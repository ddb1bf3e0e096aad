import ApiScaffold.Emission.Block
import ApiScaffold.Emission.Field
import ApiScaffold.Emission.RustBoxing
import ApiScaffold.Emission.RustTypes
import ApiScaffold.Document.Basic
import ApiScaffold.Naming.RustName
import ApiScaffold.Text.Blank
import ApiScaffold.Text.Lines
import ApiScaffold.Text.LetterCase

/-!
# Rust modules

A service is written either as one module or as a module of structs, a module of
routes, and the module that joins them.  Named structs can be serialised; a field
whose name differs from that in the document says so.
-/

namespace ApiScaffold.RustCode

/-- What a named struct derives. -/
def derives : String := "#[derive(Debug, Clone, Serialize, Deserialize)]"

/-- The lines of a documentation comment. -/
def documentationLines (documentation : Option String) : List String :=
  (Text.lines (documentation.getD "")).map fun line =>
    String.ofList (Text.trimEnd ("/// ".toList ++ line))

/-- The comment of a field: the first line of its description. -/
def fieldComment (description : Option String) : List String :=
  match (Text.lines (description.getD "")).head? with
  | none => []
  | some line => ["    /// " ++ String.ofList line]

/-- The lines of a field of a struct. -/
def fieldLines (service : Service) (owner : Option String) (identifier : String) (field : Field) :
    Outcome (List String) := do
  let type ← renderType service field.model
  let boxed ←
    match owner with
    | none => pure false
    | some owner => isRecursive service owner field.model
  let rename :=
    if owner.isSome && Naming.withoutRawMark identifier != field.name then
      ["    #[serde(rename = \"" ++ field.name ++ "\")]"]
    else []
  let type := if boxed then "Option<Box<" ++ type ++ ">>" else type
  let line := "    pub " ++ identifier ++ ": " ++ type ++ ","
  pure (fieldComment field.description ++ rename ++ [line])

/-- The lines of the fields of a struct.  No two fields may have the same identifier. -/
def allFieldLines (service : Service) (owner : Option String) (name : String) :
    List String → List Field → Outcome (List String)
  | _, [] => .ok []
  | seen, field :: rest => do
      let identifier := Naming.rustName field.name
      if seen.contains identifier then throw (.duplicateName identifier name)
      let lines ← fieldLines service owner identifier field
      let others ← allFieldLines service owner name (identifier :: seen) rest
      pure (lines ++ others)

/-- The text of a struct.  With an owner it is the struct of that model: it can be
serialised, and fields that lead back to it are boxed. -/
def renderStruct (service : Service) (name : String) (fields : List Field)
    (documentation owner : Option String) : Outcome String := do
  let head := documentationLines documentation ++ if owner.isSome then [derives] else []
  if fields.isEmpty then
    pure ("\n".intercalate (head ++ ["pub struct " ++ name ++ " \x7b\x7d"]))
  else do
    let lines ← allFieldLines service owner name [] fields
    pure ("\n".intercalate (head ++ ["pub struct " ++ name ++ " \x7b"] ++ lines ++ ["\x7d"]))

/-- The struct of a named model. -/
def renderModel (service : Service) (name : String) (model : Model) : Outcome String :=
  renderStruct service (Naming.typeName name) (model.properties.map Field.ofProperty)
    model.description (some name)

/-- The named structs, dependencies first. -/
def renderModels (service : Service) : Outcome String := do
  let structs ← service.structs
  let blocks ← structs.mapM fun (name, model) => renderModel service name model
  pure ("\n\n".intercalate blocks)

/-- The struct of the input of an operation. -/
def renderInput (service : Service) (operation : Operation) : Outcome String := do
  let fields ← service.inputFields operation
  renderStruct service (inputTypeName operation.id) fields
    (some ("Input of " ++ operation.id ++ ".")) none

/-- The struct of the output of an operation. -/
def renderOutput (service : Service) (operation : Operation) : Outcome String := do
  let fields ← service.outputFields operation
  renderStruct service (outputTypeName operation.id) fields
    (some ("Output of " ++ operation.id ++ ".")) none

/-- The named structs, if they are wanted, and the structs of each operation. -/
def renderBlocks (service : Service) (options : EmissionOptions) : Outcome (List String) :=
  codeBlocks options.models (renderModels service)
    (operationBlock (renderInput service) (renderOutput service)) service.operations

/-- The name of the handler of an operation. -/
def handlerName (operation : Operation) : String :=
  Naming.rustName operation.id

/-- The handler of an operation, which is still to be written. -/
def renderHandler (operation : Operation) : String :=
  "\n".intercalate
    ["/// Handle " ++ Text.upperText operation.method ++ " " ++ operation.uri ++ ".",
      "pub async fn " ++ handlerName operation ++
        "(req: HttpRequest, payload: web::Payload) -> HttpResponse \x7b",
      "    let _ = (req, payload);",
      "    unimplemented!(\"" ++ operation.id ++ "\")",
      "\x7d"]

/-- The route of a method. -/
def methodRoute : Method → String
  | .get => "web::get()"
  | .put => "web::put()"
  | .post => "web::post()"
  | .delete => "web::delete()"
  | .head => "web::head()"
  | .patch => "web::patch()"
  | .trace => "web::trace()"
  | .options => "web::method(actix_web::http::Method::OPTIONS)"

/-- The lines of the table of routes.  No two handlers may have the same name. -/
def routeLines : List String → List Operation → Outcome (List String)
  | _, [] => .ok []
  | seen, operation :: rest => do
      let name := handlerName operation
      if seen.contains name then throw (.duplicateName name "routes")
      match Method.ofName? operation.method with
      | none => throw (.fault (.unknownKey (some operation.method)))
      | some method =>
          let line :=
            "    cfg.route(\"" ++ operation.uri ++ "\", " ++ methodRoute method ++ ".to(" ++ name ++
              "));"
          pure (line :: (← routeLines (name :: seen) rest))

/-- The table of routes and the handlers. -/
def renderRoutes (service : Service) : Outcome String := do
  let lines ← routeLines [] service.operations
  let table :=
    "\n".intercalate
      (["pub fn configure(cfg: &mut web::ServiceConfig) \x7b"] ++ lines ++ ["\x7d"])
  pure ("\n\n".intercalate (table :: service.operations.map renderHandler))

/-- The names that routes and handlers use. -/
def webImport : String := "use actix_web::\x7bweb, HttpRequest, HttpResponse\x7d;"

/-- The names that named structs use. -/
def serialisationImport : String := "use serde::\x7bDeserialize, Serialize\x7d;"

/-- Whether a field of one of these operations is read piece by piece. -/
def hasStream (service : Service) : List Operation → Outcome Bool
  | [] => .ok false
  | operation :: rest => do
      let input ← service.inputFields operation
      let output ← service.outputFields operation
      if (input ++ output).any fun field => field.model.kind = .iterator then pure true
      else hasStream service rest

/-- The imports of a module. -/
def importBlock (service : Service) (models routes : Bool) : Outcome (List String) := do
  let web ← if routes then pure true else hasStream service service.operations
  let uses := (if web then [webImport] else []) ++ if models then [serialisationImport] else []
  pure (if uses.isEmpty then [] else ["\n".intercalate uses])

/-- Blocks of text, set apart by empty lines. -/
def joinBlocks (blocks : List String) : String :=
  "\n\n".intercalate (blocks.filter fun block => !block.isEmpty) ++ "\n"

/-- The text of everything in one module. -/
def renderModule (service : Service) (options : EmissionOptions) : Outcome String := do
  let head ← importBlock service options.models options.routes
  let blocks ← renderBlocks service options
  let routes ← if options.routes then do pure [← renderRoutes service] else pure []
  pure (joinBlocks (head ++ blocks ++ routes))

/-- The files of a package. -/
def renderFiles (service : Service) (options : EmissionOptions) :
    Outcome (List (String × String)) := do
  let head ← importBlock service true false
  let blocks ← renderBlocks service options
  let models := [("models.rs", joinBlocks (head ++ blocks))]
  if options.routes then do
    let routes ← renderRoutes service
    pure (models ++
      [("routes.rs", joinBlocks [webImport, routes]),
        ("mod.rs", "pub mod models;\npub mod routes;\n")])
  else pure (models ++ [("mod.rs", "pub mod models;\n")])

end ApiScaffold.RustCode

import ApiScaffold.Document.Schema

/-!
# Interface documents

The part of a document that matters for the generated code.  Objects that may be
given by a pointer into the components carry it in the field `ref`.
-/

namespace ApiScaffold

/-- The content of one media type. -/
structure MediaTypeObject where
  schema : Option SchemaObject

/-- A header of a response. -/
structure HeaderObject where
  ref : Option String
  description : Option String
  required : Option Bool
  schema : Option SchemaObject

/-- A parameter of an operation. -/
structure ParameterObject where
  ref : Option String
  name : Option String
  /-- Where the parameter is given. -/
  location : Option String
  description : Option String
  required : Option Bool
  style : Option String
  schema : Option SchemaObject

/-- The body of a request. -/
structure RequestBodyObject where
  ref : Option String
  description : Option String
  content : Option (Entries String MediaTypeObject)
  required : Option Bool

/-- A response of an operation. -/
structure ResponseObject where
  ref : Option String
  description : Option String
  headers : Option (Entries String HeaderObject)
  content : Option (Entries String MediaTypeObject)

/-- An operation as it is declared. -/
structure OperationObject where
  tags : Option (List String)
  summary : Option String
  description : Option String
  operationId : Option String
  parameters : Option (List ParameterObject)
  requestBody : Option RequestBodyObject
  responses : Option (Entries String ResponseObject)

/-- The methods of operations. -/
inductive Method where
  | get
  | put
  | post
  | delete
  | options
  | head
  | patch
  | trace
  deriving DecidableEq, Repr

namespace Method

/-- The name of a method. -/
def name : Method → String
  | .get => "get"
  | .put => "put"
  | .post => "post"
  | .delete => "delete"
  | .options => "options"
  | .head => "head"
  | .patch => "patch"
  | .trace => "trace"

/-- All methods in their canonical order. -/
def all : List Method :=
  [.get, .put, .post, .delete, .options, .head, .patch, .trace]

/-- The method with a name. -/
def ofName? (name : String) : Option Method :=
  all.find? fun method => method.name = name

end Method

/-- What is declared for one path. -/
structure PathItemObject where
  summary : Option String
  description : Option String
  /-- The declared operations, in the canonical order of their methods. -/
  operations : List (Method × OperationObject)
  /-- The parameters of all operations. -/
  parameters : Option (List ParameterObject)

/-- The definitions that pointers lead to. -/
structure ComponentsObject where
  schemas : Option (Entries String SchemaObject)
  responses : Option (Entries String ResponseObject)
  parameters : Option (Entries String ParameterObject)
  requestBodies : Option (Entries String RequestBodyObject)
  headers : Option (Entries String HeaderObject)

/-- What a document says about itself. -/
structure InfoObject where
  title : Option String
  version : Option String
  description : Option String

/-- An interface document. -/
structure Document where
  /-- The version of the document format. -/
  openapi : String
  info : Option InfoObject
  paths : Entries String PathItemObject
  components : Option ComponentsObject

namespace Document

/-- The schemas of the components. -/
def schemas (document : Document) : Entries String SchemaObject :=
  (document.components.bind ComponentsObject.schemas).getD []

/-- The responses of the components. -/
def responses (document : Document) : Entries String ResponseObject :=
  (document.components.bind ComponentsObject.responses).getD []

/-- The parameters of the components. -/
def parameters (document : Document) : Entries String ParameterObject :=
  (document.components.bind ComponentsObject.parameters).getD []

/-- The request bodies of the components. -/
def requestBodies (document : Document) : Entries String RequestBodyObject :=
  (document.components.bind ComponentsObject.requestBodies).getD []

/-- The headers of the components. -/
def headers (document : Document) : Entries String HeaderObject :=
  (document.components.bind ComponentsObject.headers).getD []

end Document

end ApiScaffold

import ApiScaffold.Document.Basic
import ApiScaffold.Model.OfSchema
import ApiScaffold.Service.Basic

/-!
# Parameters of declared parameters

A parameter needs a name and a schema.  Parameters in a path are always given.
-/

namespace ApiScaffold

/-- Where a parameter is given. -/
inductive ParameterLocation where
  | path
  | query
  | header
  deriving DecidableEq, Repr

namespace ParameterLocation

/-- The name of a location. -/
def name : ParameterLocation → String
  | .path => "path"
  | .query => "query"
  | .header => "header"

/-- All locations, in the order in which parameters are listed. -/
def all : List ParameterLocation :=
  [.path, .query, .header]

/-- The location with a name. -/
def ofName? (name : String) : Option ParameterLocation :=
  all.find? fun location => location.name = name

end ParameterLocation

/-- The parameter that is declared in a context. -/
def Parameter.ofObject (object : ParameterObject) (context : String) : Outcome Parameter :=
  match object.name.filter (fun name => !name.isEmpty), object.schema with
  | none, _ => .error (.missingField "name" (some context))
  | some name, none => .error (.missingField "schema" (some (context ++ "." ++ name)))
  | some name, some schema => do
      let model ← Model.ofSchema schema (context ++ "." ++ name)
      pure
        { name := name
          model := model
          mandatory := object.required.getD false || object.location = some "path"
          description := object.description }

end ApiScaffold

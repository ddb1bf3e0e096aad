import ApiScaffold.Emission.PythonModule
import ApiScaffold.Emission.RustModule

/-!
# Targets

Code is generated for one target at a time.  Every target writes a service either as
one module or as several files.
-/

namespace ApiScaffold

/-- What code is generated for. -/
inductive Target where
  | python
  | rust
  deriving DecidableEq, Repr

namespace Target

/-- The name of a target. -/
def name : Target → String
  | .python => "python"
  | .rust => "rust"

/-- All targets, in ascending order of their names. -/
def all : List Target :=
  [.python, .rust]

/-- The target with a name. -/
def ofName (name : String) : Outcome Target :=
  match all.find? fun target => target.name = name with
  | some target => .ok target
  | none =>
      .error (.configuration (.unknownTarget name (all.map Target.name)) none (some "target"))

/-- Everything in one module. -/
def renderModule : Target → Service → EmissionOptions → Outcome String
  | .python => PythonCode.renderModule
  | .rust => RustCode.renderModule

/-- The named structs. -/
def renderModels : Target → Service → EmissionOptions → Outcome String
  | .python => PythonCode.renderModels
  | .rust => fun service _ => RustCode.renderModels service

/-- Routes and handlers. -/
def renderRoutes : Target → Service → EmissionOptions → Outcome String
  | .python => PythonCode.renderRoutes
  | .rust => fun service _ => RustCode.renderRoutes service

/-- The files of a package: their names and their texts. -/
def renderFiles : Target → Service → EmissionOptions → Outcome (List (String × String))
  | .python => PythonCode.renderFiles
  | .rust => RustCode.renderFiles

/-- The input of an operation. -/
def renderInput : Target → Service → EmissionOptions → Operation → Outcome String
  | .python => PythonCode.renderInput
  | .rust => fun service _ => RustCode.renderInput service

/-- The output of an operation. -/
def renderOutput : Target → Service → EmissionOptions → Operation → Outcome String
  | .python => PythonCode.renderOutput
  | .rust => fun service _ => RustCode.renderOutput service

/-- The type of a model. -/
def renderType : Target → Service → Model → Outcome String
  | .python => PythonCode.renderType
  | .rust => RustCode.renderType

/-- The name of the handler of an operation. -/
def handlerName : Target → Operation → Outcome String
  | .python => PythonCode.handlerName
  | .rust => fun operation => .ok (RustCode.handlerName operation)

/-- The input and the output of an operation. -/
def renderOperation (target : Target) (service : Service) (options : EmissionOptions) :
    Operation → Outcome String :=
  operationBlock (target.renderInput service options) (target.renderOutput service options)

/-- The named structs, if they are wanted, and the input and output of each operation. -/
def renderBlocks (target : Target) (service : Service) (options : EmissionOptions) :
    Outcome (List String) :=
  codeBlocks options.models (target.renderModels service options)
    (target.renderOperation service options) service.operations

end Target

end ApiScaffold

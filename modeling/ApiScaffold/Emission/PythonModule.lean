import ApiScaffold.Emission.PythonImports
import ApiScaffold.Emission.PythonNesting
import ApiScaffold.Emission.PythonRoutes

/-!
# Python modules

A service is written either as one module or as a package of files: models, routes,
and an empty package file.  Every module starts with its documentation and the block
of its imports, and ends with the list of the names that it offers.
-/

namespace ApiScaffold.PythonCode

/-- The module of the classes of a package. -/
def modelsModule : String := "models"

/-- The module of the routes of a package. -/
def routesModule : String := "routes"

/-- The name of a module that stands alone. -/
def soleModule : String := "module"

/-- The documentation of a module. -/
def moduleDocumentation (service : Service) (content : String) : String :=
  let title := (service.title.filter fun title => !title.isEmpty).getD "API"
  let version := (service.version.filter fun version => !version.isEmpty)
  content ++ " for " ++ title ++ (version.map fun version => " " ++ version).getD "" ++
    ", generated by apiforge."

/-- The imports of a module.  Annotations are not evaluated, so classes may refer to
each other before they are defined. -/
def moduleImports (names : List (String × String)) : Imports :=
  names.foldl (fun imports name => imports.add name.1 name.2)
    (Imports.empty.add futureModule "annotations")

/-- A module before it is written. -/
structure ModuleCode where
  documentation : Option String
  imports : Option Imports
  body : List Statement

/-- The statements of a module. -/
def ModuleCode.statements (code : ModuleCode) : List Statement :=
  (code.documentation.toList.map fun text => .line (.documentation text)) ++
    (code.imports.toList.flatMap fun imports => imports.block.map .importFrom) ++ code.body

/-- The text of a module.  If it is to be checked, it has to be well formed. -/
def ModuleCode.render (code : ModuleCode) (checked : Bool) (name : String) : Outcome String :=
  if checked && !code.statements.all Statement.isReadable then
    .error (.generation .invalidCode (some name) (some .invalidCode))
  else .ok (renderStatements code.statements ++ "\n")

/-- The line that lists the names that a module offers. -/
def exportLine (names : List String) : Statement :=
  .line (.assignment "__all__" (.list (names.map .text)))

/-- Classes as statements. -/
def classStatements (classes : List ClassCode) : List Statement :=
  classes.map fun code => .classDefinition code.definition

/-- The names of classes. -/
def classNames (classes : List ClassCode) : List String :=
  classes.map fun code => code.definition.name

/-- Handlers and the table of routes. -/
def routeStatements (service : Service) (handlers : List HandlerCode) :
    Outcome (List Statement) := do
  let lines ← routeLines service
  pure ((handlers.map fun code => .function code.definition) ++ lines.map .line)

/-- The module of the named structs. -/
def modelsCode (service : Service) : Outcome ModuleCode := do
  let classes ← modelClasses service
  pure
    { documentation := some (moduleDocumentation service "Models")
      imports := some (moduleImports (classes.flatMap ClassCode.imports))
      body := classStatements classes }

/-- The module of the routes, which takes its classes from the module of the models. -/
def routesCode (service : Service) : Outcome ModuleCode := do
  let handlers ← handlers service
  let routes ← routeStatements service handlers
  let structs := handlers.flatMap HandlerCode.structs
  let imports := moduleImports (handlers.flatMap HandlerCode.imports ++ routeImports)
  pure
    { documentation := some (moduleDocumentation service "Routes")
      imports :=
        some (if structs.isEmpty then imports else imports.addAll ("." ++ modelsModule) structs)
      body := routes ++ [exportLine [routerName]] }

/-- The classes of the named structs, if they are wanted. -/
def wantedModelClasses (service : Service) (options : EmissionOptions) :
    Outcome (List ClassCode) :=
  if options.models then modelClasses service else .ok []

/-- The classes of a module. -/
def allClasses (service : Service) (options : EmissionOptions) : Outcome (List ClassCode) := do
  let models ← wantedModelClasses service options
  let operations ← operationClasses service
  pure (models ++ operations)

/-- Everything in one module. -/
def soleCode (service : Service) (options : EmissionOptions) : Outcome ModuleCode := do
  let classes ← allClasses service options
  let handlers ← if options.routes then handlers service else pure []
  let routes ← if options.routes then routeStatements service handlers else pure []
  let imports :=
    classes.flatMap ClassCode.imports ++ handlers.flatMap HandlerCode.imports ++
      (if options.routes then routeImports else [])
  let names := classNames classes ++ if options.routes then [routerName] else []
  pure
    { documentation := some (moduleDocumentation service "API")
      imports := some (moduleImports imports)
      body := classStatements classes ++ routes ++ [exportLine names] }

/-- The module of all classes of a package. -/
def packageModelsCode (service : Service) (options : EmissionOptions) : Outcome ModuleCode := do
  let classes ← allClasses service options
  pure
    { documentation := some (moduleDocumentation service "Models")
      imports := some (moduleImports (classes.flatMap ClassCode.imports))
      body := classStatements classes ++ [exportLine (classNames classes)] }

/-- A single class without imports. -/
def classModule (code : ClassCode) : ModuleCode :=
  ⟨none, none, [.classDefinition code.definition]⟩

/-- The text of the named structs. -/
def renderModels (service : Service) (options : EmissionOptions) : Outcome String := do
  (← modelsCode service).render options.checked modelsModule

/-- The text of the routes. -/
def renderRoutes (service : Service) (options : EmissionOptions) : Outcome String := do
  (← routesCode service).render options.checked routesModule

/-- The text of the input of an operation. -/
def renderInput (service : Service) (options : EmissionOptions) (operation : Operation) :
    Outcome String := do
  (classModule (← inputClass service operation)).render options.checked soleModule

/-- The text of the output of an operation. -/
def renderOutput (service : Service) (options : EmissionOptions) (operation : Operation) :
    Outcome String := do
  (classModule (← outputClass service operation)).render options.checked soleModule

/-- The text of everything in one module. -/
def renderModule (service : Service) (options : EmissionOptions) : Outcome String := do
  (← soleCode service options).render options.checked soleModule

/-- The files of a package. -/
def renderFiles (service : Service) (options : EmissionOptions) :
    Outcome (List (String × String)) := do
  let models ← (← packageModelsCode service options).render options.checked modelsModule
  let routes ←
    if options.routes then do
      pure [(routesModule ++ ".py", ← renderRoutes service options)]
    else pure []
  pure ([("__init__.py", ""), (modelsModule ++ ".py", models)] ++ routes)

/-- The text of a type. -/
def renderType (service : Service) (model : Model) : Outcome String := do
  let type ← typeCode service model
  pure type.expression.render

end ApiScaffold.PythonCode

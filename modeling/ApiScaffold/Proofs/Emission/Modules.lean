import ApiScaffold.Proofs.Emission.ClosedModules
import ApiScaffold.Proofs.Emission.DistinctNames

/-!
# Modules and their parts

Every module that is rendered is put together in the same way: classes come first, then handlers
with the table of routes, and the list of what the module offers comes last.  Modules differ in
which of these parts they have, and in where the classes come from: from the named structs, and
from the fields of the inputs and outputs of operations.
-/

namespace ApiScaffold.PythonCode

/-- The modules that are rendered: everything in one module, the named structs, the routes, the
classes of a package, and the class of a single input or output. -/
inductive Module where
  | sole
  | models
  | routes
  | package
  | input (operation : Operation)
  | output (operation : Operation)

variable {service : Service} {options : EmissionOptions} {module : Module}

namespace Module

/-- The code of a module. -/
def code (service : Service) (options : EmissionOptions) : Module → Outcome ModuleCode
  | .sole => soleCode service options
  | .models => modelsCode service
  | .routes => routesCode service
  | .package => packageModelsCode service options
  | .input operation => inputClass service operation >>= fun given => .ok (classModule given)
  | .output operation => outputClass service operation >>= fun given => .ok (classModule given)

/-- The name of a module. -/
def name : Module → String
  | .models | .package => modelsModule
  | .routes => routesModule
  | .sole | .input _ | .output _ => soleModule

/-- The text of a module. -/
def text (service : Service) (options : EmissionOptions) : Module → Outcome String
  | .sole => renderModule service options
  | .models => renderModels service options
  | .routes => renderRoutes service options
  | .package =>
      packageModelsCode service options >>= fun code => code.render options.checked modelsModule
  | .input operation => renderInput service options operation
  | .output operation => renderOutput service options operation

/-- Whether a module has the classes of the named structs. -/
def hasStructs (options : EmissionOptions) : Module → Bool
  | .sole | .package => options.models
  | .models => true
  | .routes | .input _ | .output _ => false

/-- Whether a module has handlers and the table of routes. -/
def hasRoutes (options : EmissionOptions) : Module → Bool
  | .sole => options.routes
  | .routes => true
  | .models | .package | .input _ | .output _ => false

/-- Whether a module has the class of the input of an operation. -/
def HasInput (service : Service) : Module → Operation → Prop
  | .sole, operation | .package, operation => operation ∈ service.operations
  | .input given, operation => given = operation
  | .models, _ | .routes, _ | .output _, _ => False

/-- Whether a module has the class of the output of an operation. -/
def HasOutput (service : Service) : Module → Operation → Prop
  | .sole, operation | .package, operation => operation ∈ service.operations
  | .output given, operation => given = operation
  | .models, _ | .routes, _ | .input _, _ => False

/-- The classes of a module. -/
def classes (service : Service) (options : EmissionOptions) : Module → Outcome (List ClassCode)
  | .sole | .package => allClasses service options
  | .models => modelClasses service
  | .routes => .ok []
  | .input operation => inputClass service operation >>= fun given => .ok [given]
  | .output operation => outputClass service operation >>= fun given => .ok [given]

/-- The names that a module lists as those that it offers, if it lists any. -/
def offered (options : EmissionOptions) (classes : List ClassCode) : Module → Option (List String)
  | .sole => some (classNames classes ++ if options.routes then [routerName] else [])
  | .routes => some [routerName]
  | .package => some (classNames classes)
  | .models | .input _ | .output _ => none

/-- The imports of a module. -/
def imports (options : EmissionOptions) (classes : List ClassCode) (codes : List HandlerCode) :
    Module → Option Imports
  | .sole => some (moduleImports (classes.flatMap ClassCode.imports ++
      codes.flatMap HandlerCode.imports ++ if options.routes then routeImports else []))
  | .models | .package => some (moduleImports (classes.flatMap ClassCode.imports))
  | .routes =>
      let structs := codes.flatMap HandlerCode.structs
      let imports := moduleImports (codes.flatMap HandlerCode.imports ++ routeImports)
      some (if structs.isEmpty then imports else imports.addAll ("." ++ modelsModule) structs)
  | .input _ | .output _ => none

/-- A module that is made of classes, and of handlers with the lines of their routes. -/
structure MadeOf (service : Service) (options : EmissionOptions) (module : Module)
    (classes : List ClassCode) (codes : List HandlerCode) (lines : List Line)
    (code : ModuleCode) : Prop where
  areClasses : module.classes service options = .ok classes
  areParts : module.hasRoutes options = true ∧ handlers service = .ok codes ∧
      routeLines service = .ok lines ∨
    module.hasRoutes options = false ∧ codes = [] ∧ lines = []
  isBody : code.body = classStatements classes ++
    ((codes.map fun code => Statement.function code.definition) ++ lines.map .line) ++
      ((module.offered options classes).map exportLine).toList
  areImports : code.imports = module.imports options classes codes

end Module

/-- Handlers and routes are the handlers, and then the lines of the table. -/
theorem routeStatements_eq_ok_iff {codes : List HandlerCode} {statements : List Statement} :
    routeStatements service codes = .ok statements ↔ ∃ lines, routeLines service = .ok lines ∧
      statements =
        (codes.map fun code => Statement.function code.definition) ++ lines.map .line := by
  rw [routeStatements, Outcome.bind_eq_ok_iff]
  simp only [pure, Except.pure, Except.ok.injEq, eq_comm]

/-- Every module is made of its parts. -/
theorem Module.exists_madeOf {code : ModuleCode} (isCode : module.code service options = .ok code) :
    ∃ classes codes lines, module.MadeOf service options classes codes lines code := by
  cases module with
  | sole =>
      obtain ⟨classes, codes, routes, areClasses, parts, areImports, isBody⟩ :=
        parts_of_soleCode isCode
      rcases parts with ⟨wanted, areHandlers, areRoutes⟩ | ⟨noRoutes, rfl, rfl⟩
      · obtain ⟨lines, areLines, rfl⟩ := routeStatements_eq_ok_iff.mp areRoutes
        exact ⟨classes, codes, lines, areClasses, Or.inl ⟨wanted, areHandlers, areLines⟩, isBody,
          areImports⟩
      · exact ⟨classes, [], [], areClasses, Or.inr ⟨noRoutes, rfl, rfl⟩, isBody, areImports⟩
  | models =>
      obtain ⟨classes, areClasses, wrapped⟩ := Outcome.bind_eq_ok_iff.mp isCode
      cases wrapped
      exact ⟨classes, [], [], areClasses, Or.inr ⟨rfl, rfl, rfl⟩, by simp [offered], rfl⟩
  | routes =>
      obtain ⟨codes, areHandlers, more⟩ := Outcome.bind_eq_ok_iff.mp isCode
      obtain ⟨routes, areRoutes, wrapped⟩ := Outcome.bind_eq_ok_iff.mp more
      obtain ⟨lines, areLines, rfl⟩ := routeStatements_eq_ok_iff.mp areRoutes
      cases wrapped
      exact ⟨[], codes, lines, rfl, Or.inl ⟨rfl, areHandlers, areLines⟩, rfl, rfl⟩
  | package =>
      obtain ⟨classes, areClasses, wrapped⟩ := Outcome.bind_eq_ok_iff.mp isCode
      cases wrapped
      exact ⟨classes, [], [], areClasses, Or.inr ⟨rfl, rfl, rfl⟩, by simp [offered], rfl⟩
  | input operation =>
      obtain ⟨given, isGiven, wrapped⟩ := Outcome.bind_eq_ok_iff.mp isCode
      cases wrapped
      exact ⟨[given], [], [], Outcome.bind_eq_ok_iff.mpr ⟨given, isGiven, rfl⟩,
        Or.inr ⟨rfl, rfl, rfl⟩, rfl, rfl⟩
  | output operation =>
      obtain ⟨given, isGiven, wrapped⟩ := Outcome.bind_eq_ok_iff.mp isCode
      cases wrapped
      exact ⟨[given], [], [], Outcome.bind_eq_ok_iff.mpr ⟨given, isGiven, rfl⟩,
        Or.inr ⟨rfl, rfl, rfl⟩, rfl, rfl⟩

/-- What stands in the body of a module. -/
theorem Module.MadeOf.mem_body_iff {classes : List ClassCode} {codes : List HandlerCode}
    {lines : List Line} {code : ModuleCode}
    (made : module.MadeOf service options classes codes lines code) (statement : Statement) :
    statement ∈ code.body ↔
      (∃ given ∈ classes, statement = .classDefinition given.definition) ∨
        (∃ handler ∈ codes, statement = .function handler.definition) ∨
          (∃ line ∈ lines, statement = .line line) ∨
            ∃ names, module.offered options classes = some names ∧
              statement = exportLine names := by
  rw [made.isBody]
  simp only [classStatements, List.mem_append, List.mem_map, Option.mem_toList,
    Option.map_eq_some_iff, or_assoc, @eq_comm _ _ statement]

namespace ModuleCode

variable {code : ModuleCode} {α : Type} {view : Statement → List α}

/-- What is seen in the body only is seen in the statements of the module. -/
theorem flatMap_statements_eq_body
    (ofDocumentation : ∀ text, view (.line (.documentation text)) = [])
    (ofImport : ∀ entry, view (.importFrom entry) = []) :
    code.statements.flatMap view = code.body.flatMap view := by
  have noHead : ((code.documentation.toList.map fun text => Statement.line (.documentation text)) ++
      code.imports.toList.flatMap fun imports : Imports =>
        imports.block.map Statement.importFrom).flatMap view = [] := by
    rw [List.flatMap_eq_nil_iff, List.forall_mem_append, List.forall_mem_map,
      List.forall_mem_flatMap]
    constructor
    · exact fun text _ => ofDocumentation text
    · intro imports _
      rw [List.forall_mem_map]
      exact fun entry _ => ofImport entry
  rw [statements, List.flatMap_append, noHead, List.nil_append]

/-- What is not seen in the body is seen in the imports of the module. -/
theorem flatMap_statements_eq_block {imports : Imports} (areImports : code.imports = some imports)
    (ofDocumentation : ∀ text, view (.line (.documentation text)) = [])
    (ofBody : ∀ statement ∈ code.body, view statement = []) :
    code.statements.flatMap view = imports.block.flatMap fun entry => view (.importFrom entry) := by
  have noDocumentation : (code.documentation.toList.map fun text =>
      Statement.line (.documentation text)).flatMap view = [] := by
    rw [List.flatMap_eq_nil_iff, List.forall_mem_map]
    exact fun text _ => ofDocumentation text
  rw [statements, areImports, List.flatMap_append, List.flatMap_append, noDocumentation,
    List.flatMap_eq_nil_iff.mpr ofBody, List.nil_append, List.append_nil]
  simp [List.flatMap_map]

end ModuleCode

/-! ## Texts -/

/-- Every text is rendered from the code of its module. -/
theorem Module.text_eq (service : Service) (options : EmissionOptions) (module : Module) :
    module.text service options =
      module.code service options >>= fun code => code.render options.checked module.name := by
  cases module with
  | sole | models | routes | package => rfl
  | input operation =>
      rw [text, code, renderInput]
      cases inputClass service operation <;> rfl
  | output operation =>
      rw [text, code, renderOutput]
      cases outputClass service operation <;> rfl

/-- The files of a package are an empty one, the text of its classes and, if they are wanted, the
text of the routes. -/
theorem renderFiles_eq (service : Service) (options : EmissionOptions) :
    renderFiles service options = Module.package.text service options >>= fun models =>
      if options.routes then Module.routes.text service options >>= fun routes =>
        .ok [("__init__.py", ""), (modelsModule ++ ".py", models), (routesModule ++ ".py", routes)]
      else .ok [("__init__.py", ""), (modelsModule ++ ".py", models)] := by
  obtain ⟨models, routes, checked⟩ := options
  simp only [renderFiles, Module.text]
  cases packageModelsCode service ⟨models, routes, checked⟩ with
  | error failure => rfl
  | ok code =>
      change (code.render checked modelsModule >>= _) = (code.render checked modelsModule >>= _)
      cases code.render checked modelsModule with
      | error failure => rfl
      | ok text =>
          cases routes with
          | false => rfl
          | true => cases renderRoutes service ⟨models, true, checked⟩ <;> rfl

/-- A package with routes has its files exactly if its classes and its routes have texts. -/
theorem renderFiles_eq_ok_iff (wanted : options.routes = true) {files : List (String × String)} :
    renderFiles service options = .ok files ↔
      ∃ models routes, Module.package.text service options = .ok models ∧
        Module.routes.text service options = .ok routes ∧
        files = [("__init__.py", ""), ("models.py", models), ("routes.py", routes)] := by
  simp only [renderFiles_eq, wanted, if_true, Outcome.bind_eq_ok_iff, Except.ok.injEq]
  constructor
  · rintro ⟨models, areModels, routes, areRoutes, rfl⟩
    exact ⟨models, routes, areModels, areRoutes, rfl⟩
  · rintro ⟨models, routes, areModels, areRoutes, rfl⟩
    exact ⟨models, areModels, routes, areRoutes, rfl⟩

/-- A text of a module spells the statements of its code. -/
theorem Module.exists_code_of_text {text : String}
    (rendered : module.text service options = .ok text) :
    ∃ code, module.code service options = .ok code ∧
      text = renderStatements code.statements ++ "\n" := by
  rw [Module.text_eq] at rendered
  obtain ⟨code, isCode, written⟩ := Outcome.bind_eq_ok_iff.mp rendered
  exact ⟨code, isCode, ModuleCode.eq_of_render written⟩

/-! ## Classes -/

/-- The class of a named struct has the properties as its fields. -/
def IsStructClass (service : Service) (name : String) (fields : List Field) : Prop :=
  ∃ entry ∈ service.models, entry.2.isStruct = true ∧ name = Naming.typeName entry.1 ∧
    fields = entry.2.properties.map Field.ofProperty

/-- The class of an input has the fields of the input. -/
def IsInputClass (service : Service) (operation : Operation) (name : String)
    (fields : List Field) : Prop :=
  name = inputTypeName operation.id ∧ service.inputFields operation = .ok fields

/-- The class of an output has the fields of the output. -/
def IsOutputClass (service : Service) (operation : Operation) (name : String)
    (fields : List Field) : Prop :=
  name = outputTypeName operation.id ∧ service.outputFields operation = .ok fields

/-- A class of a module: its name and its fields. -/
def Module.HasClass (service : Service) (options : EmissionOptions) (module : Module)
    (name : String) (fields : List Field) : Prop :=
  (module.hasStructs options = true ∧ IsStructClass service name fields) ∨
    ∃ operation,
      (module.HasInput service operation ∧ IsInputClass service operation name fields) ∨
        (module.HasOutput service operation ∧ IsOutputClass service operation name fields)

/-- Classes are those with the given names and fields, and all of them. -/
structure Represents (service : Service) (isClass : String → List Field → Prop)
    (classes : List ClassCode) : Prop where
  exists_fields : ∀ code ∈ classes, ∃ name fields documentation,
    isClass name fields ∧ classCode service name fields documentation = .ok code
  exists_code : ∀ name fields, isClass name fields →
    ∃ code ∈ classes, ∃ documentation, classCode service name fields documentation = .ok code

namespace Represents

variable {isClass other : String → List Field → Prop} {classes more : List ClassCode}

theorem of_iff (represents : Represents service isClass classes)
    (same : ∀ name fields, isClass name fields ↔ other name fields) :
    Represents service other classes := by
  have equal : isClass = other := funext fun name => funext fun fields => propext (same name fields)
  exact equal ▸ represents

theorem nil : Represents service (fun _ _ => False) [] := by
  constructor
  · exact fun code member => nomatch member
  · exact fun name fields impossible => impossible.elim

theorem append (represents : Represents service isClass classes)
    (others : Represents service other more) :
    Represents service (fun name fields => isClass name fields ∨ other name fields)
      (classes ++ more) := by
  constructor
  · intro code member
    rcases List.mem_append.mp member with first | second
    · obtain ⟨name, fields, documentation, here, built⟩ := represents.exists_fields code first
      exact ⟨name, fields, documentation, Or.inl here, built⟩
    · obtain ⟨name, fields, documentation, here, built⟩ := others.exists_fields code second
      exact ⟨name, fields, documentation, Or.inr here, built⟩
  · rintro name fields (here | there)
    · obtain ⟨code, member, isBuilt⟩ := represents.exists_code name fields here
      exact ⟨code, List.mem_append_left _ member, isBuilt⟩
    · obtain ⟨code, member, isBuilt⟩ := others.exists_code name fields there
      exact ⟨code, List.mem_append_right _ member, isBuilt⟩

/-- A single class, given its fields. -/
theorem singleton {name : String} {fields : Outcome (List Field)}
    {documentation : Option String} {code : ClassCode}
    (built : (fields >>= fun given => classCode service name given documentation) = .ok code) :
    Represents service (fun other given => other = name ∧ fields = .ok given) [code] := by
  obtain ⟨given, areFields, isBuilt⟩ := Outcome.bind_eq_ok_iff.mp built
  constructor
  · rw [List.forall_mem_singleton]
    exact ⟨name, given, documentation, ⟨rfl, areFields⟩, isBuilt⟩
  · rintro _ others ⟨rfl, areOthers⟩
    obtain rfl := Except.ok.inj (areFields.symm.trans areOthers)
    exact ⟨code, List.mem_singleton_self code, documentation, isBuilt⟩

/-- The classes of some items, one after the other. -/
theorem flatten {α : Type} {items : List α} {pairs : List (List ClassCode)}
    {isClass : α → String → List Field → Prop}
    (each : List.Forall₂ (fun item classes => Represents service (isClass item) classes)
      items pairs) :
    Represents service (fun name fields => ∃ item ∈ items, isClass item name fields)
      pairs.flatten := by
  induction each with
  | nil => exact nil.of_iff fun name fields => by simp
  | cons here _ ih => exact (here.append ih).of_iff fun name fields => by simp

/-- The names of the classes are the given names. -/
theorem mem_classNames_iff (represents : Represents service isClass classes) (name : String) :
    name ∈ classNames classes ↔ ∃ fields, isClass name fields := by
  rw [classNames, List.mem_map]
  constructor
  · rintro ⟨code, member, rfl⟩
    obtain ⟨name, fields, documentation, here, built⟩ := represents.exists_fields code member
    rw [(supplied_classCode built).isName]
    exact ⟨fields, here⟩
  · rintro ⟨fields, here⟩
    obtain ⟨code, member, documentation, built⟩ := represents.exists_code name fields here
    exact ⟨code, member, (supplied_classCode built).isName⟩

end Represents

/-- The classes of the operations represent their inputs and outputs. -/
theorem represents_operationClasses {classes : List ClassCode}
    (built : operationClasses service = .ok classes) :
    Represents service (fun name fields => ∃ operation ∈ service.operations,
      IsInputClass service operation name fields ∨ IsOutputClass service operation name fields)
      classes := by
  obtain ⟨pairs, each, wrapped⟩ := Outcome.bind_eq_ok_iff.mp built
  cases wrapped
  apply Represents.flatten
  refine (Outcome.mapM_eq_ok_iff.mp each).imp ?_
  intro operation pair isPair
  obtain ⟨input, isInput, more⟩ := Outcome.bind_eq_ok_iff.mp isPair
  obtain ⟨output, isOutput, wrapped⟩ := Outcome.bind_eq_ok_iff.mp more
  cases wrapped
  exact (Represents.singleton isInput).append (Represents.singleton isOutput)

section Built

variable {document : Document} (built : document.service = .ok service)
include built

/-- The classes of the named structs represent the structs among the models. -/
theorem represents_modelClasses {classes : List ClassCode}
    (areClasses : modelClasses service = .ok classes) :
    Represents service (IsStructClass service) classes := by
  obtain ⟨structs, isStructs, perm⟩ := Document.exists_structs_perm built
  rw [modelClasses, isStructs] at areClasses
  have each := Outcome.mapM_eq_ok_iff.mp areClasses
  have isModel : ∀ entry : String × Model,
      entry ∈ structs ↔ entry ∈ service.models ∧ entry.2.isStruct = true := by
    intro entry
    rw [perm.mem_iff, List.mem_filter]
  constructor
  · intro code member
    obtain ⟨entry, isEntry, isClass⟩ := Entries.exists_left_of_forall₂ each member
    obtain ⟨inModels, isStruct⟩ := (isModel entry).mp isEntry
    exact ⟨_, _, _, ⟨entry, inModels, isStruct, rfl, rfl⟩, isClass⟩
  · rintro _ _ ⟨entry, inModels, isStruct, rfl, rfl⟩
    obtain ⟨code, member, isClass⟩ :=
      Entries.exists_left_of_forall₂ each.flip ((isModel entry).mpr ⟨inModels, isStruct⟩)
    exact ⟨code, member, _, isClass⟩

theorem represents_wantedModelClasses {classes : List ClassCode}
    (areClasses : wantedModelClasses service options = .ok classes) :
    Represents service
      (fun name fields => options.models = true ∧ IsStructClass service name fields) classes := by
  rw [wantedModelClasses] at areClasses
  split at areClasses
  · next wanted =>
      exact (represents_modelClasses built areClasses).of_iff fun name fields => by simp [wanted]
  · next unwanted =>
      cases areClasses
      exact Represents.nil.of_iff fun name fields => by simp [unwanted]

/-- The classes of a module represent what its classes are made from. -/
theorem Module.represents_classes {classes : List ClassCode}
    (areClasses : module.classes service options = .ok classes) :
    Represents service (module.HasClass service options) classes := by
  have both : allClasses service options = .ok classes → Represents service
      (fun name fields => (options.models = true ∧ IsStructClass service name fields) ∨
        ∃ operation ∈ service.operations, IsInputClass service operation name fields ∨
          IsOutputClass service operation name fields) classes := by
    intro areAll
    obtain ⟨models, areModels, more⟩ := Outcome.bind_eq_ok_iff.mp areAll
    obtain ⟨operations, areOperations, wrapped⟩ := Outcome.bind_eq_ok_iff.mp more
    cases wrapped
    exact (represents_wantedModelClasses built areModels).append
      (represents_operationClasses areOperations)
  have single : ∀ {given : Outcome ClassCode} {isClass : String → List Field → Prop},
      (∀ code, given = .ok code → Represents service isClass [code]) →
        (given >>= fun code => .ok [code]) = .ok classes → Represents service isClass classes := by
    intro given isClass represents wrapped
    obtain ⟨code, isCode, equal⟩ := Outcome.bind_eq_ok_iff.mp wrapped
    cases equal
    exact represents code isCode
  cases module with
  | sole | package =>
      refine (both areClasses).of_iff fun name fields => ?_
      simp only [HasClass, hasStructs, HasInput, HasOutput, ← and_or_left]
  | models =>
      refine (represents_modelClasses built areClasses).of_iff fun name fields => ?_
      simp [HasClass, hasStructs, HasInput, HasOutput]
  | routes =>
      cases areClasses
      refine Represents.nil.of_iff fun name fields => ?_
      simp [HasClass, hasStructs, HasInput, HasOutput]
  | input operation =>
      refine (single (fun code => Represents.singleton) areClasses).of_iff fun name fields => ?_
      simp [HasClass, hasStructs, HasInput, HasOutput, IsInputClass]
  | output operation =>
      refine (single (fun code => Represents.singleton) areClasses).of_iff fun name fields => ?_
      simp [HasClass, hasStructs, HasInput, HasOutput, IsOutputClass]

end Built

end ApiScaffold.PythonCode

import ApiScaffold.Proofs.Emission.Mentions
import ApiScaffold.Proofs.Emission.Modules

/-!
# The files of a package

The routes of a package import their types from the module of the models.  What they import are
the outputs of all operations, and the structs that the inputs of operations mention.  The module
of the models always has the first; it has the structs only if the models are wanted.

So the files agree exactly if the models are wanted, or if no input mentions a struct.
-/

namespace ApiScaffold.PythonCode

/-! ## Where names are imported from -/

namespace Imports

/-- The names that are imported from a module. -/
def namesFrom (imports : Imports) (module : String) : List String :=
  (imports.modules.get? module).getD []

theorem mem_namesFrom_addAll_iff (imports : Imports) (module : String) (names : List String)
    (origin name : String) :
    name ∈ (imports.addAll module names).namesFrom origin ↔
      name ∈ imports.namesFrom origin ∨ origin = module ∧ name ∈ names := by
  by_cases same : origin = module
  · subst same
    rw [namesFrom, addAll, Entries.get?_put_self, namesFrom]
    by_cases known : name ∈ (imports.modules.get? origin).getD []
    · simp [known]
    · simp [known]
  · rw [namesFrom, addAll, Entries.get?_put_of_ne _ _ (Ne.symm same), namesFrom]
    simp [same]

/-- What is gathered is imported, and nothing else but the future of annotations. -/
theorem mem_namesFrom_moduleImports_iff (names : List (String × String)) (origin name : String) :
    name ∈ (moduleImports names).namesFrom origin ↔
      (origin, name) = (futureModule, "annotations") ∨ (origin, name) ∈ names := by
  have gathered : ∀ imports : Imports,
      name ∈
          (names.foldl (fun imports name => imports.add name.1 name.2) imports).namesFrom origin ↔
        name ∈ imports.namesFrom origin ∨ (origin, name) ∈ names := by
    induction names with
    | nil => simp
    | cons first rest ih =>
        intro imports
        rw [List.foldl_cons, ih, add, mem_namesFrom_addAll_iff, List.mem_singleton, List.mem_cons,
          or_assoc]
        apply or_congr_right
        rw [Prod.ext_iff]
  rw [moduleImports, gathered, add, mem_namesFrom_addAll_iff, List.mem_singleton]
  simp [namesFrom, empty]

theorem nodup_addAll {imports : Imports} (distinct : imports.modules.keys.Nodup)
    (module : String) (names : List String) : (imports.addAll module names).modules.keys.Nodup :=
  Entries.nodup_keys_put distinct _ _

theorem nodup_moduleImports (names : List (String × String)) :
    (moduleImports names).modules.keys.Nodup := by
  have gathered : ∀ imports : Imports, imports.modules.keys.Nodup →
      (names.foldl (fun imports name => imports.add name.1 name.2) imports).modules.keys.Nodup := by
    induction names with
    | nil => exact fun imports distinct => distinct
    | cons first rest ih =>
        intro imports distinct
        exact ih _ (nodup_addAll distinct _ _)
  have none : empty.modules.keys.Nodup := List.nodup_nil
  exact gathered _ (nodup_addAll none _ _)

/-- The block of imports has one statement for each module. -/
theorem mem_block_iff {imports : Imports} (distinct : imports.modules.keys.Nodup)
    (entry : Import) :
    entry ∈ imports.block ↔ ∃ module names, imports.modules.get? module = some names ∧
      entry = statement module names := by
  rw [block, List.mem_map]
  constructor
  · rintro ⟨⟨module, names⟩, member, rfl⟩
    exact ⟨module, names,
      Entries.get?_eq_some_of_mem distinct (List.mem_mergeSort.mp member), rfl⟩
  · rintro ⟨module, names, found, rfl⟩
    exact ⟨(module, names), List.mem_mergeSort.mpr (Entries.mem_of_get? found), rfl⟩

theorem mem_names_statement_iff (module : String) (names : List String) (name : String) :
    name ∈ (statement module names).names ↔ name ∈ names := by
  change name ∈ sortedNames names ↔ _
  rw [sortedNames, List.mem_eraseDups, List.mem_mergeSort]

/-- The dots in front of a module's name say where it is, and the rest says what it is. -/
theorem isBeside_statement_iff (module : String) (names : List String) :
    (statement module names).level = 1 ∧ (statement module names).module = modelsModule ↔
      module = "." ++ modelsModule := by
  have wanted : module = "." ++ modelsModule ↔ module.toList = '.' :: modelsModule.toList := by
    rw [← String.toList_inj]
    rfl
  rw [wanted]
  simp only [statement]
  cases module.toList with
  | nil => simp
  | cons first rest =>
      by_cases isDot : first = '.'
      · subst isDot
        simp only [List.takeWhile_cons, decide_true, if_true, List.length_cons,
          List.drop_succ_cons, List.cons.injEq, true_and, Nat.add_eq_right]
        constructor
        · rintro ⟨noMore, isModule⟩
          rw [noMore, List.drop_zero] at isModule
          rw [← isModule, String.toList_ofList]
        · rintro rfl
          exact ⟨rfl, rfl⟩
      · simp [isDot]

end Imports

/-- The names that a statement imports from a module beside its own. -/
def Statement.importedBeside (module : String) : Statement → List String
  | .importFrom entry =>
      if entry.level = 1 ∧ entry.module = module then entry.names else []
  | _ => []

/-- The names of the classes that a statement defines. -/
def Statement.classNames : Statement → List String
  | .classDefinition definition => [definition.name]
  | _ => []

/-- Whatever the routes import from the module of the models is the name of a class that is
defined and offered there. -/
def FilesAgree (models routes : List Statement) : Prop :=
  ∀ name ∈ routes.flatMap (Statement.importedBeside modelsModule),
    name ∈ models.flatMap Statement.classNames ∧ name ∈ models.flatMap Statement.exported

/-- A block of imports imports from the module of the models what was gathered for it. -/
theorem Imports.mem_importedBeside_block_iff {imports : Imports}
    (distinct : imports.modules.keys.Nodup) (name : String) :
    (name ∈ imports.block.flatMap fun entry =>
        (Statement.importFrom entry).importedBeside modelsModule) ↔
      name ∈ imports.namesFrom ("." ++ modelsModule) := by
  rw [List.mem_flatMap, namesFrom]
  constructor
  · rintro ⟨entry, isEntry, member⟩
    obtain ⟨module, names, found, rfl⟩ := (mem_block_iff distinct entry).mp isEntry
    simp only [Statement.importedBeside, isBeside_statement_iff] at member
    split at member
    · next isModels =>
        rw [← isModels, found]
        exact (mem_names_statement_iff module names name).mp member
    · cases member
  · intro member
    cases found : imports.modules.get? ("." ++ modelsModule) with
    | none =>
        rw [found] at member
        cases member
    | some names =>
        rw [found] at member
        refine ⟨_, (mem_block_iff distinct _).mpr ⟨_, names, found, rfl⟩, ?_⟩
        simp only [Statement.importedBeside, isBeside_statement_iff, if_true]
        exact (mem_names_statement_iff _ names name).mpr member

/-! ## The two files -/

variable {service : Service} {options : EmissionOptions}

theorem classNames_exportLine (names : List String) : (exportLine names).classNames = [] :=
  rfl

theorem exported_exportLine (names : List String) : (exportLine names).exported = names := by
  simp [exportLine, Statement.exported, List.filterMap_map, Function.comp_def, Expression.text?]

/-- The module of the models in a package defines its classes, and offers just these. -/
theorem classNames_package {code : ModuleCode}
    (isCode : packageModelsCode service options = .ok code) :
    ∃ classes, allClasses service options = .ok classes ∧
      code.statements.flatMap Statement.classNames = classNames classes ∧
        code.statements.flatMap Statement.exported = classNames classes := by
  obtain ⟨classes, areClasses, wrapped⟩ := Outcome.bind_eq_ok_iff.mp isCode
  cases wrapped
  refine ⟨classes, areClasses, ?_, ?_⟩
  · rw [ModuleCode.flatMap_statements_eq_body (fun _ => rfl) fun _ => rfl, List.flatMap_append,
      List.flatMap_singleton, classNames_exportLine, List.append_nil, classStatements,
      List.flatMap_map, classNames, List.map_eq_flatMap]
    rfl
  · have noneOffered : (classStatements classes).flatMap Statement.exported = [] := by
      rw [classStatements, List.flatMap_eq_nil_iff, List.forall_mem_map]
      exact fun _ _ => rfl
    rw [ModuleCode.flatMap_statements_eq_body (fun _ => rfl) fun _ => rfl, List.flatMap_append,
      List.flatMap_singleton, exported_exportLine, noneOffered, List.nil_append]

theorem importedBeside_of_mem_routes {codes : List HandlerCode} {lines : List Line}
    {names : List String} :
    ∀ statement ∈ (codes.map fun code => Statement.function code.definition) ++
        lines.map Statement.line ++ [exportLine names],
      statement.importedBeside modelsModule = [] := by
  rw [List.forall_mem_append, List.forall_mem_append, List.forall_mem_map, List.forall_mem_map,
    List.forall_mem_singleton]
  exact ⟨⟨fun _ _ => rfl, fun _ _ => rfl⟩, rfl⟩

/-- Nothing else is gathered for the module of the models. -/
theorem notMem_gathered {codes : List HandlerCode} (areHandlers : handlers service = .ok codes)
    (name : String) : ("." ++ modelsModule, name) ∉
      (futureModule, "annotations") :: (codes.flatMap HandlerCode.imports ++ routeImports) := by
  have elsewhere : ∀ entry ∈ (futureModule, "annotations") :: (argumentImports ++ routeImports),
      entry.1 ≠ "." ++ modelsModule := by
    decide
  intro member
  refine elsewhere ("." ++ modelsModule, name) ?_ rfl
  simp only [List.mem_cons, List.mem_append, List.mem_flatMap] at member ⊢
  rcases member with isFuture | ⟨code, isCode, isImport⟩ | isRoute
  · exact Or.inl isFuture
  · obtain ⟨operation, _, arguments, made⟩ :=
      Entries.exists_left_of_forall₂ (madeOf_of_handlers areHandlers).1 isCode
    exact Or.inr (Or.inl (made.mem_argumentImports _ isImport))
  · exact Or.inr (Or.inr isRoute)

/-- The routes import from the module of the models what their handlers mention. -/
theorem mem_importedBeside_routes_iff {code : ModuleCode} (isCode : routesCode service = .ok code)
    (name : String) :
    name ∈ code.statements.flatMap (Statement.importedBeside modelsModule) ↔
      (∃ operation ∈ service.operations, name = outputTypeName operation.id) ∨
        ∃ operation ∈ service.operations, ∃ part ∈ operation.input.parts,
          MentionsType service part.model name := by
  obtain ⟨codes, areHandlers, more⟩ := Outcome.bind_eq_ok_iff.mp isCode
  obtain ⟨routes, areRoutes, wrapped⟩ := Outcome.bind_eq_ok_iff.mp more
  obtain ⟨lines, areLines, rfl⟩ := routeStatements_eq_ok_iff.mp areRoutes
  cases wrapped
  rw [← mem_structs_of_handlers_iff areHandlers,
    ModuleCode.flatMap_statements_eq_block rfl (fun _ => rfl) importedBeside_of_mem_routes]
  generalize codes.flatMap HandlerCode.structs = structs
  have gathersNone : name ∉
      (moduleImports (codes.flatMap HandlerCode.imports ++ routeImports)).namesFrom
        ("." ++ modelsModule) := by
    rw [Imports.mem_namesFrom_moduleImports_iff, ← List.mem_cons]
    exact notMem_gathered areHandlers name
  have distinct := Imports.nodup_moduleImports (codes.flatMap HandlerCode.imports ++ routeImports)
  split
  · next noStructs =>
      rw [Imports.mem_importedBeside_block_iff distinct, List.isEmpty_iff.mp noStructs]
      exact iff_of_false gathersNone List.not_mem_nil
  · rw [Imports.mem_importedBeside_block_iff (Imports.nodup_addAll distinct _ _),
      Imports.mem_namesFrom_addAll_iff, iff_false_intro gathersNone]
    simp

/-! ## Agreement -/

section Built

variable {document : Document} (built : document.service = .ok service)
include built

/-- No struct has the type name of an input or an output. -/
theorem operationTypeName_notMem_structTypeNames :
    ∀ operation ∈ service.operations, inputTypeName operation.id ∉ service.structTypeNames ∧
      outputTypeName operation.id ∉ service.structTypeNames := by
  obtain ⟨draft, order, _, names, _, _, rfl⟩ := Document.exists_draft_of_service built
  intro operation isOperation
  obtain ⟨noInput, noOutput⟩ := Draft.operationTypeName_notMem names operation isOperation
  exact ⟨fun member => noInput (Service.mem_keys_of_mem_structTypeNames member),
    fun member => noOutput (Service.mem_keys_of_mem_structTypeNames member)⟩

/-- The classes of all structs are among those of a package if the models are wanted, and
otherwise none of them is. -/
theorem structTypeName_mem_classNames_iff {classes : List ClassCode}
    (areClasses : allClasses service options = .ok classes) {name : String}
    (isStruct : name ∈ service.structTypeNames) :
    name ∈ classNames classes ↔ options.models = true := by
  have represents : Represents service (Module.package.HasClass service options) classes :=
    Module.represents_classes built areClasses
  have noOperation := operationTypeName_notMem_structTypeNames built
  rw [represents.mem_classNames_iff]
  constructor
  · rintro ⟨fields, ⟨wanted, _⟩ |
      ⟨operation, ⟨isOperation, rfl, _⟩ | ⟨isOperation, rfl, _⟩⟩⟩
    · exact wanted
    · exact absurd isStruct (noOperation operation isOperation).1
    · exact absurd isStruct (noOperation operation isOperation).2
  · intro wanted
    obtain ⟨entry, member, rfl⟩ := List.mem_map.mp isStruct
    obtain ⟨isModel, isStruct⟩ := List.mem_filter.mp member
    exact ⟨_, Or.inl ⟨wanted, entry, isModel, isStruct, rfl, rfl⟩⟩

omit built in
/-- The classes of all outputs are among those of a package. -/
theorem outputTypeName_mem_classNames {classes : List ClassCode}
    (areClasses : allClasses service options = .ok classes) :
    ∀ operation ∈ service.operations, outputTypeName operation.id ∈ classNames classes := by
  obtain ⟨models, _, more⟩ := Outcome.bind_eq_ok_iff.mp areClasses
  obtain ⟨operations, areOperations, wrapped⟩ := Outcome.bind_eq_ok_iff.mp more
  cases wrapped
  intro operation isOperation
  rw [classNames, List.map_append]
  exact List.mem_append_right _
    ((supplied_of_operationClasses areOperations).2 operation isOperation)

/-- Of what the routes import, the module of the models has the outputs, and the rest only if the
models are wanted. -/
theorem imported_mem_classNames_iff {routes : ModuleCode}
    (isRoutes : routesCode service = .ok routes) {classes : List ClassCode}
    (areClasses : allClasses service options = .ok classes) :
    ∀ name ∈ routes.statements.flatMap (Statement.importedBeside modelsModule),
      name ∈ classNames classes ↔ options.models = true ∨
        ∃ operation ∈ service.operations, name = outputTypeName operation.id := by
  intro name member
  rcases (mem_importedBeside_routes_iff isRoutes name).mp member with
    ⟨operation, isOperation, rfl⟩ | ⟨_, _, part, _, struct, mentions, rfl⟩
  · exact iff_of_true (outputTypeName_mem_classNames areClasses operation isOperation)
      (Or.inr ⟨operation, isOperation, rfl⟩)
  · rw [structTypeName_mem_classNames_iff built areClasses mentions.mem_structTypeNames]
    refine (or_iff_left ?_).symm
    rintro ⟨operation, isOperation, isOutput⟩
    apply (operationTypeName_notMem_structTypeNames built operation isOperation).2
    exact isOutput ▸ mentions.mem_structTypeNames

/-- The two files agree exactly if the models are wanted, or no part of an input mentions a
struct. -/
theorem filesAgree_iff {models routes : ModuleCode}
    (isModels : packageModelsCode service options = .ok models)
    (isRoutes : routesCode service = .ok routes) :
    FilesAgree models.statements routes.statements ↔ options.models = true ∨
      ∀ operation ∈ service.operations, ∀ part ∈ operation.input.parts,
        ∀ struct, ¬ Mentions service struct part.model := by
  obtain ⟨classes, areClasses, areNames, areOffered⟩ := classNames_package isModels
  rw [FilesAgree, areNames, areOffered]
  simp only [and_self]
  constructor
  · intro agree
    by_cases wanted : options.models = true
    · exact Or.inl wanted
    · right
      rintro operation isOperation part isPart struct mentions
      have isImported := (mem_importedBeside_routes_iff isRoutes (Naming.typeName struct)).mpr
        (Or.inr ⟨operation, isOperation, part, isPart, struct, mentions, rfl⟩)
      exact wanted ((structTypeName_mem_classNames_iff built areClasses
        mentions.mem_structTypeNames).mp (agree _ isImported))
  · rintro (wanted | mentionsNone) name member
    · exact (imported_mem_classNames_iff built isRoutes areClasses name member).mpr (Or.inl wanted)
    · rcases (mem_importedBeside_routes_iff isRoutes name).mp member with
        ⟨operation, isOperation, rfl⟩ | ⟨operation, isOperation, part, isPart, struct, mentions, _⟩
      · exact outputTypeName_mem_classNames areClasses operation isOperation
      · exact absurd mentions (mentionsNone operation isOperation part isPart struct)

/-- The files of a package with routes are an empty one, the module of its classes and the module
of its routes.  What the routes import from the classes is defined and offered there exactly if
the models are wanted or it is an output, so the files agree exactly if the models are wanted, or
no part of an input mentions a struct. -/
theorem package_files_agree (wanted : options.routes = true) {files : List (String × String)}
    (rendered : renderFiles service options = .ok files) :
    ∃ models routes : ModuleCode, packageModelsCode service options = .ok models ∧
      routesCode service = .ok routes ∧
      files = [("__init__.py", ""), ("models.py", renderStatements models.statements ++ "\n"),
        ("routes.py", renderStatements routes.statements ++ "\n")] ∧
      (∀ name ∈ routes.statements.flatMap (Statement.importedBeside modelsModule),
        name ∈ models.statements.flatMap Statement.classNames ∧
            name ∈ models.statements.flatMap Statement.exported ↔
          options.models = true ∨
            ∃ operation ∈ service.operations, name = outputTypeName operation.id) ∧
      (FilesAgree models.statements routes.statements ↔ options.models = true ∨
        ∀ operation ∈ service.operations, ∀ part ∈ operation.input.parts,
          ∀ struct, ¬ Mentions service struct part.model) := by
  obtain ⟨modelsText, routesText, writtenModels, writtenRoutes, rfl⟩ :=
    (renderFiles_eq_ok_iff wanted).mp rendered
  obtain ⟨models, isModels, rfl⟩ := Module.exists_code_of_text writtenModels
  obtain ⟨routes, isRoutes, rfl⟩ := Module.exists_code_of_text writtenRoutes
  obtain ⟨classes, areClasses, areNames, areOffered⟩ := classNames_package isModels
  refine ⟨models, routes, isModels, isRoutes, rfl, ?_, filesAgree_iff built isModels isRoutes⟩
  rw [areNames, areOffered]
  simp only [and_self]
  exact imported_mem_classNames_iff built isRoutes areClasses

end Built

/-! ## A post office -/

/-- Whether the modules of a package can be put together, with or without the models. -/
def packageComplete (service : Service) (models : Bool) : Bool :=
  ((packageModelsCode service ⟨models, true, false⟩).succeedsWith fun _ => true) &&
    (routesCode service).succeedsWith fun _ => true

/-- Then the package has its files, if they are not checked. -/
theorem exists_files_of_packageComplete {models : Bool}
    (complete : packageComplete service models = true) :
    ∃ files, renderFiles service ⟨models, true, false⟩ = .ok files := by
  obtain ⟨package, routes⟩ := Bool.and_eq_true_iff.mp complete
  obtain ⟨modelsText, writtenModels⟩ := exists_text_of_succeeds modelsModule package
  obtain ⟨routesText, writtenRoutes⟩ := exists_text_of_succeeds routesModule routes
  exact ⟨_, (renderFiles_eq_ok_iff rfl).mpr
    ⟨modelsText, routesText, writtenModels, writtenRoutes, rfl⟩⟩

/-- With its models, the files of a post office agree. -/
theorem package_files_agree_of_copyingOffice :
    ∃ service files, copyingOffice.service = .ok service ∧
      renderFiles service ⟨true, true, false⟩ = .ok files ∧
      ∃ models routes : ModuleCode,
        files = [("__init__.py", ""), ("models.py", renderStatements models.statements ++ "\n"),
          ("routes.py", renderStatements routes.statements ++ "\n")] ∧
        FilesAgree models.statements routes.statements := by
  have passes : copyingOffice.draft.succeedsWith (fun draft => draft.passes (fun _ => 0) &&
      (decide (draft.models.length ≤ 1) &&
        packageComplete (draft.ordered copyingOffice (draft.models.keys.map some)) true)) =
          true := by
    decide +kernel
  obtain ⟨service, built, complete⟩ :=
    Document.exists_service_of_few (packageComplete · true) passes
  obtain ⟨files, rendered⟩ := exists_files_of_packageComplete complete
  obtain ⟨models, routes, _, _, areFiles, _, agree⟩ := package_files_agree built rfl rendered
  exact ⟨service, files, built, rendered, models, routes, areFiles, agree.mpr (Or.inl rfl)⟩

/-- Whether a part of an input is a reference to a struct. -/
def refersToStruct (service : Service) : Bool :=
  service.operations.any fun operation => operation.input.parts.any fun part =>
    part.model.isReference &&
      ((part.model.name.bind service.models.get?).map Model.isStruct).getD false

theorem exists_mentions_of_refersToStruct (refers : refersToStruct service = true) :
    ∃ operation ∈ service.operations, ∃ part ∈ operation.input.parts,
      ∃ struct, Mentions service struct part.model := by
  simp only [refersToStruct, List.any_eq_true, Bool.and_eq_true] at refers
  obtain ⟨operation, isOperation, part, isPart, isReference, isStruct⟩ := refers
  refine ⟨operation, isOperation, part, isPart, ?_⟩
  cases found : part.model.name.bind service.models.get? with
  | none => simp [found] at isStruct
  | some target =>
      obtain ⟨name, isName, isTarget⟩ := Option.bind_eq_some_iff.mp found
      rw [found] at isStruct
      exact ⟨name, .struct (of_decide_eq_true isReference) isName isTarget isStruct⟩

/-- Without its models they do not: the routes import the struct of the body of a request, which
is not defined. -/
theorem exists_files_that_disagree :
    ∃ service files, copyingOffice.service = .ok service ∧
      renderFiles service ⟨false, true, false⟩ = .ok files ∧
      ∃ models routes : ModuleCode,
        packageModelsCode service ⟨false, true, false⟩ = .ok models ∧
        routesCode service = .ok routes ∧
        files = [("__init__.py", ""), ("models.py", renderStatements models.statements ++ "\n"),
          ("routes.py", renderStatements routes.statements ++ "\n")] ∧
        ¬ FilesAgree models.statements routes.statements := by
  have passes : copyingOffice.draft.succeedsWith (fun draft => draft.passes (fun _ => 0) &&
      (decide (draft.models.length ≤ 1) &&
        (packageComplete (draft.ordered copyingOffice (draft.models.keys.map some)) false &&
          refersToStruct (draft.ordered copyingOffice (draft.models.keys.map some))))) =
            true := by
    decide +kernel
  obtain ⟨service, built, checked⟩ := Document.exists_service_of_few
    (fun service => packageComplete service false && refersToStruct service) passes
  obtain ⟨complete, refers⟩ := Bool.and_eq_true_iff.mp checked
  obtain ⟨files, rendered⟩ := exists_files_of_packageComplete complete
  obtain ⟨modelsText, routesText, writtenModels, writtenRoutes, areFiles⟩ :=
    (renderFiles_eq_ok_iff rfl).mp rendered
  obtain ⟨models, isModels, rfl⟩ := Module.exists_code_of_text writtenModels
  obtain ⟨routes, isRoutes, rfl⟩ := Module.exists_code_of_text writtenRoutes
  refine ⟨service, files, built, rendered, models, routes, isModels, isRoutes, areFiles, ?_⟩
  obtain ⟨operation, isOperation, part, isPart, struct, mentions⟩ :=
    exists_mentions_of_refersToStruct refers
  intro agree
  rcases (filesAgree_iff built isModels isRoutes).mp agree with wanted | mentionsNone
  · cases wanted
  · exact mentionsNone operation isOperation part isPart struct mentions

end ApiScaffold.PythonCode

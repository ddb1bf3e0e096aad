import ApiScaffold.Proofs.Emission.NamesUsed
import ApiScaffold.Proofs.Service.Inlining
import ApiScaffold.Proofs.Service.ModelOrder

/-!
# Closed Python modules

A module is closed if every name that it uses is built in, imported or bound there, and if it
binds every name that it offers.  The imports of a module are gathered from all the code that
goes into it, and the structs that this code mentions are either among the classes of the module
or imported from the module of the models.
-/

namespace ApiScaffold.PythonCode

/-! ## Gathered imports -/

namespace Imports

/-- Whether a name is imported from some module. -/
def Has (imports : Imports) (name : String) : Prop :=
  ∃ module names, imports.modules.get? module = some names ∧ name ∈ names

theorem Has.addAll {imports : Imports} {name : String} (has : imports.Has name)
    (module : String) (names : List String) : (imports.addAll module names).Has name := by
  obtain ⟨origin, known, found, member⟩ := has
  by_cases same : origin = module
  · subst same
    refine ⟨origin, _, Entries.get?_put_self _ _ _, ?_⟩
    rw [found]
    exact List.mem_append_left _ member
  · exact ⟨origin, known, (Entries.get?_put_of_ne _ _ (Ne.symm same)).trans found, member⟩

theorem has_addAll (imports : Imports) (module : String) {names : List String} {name : String}
    (member : name ∈ names) : (imports.addAll module names).Has name := by
  refine ⟨module, _, Entries.get?_put_self _ _ _, ?_⟩
  by_cases known : name ∈ (imports.modules.get? module).getD []
  · exact List.mem_append_left _ known
  · apply List.mem_append_right
    simpa [member] using known

/-- Nothing that is gathered gets lost. -/
theorem has_moduleImports {names : List (String × String)} {name : String}
    (member : name ∈ names.map Prod.snd) : (moduleImports names).Has name := by
  have gathered : ∀ imports : Imports, imports.Has name ∨ name ∈ names.map Prod.snd →
      (names.foldl (fun imports name => imports.add name.1 name.2) imports).Has name := by
    clear member
    induction names with
    | nil => simp
    | cons first rest ih =>
        intro imports either
        apply ih
        rcases either with has | member
        · exact Or.inl (has.addAll _ _)
        · rcases List.mem_cons.mp member with rfl | later
          · exact Or.inl (has_addAll imports first.1 List.mem_cons_self)
          · exact Or.inr later
  exact gathered _ (Or.inr member)

/-- The block of imports imports all of them. -/
theorem Has.mem_imported {imports : Imports} {name : String} (has : imports.Has name) :
    name ∈ (imports.block.map Statement.importFrom).flatMap Statement.imported := by
  obtain ⟨module, names, found, member⟩ := has
  rw [List.flatMap_map]
  refine List.mem_flatMap.mpr ⟨statement module names, ?_, ?_⟩
  · have inModules := Entries.mem_of_get? found
    exact List.mem_map.mpr ⟨(module, names), List.mem_mergeSort.mpr inModules, rfl⟩
  · change name ∈ sortedNames names
    rwa [sortedNames, List.mem_eraseDups, List.mem_mergeSort]

end Imports

/-! ## Closed modules -/

/-- Statements that use no names but those that are built in, imported or bound, and that offer
no names but those that are bound. -/
structure ClosedModule (statements : List Statement) : Prop where
  names : ∀ statement ∈ statements, ∀ name ∈ statement.names,
    name ∈ builtinNames ∨ name ∈ statements.flatMap Statement.imported ∨
      name ∈ statements.flatMap Statement.bound
  exported : ∀ statement ∈ statements, ∀ name ∈ statement.exported,
    name ∈ statements.flatMap Statement.bound

/-- A statement that uses no names but those that are built in, imported or bound, and that
offers no names but those that are bound. -/
structure Statement.Settled (imports : Imports) (bound : List String) (statement : Statement) :
    Prop where
  names : ∀ name ∈ statement.names, name ∈ builtinNames ∨ imports.Has name ∨ name ∈ bound
  exported : ∀ name ∈ statement.exported, name ∈ bound

/-- Before its body a module has documentation and imports. -/
theorem ModuleCode.cases_of_mem_statements {code : ModuleCode} {statement : Statement}
    (member : statement ∈ code.statements) :
    (∃ text, statement = .line (.documentation text)) ∨ (∃ entry, statement = .importFrom entry) ∨
      statement ∈ code.body := by
  rcases List.mem_append.mp member with isHead | isBody
  · rcases List.mem_append.mp isHead with isDocumentation | isImport
    · obtain ⟨text, _, rfl⟩ := List.mem_map.mp isDocumentation
      exact Or.inl ⟨text, rfl⟩
    · obtain ⟨_, _, isImport⟩ := List.mem_flatMap.mp isImport
      obtain ⟨entry, _, rfl⟩ := List.mem_map.mp isImport
      exact Or.inr (Or.inl ⟨entry, rfl⟩)
  · exact Or.inr (Or.inr isBody)

/-- A module is closed if its body is settled: documentation and imports use no names. -/
theorem ModuleCode.closed {code : ModuleCode} {imports : Imports}
    (areImports : code.imports = some imports)
    (settled : ∀ statement ∈ code.body,
      statement.Settled imports (code.body.flatMap Statement.bound)) :
    ClosedModule code.statements := by
  have bound : ∀ name ∈ code.body.flatMap Statement.bound,
      name ∈ code.statements.flatMap Statement.bound := by
    intro name member
    rw [ModuleCode.statements, List.flatMap_append]
    exact List.mem_append_right _ member
  have imported : ∀ name, imports.Has name →
      name ∈ code.statements.flatMap Statement.imported := by
    intro name has
    rw [ModuleCode.statements, areImports, List.flatMap_append, List.flatMap_append]
    exact List.mem_append_left _ (List.mem_append_right _ (by simpa using has.mem_imported))
  have allSettled : ∀ statement ∈ code.statements,
      statement.Settled imports (code.body.flatMap Statement.bound) := by
    intro statement member
    rcases code.cases_of_mem_statements member with ⟨text, rfl⟩ | ⟨entry, rfl⟩ | isBody
    · constructor <;> exact fun name used => nomatch used
    · constructor <;> exact fun name used => nomatch used
    · exact settled statement isBody
  constructor
  · intro statement member name used
    exact ((allSettled statement member).names name used).imp_right
      (Or.imp (imported name) (bound name))
  · intro statement member name offered
    exact bound name ((allSettled statement member).exported name offered)

/-! ## Parts of modules -/

variable {service : Service} {imports : Imports} {bound : List String}

theorem flatMap_bound_classStatements (classes : List ClassCode) :
    (classStatements classes).flatMap Statement.bound = classNames classes := by
  simp [classStatements, classNames, List.flatMap_map, Statement.bound, ← List.map_eq_flatMap]

/-- The list of what a module offers is settled if all of it is bound. -/
theorem settled_exportLine {names : List String} (binds : ∀ name ∈ names, name ∈ bound) :
    (exportLine names).Settled imports bound := by
  constructor
  · rw [show (exportLine names).names = [] from names_list_text names]
    exact fun name used => nomatch used
  · simpa [exportLine, Statement.exported, List.filterMap_map, Function.comp_def,
      Expression.text?] using binds

/-- What is known is built in, imported or bound, once the imports are gathered and the other
names are imported or bound. -/
theorem Known.resolved {gathered : List (String × String)} {others : List String} {name : String}
    (known : Known gathered others name)
    (imported : ∀ name ∈ gathered.map Prod.snd, imports.Has name)
    (listed : ∀ name ∈ others, imports.Has name ∨ name ∈ bound) :
    name ∈ builtinNames ∨ imports.Has name ∨ name ∈ bound := by
  rcases known with isBuiltin | isImported | isOther
  · exact Or.inl isBuiltin
  · exact Or.inr (Or.inl (imported name isImported))
  · exact Or.inr (listed name isOther)

/-- Classes are settled if their imports are gathered and the structs are bound. -/
theorem settled_classStatements {typeNames : List String} {classes : List ClassCode}
    (supplied : ∀ code ∈ classes, ∃ name, code.Supplied typeNames name)
    (imported : ∀ name ∈ (classes.flatMap ClassCode.imports).map Prod.snd, imports.Has name)
    (structs : ∀ name ∈ typeNames, name ∈ bound) :
    ∀ statement ∈ classStatements classes, statement.Settled imports bound := by
  simp only [classStatements, List.forall_mem_map]
  intro code member
  obtain ⟨_, isSupplied⟩ := supplied code member
  refine ⟨fun name used => ?_, fun name offered => nomatch offered⟩
  apply (isSupplied.known name used).resolved
  · intro other isImport
    obtain ⟨entry, inClass, rfl⟩ := List.mem_map.mp isImport
    exact imported _ (List.mem_map_of_mem (List.mem_flatMap.mpr ⟨code, member, inClass⟩))
  · exact fun other isStruct => Or.inr (structs other isStruct)

section Routes

variable {codes : List HandlerCode} {statements : List Statement}

/-- Handlers mention structs of the service and outputs of operations. -/
theorem structs_of_handlers (areHandlers : handlers service = .ok codes) :
    ∀ name ∈ codes.flatMap HandlerCode.structs, name ∈ service.structTypeNames ∨
      ∃ operation ∈ service.operations, name = outputTypeName operation.id := by
  intro name member
  obtain ⟨code, isCode, isStruct⟩ := List.mem_flatMap.mp member
  obtain ⟨operation, isOperation, supplied⟩ :=
    Entries.exists_left_of_forall₂ (forall₂_of_handlerCodes areHandlers) isCode
  exact (supplied.structs name isStruct).imp_right fun isOutput =>
    ⟨operation, isOperation, isOutput⟩

/-- The table of routes is bound. -/
theorem routerName_mem_bound (built : routeStatements service codes = .ok statements) :
    routerName ∈ statements.flatMap Statement.bound := by
  obtain ⟨lines, areLines, wrapped⟩ := Outcome.bind_eq_ok_iff.mp built
  cases wrapped
  rw [List.flatMap_append]
  exact List.mem_append_right _ (bound_of_routeLines areLines).1

/-- The handlers of all operations are bound. -/
theorem handlerName_mem_bound (areHandlers : handlers service = .ok codes)
    (built : routeStatements service codes = .ok statements) {operation : Operation}
    (isOperation : operation ∈ service.operations) {name : String}
    (isName : handlerName operation = .ok name) :
    name ∈ statements.flatMap Statement.bound := by
  obtain ⟨lines, areLines, wrapped⟩ := Outcome.bind_eq_ok_iff.mp built
  cases wrapped
  obtain ⟨code, isCode, supplied⟩ :=
    Entries.exists_left_of_forall₂ (forall₂_of_handlerCodes areHandlers).flip isOperation
  obtain rfl := Except.ok.inj (isName.symm.trans supplied.isName)
  rw [List.flatMap_append, List.flatMap_map]
  exact List.mem_append_left _ (List.mem_flatMap.mpr ⟨code, isCode, List.mem_singleton_self _⟩)

/-- Handlers and routes are settled if their imports are gathered and if the structs that they
mention are imported or bound. -/
theorem settled_routeStatements (areHandlers : handlers service = .ok codes)
    (built : routeStatements service codes = .ok statements)
    (imported : ∀ name ∈ (codes.flatMap HandlerCode.imports ++ routeImports).map Prod.snd,
      imports.Has name)
    (structs : ∀ name ∈ codes.flatMap HandlerCode.structs, imports.Has name ∨ name ∈ bound)
    (own : ∀ name ∈ statements.flatMap Statement.bound, name ∈ bound) :
    ∀ statement ∈ statements, statement.Settled imports bound := by
  have routerBound := own _ (routerName_mem_bound built)
  have handlersBound := fun operation isOperation name isName =>
    own name (@handlerName_mem_bound _ _ _ areHandlers built operation isOperation name isName)
  obtain ⟨lines, areLines, wrapped⟩ := Outcome.bind_eq_ok_iff.mp built
  cases wrapped
  rw [List.forall_mem_append, List.forall_mem_map, List.forall_mem_map]
  constructor
  · intro code isCode
    obtain ⟨operation, _, supplied⟩ :=
      Entries.exists_left_of_forall₂ (forall₂_of_handlerCodes areHandlers) isCode
    refine ⟨fun name used => ?_, fun name offered => nomatch offered⟩
    apply (supplied.known name used).resolved
    · intro other isImport
      obtain ⟨entry, inHandler, rfl⟩ := List.mem_map.mp isImport
      exact imported _ (List.mem_map_of_mem (List.mem_append_left _
        (List.mem_flatMap.mpr ⟨code, isCode, inHandler⟩)))
    · exact fun other isStruct => structs other (List.mem_flatMap.mpr ⟨code, isCode, isStruct⟩)
  · intro line isLine
    refine ⟨fun name used => ?_, ?_⟩
    · rcases names_of_routeLines areLines line isLine name used with
        rfl | rfl | ⟨operation, isOperation, isName⟩
      · exact Or.inr (Or.inl (imported _ (by simp [routeImports])))
      · exact Or.inr (Or.inr routerBound)
      · exact Or.inr (Or.inr (handlersBound operation isOperation name isName))
    · rw [(bound_of_routeLines areLines).2 line isLine]
      exact fun name offered => nomatch offered

end Routes

section Built

variable {document : Document} (built : document.service = .ok service)
include built

/-- The classes of the named structs are supplied, and each struct is among them. -/
theorem supplied_of_modelClasses {classes : List ClassCode}
    (areClasses : modelClasses service = .ok classes) :
    (∀ code ∈ classes, ∃ name, code.Supplied service.structTypeNames name) ∧
      ∀ name ∈ service.structTypeNames, name ∈ classNames classes := by
  obtain ⟨structs, isStructs, perm⟩ := Document.exists_structs_perm built
  have pairs := forall₂_of_modelClasses isStructs areClasses
  constructor
  · intro code member
    obtain ⟨entry, _, supplied⟩ := Entries.exists_left_of_forall₂ pairs member
    exact ⟨_, supplied⟩
  · intro name member
    obtain ⟨entry, isStruct, rfl⟩ := List.mem_map.mp member
    obtain ⟨code, isCode, supplied⟩ :=
      Entries.exists_left_of_forall₂ pairs.flip (perm.mem_iff.mpr isStruct)
    exact List.mem_map.mpr ⟨code, isCode, supplied.isName⟩

/-- If the models are wanted, all classes together are supplied, and both the structs and the
outputs of operations are among them. -/
theorem supplied_of_allClasses {options : EmissionOptions} (wanted : options.models = true)
    {classes : List ClassCode} (areClasses : allClasses service options = .ok classes) :
    (∀ code ∈ classes, ∃ name, code.Supplied service.structTypeNames name) ∧
      (∀ name ∈ service.structTypeNames, name ∈ classNames classes) ∧
        ∀ operation ∈ service.operations, outputTypeName operation.id ∈ classNames classes := by
  obtain ⟨models, areModels, more⟩ := Outcome.bind_eq_ok_iff.mp areClasses
  obtain ⟨operations, areOperations, wrapped⟩ := Outcome.bind_eq_ok_iff.mp more
  cases wrapped
  rw [wantedModelClasses, if_pos wanted] at areModels
  obtain ⟨suppliedModels, structs⟩ := supplied_of_modelClasses built areModels
  obtain ⟨suppliedOperations, outputs⟩ := supplied_of_operationClasses areOperations
  simp only [classNames, List.map_append, List.forall_mem_append]
  exact ⟨⟨suppliedModels, suppliedOperations⟩,
    fun name member => List.mem_append_left _ (structs name member),
    fun operation member => List.mem_append_right _ (outputs operation member)⟩

end Built

/-! ## Whole modules -/

/-- The module of the models is closed. -/
theorem closed_modelsCode {document : Document} (built : document.service = .ok service)
    {code : ModuleCode} (isCode : modelsCode service = .ok code) :
    ClosedModule code.statements := by
  obtain ⟨classes, areClasses, wrapped⟩ := Outcome.bind_eq_ok_iff.mp isCode
  cases wrapped
  obtain ⟨supplied, structs⟩ := supplied_of_modelClasses built areClasses
  apply ModuleCode.closed rfl
  apply settled_classStatements supplied fun _ => Imports.has_moduleImports
  intro name isStruct
  rw [flatMap_bound_classStatements]
  exact structs name isStruct

/-- The module of the routes is closed: it imports its structs from the module of the models. -/
theorem closed_routesCode {code : ModuleCode} (isCode : routesCode service = .ok code) :
    ClosedModule code.statements := by
  obtain ⟨codes, areHandlers, more⟩ := Outcome.bind_eq_ok_iff.mp isCode
  obtain ⟨routes, areRoutes, wrapped⟩ := Outcome.bind_eq_ok_iff.mp more
  cases wrapped
  have own : ∀ name ∈ routes.flatMap Statement.bound,
      name ∈ (routes ++ [exportLine [routerName]]).flatMap Statement.bound := by
    intro name member
    rw [List.flatMap_append]
    exact List.mem_append_left _ member
  apply ModuleCode.closed rfl
  rw [List.forall_mem_append, List.forall_mem_singleton]
  constructor
  · apply settled_routeStatements areHandlers areRoutes
    · intro name isImport
      split
      · exact Imports.has_moduleImports isImport
      · exact (Imports.has_moduleImports isImport).addAll _ _
    · intro name isStruct
      rw [if_neg (by simpa using List.ne_nil_of_mem isStruct)]
      exact Or.inl (Imports.has_addAll _ _ isStruct)
    · exact own
  · apply settled_exportLine
    simpa only [List.forall_mem_singleton] using own _ (routerName_mem_bound areRoutes)

/-- A sole module is put together from its classes and, if they are wanted, from handlers and
routes. -/
theorem parts_of_soleCode {options : EmissionOptions} {code : ModuleCode}
    (isCode : soleCode service options = .ok code) :
    ∃ classes codes routes, allClasses service options = .ok classes ∧
      (options.routes = true ∧ handlers service = .ok codes ∧
          routeStatements service codes = .ok routes ∨
        options.routes = false ∧ codes = [] ∧ routes = []) ∧
      code.imports = some (moduleImports (classes.flatMap ClassCode.imports ++
        codes.flatMap HandlerCode.imports ++ if options.routes then routeImports else [])) ∧
      code.body = classStatements classes ++ routes ++
        [exportLine (classNames classes ++ if options.routes then [routerName] else [])] := by
  obtain ⟨classes, areClasses, more⟩ := Outcome.bind_eq_ok_iff.mp isCode
  cases wanted : options.routes with
  | true =>
      simp only [wanted, if_true] at more
      obtain ⟨codes, areHandlers, more⟩ := Outcome.bind_eq_ok_iff.mp more
      obtain ⟨routes, areRoutes, wrapped⟩ := Outcome.bind_eq_ok_iff.mp more
      cases wrapped
      exact ⟨classes, codes, routes, areClasses, Or.inl ⟨rfl, areHandlers, areRoutes⟩, rfl, rfl⟩
  | false =>
      simp only [wanted, Bool.false_eq_true, if_false] at more
      cases more
      exact ⟨classes, [], [], areClasses, Or.inr ⟨rfl, rfl, rfl⟩, rfl, rfl⟩

/-- A sole module with the models is closed: it has the classes of all structs that are
mentioned, and the classes of all outputs.  Without the models the structs would be open, because
nothing imports them. -/
theorem closed_soleCode {document : Document} (built : document.service = .ok service)
    {options : EmissionOptions} (wanted : options.models = true) {code : ModuleCode}
    (isCode : soleCode service options = .ok code) : ClosedModule code.statements := by
  obtain ⟨classes, codes, routes, areClasses, parts, areImports, isBody⟩ := parts_of_soleCode isCode
  obtain ⟨supplied, structs, outputs⟩ := supplied_of_allClasses built wanted areClasses
  have classBound : ∀ name ∈ classNames classes, name ∈ code.body.flatMap Statement.bound := by
    intro name member
    rw [isBody, List.flatMap_append, List.flatMap_append, flatMap_bound_classStatements]
    exact List.mem_append_left _ (List.mem_append_left _ member)
  have routeBound : ∀ name ∈ routes.flatMap Statement.bound,
      name ∈ code.body.flatMap Statement.bound := by
    intro name member
    rw [isBody, List.flatMap_append, List.flatMap_append]
    exact List.mem_append_left _ (List.mem_append_right _ member)
  apply ModuleCode.closed areImports
  rw [isBody, List.forall_mem_append, List.forall_mem_append, List.forall_mem_singleton, ← isBody]
  refine ⟨⟨?_, ?_⟩, settled_exportLine ?_⟩
  · apply settled_classStatements supplied
    · intro name isImport
      apply Imports.has_moduleImports
      rw [List.map_append, List.map_append]
      exact List.mem_append_left _ (List.mem_append_left _ isImport)
    · exact fun name isStruct => classBound name (structs name isStruct)
  · rcases parts with ⟨routesWanted, areHandlers, areRoutes⟩ | ⟨_, _, rfl⟩
    · apply settled_routeStatements areHandlers areRoutes
      · intro name isImport
        apply Imports.has_moduleImports
        rw [if_pos routesWanted, List.append_assoc, List.map_append]
        exact List.mem_append_right _ isImport
      · intro name isStruct
        rcases structs_of_handlers areHandlers name isStruct with
          isNamed | ⟨operation, isOperation, rfl⟩
        · exact Or.inr (classBound name (structs name isNamed))
        · exact Or.inr (classBound _ (outputs operation isOperation))
      · exact routeBound
    · simp
  · rw [List.forall_mem_append]
    refine ⟨classBound, ?_⟩
    rcases parts with ⟨routesWanted, areHandlers, areRoutes⟩ | ⟨noRoutes, _, _⟩
    · rw [if_pos routesWanted, List.forall_mem_singleton]
      exact routeBound _ (routerName_mem_bound areRoutes)
    · simp [noRoutes]

/-! ## Texts of modules -/

/-- A text that spells the statements of a module that could be put together and is closed. -/
def SpellsClosed (outcome : Outcome ModuleCode) (text : String) : Prop :=
  ∃ code, outcome = .ok code ∧ text = renderStatements code.statements ++ "\n" ∧
    ClosedModule code.statements

theorem ModuleCode.eq_of_render {code : ModuleCode} {checked : Bool} {name text : String}
    (rendered : code.render checked name = .ok text) :
    text = renderStatements code.statements ++ "\n" := by
  unfold render at rendered
  split at rendered
  · cases rendered
  · exact (Except.ok.inj rendered).symm

/-- What is rendered spells a closed module if all modules that can be put together are closed. -/
theorem spellsClosed_of_render {outcome : Outcome ModuleCode} {checked : Bool}
    {name text : String} (closed : ∀ code, outcome = .ok code → ClosedModule code.statements)
    (rendered : (outcome >>= fun code => code.render checked name) = .ok text) :
    SpellsClosed outcome text := by
  obtain ⟨code, isCode, written⟩ := Outcome.bind_eq_ok_iff.mp rendered
  exact ⟨code, isCode, ModuleCode.eq_of_render written, closed code isCode⟩

/-- Python modules of a built service with its models are closed, with and without routes: the
sole module, the module of the models and the module of the routes. -/
theorem closed_modules_of_service {document : Document} {service : Service}
    (built : document.service = .ok service) {options : EmissionOptions}
    (wanted : options.models = true) :
    (∀ text, renderModule service options = .ok text →
        SpellsClosed (soleCode service options) text) ∧
      (∀ text, renderModels service options = .ok text →
        SpellsClosed (modelsCode service) text) ∧
      ∀ text, renderRoutes service options = .ok text →
        SpellsClosed (routesCode service) text :=
  ⟨fun _ => spellsClosed_of_render fun _ => closed_soleCode built wanted,
    fun _ => spellsClosed_of_render fun _ => closed_modelsCode built,
    fun _ => spellsClosed_of_render fun _ => closed_routesCode⟩

/-- A module that can be put together has a text, if it is not checked. -/
theorem exists_text_of_succeeds {outcome : Outcome ModuleCode} (name : String)
    (complete : (outcome.succeedsWith fun _ => true) = true) :
    ∃ text, (outcome >>= fun code => code.render false name) = .ok text := by
  obtain ⟨code, rfl, _⟩ := Outcome.succeedsWith_iff.mp complete
  exact ⟨renderStatements code.statements ++ "\n", rfl⟩

/-- Whether the modules of a service can be put together. -/
def allComplete (service : Service) : Bool :=
  ((soleCode service ⟨true, true, false⟩).succeedsWith fun _ => true) &&
    (((modelsCode service).succeedsWith fun _ => true) &&
      (routesCode service).succeedsWith fun _ => true)

/-- The modules of a post office have texts, and they are closed. -/
theorem closed_modules_of_copyingOffice :
    ∃ service, copyingOffice.service = .ok service ∧
      (∃ text, renderModule service ⟨true, true, false⟩ = .ok text ∧
        SpellsClosed (soleCode service ⟨true, true, false⟩) text) ∧
      (∃ text, renderModels service ⟨true, true, false⟩ = .ok text ∧
        SpellsClosed (modelsCode service) text) ∧
      ∃ text, renderRoutes service ⟨true, true, false⟩ = .ok text ∧
        SpellsClosed (routesCode service) text := by
  have passes : copyingOffice.draft.succeedsWith (fun draft => draft.passes (fun _ => 0) &&
      (decide (draft.models.length ≤ 1) &&
        allComplete (draft.ordered copyingOffice (draft.models.keys.map some)))) = true := by
    decide +kernel
  obtain ⟨service, built, complete⟩ := Document.exists_service_of_few allComplete passes
  simp only [allComplete, Bool.and_eq_true] at complete
  obtain ⟨sole, models, routes⟩ := complete
  have wanted : (⟨true, true, false⟩ : EmissionOptions).models = true := rfl
  obtain ⟨closedSole, closedModels, closedRoutes⟩ := closed_modules_of_service built wanted
  obtain ⟨soleText, isSole⟩ := exists_text_of_succeeds soleModule sole
  obtain ⟨modelsText, isModels⟩ := exists_text_of_succeeds modelsModule models
  obtain ⟨routesText, isRoutes⟩ := exists_text_of_succeeds routesModule routes
  exact ⟨service, built, ⟨soleText, isSole, closedSole _ isSole⟩,
    ⟨modelsText, isModels, closedModels _ isModels⟩, routesText, isRoutes, closedRoutes _ isRoutes⟩

end ApiScaffold.PythonCode

import ApiScaffold.Proofs.Emission.LegalNames

/-!
# Names of the template

A module imports names and gives its table of routes a name.  A document can use the same names:
a struct can be named like a type that is imported, a handler like a small name that is imported
or like the table of routes, and a field like the settings of its class.  Nothing else is
captured: not by the classes of inputs and outputs, and not by structs or handlers with other
names.
-/

namespace ApiScaffold.PythonCode

variable {service : Service} {options : EmissionOptions} {module : Module}

/-- The name of the settings of a class. -/
def settingsName : String := "model_config"

/-- A name that a module has already: it imports it, or it is that of the table of routes. -/
def Captures (code : ModuleCode) (name : String) : Prop :=
  name ∈ code.importedNames ∨ name = routerName

/-- The names of the handlers that a statement defines. -/
def Statement.handlerNames : Statement → List String
  | .function definition => [definition.name]
  | _ => []

/-- The names of the fields that a line defines. -/
def Line.fieldNames : Line → List String
  | .annotated name _ _ => [name]
  | _ => []

/-- The names of the fields of the classes that a statement defines. -/
def Statement.fieldNames : Statement → List String
  | .classDefinition definition => definition.body.flatMap Line.fieldNames
  | _ => []

/-! ## Classes -/

/-- Types that are imported do not end like the inputs and outputs of operations. -/
theorem operationTypeName_notMem_templateTypes (id : String) :
    inputTypeName id ∉ templateTypes ∧ outputTypeName id ∉ templateTypes :=
  operationTypeName_notMem_of_endings (by decide) id

/-- The name of a class starts with a capital letter, or with an underscore before a digit. -/
theorem Module.HasClass.startsIn {name : String} {fields : List Field}
    (hasClass : module.HasClass service options name fields) :
    Naming.startsIn Char.isUpper name.toList = true := by
  rcases hasClass with ⟨_, entry, _, _, rfl, _⟩ | ⟨operation, ⟨_, rfl, _⟩ | ⟨_, rfl, _⟩⟩
  · exact (Naming.isIdentifier_typeName entry.1).2
  · rw [inputTypeName, String.toList_append]
    exact Naming.startsIn_append (Naming.isIdentifier_typeName operation.id).2 _
  · rw [outputTypeName, String.toList_append]
    exact Naming.startsIn_append (Naming.isIdentifier_typeName operation.id).2 _

/-- Only the class of a struct has the name of a type that is imported. -/
theorem Module.HasClass.mem_structTypeNames {name : String} {fields : List Field}
    (hasClass : module.HasClass service options name fields) (isType : name ∈ templateTypes) :
    module.hasStructs options = true ∧ name ∈ service.structTypeNames := by
  rcases hasClass with ⟨hasStructs, entry, inModels, isStruct, rfl, _⟩ |
    ⟨operation, ⟨_, rfl, _⟩ | ⟨_, rfl, _⟩⟩
  · exact ⟨hasStructs,
      List.mem_map.mpr ⟨entry, List.mem_filter.mpr ⟨inModels, isStruct⟩, rfl⟩⟩
  · exact absurd isType (operationTypeName_notMem_templateTypes operation.id).1
  · exact absurd isType (operationTypeName_notMem_templateTypes operation.id).2

/-- The module of the routes has no classes. -/
theorem Module.not_hasClass_routes {name : String} {fields : List Field} :
    ¬ Module.routes.HasClass service options name fields := by
  simp [HasClass, hasStructs, HasInput, HasOutput]

theorem fieldNames_of_mem_documentationLine {documentation : Option String} :
    ∀ line ∈ documentationLine documentation, line.fieldNames = [] := by
  unfold documentationLine
  split
  · exact fun line member => nomatch member
  · split
    · exact fun line member => nomatch member
    · rw [List.forall_mem_singleton]
      rfl

theorem fieldNames_of_mem_settingsLine {settings : List String} :
    ∀ line ∈ settingsLine settings, line.fieldNames = [] := by
  unfold settingsLine
  split
  · exact fun line member => nomatch member
  · rw [List.forall_mem_singleton]
    rfl

/-- The lines of a class define the fields of the class. -/
theorem ClassCode.MadeOf.mem_fieldNames_iff {className : String} {fields : List Field}
    {codes : List FieldCode} {code : ClassCode} (made : code.MadeOf service className fields codes)
    (name : String) :
    name ∈ code.definition.body.flatMap Line.fieldNames ↔ ∃ field ∈ codes, field.name = name := by
  rw [List.mem_flatMap]
  constructor
  · rintro ⟨line, isLine, member⟩
    obtain ⟨documentation, inBody⟩ := made.isBody
    rcases inBody line isLine with rfl | isDocumentation | isSettings | ⟨field, isField, rfl⟩
    · cases member
    · rw [fieldNames_of_mem_documentationLine line isDocumentation] at member
      cases member
    · rw [fieldNames_of_mem_settingsLine line isSettings] at member
      cases member
    · exact ⟨field, isField, (List.mem_singleton.mp member).symm⟩
  · rintro ⟨field, isField, rfl⟩
    exact ⟨field.line, made.hasLines field isField, List.mem_singleton_self _⟩

/-! ## Handlers -/

/-- The small names that are imported with types of dates and times. -/
def clockNames : List String :=
  ["date", "time", "datetime"]

/-- A handler has no name of a type: types have capital letters. -/
theorem handlerName_cases {operation : Operation} {name : String}
    (isName : handlerName operation = .ok name) :
    name ∉ templateTypes ∧ ∀ id, name ≠ outputTypeName id := by
  rw [handlerName, legalName_eq_ok_iff] at isName
  have noCapitals := (Naming.startsIn_of_fieldName?_snakeCase isName).2
  have capitals : ∀ word ∈ "Output" :: templateTypes, word.toList.any Char.isUpper = true := by
    decide
  constructor
  · intro isType
    obtain ⟨char, member, isCapital⟩ :=
      List.any_eq_true.mp (capitals name (List.mem_cons_of_mem _ isType))
    exact absurd isCapital (Bool.eq_false_iff.mp (noCapitals char member))
  · rintro id rfl
    obtain ⟨char, member, isCapital⟩ := List.any_eq_true.mp (capitals "Output" List.mem_cons_self)
    refine absurd isCapital (Bool.eq_false_iff.mp (noCapitals char ?_))
    rw [outputTypeName, String.toList_append]
    exact List.mem_append_right _ member

theorem Module.hasImports_of_hasRoutes (hasRoutes : module.hasRoutes options = true) :
    module.hasImports = true := by
  cases module <;> first | rfl | cases hasRoutes

section MadeOf

variable {classes : List ClassCode} {codes : List HandlerCode} {lines : List Line}
  {code : ModuleCode}

namespace Module.MadeOf

/-- What is seen in classes and handlers only is seen in those that a module is made of. -/
theorem mem_flatMap_view_iff (made : module.MadeOf service options classes codes lines code)
    {α : Type} {view : Statement → List α} (ofLine : ∀ line, view (.line line) = [])
    (ofImport : ∀ entry, view (.importFrom entry) = []) (item : α) :
    item ∈ code.statements.flatMap view ↔
      (∃ given ∈ classes, item ∈ view (.classDefinition given.definition)) ∨
        ∃ handler ∈ codes, item ∈ view (.function handler.definition) := by
  rw [ModuleCode.flatMap_statements_eq_body (fun text => ofLine (.documentation text)) ofImport,
    List.mem_flatMap]
  constructor
  · rintro ⟨statement, inBody, isSeen⟩
    rcases (made.mem_body_iff statement).mp inBody with
      ⟨given, isClass, rfl⟩ | ⟨handler, isHandler, rfl⟩ | ⟨line, _, rfl⟩ | ⟨names, _, rfl⟩
    · exact Or.inl ⟨given, isClass, isSeen⟩
    · exact Or.inr ⟨handler, isHandler, isSeen⟩
    · rw [ofLine] at isSeen
      cases isSeen
    · rw [exportLine, ofLine] at isSeen
      cases isSeen
  · rintro (⟨given, isClass, isSeen⟩ | ⟨handler, isHandler, isSeen⟩)
    · exact ⟨_, (made.mem_body_iff _).mpr (Or.inl ⟨given, isClass, rfl⟩), isSeen⟩
    · exact ⟨_, (made.mem_body_iff _).mpr (Or.inr (Or.inl ⟨handler, isHandler, rfl⟩)), isSeen⟩

/-- The classes of a module are those that it is made from. -/
theorem mem_classNames_iff {document : Document} (built : document.service = .ok service)
    (made : module.MadeOf service options classes codes lines code) (name : String) :
    name ∈ code.statements.flatMap Statement.classNames ↔
      ∃ fields, module.HasClass service options name fields := by
  rw [made.mem_flatMap_view_iff (fun _ => rfl) (fun _ => rfl),
    ← (Module.represents_classes built made.areClasses).mem_classNames_iff, classNames,
    List.mem_map]
  simp [Statement.classNames, eq_comm]

/-- With routes the type of their table is imported. -/
theorem apiRouter_mem_importedNames
    (made : module.MadeOf service options classes codes lines code)
    (hasRoutes : module.hasRoutes options = true) : "APIRouter" ∈ code.importedNames := by
  refine (made.mem_importedNames_iff _).mpr
    ⟨hasImports_of_hasRoutes hasRoutes, Or.inr (Or.inl ?_)⟩
  rw [gathered, if_pos hasRoutes, List.map_append]
  exact List.mem_append_right _ (by decide)

/-- The handlers of a module are those of the operations, if it has routes. -/
theorem mem_handlerNames_iff (made : module.MadeOf service options classes codes lines code)
    (name : String) :
    name ∈ code.statements.flatMap Statement.handlerNames ↔ module.hasRoutes options = true ∧
      ∃ operation ∈ service.operations, handlerName operation = .ok name := by
  rw [made.mem_flatMap_view_iff (fun _ => rfl) (fun _ => rfl)]
  simp only [Statement.handlerNames, List.not_mem_nil, and_false, exists_false, false_or,
    List.mem_singleton]
  rcases made.areParts with ⟨wanted, areHandlers, _⟩ | ⟨noRoutes, rfl, _⟩
  · obtain ⟨pairs, _⟩ := madeOf_of_handlers areHandlers
    rw [and_iff_right wanted]
    constructor
    · rintro ⟨handler, isHandler, rfl⟩
      obtain ⟨operation, isOperation, _, madeHandler⟩ :=
        Entries.exists_left_of_forall₂ pairs isHandler
      exact ⟨operation, isOperation, madeHandler.isName⟩
    · rintro ⟨operation, isOperation, isName⟩
      obtain ⟨handler, isHandler, _, madeHandler⟩ :=
        Entries.exists_left_of_forall₂ pairs.flip isOperation
      exact ⟨handler, isHandler, Except.ok.inj (isName.symm.trans madeHandler.isName)⟩
  · simp [noRoutes]

/-- The fields of the classes of a module have the legal names of the fields that the classes are
made from. -/
theorem mem_fieldNames_iff {document : Document} (built : document.service = .ok service)
    (made : module.MadeOf service options classes codes lines code) (name : String) :
    name ∈ code.statements.flatMap Statement.fieldNames ↔
      ∃ className fields, module.HasClass service options className fields ∧
        ∃ field ∈ fields, Naming.fieldName? field.name = some name := by
  have represents := Module.represents_classes built made.areClasses
  rw [made.mem_flatMap_view_iff (fun _ => rfl) (fun _ => rfl)]
  simp only [Statement.fieldNames, List.not_mem_nil, and_false, exists_false, or_false]
  constructor
  · rintro ⟨given, isClass, member⟩
    obtain ⟨className, fields, fieldCodes, hasClass, madeClass⟩ :=
      made.exists_madeOf_of_mem_classes built given isClass
    obtain ⟨fieldCode, isCode, rfl⟩ := (madeClass.mem_fieldNames_iff name).mp member
    obtain ⟨field, isField, _, madeField⟩ := Entries.exists_left_of_forall₂ madeClass.pairs isCode
    exact ⟨className, fields, hasClass, field, isField, madeField.isName⟩
  · rintro ⟨className, fields, hasClass, field, isField, isName⟩
    obtain ⟨given, isClass, _, isBuilt⟩ := represents.exists_code className fields hasClass
    obtain ⟨fieldCodes, madeClass⟩ := exists_madeOf_of_classCode isBuilt
    obtain ⟨fieldCode, isCode, _, madeField⟩ :=
      Entries.exists_left_of_forall₂ madeClass.pairs.flip isField
    refine ⟨given, isClass, (madeClass.mem_fieldNames_iff name).mpr ⟨fieldCode, isCode, ?_⟩⟩
    exact Option.some.inj (madeField.isName.symm.trans isName)

end Module.MadeOf

end MadeOf

/-! ## Captures -/

/-- What a module captures.  A class captures the name of a type that is imported, and then it is
the class of a struct.  A handler captures the name of the table of routes, a small name that is
imported, or the class of a struct that the routes of a package import.  A field captures the
settings of its class.  Some names cannot be avoided: the base of all classes, and the type of the
table of routes. -/
structure Module.CapturesExactly (service : Service) (options : EmissionOptions)
    (module : Module) (code : ModuleCode) : Prop where
  classes : ∀ name ∈ code.statements.flatMap Statement.classNames,
    Captures code name ↔ name ∈ templateTypes ∧ name ∈ service.structTypeNames ∧
      name ∈ code.importedNames
  handlers : ∀ name ∈ code.statements.flatMap Statement.handlerNames,
    Captures code name ↔ name = routerName ∨ name = "annotations" ∨
      (name ∈ clockNames ∧ name ∈ code.importedNames) ∨
        (module = .routes ∧ ∃ operation ∈ service.operations, ∃ part ∈ operation.input.parts,
          MentionsType service part.model name)
  fields : settingsName ∈ code.statements.flatMap Statement.fieldNames ↔
    ∃ name fields, module.HasClass service options name fields ∧
      ∃ field ∈ fields, Naming.fieldName? field.name = some settingsName
  base : module.hasImports = true → ∀ name ∈ code.statements.flatMap Statement.classNames,
    "BaseModel" ∈ code.importedNames
  table : module.hasRoutes options = true → "APIRouter" ∈ code.importedNames

/-- Every module captures exactly these names.  What is imported besides types begins with a
small letter, and classes do not. -/
theorem Module.capturesExactly_of_code {document : Document}
    (built : document.service = .ok service) {code : ModuleCode}
    (isCode : module.code service options = .ok code) :
    module.CapturesExactly service options code := by
  obtain ⟨classes, codes, lines, made⟩ := Module.exists_madeOf isCode
  refine ⟨fun name isClass => ?_, fun name isHandler => ?_,
    made.mem_fieldNames_iff built settingsName, fun hasImports name isClass => ?_,
    made.apiRouter_mem_importedNames⟩
  · obtain ⟨fields, hasClass⟩ := (made.mem_classNames_iff built name).mp isClass
    have capital := hasClass.startsIn
    have small : ∀ word ∈ routerName :: templateNames,
        Naming.startsIn Char.isUpper word.toList ≠ true := by
      decide
    constructor
    · rintro (isImported | rfl)
      · rcases made.cases_of_mem_importedNames built isImported with
          isType | isSmall | ⟨rfl, _⟩
        · exact ⟨isType, (hasClass.mem_structTypeNames isType).2, isImported⟩
        · exact absurd capital (small name (List.mem_cons_of_mem _ isSmall))
        · exact absurd hasClass Module.not_hasClass_routes
      · exact absurd capital (small _ List.mem_cons_self)
    · exact fun ⟨_, _, isImported⟩ => Or.inl isImported
  · obtain ⟨hasRoutes, operation, _, isName⟩ := (made.mem_handlerNames_iff name).mp isHandler
    obtain ⟨noType, noOutput⟩ := handlerName_cases isName
    have areHandlers := made.areHandlers hasRoutes
    have hasImports := Module.hasImports_of_hasRoutes hasRoutes
    constructor
    · rintro (isImported | isRouter)
      · rcases made.cases_of_mem_importedNames built isImported with
          isType | isSmall | ⟨isRoutes, isStruct⟩
        · exact absurd isType noType
        · rcases List.mem_cons.mp isSmall with isAnnotations | isClock
          · exact Or.inr (Or.inl isAnnotations)
          · exact Or.inr (Or.inr (Or.inl ⟨isClock, isImported⟩))
        · rcases (mem_structs_of_handlers_iff areHandlers name).mp isStruct with
            ⟨other, _, isOutput⟩ | mentions
          · exact absurd isOutput (noOutput other.id)
          · exact Or.inr (Or.inr (Or.inr ⟨isRoutes, mentions⟩))
      · exact Or.inl isRouter
    · rintro (isRouter | isAnnotations | ⟨_, isImported⟩ | ⟨isRoutes, mentions⟩)
      · exact Or.inr isRouter
      · exact Or.inl ((made.mem_importedNames_iff name).mpr ⟨hasImports, Or.inl isAnnotations⟩)
      · exact Or.inl isImported
      · exact Or.inl ((made.mem_importedNames_iff name).mpr ⟨hasImports, Or.inr (Or.inr ⟨isRoutes,
          (mem_structs_of_handlers_iff areHandlers name).mpr (Or.inr mentions)⟩)⟩)
  · obtain ⟨fields, hasClass⟩ := (made.mem_classNames_iff built name).mp isClass
    obtain ⟨given, isGiven, _, isBuilt⟩ :=
      (Module.represents_classes built made.areClasses).exists_code name fields hasClass
    obtain ⟨_, madeClass⟩ := exists_madeOf_of_classCode isBuilt
    refine (made.mem_importedNames_iff _).mpr ⟨hasImports, Or.inr (Or.inl ?_)⟩
    exact List.mem_map.mpr ⟨_, List.mem_append_left _ (List.mem_append_left _
      (List.mem_flatMap.mpr ⟨given, isGiven, madeClass.baseModel_mem_imports⟩)), rfl⟩

end ApiScaffold.PythonCode

import ApiScaffold.Proofs.Emission.Readable
import ApiScaffold.Proofs.Emission.RustContents
import ApiScaffold.Proofs.Emission.TemplateNames

/-!
# Captured names

A Rust module writes some types by their bare names, and it calls its table of routes `configure`.
A struct of a document can have the name of such a type, and a handler the name of the table.  For
both targets it is therefore said exactly when a module captures a name that it uses itself.
-/

namespace ApiScaffold.RustCode

variable {service : Service} {options : EmissionOptions} {module : Module} {items : List Item}

/-- The types that are written by their bare names. -/
def writtenTypes : List String :=
  ["String", "Vec", "Option", "Box", "HttpRequest", "HttpResponse", "Serialize", "Deserialize",
    "Self", "Iterator"]

/-- The name of the table of routes. -/
def tableName : String := "configure"

/-- What a module captures: with the structs of the named models, the types that are written by
their bare names and are the names of structs; and with routes the name of their table, if there
is a handler of that name. -/
structure Module.CapturesExactly (service : Service) (options : EmissionOptions) (module : Module)
    (items : List Item) : Prop where
  types : ∀ name ∈ writtenTypes, (∃ item, .struct item ∈ items ∧ item.name = name) ↔
    module.hasStructs options = true ∧ name ∈ service.structTypeNames
  table : (∃ operation, .handler operation ∈ items ∧ handlerName operation = tableName) ↔
    module.hasRoutes options = true ∧
      ∃ operation ∈ service.operations, handlerName operation = tableName

/-- Every module captures exactly these names. -/
theorem Module.capturesExactly_of_items {document : Document}
    (built : document.service = .ok service) (made : module.items service options = .ok items) :
    module.CapturesExactly service options items := by
  have noOperation : ∀ id, inputTypeName id ∉ writtenTypes ∧ outputTypeName id ∉ writtenTypes :=
    operationTypeName_notMem_of_endings (by decide)
  refine ⟨fun name isWritten => ⟨?_, ?_⟩, ⟨?_, ?_⟩⟩
  · rintro ⟨item, member, rfl⟩
    rcases (Module.mem_items_iff built made rfl).mp member with
      ⟨hasStructs, entry, inModels, isStruct, isItem⟩ | ⟨operation, ⟨_, isItem⟩ | ⟨_, isItem⟩⟩ |
        ⟨_, ⟨_, _, impossible⟩ | ⟨_, _, impossible⟩⟩
    · obtain ⟨struct, equal, isMade⟩ := exists_struct_of_modelItem isItem
      cases equal
      exact ⟨hasStructs, List.mem_map.mpr ⟨entry, List.mem_filter.mpr ⟨inModels, isStruct⟩,
        (name_of_structItem isMade).symm⟩⟩
    · obtain ⟨struct, equal, fields, _, isMade⟩ := exists_struct_of_fieldsItem isItem
      cases equal
      rw [name_of_structItem isMade] at isWritten
      exact absurd isWritten (noOperation operation.id).1
    · obtain ⟨struct, equal, fields, _, isMade⟩ := exists_struct_of_fieldsItem isItem
      cases equal
      rw [name_of_structItem isMade] at isWritten
      exact absurd isWritten (noOperation operation.id).2
    · cases impossible
    · cases impossible
  · rintro ⟨hasStructs, member⟩
    obtain ⟨entry, isEntry, rfl⟩ := List.mem_map.mp member
    obtain ⟨inModels, isStruct⟩ := List.mem_filter.mp isEntry
    obtain ⟨all, areAll⟩ := Module.exists_modelItems made hasStructs
    obtain ⟨item, isItem⟩ := exists_modelItem built areAll inModels isStruct
    obtain ⟨struct, rfl, isMade⟩ := exists_struct_of_modelItem isItem
    exact ⟨struct, (Module.mem_items_iff built made rfl).mpr
      (Or.inl ⟨hasStructs, entry, inModels, isStruct, isItem⟩), name_of_structItem isMade⟩
  · rintro ⟨operation, member, isTable⟩
    rcases (Module.mem_items_iff built made rfl).mp member with
      ⟨_, entry, _, _, isItem⟩ | ⟨operation, ⟨_, isItem⟩ | ⟨_, isItem⟩⟩ |
        ⟨hasRoutes, ⟨_, _, impossible⟩ | ⟨other, isOperation, equal⟩⟩
    · obtain ⟨_, impossible, _⟩ := exists_struct_of_modelItem isItem
      cases impossible
    · obtain ⟨_, impossible, _⟩ := exists_struct_of_fieldsItem isItem
      cases impossible
    · obtain ⟨_, impossible, _⟩ := exists_struct_of_fieldsItem isItem
      cases impossible
    · cases impossible
    · cases equal
      exact ⟨hasRoutes, operation, isOperation, isTable⟩
  · rintro ⟨hasRoutes, operation, isOperation, isTable⟩
    exact ⟨operation, (Module.mem_items_iff built made rfl).mpr
      (Or.inr (Or.inr ⟨hasRoutes, Or.inr ⟨operation, isOperation, rfl⟩⟩)), isTable⟩

end ApiScaffold.RustCode

namespace ApiScaffold

/-- A class captures a name that its module imports only if it is the class of a struct with the
name of a type, a handler only if it has one of a few small names or that of a struct which the
routes of a package import, and a field is named like the settings only for a field of that name
in the document; a Rust struct captures a type only if it is that of a named model with the name
of the type, and a handler the table of routes only if it has its name.  All of these do. -/
theorem captured_names {document : Document} {service : Service}
    (built : document.service = .ok service) (options : EmissionOptions) :
    (∀ module text, PythonCode.Module.text service options module = .ok text →
      ∃ code, PythonCode.Module.code service options module = .ok code ∧
        text = PythonCode.renderStatements code.statements ++ "\n" ∧
        module.CapturesExactly service options code) ∧
    ∀ module text, RustCode.Module.text service options module = .ok text →
      ∃ items, RustCode.Module.items service options module = .ok items ∧
        text = RustCode.spell (RustCode.piecesOf items) ++ module.ending ∧
        module.CapturesExactly service options items := by
  constructor
  · intro module text rendered
    obtain ⟨code, isCode, isText⟩ := PythonCode.Module.exists_code_of_text rendered
    exact ⟨code, isCode, isText, PythonCode.Module.capturesExactly_of_code built isCode⟩
  · intro module text rendered
    obtain ⟨items, areItems, isText⟩ := RustCode.exists_of_text rendered
    exact ⟨items, areItems, isText, RustCode.Module.capturesExactly_of_items built areItems⟩

/-- Whether everything can be put together in one module, for both targets. -/
def hasBothModules (service : Service) : Bool :=
  ((PythonCode.soleCode service ⟨true, true, false⟩).succeedsWith fun _ => true) &&
    (RustCode.renderModule service ⟨true, true, false⟩).succeedsWith fun _ => true

/-- The modules of a post office have texts, and it is known what they capture. -/
theorem captured_names_of_copyingOffice :
    ∃ service, copyingOffice.service = .ok service ∧
      (∃ text code, PythonCode.renderModule service ⟨true, true, false⟩ = .ok text ∧
        text = PythonCode.renderStatements code.statements ++ "\n" ∧
        PythonCode.Module.sole.CapturesExactly service ⟨true, true, false⟩ code) ∧
      ∃ text items, RustCode.renderModule service ⟨true, true, false⟩ = .ok text ∧
        text = RustCode.spell (RustCode.piecesOf items) ++ "\n" ∧
        RustCode.Module.sole.CapturesExactly service ⟨true, true, false⟩ items := by
  have passes : copyingOffice.draft.succeedsWith (fun draft => draft.passes (fun _ => 0) &&
      (decide (draft.models.length ≤ 1) &&
        hasBothModules (draft.ordered copyingOffice (draft.models.keys.map some)))) = true := by
    decide +kernel
  obtain ⟨service, built, tested⟩ := Document.exists_service_of_few hasBothModules passes
  obtain ⟨complete, rendered⟩ := Bool.and_eq_true_iff.mp tested
  obtain ⟨pythonText, isPython⟩ :=
    PythonCode.exists_text_of_succeeds PythonCode.soleModule complete
  obtain ⟨rustText, isRust, _⟩ := Outcome.succeedsWith_iff.mp rendered
  obtain ⟨ofPython, ofRust⟩ := captured_names built ⟨true, true, false⟩
  obtain ⟨code, _, isPythonText, capturesPython⟩ := ofPython .sole pythonText isPython
  obtain ⟨items, _, isRustText, capturesRust⟩ := ofRust .sole rustText isRust
  exact ⟨service, built, ⟨pythonText, code, isPython, isPythonText, capturesPython⟩,
    rustText, items, isRust, isRustText, capturesRust⟩

/-- Whether the modules of a service have texts, and it has a struct with a given type name. -/
def hasBothWithStruct (name : String) (service : Service) : Bool :=
  hasBothModules service && service.structTypeNames.contains name

theorem exists_service_of_structName {document : Document} {name : String}
    (passes : document.draft.succeedsWith (fun draft => draft.passes (fun _ => 0) &&
      (decide (draft.models.length ≤ 1) && hasBothWithStruct name
        (draft.ordered document (draft.models.keys.map some)))) = true) :
    ∃ service pythonText rustText, document.service = .ok service ∧
      PythonCode.renderModule service ⟨true, true, false⟩ = .ok pythonText ∧
      RustCode.renderModule service ⟨true, true, false⟩ = .ok rustText ∧
      name ∈ service.structTypeNames := by
  obtain ⟨service, built, tested⟩ := Document.exists_service_of_few _ passes
  obtain ⟨haveTexts, hasStruct⟩ := Bool.and_eq_true_iff.mp tested
  obtain ⟨complete, rendered⟩ := Bool.and_eq_true_iff.mp haveTexts
  obtain ⟨pythonText, isPython⟩ :=
    PythonCode.exists_text_of_succeeds PythonCode.soleModule complete
  obtain ⟨rustText, isRust, _⟩ := Outcome.succeedsWith_iff.mp rendered
  exact ⟨service, pythonText, rustText, built, isPython, isRust,
    List.contains_iff_mem.mp hasStruct⟩

/-- A struct can be named like the base of all classes, and another like the type of all texts;
then their modules capture these names. -/
theorem exists_captured_names :
    (∃ service text code, (structDocument "BaseModel" "id").service = .ok service ∧
      PythonCode.renderModule service ⟨true, true, false⟩ = .ok text ∧
      PythonCode.soleCode service ⟨true, true, false⟩ = .ok code ∧
      ∃ name ∈ code.statements.flatMap PythonCode.Statement.classNames,
        PythonCode.Captures code name) ∧
    ∃ service text items, (structDocument "String" "id").service = .ok service ∧
      RustCode.renderModule service ⟨true, true, false⟩ = .ok text ∧
      RustCode.Module.sole.items service ⟨true, true, false⟩ = .ok items ∧
      ∃ item, .struct item ∈ items ∧ item.name ∈ RustCode.writtenTypes := by
  constructor
  · obtain ⟨service, text, _, built, rendered, _, hasStruct⟩ :=
      @exists_service_of_structName (structDocument "BaseModel" "id") "BaseModel"
        (by decide +kernel)
    obtain ⟨code, isCode, _⟩ := @PythonCode.Module.exists_code_of_text _ _ .sole _ rendered
    obtain ⟨classes, codes, lines, made⟩ := PythonCode.Module.exists_madeOf isCode
    obtain ⟨entry, isEntry, isName⟩ := List.mem_map.mp hasStruct
    obtain ⟨inModels, isStruct⟩ := List.mem_filter.mp isEntry
    have isClass : "BaseModel" ∈ code.statements.flatMap PythonCode.Statement.classNames :=
      (made.mem_classNames_iff built _).mpr
        ⟨_, Or.inl ⟨rfl, entry, inModels, isStruct, isName.symm, rfl⟩⟩
    exact ⟨service, text, code, built, rendered, isCode, "BaseModel", isClass,
      Or.inl ((PythonCode.Module.capturesExactly_of_code built isCode).base rfl _ isClass)⟩
  · obtain ⟨service, _, text, built, _, rendered, hasStruct⟩ :=
      @exists_service_of_structName (structDocument "String" "id") "String" (by decide +kernel)
    obtain ⟨items, areItems, _⟩ := @RustCode.exists_of_text _ _ .sole _ rendered
    have isWritten : "String" ∈ RustCode.writtenTypes := List.mem_cons_self
    have captures := RustCode.Module.capturesExactly_of_items built areItems
    obtain ⟨item, isItem, isName⟩ := (captures.types "String" isWritten).mpr ⟨rfl, hasStruct⟩
    exact ⟨service, text, items, built, rendered, areItems, item, isItem, isName ▸ isWritten⟩

end ApiScaffold

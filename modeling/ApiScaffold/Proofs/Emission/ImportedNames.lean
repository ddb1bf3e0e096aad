import ApiScaffold.Proofs.Emission.ClassParts
import ApiScaffold.Proofs.Emission.PackageFiles

/-!
# The names that modules import

A module imports what its classes, its handlers and its table of routes need.  Apart from the
classes that the routes of a package take from the module of the models, these are a few names
only, whatever the service.
-/

namespace ApiScaffold.PythonCode

variable {service : Service} {options : EmissionOptions} {module : Module}

/-- The names that a module imports. -/
def ModuleCode.importedNames (code : ModuleCode) : List String :=
  code.statements.flatMap Statement.imported

/-- A block of imports imports what was gathered. -/
theorem Imports.mem_imported_block_iff {imports : Imports}
    (distinct : imports.modules.keys.Nodup) (name : String) :
    (name ∈ imports.block.flatMap fun entry => (Statement.importFrom entry).imported) ↔
      ∃ origin, name ∈ imports.namesFrom origin := by
  rw [List.mem_flatMap]
  constructor
  · rintro ⟨entry, isEntry, member⟩
    obtain ⟨origin, names, found, rfl⟩ := (mem_block_iff distinct entry).mp isEntry
    refine ⟨origin, ?_⟩
    rw [namesFrom, found]
    exact (mem_names_statement_iff origin names name).mp member
  · rintro ⟨origin, member⟩
    rw [namesFrom] at member
    cases found : imports.modules.get? origin with
    | none => simp [found] at member
    | some names =>
        rw [found] at member
        exact ⟨_, (mem_block_iff distinct _).mpr ⟨origin, names, found, rfl⟩,
          (mem_names_statement_iff origin names name).mpr member⟩

theorem Imports.exists_mem_namesFrom_moduleImports_iff (names : List (String × String))
    (name : String) :
    (∃ origin, name ∈ (moduleImports names).namesFrom origin) ↔
      name = "annotations" ∨ name ∈ names.map Prod.snd := by
  simp only [mem_namesFrom_moduleImports_iff, Prod.mk.injEq, exists_or, exists_and_right,
    exists_eq, true_and, List.mem_map, Prod.exists, exists_eq_right]

namespace Module

/-- Whether a module has its imports: the class of a single input or output has none. -/
def hasImports : Module → Bool
  | .sole | .models | .routes | .package => true
  | .input _ | .output _ => false

/-- What the classes, the handlers and the table of routes of a module import. -/
def gathered (options : EmissionOptions) (module : Module) (classes : List ClassCode)
    (codes : List HandlerCode) : List (String × String) :=
  classes.flatMap ClassCode.imports ++ codes.flatMap HandlerCode.imports ++
    if module.hasRoutes options then routeImports else []

namespace MadeOf

variable {classes : List ClassCode} {codes : List HandlerCode} {lines : List Line}
  {code : ModuleCode}

theorem codes_eq_nil (made : module.MadeOf service options classes codes lines code)
    (noRoutes : module.hasRoutes options = false) : codes = [] := by
  rcases made.areParts with ⟨wanted, _⟩ | ⟨_, isNil, _⟩
  · rw [noRoutes] at wanted
    cases wanted
  · exact isNil

theorem areHandlers (made : module.MadeOf service options classes codes lines code)
    (wanted : module.hasRoutes options = true) : handlers service = .ok codes := by
  rcases made.areParts with ⟨_, areHandlers, _⟩ | ⟨noRoutes, _⟩
  · exact areHandlers
  · rw [wanted] at noRoutes
    cases noRoutes

/-- The body of a module imports nothing. -/
theorem imported_of_mem_body (made : module.MadeOf service options classes codes lines code) :
    ∀ statement ∈ code.body, statement.imported = [] := by
  intro statement member
  rcases (made.mem_body_iff statement).mp member with
    ⟨given, _, rfl⟩ | ⟨handler, _, rfl⟩ | ⟨line, _, rfl⟩ | ⟨names, _, rfl⟩ <;> rfl

/-- A module imports the future of annotations, what its parts need, and, if it is the module of
the routes, the classes that its handlers mention. -/
theorem mem_importedNames_iff (made : module.MadeOf service options classes codes lines code)
    (name : String) :
    name ∈ code.importedNames ↔ module.hasImports = true ∧
      (name = "annotations" ∨ name ∈ (module.gathered options classes codes).map Prod.snd ∨
        module = .routes ∧ name ∈ codes.flatMap HandlerCode.structs) := by
  have areImports := made.areImports
  have ofBlock : ∀ {imports : Imports}, code.imports = some imports →
      imports.modules.keys.Nodup →
        (name ∈ code.importedNames ↔ ∃ origin, name ∈ imports.namesFrom origin) := by
    intro imports isImports distinct
    rw [← Imports.mem_imported_block_iff distinct, ModuleCode.importedNames,
      ModuleCode.flatMap_statements_eq_block isImports (fun _ => rfl) made.imported_of_mem_body]
  cases module with
  | sole =>
      rw [ofBlock areImports (Imports.nodup_moduleImports _),
        Imports.exists_mem_namesFrom_moduleImports_iff]
      simp only [hasImports, true_and, reduceCtorEq, false_and, or_false]
      rfl
  | models | package =>
      obtain rfl := made.codes_eq_nil rfl
      rw [ofBlock areImports (Imports.nodup_moduleImports _),
        Imports.exists_mem_namesFrom_moduleImports_iff]
      simp [hasImports, gathered, hasRoutes]
  | routes =>
      obtain rfl : [] = classes := Except.ok.inj made.areClasses
      have distinct :=
        Imports.nodup_moduleImports (codes.flatMap HandlerCode.imports ++ routeImports)
      have isGathered : gathered options .routes [] codes =
          codes.flatMap HandlerCode.imports ++ routeImports := rfl
      rw [isGathered, ← or_assoc, ← Imports.exists_mem_namesFrom_moduleImports_iff]
      generalize isStructs : codes.flatMap HandlerCode.structs = structs at *
      simp only [imports, isStructs] at areImports
      split at areImports
      · next noStructs =>
          rw [ofBlock areImports distinct, List.isEmpty_iff.mp noStructs]
          simp [hasImports]
      · rw [ofBlock areImports (Imports.nodup_addAll distinct _ _)]
        simp [Imports.mem_namesFrom_addAll_iff, hasImports, exists_or]
  | input | output =>
      have noImports : code.imports = none := areImports
      rw [ModuleCode.importedNames, ModuleCode.statements, noImports]
      simp only [Option.toList_none, List.flatMap_nil, List.append_nil, List.flatMap_append,
        List.mem_append, hasImports, Bool.false_eq_true, false_and, iff_false, not_or]
      constructor
      · simp [List.flatMap_map, Statement.imported]
      · simp [List.flatMap_eq_nil_iff.mpr made.imported_of_mem_body]

/-- Every handler of a module is made of the arguments of its operation. -/
theorem exists_madeOf_of_mem_codes
    (made : module.MadeOf service options classes codes lines code) :
    ∀ handler ∈ codes, ∃ operation ∈ service.operations,
      ∃ arguments, handler.MadeOf service operation arguments := by
  intro handler isHandler
  rcases made.areParts with ⟨_, areHandlers, _⟩ | ⟨_, rfl, _⟩
  · exact Entries.exists_left_of_forall₂ (madeOf_of_handlers areHandlers).1 isHandler
  · cases isHandler

/-- Every class of a module is made of the fields that it has. -/
theorem exists_madeOf_of_mem_classes {document : Document} (built : document.service = .ok service)
    (made : module.MadeOf service options classes codes lines code) :
    ∀ given ∈ classes, ∃ name fields fieldCodes, module.HasClass service options name fields ∧
      given.MadeOf service name fields fieldCodes := by
  intro given isClass
  obtain ⟨name, fields, _, hasClass, isBuilt⟩ :=
    (Module.represents_classes built made.areClasses).exists_fields given isClass
  obtain ⟨fieldCodes, madeClass⟩ := exists_madeOf_of_classCode isBuilt
  exact ⟨name, fields, fieldCodes, hasClass, madeClass⟩

/-- All that a module gathers is what classes, arguments and the table of routes may import. -/
theorem mem_templateImports {document : Document} (built : document.service = .ok service)
    (made : module.MadeOf service options classes codes lines code) :
    ∀ entry ∈ module.gathered options classes codes,
      entry ∈ classImports ++ argumentImports ++ routeImports := by
  rw [gathered, List.forall_mem_append, List.forall_mem_append, List.forall_mem_flatMap,
    List.forall_mem_flatMap]
  refine ⟨⟨?_, ?_⟩, ?_⟩
  · intro given isClass entry member
    obtain ⟨_, _, _, _, madeClass⟩ := made.exists_madeOf_of_mem_classes built given isClass
    exact List.mem_append_left _ (List.mem_append_left _ (madeClass.mem_classImports entry member))
  · intro handler isHandler entry member
    obtain ⟨_, _, arguments, madeHandler⟩ := made.exists_madeOf_of_mem_codes handler isHandler
    exact List.mem_append_left _
      (List.mem_append_right _ (madeHandler.mem_argumentImports entry member))
  · split
    · exact fun entry member => List.mem_append_right _ member
    · exact fun entry member => nomatch member

end MadeOf

end Module

/-- The names that modules import from elsewhere and that are types. -/
def templateTypes : List String :=
  ["Any", "AsyncIterator", "Field", "ConfigDict", "BaseModel", "Path", "Query", "Header", "Body",
   "Request", "Annotated", "APIRouter"]

/-- The other names that modules import from elsewhere. -/
def templateNames : List String :=
  ["annotations", "date", "time", "datetime"]

/-- Modules import nothing else, but for the classes that the routes of a package take from the
module of the models. -/
theorem Module.MadeOf.cases_of_mem_importedNames {document : Document}
    (built : document.service = .ok service) {classes : List ClassCode}
    {codes : List HandlerCode} {lines : List Line} {code : ModuleCode}
    (made : module.MadeOf service options classes codes lines code) {name : String}
    (member : name ∈ code.importedNames) :
    name ∈ templateTypes ∨ name ∈ templateNames ∨
      module = .routes ∧ name ∈ codes.flatMap HandlerCode.structs := by
  have listed : ∀ entry ∈ classImports ++ argumentImports ++ routeImports,
      entry.2 ∈ templateTypes ∨ entry.2 ∈ templateNames := by
    decide
  obtain ⟨_, rfl | isGathered | isStruct⟩ := (made.mem_importedNames_iff name).mp member
  · exact Or.inr (Or.inl (by decide))
  · obtain ⟨entry, isEntry, rfl⟩ := List.mem_map.mp isGathered
    exact (listed entry (made.mem_templateImports built entry isEntry)).imp_right Or.inl
  · exact Or.inr (Or.inr isStruct)

end ApiScaffold.PythonCode

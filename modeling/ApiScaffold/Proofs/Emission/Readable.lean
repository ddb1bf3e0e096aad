import ApiScaffold.Proofs.Emission.LegalNames
import ApiScaffold.Proofs.Emission.Nesting
import ApiScaffold.Proofs.Emission.Unchecked

/-!
# Modules that can be read

A module is read again to check it.  It can be read if all names that it gives can be given, and
if nothing in it is nested too deeply.  Three things of a service can be in the way: a struct
whose type name is a constant, a field or a parameter whose legal name cannot be assigned, and an
annotation that is nested too deeply.  Nothing else is.
-/

namespace ApiScaffold.PythonCode

variable {service : Service} {options : EmissionOptions} {module : Module}

/-! ## What is in the way -/

/-- A class that cannot be read: its name is a constant, the name of a field cannot be assigned,
or the annotation of a field is nested too deeply. -/
def UnreadableClass (service : Service) (name : String) (fields : List Field) : Prop :=
  name ∈ constantWords ∨ ∃ field ∈ fields, Naming.fieldName? field.name = some debugName ∨
    ¬ AnnotatedWithin service bracketLimit field.model

/-- A part of an input whose argument cannot be read. A handler nests annotations two levels
deeper. -/
def UnreadablePart (service : Service) (part : InputPart) : Prop :=
  (∃ location given, part = .parameter location given ∧
      Naming.fieldName? given.name = some debugName) ∨
    ¬ AnnotatedWithin service (bracketLimit - 2) part.model

/-- A module that cannot be read: one of its classes or handlers cannot be, or its routes import
a struct with the name of a constant. -/
def Module.Unreadable (service : Service) (options : EmissionOptions) (module : Module) : Prop :=
  (∃ name fields, module.HasClass service options name fields ∧
      UnreadableClass service name fields) ∨
    (module.hasRoutes options = true ∧ ∃ operation ∈ service.operations,
      ∃ part ∈ operation.input.parts, UnreadablePart service part) ∨
    (module = .routes ∧ ∃ operation ∈ service.operations, ∃ part ∈ operation.input.parts,
      ∃ word ∈ constantWords, MentionsType service part.model word)

theorem Statement.isReadable_iff (statement : Statement) :
    statement.isReadable = true ↔
      statement.isValid = true ∧ statement.bracketDepth ≤ bracketLimit := by
  rw [isReadable, Bool.and_eq_true, decide_eq_true_eq]

/-! ## Classes -/

/-- A class gives the names of its fields, and no others that matter. -/
theorem ClassCode.MadeOf.forall_mem_given_iff {name : String} {fields : List Field}
    {codes : List FieldCode} {code : ClassCode} (made : code.MadeOf service name fields codes) :
    (∀ given ∈ code.definition.body.flatMap Line.given, given ≠ debugName) ↔
      ∀ field ∈ codes, field.name ≠ debugName := by
  rw [List.forall_mem_flatMap]
  constructor
  · exact fun each field isField =>
      each _ (made.hasLines field isField) _ (List.mem_singleton_self field.name)
  · intro each line isLine given member
    rcases made.cases_of_mem_given isLine member with rfl | ⟨field, isField, rfl⟩
    · decide
    · exact each field isField

theorem ClassCode.MadeOf.isReadable_iff {name : String} {fields : List Field}
    {codes : List FieldCode} {code : ClassCode} (made : code.MadeOf service name fields codes) :
    (Statement.classDefinition code.definition).isReadable = true ↔
      ¬ UnreadableClass service name fields := by
  have each : (∀ field ∈ fields, ¬ Naming.fieldName? field.name = some debugName ∧
      AnnotatedWithin service bracketLimit field.model) ↔
        ∀ field ∈ codes, field.name ≠ debugName ∧ field.line.bracketDepth ≤ bracketLimit := by
    apply Entries.forall_mem_iff_of_forall₂ made.pairs
    rintro field fieldCode ⟨type, madeField⟩
    rw [madeField.isName, Option.some.injEq, annotatedWithin_iff madeField.spelled, bracketLimit,
      madeField.bracketDepth_line_le_iff]
  have depth : (Statement.classDefinition code.definition).bracketDepth ≤ bracketLimit ↔
      ∀ field ∈ codes, field.line.bracketDepth ≤ bracketLimit :=
    made.bracketDepth_le_iff
  rw [Statement.isReadable_iff, Statement.isValid_classDefinition_iff, made.isName,
    made.forall_mem_given_iff, depth, and_assoc, ← forall₂_and, ← each]
  simp only [UnreadableClass, not_or, not_exists, not_and, not_not]

/-! ## Handlers -/

theorem IsArgument.not_unreadablePart_iff {part : InputPart} {argument : ArgumentCode}
    (isArgument : IsArgument service part argument) :
    ¬ UnreadablePart service part ↔
      argument.name ≠ debugName ∧ argument.argument.bracketDepth + 1 ≤ bracketLimit := by
  have depth : argument.argument.bracketDepth + 1 ≤ bracketLimit ↔
      AnnotatedWithin service (bracketLimit - 2) part.model := by
    rw [bracketLimit, Nat.add_le_add_iff_right, isArgument.bracketDepth_le_iff]
  have name : argument.name ≠ debugName ↔ ¬ ∃ location given, part = .parameter location given ∧
      Naming.fieldName? given.name = some debugName := by
    cases isArgument with
    | @parameter location given legal type isName =>
        simp only [InputPart.parameter.injEq, not_exists, not_and]
        constructor
        · rintro assignable _ _ ⟨rfl, rfl⟩ isDebug
          exact assignable (Option.some.inj (isName.symm.trans isDebug))
        · rintro assignable rfl
          exact assignable location given ⟨rfl, rfl⟩ isName
    | rawBody | body =>
        simp only [reduceCtorEq, false_and, exists_false, not_false_eq_true, iff_true]
        decide
  rw [name, depth, UnreadablePart, not_or, not_not]

theorem HandlerCode.MadeOf.isReadable_iff {operation : Operation}
    {arguments : List ArgumentCode} {code : HandlerCode}
    (made : code.MadeOf service operation arguments) :
    (Statement.function code.definition).isReadable = true ↔
      ∀ part ∈ operation.input.parts, ¬ UnreadablePart service part := by
  have each : (∀ part ∈ operation.input.parts, ¬ UnreadablePart service part) ↔
      ∀ argument ∈ arguments, argument.name ≠ debugName ∧
        argument.argument.bracketDepth + 1 ≤ bracketLimit := by
    apply Entries.forall_mem_iff_of_forall₂ made.pairs
    exact fun part argument isBuilt => (isArgument_of_partArgument isBuilt).not_unreadablePart_iff
  have depth : (Statement.function code.definition).bracketDepth ≤ bracketLimit ↔
      ∀ argument ∈ arguments, argument.argument.bracketDepth + 1 ≤ bracketLimit := by
    rw [bracketLimit, made.bracketDepth_le_iff]
    exact forall₂_congr fun argument _ => Nat.succ_le_succ_iff.symm
  rw [each, Statement.isReadable_iff, Statement.isValid_function_iff, made.ordered,
    forall_mem_orderedArguments_iff, depth, ← forall₂_and]
  rfl

/-! ## Routes and exports -/

theorem bracketDepth_list_text_le (texts : List String) :
    (Expression.list (texts.map .text)).bracketDepth ≤ 1 := by
  rw [Expression.bracketDepth_list_le_iff, List.forall_mem_map]
  exact fun text _ => Nat.le_refl 0

theorem bracketDepth_of_mem_statusKeywords {statusCode : Option Int} :
    ∀ keyword ∈ statusKeywords statusCode, keyword.2.bracketDepth ≤ 1 := by
  unfold statusKeywords
  split
  · exact fun keyword member => nomatch member
  · rw [List.forall_mem_cons]
    refine ⟨Nat.zero_le 1, ?_⟩
    split
    · rw [List.forall_mem_singleton]
      exact Nat.zero_le 1
    · exact fun keyword member => nomatch member

/-- The table of routes can always be read. -/
theorem isReadable_of_mem_routeLines {lines : List Line}
    (areLines : routeLines service = .ok lines) :
    ∀ line ∈ lines, (Statement.line line).isReadable = true := by
  obtain ⟨routes, areRoutes, wrapped⟩ := Outcome.bind_eq_ok_iff.mp areLines
  cases wrapped
  rw [List.forall_mem_cons]
  refine ⟨by decide, fun line isLine => ?_⟩
  obtain ⟨operation, _, isBuilt⟩ :=
    Entries.exists_left_of_forall₂ (Outcome.mapM_eq_ok_iff.mp areRoutes) isLine
  obtain ⟨name, _, isRoute⟩ := Outcome.bind_eq_ok_iff.mp isBuilt
  cases isRoute
  rw [Statement.isReadable_iff]
  refine ⟨rfl, Nat.le_trans ?_ (show 1 + 1 ≤ bracketLimit by decide)⟩
  change Expression.bracketDepth _ ≤ 1 + 1
  rw [Expression.bracketDepth_call_le_iff rfl]
  constructor
  · simp [Expression.bracketDepth]
  · rw [List.forall_mem_append, List.forall_mem_append, List.forall_mem_cons,
      List.forall_mem_singleton]
    refine ⟨⟨⟨?_, Nat.zero_le 1⟩, bracketDepth_of_mem_statusKeywords⟩, ?_⟩
    · exact bracketDepth_list_text_le [Text.upperText operation.method]
    · split
      · intro keyword member
        cases member
      · rw [List.forall_mem_singleton]
        exact bracketDepth_list_text_le operation.tags

/-- The list of what a module offers can always be read. -/
theorem isReadable_exportLine (names : List String) : (exportLine names).isReadable = true := by
  rw [Statement.isReadable_iff]
  exact ⟨rfl, Nat.le_trans (bracketDepth_list_text_le names) (by decide)⟩

/-! ## Modules -/

/-- An import can be read if it names no constant. -/
theorem Statement.isReadable_importFrom_iff (entry : Import) :
    (importFrom entry).isReadable = true ↔ ∀ name ∈ entry.names, name ∉ constantWords := by
  rw [isReadable_iff, isValid_importFrom_iff]
  exact and_iff_left (Nat.zero_le bracketLimit)

/-- A module can be read if it imports no constant and its body can be read. -/
theorem ModuleCode.forall_isReadable_iff (code : ModuleCode) :
    (∀ statement ∈ code.statements, statement.isReadable = true) ↔
      (∀ name ∈ code.importedNames, name ∉ constantWords) ∧
        ∀ statement ∈ code.body, statement.isReadable = true := by
  rw [importedNames, List.forall_mem_flatMap]
  constructor
  · intro each
    constructor
    · intro statement member name isImported
      cases statement with
      | importFrom entry =>
          exact (Statement.isReadable_importFrom_iff entry).mp (each _ member) name isImported
      | line | classDefinition | function => cases isImported
    · exact fun statement inBody => each statement (List.mem_append_right _ inBody)
  · rintro ⟨noConstants, ofBody⟩ statement member
    rcases cases_of_mem_statements member with ⟨text, rfl⟩ | ⟨entry, rfl⟩ | inBody
    · rfl
    · exact (Statement.isReadable_importFrom_iff entry).mpr (noConstants _ member)
    · exact ofBody statement inBody

section MadeOf

variable {document : Document} (built : document.service = .ok service)
  {classes : List ClassCode} {codes : List HandlerCode} {lines : List Line} {code : ModuleCode}
  (made : module.MadeOf service options classes codes lines code)
include built made

namespace Module.MadeOf

/-- Constants are imported by routes only, with the structs that inputs mention. -/
theorem imports_constant_iff :
    (∃ name ∈ code.importedNames, name ∈ constantWords) ↔ module = .routes ∧
      ∃ operation ∈ service.operations, ∃ part ∈ operation.input.parts,
        ∃ word ∈ constantWords, MentionsType service part.model word := by
  have noTemplate : ∀ word ∈ constantWords, word ∉ templateTypes ∧ word ∉ templateNames := by
    decide
  constructor
  · rintro ⟨name, isImported, isConstant⟩
    rcases made.cases_of_mem_importedNames built isImported with isType | isName | ⟨rfl, isStruct⟩
    · exact absurd isType (noTemplate name isConstant).1
    · exact absurd isName (noTemplate name isConstant).2
    · have areHandlers := made.areHandlers rfl
      rcases (mem_structs_of_handlers_iff areHandlers name).mp isStruct with
        ⟨operation, _, rfl⟩ | ⟨operation, isOperation, part, isPart, mentions⟩
      · exact absurd isConstant
          (notMem_constantWords (bindable_operationTypeName operation.id).2)
      · exact ⟨rfl, operation, isOperation, part, isPart, name, isConstant, mentions⟩
  · rintro ⟨rfl, operation, isOperation, part, isPart, word, isConstant, mentions⟩
    refine ⟨word, (made.mem_importedNames_iff word).mpr ⟨rfl, Or.inr (Or.inr ⟨rfl, ?_⟩)⟩,
      isConstant⟩
    exact (mem_structs_of_handlers_iff (made.areHandlers rfl) word).mpr
      (Or.inr ⟨operation, isOperation, part, isPart, mentions⟩)

/-- The classes of a module can be read exactly if none of its classes is unreadable. -/
theorem classes_isReadable_iff :
    (∀ given ∈ classes, (Statement.classDefinition given.definition).isReadable = true) ↔
      ¬ ∃ name fields, module.HasClass service options name fields ∧
        UnreadableClass service name fields := by
  have represents := Module.represents_classes built made.areClasses
  constructor
  · rintro each ⟨name, fields, hasClass, unreadable⟩
    obtain ⟨given, isClass, _, isBuilt⟩ := represents.exists_code name fields hasClass
    obtain ⟨fieldCodes, madeClass⟩ := exists_madeOf_of_classCode isBuilt
    exact madeClass.isReadable_iff.mp (each given isClass) unreadable
  · intro noUnreadable given isClass
    obtain ⟨name, fields, _, hasClass, madeClass⟩ :=
      made.exists_madeOf_of_mem_classes built given isClass
    refine madeClass.isReadable_iff.mpr fun unreadable => ?_
    exact noUnreadable ⟨name, fields, hasClass, unreadable⟩

omit built in
/-- The handlers of a module can be read exactly if no part of an input is unreadable. -/
theorem handlers_isReadable_iff :
    (∀ handler ∈ codes, (Statement.function handler.definition).isReadable = true) ↔
      ¬ (module.hasRoutes options = true ∧ ∃ operation ∈ service.operations,
        ∃ part ∈ operation.input.parts, UnreadablePart service part) := by
  rcases made.areParts with ⟨wanted, areHandlers, _⟩ | ⟨noRoutes, rfl, _⟩
  · have pairs := Entries.forall_mem_iff_of_forall₂ (madeOf_of_handlers areHandlers).1.flip
      (fun handler operation ⟨_, madeHandler⟩ => madeHandler.isReadable_iff)
    rw [pairs]
    simp only [wanted, true_and, not_exists, not_and]
  · simp [noRoutes]

/-- A module can be read exactly if nothing is in the way. -/
theorem isReadable_iff :
    (∀ statement ∈ code.statements, statement.isReadable = true) ↔
      ¬ module.Unreadable service options := by
  have ofBody : (∀ statement ∈ code.body, statement.isReadable = true) ↔
      (∀ given ∈ classes, (Statement.classDefinition given.definition).isReadable = true) ∧
        ∀ handler ∈ codes, (Statement.function handler.definition).isReadable = true := by
    constructor
    · intro each
      constructor
      · exact fun given isClass =>
          each _ ((made.mem_body_iff _).mpr (Or.inl ⟨given, isClass, rfl⟩))
      · exact fun handler isHandler =>
          each _ ((made.mem_body_iff _).mpr (Or.inr (Or.inl ⟨handler, isHandler, rfl⟩)))
    · rintro ⟨ofClasses, ofHandlers⟩ statement inBody
      rcases (made.mem_body_iff statement).mp inBody with
        ⟨given, isClass, rfl⟩ | ⟨handler, isHandler, rfl⟩ | ⟨line, isLine, rfl⟩ | ⟨names, _, rfl⟩
      · exact ofClasses given isClass
      · exact ofHandlers handler isHandler
      · rcases made.areParts with ⟨_, _, areLines⟩ | ⟨_, _, rfl⟩
        · exact isReadable_of_mem_routeLines areLines line isLine
        · cases isLine
      · exact isReadable_exportLine names
  have ofImports : (∀ name ∈ code.importedNames, name ∉ constantWords) ↔
      ¬ ∃ name ∈ code.importedNames, name ∈ constantWords := by
    simp only [not_exists, not_and]
  rw [code.forall_isReadable_iff, ofImports, ofBody, made.imports_constant_iff built,
    made.classes_isReadable_iff built, made.handlers_isReadable_iff, Unreadable, not_or, not_or]
  exact ⟨fun ⟨imports, classes, handlers⟩ => ⟨classes, handlers, imports⟩,
    fun ⟨classes, handlers, imports⟩ => ⟨imports, classes, handlers⟩⟩

end Module.MadeOf

end MadeOf

/-! ## Texts -/

/-- The same options without the check. -/
def unchecked (options : EmissionOptions) : EmissionOptions :=
  { options with checked := false }

theorem Module.code_unchecked (module : Module) :
    module.code service (unchecked options) = module.code service options := by
  cases module <;> rfl

/-- A check finds code not well formed if it cannot be read. -/
theorem ModuleCode.failsWith_render_iff (code : ModuleCode) (checked : Bool) (name : String) :
    (code.render checked name).failsWith Failure.isInvalidCode = true ↔
      checked = true ∧ ¬ ∀ statement ∈ code.statements, statement.isReadable = true := by
  rw [← List.all_eq_true, Bool.not_eq_true, ← Bool.not_eq_true', ← Bool.and_eq_true_iff, render]
  split
  · next failed => exact iff_of_true rfl failed
  · next passed => exact iff_of_false Bool.false_ne_true passed

section Built

variable {document : Document} (built : document.service = .ok service)
include built

/-- A module is found not well formed exactly if it is checked, something is in the way of
reading it, and it would have a text otherwise. -/
theorem Module.failsWith_text_iff (options : EmissionOptions) (module : Module) :
    (module.text service options).failsWith Failure.isInvalidCode = true ↔
      options.checked = true ∧ module.Unreadable service options ∧
        ∃ text, module.text service (unchecked options) = .ok text := by
  rw [Module.text_eq, Module.text_eq, Module.code_unchecked]
  cases isCode : module.code service options with
  | error failure =>
      have before : failure.isInvalidCode = false := module.beforeCheck_code options failure isCode
      constructor
      · intro failed
        change failure.isInvalidCode = true at failed
        rw [before] at failed
        cases failed
      · rintro ⟨_, _, text, impossible⟩
        cases impossible
  | ok code =>
      obtain ⟨classes, codes, lines, made⟩ := Module.exists_madeOf isCode
      have hasText : ∃ text, (Except.ok code >>= fun code : ModuleCode =>
          code.render (unchecked options).checked module.name) = .ok text := ⟨_, rfl⟩
      rw [and_iff_left hasText]
      change (code.render _ _).failsWith _ = true ↔ _
      rw [code.failsWith_render_iff, made.isReadable_iff built, not_not]

end Built

/-- The files of a package are found not well formed if its classes are, or its routes after
them. -/
theorem failsWith_renderFiles_iff (options : EmissionOptions) :
    (renderFiles service options).failsWith Failure.isInvalidCode = true ↔
      (Module.package.text service options).failsWith Failure.isInvalidCode = true ∨
        (∃ text, Module.package.text service options = .ok text) ∧ options.routes = true ∧
          (Module.routes.text service options).failsWith Failure.isInvalidCode = true := by
  rw [renderFiles_eq]
  cases Module.package.text service options with
  | error failure => simp [Outcome.failsWith, Bind.bind, Except.bind]
  | ok models =>
      by_cases wanted : options.routes = true
      · cases Module.routes.text service options <;>
          simp [wanted, Outcome.failsWith, Bind.bind, Except.bind]
      · simp [wanted, Outcome.failsWith, Bind.bind, Except.bind]

/-- Every name that a module gives can be given, but for the constants as names of structs and
the name that cannot be assigned as the name of a field or an argument; arguments have different
names, and those that may be left out come last.  So a text is refused as not well formed exactly
if it is checked and one of these names, or an annotation that is nested too deeply, is in the
way. -/
theorem invalidCode_iff {document : Document} (built : document.service = .ok service)
    (options : EmissionOptions) :
    (∀ module code, Module.code service options module = .ok code →
      ∀ statement ∈ code.statements, statement.Ordinary ∧
        (statement.isValid = true ↔ ∀ name ∈ statement.given, Bindable name)) ∧
    (∀ module, (Module.text service options module).failsWith Failure.isInvalidCode = true ↔
      options.checked = true ∧ module.Unreadable service options ∧
        ∃ text, module.text service (unchecked options) = .ok text) ∧
    ((renderFiles service options).failsWith Failure.isInvalidCode = true ↔
      (Module.package.text service options).failsWith Failure.isInvalidCode = true ∨
        (∃ text, Module.package.text service options = .ok text) ∧ options.routes = true ∧
          (Module.routes.text service options).failsWith Failure.isInvalidCode = true) := by
  refine ⟨?_, Module.failsWith_text_iff built options, failsWith_renderFiles_iff options⟩
  intro module code isCode statement member
  have ordinary := Module.ordinary_of_mem_statements built isCode statement member
  exact ⟨ordinary, Statement.isValid_iff_of_ordinary ordinary⟩

/-- The names in the modules of a post office are ordinary, and what its module is found to be
depends on what is in the way. -/
theorem invalidCode_iff_of_copyingOffice :
    ∃ service code, copyingOffice.service = .ok service ∧
      soleCode service ⟨true, true, true⟩ = .ok code ∧
      (∀ statement ∈ code.statements, statement.Ordinary) ∧
      ((renderModule service ⟨true, true, true⟩).failsWith Failure.isInvalidCode = true ↔
        Module.sole.Unreadable service ⟨true, true, true⟩ ∧
          ∃ text, renderModule service ⟨true, true, false⟩ = .ok text) := by
  have passes : copyingOffice.draft.succeedsWith (fun draft => draft.passes (fun _ => 0) &&
      (decide (draft.models.length ≤ 1) &&
        (soleCode (draft.ordered copyingOffice (draft.models.keys.map some))
          ⟨true, true, true⟩).succeedsWith fun _ => true)) = true := by
    decide +kernel
  obtain ⟨service, built, succeeds⟩ := Document.exists_service_of_few
    (fun service => (soleCode service ⟨true, true, true⟩).succeedsWith fun _ => true) passes
  obtain ⟨code, isCode, _⟩ := Outcome.succeedsWith_iff.mp succeeds
  obtain ⟨legal, refused, _⟩ := invalidCode_iff built ⟨true, true, true⟩
  refine ⟨service, code, built, isCode, fun statement member => ?_, ?_⟩
  · exact (legal .sole code isCode statement member).1
  · exact (refused .sole).trans (and_iff_right rfl)

end ApiScaffold.PythonCode

namespace ApiScaffold

/-- A document with one struct, which has one property, a text. -/
def structDocument (name property : String) : Document where
  openapi := "3.0.0"
  info := none
  paths := []
  components := some {
    schemas := some [(name, .object [(property, .text)])]
    responses := none
    parameters := none
    requestBodies := none
    headers := none }

namespace PythonCode

/-- Whether everything can be put together in one module, with a struct named like a constant. -/
def hasConstantStruct (service : Service) : Bool :=
  ((soleCode service ⟨true, true, false⟩).succeedsWith fun _ => true) &&
    service.models.any fun entry =>
      entry.2.isStruct && constantWords.contains (Naming.typeName entry.1)

/-- A struct can be named like a constant, and then its module is not well formed. -/
theorem exists_invalidCode :
    ∃ service, (structDocument "None" "id").service = .ok service ∧
      (renderModule service ⟨true, true, true⟩).failsWith Failure.isInvalidCode = true := by
  have passes : (structDocument "None" "id").draft.succeedsWith (fun draft =>
      draft.passes (fun _ => 0) && (decide (draft.models.length ≤ 1) &&
        hasConstantStruct (draft.ordered (structDocument "None" "id")
          (draft.models.keys.map some)))) = true := by
    decide +kernel
  obtain ⟨service, built, tested⟩ := Document.exists_service_of_few hasConstantStruct passes
  obtain ⟨complete, hasStruct⟩ := Bool.and_eq_true_iff.mp tested
  obtain ⟨text, written⟩ := exists_text_of_succeeds soleModule complete
  simp only [List.any_eq_true, Bool.and_eq_true, List.contains_iff_mem] at hasStruct
  obtain ⟨entry, member, isStruct, isConstant⟩ := hasStruct
  have hasClass : Module.sole.HasClass service ⟨true, true, true⟩ (Naming.typeName entry.1)
      (entry.2.properties.map Field.ofProperty) :=
    Or.inl ⟨rfl, entry, member, isStruct, rfl, rfl⟩
  exact ⟨service, built, (Module.failsWith_text_iff built _ .sole).mpr
    ⟨rfl, Or.inl ⟨_, _, hasClass, Or.inl isConstant⟩, text, written⟩⟩

end PythonCode

end ApiScaffold

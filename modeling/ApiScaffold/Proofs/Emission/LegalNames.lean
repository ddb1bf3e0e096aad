import ApiScaffold.Proofs.Emission.ImportedNames
import ApiScaffold.Proofs.Naming.Shape

/-!
# Names that can be given

A name can be given if it is an identifier, no word of the language, and not the one name that
cannot be assigned.  Every name that a module gives can be, with two exceptions: the name of a
struct can be one of the three constants, and the name of a field or of an argument can be the
name that cannot be assigned.  The arguments of a handler have different names, and those that
may be left out come last.
-/

namespace ApiScaffold.PythonCode

variable {service : Service} {options : EmissionOptions} {module : Module}

/-- The words of the language that cannot be names. -/
def reservedWords : List String :=
  Naming.pythonKeywords.filter fun word => !(["_", "case", "match"].contains word)

/-- A name that can be given. -/
structure Bindable (name : String) : Prop where
  identifier : Naming.isIdentifier name.toList = true
  unreserved : name ∉ reservedWords
  assignable : name ≠ debugName

/-! ## Names -/

/-- The only words with a capital letter are the constants. -/
theorem bindable_of_capital {name : String}
    (identifier : Naming.isIdentifier name.toList = true)
    (capital : Naming.startsIn Char.isUpper name.toList = true)
    (noConstant : name ∉ constantWords) : Bindable name := by
  have capitals : ∀ word ∈ reservedWords, Naming.startsIn Char.isUpper word.toList = true →
      word ∈ constantWords := by
    decide
  refine ⟨identifier, fun isWord => noConstant (capitals name isWord capital), ?_⟩
  rintro rfl
  revert capital
  decide

/-- The name of a type can be given, unless it is a constant. -/
theorem bindable_typeName (name : String) :
    Bindable (Naming.typeName name) ∨ Naming.typeName name ∈ constantWords := by
  obtain ⟨identifier, capital⟩ := Naming.isIdentifier_typeName name
  by_cases isConstant : Naming.typeName name ∈ constantWords
  · exact Or.inr isConstant
  · exact Or.inl (bindable_of_capital identifier capital isConstant)

/-- The name of a type with an ending that no constant has can be given. -/
theorem bindable_typeName_append (name : String) {ending : String}
    (each : ∀ char ∈ ending.toList, Naming.isIdentifierChar char = true)
    (other : ∀ word ∈ constantWords, ¬ ending.toList <:+ word.toList) :
    Bindable (Naming.typeName name ++ ending) := by
  obtain ⟨identifier, capital⟩ := Naming.isIdentifier_typeName name
  apply bindable_of_capital
  · rw [String.toList_append]
    exact Naming.isIdentifier_append identifier each
  · rw [String.toList_append]
    exact Naming.startsIn_append capital _
  · intro isConstant
    apply other _ isConstant
    rw [String.toList_append]
    exact List.suffix_append _ _

theorem bindable_operationTypeName (id : String) :
    Bindable (inputTypeName id) ∧ Bindable (outputTypeName id) := by
  constructor
  · exact bindable_typeName_append id (by simp [Naming.isIdentifierChar]) (by decide)
  · exact bindable_typeName_append id (by simp [Naming.isIdentifierChar]) (by decide)

/-- The name of a field or of an argument can be given, unless it cannot be assigned. -/
theorem bindable_of_fieldName? {name legal : String}
    (isName : Naming.fieldName? name = some legal) :
    Bindable legal ∨ legal = debugName := by
  obtain ⟨identifier, noKeyword⟩ := Naming.isIdentifier_of_fieldName? isName
  by_cases isDebug : legal = debugName
  · exact Or.inr isDebug
  · exact Or.inl ⟨identifier, fun isWord => noKeyword (List.mem_of_mem_filter isWord), isDebug⟩

/-- The name of a handler can always be given. -/
theorem bindable_handlerName {operation : Operation} {name : String}
    (isName : handlerName operation = .ok name) : Bindable name := by
  rw [handlerName, legalName_eq_ok_iff] at isName
  refine (bindable_of_fieldName? isName).resolve_right ?_
  rintro rfl
  have small := (Naming.startsIn_of_fieldName?_snakeCase isName).1
  revert small
  decide

instance (name : String) : Decidable (Bindable name) :=
  decidable_of_iff (Naming.isIdentifier name.toList = true ∧ name ∉ reservedWords ∧
    name ≠ debugName) ⟨fun ⟨identifier, unreserved, assignable⟩ =>
      ⟨identifier, unreserved, assignable⟩, fun bindable =>
      ⟨bindable.identifier, bindable.unreserved, bindable.assignable⟩⟩

/-! ## What statements give -/

/-- The names that a line gives. -/
def Line.given : Line → List String
  | .annotated name _ _ | .assignment name _ => [name]
  | .documentation _ | .expression _ | .raise _ | .pass => []

/-- The names that a statement gives, to modules, classes, functions, fields and arguments. -/
def Statement.given : Statement → List String
  | .line single => single.given
  | .importFrom entry => entry.names
  | .classDefinition definition => definition.name :: definition.body.flatMap Line.given
  | .function definition => definition.name :: definition.arguments.map Argument.name

/-- Arguments with different names, of which those that may be left out come last. -/
structure ArgumentsLegal (arguments : List Argument) : Prop where
  distinct : (arguments.map Argument.name).Nodup
  defaultsLast : arguments.Pairwise fun first second =>
    first.default.isSome = true → second.default.isSome = true

/-- A statement whose names can be given, but for a constant as the name of a class or of an
import, and the name that cannot be assigned as that of a field or of an argument. -/
def Statement.Ordinary : Statement → Prop
  | .line single => ∀ name ∈ single.given, Bindable name
  | .importFrom entry => ∀ name ∈ entry.names, Bindable name ∨ name ∈ constantWords
  | .classDefinition definition =>
      (Bindable definition.name ∨ definition.name ∈ constantWords) ∧
        ∀ name ∈ definition.body.flatMap Line.given, Bindable name ∨ name = debugName
  | .function definition =>
      Bindable definition.name ∧
        (∀ name ∈ definition.arguments.map Argument.name, Bindable name ∨ name = debugName) ∧
        ArgumentsLegal definition.arguments

theorem notMem_constantWords {name : String} (bindable : Bindable name) :
    name ∉ constantWords := by
  have reserved : ∀ word ∈ constantWords, word ∈ reservedWords := by
    decide
  exact fun isConstant => bindable.unreserved (reserved name isConstant)

/-- An ordinary name of a class or an import can be given if it is no constant. -/
theorem bindable_iff_notMem_constantWords {name : String}
    (ordinary : Bindable name ∨ name ∈ constantWords) : Bindable name ↔ name ∉ constantWords :=
  ⟨notMem_constantWords, ordinary.resolve_right⟩

/-- An ordinary name of a field or an argument can be given if it can be assigned. -/
theorem bindable_iff_ne_debugName {name : String} (ordinary : Bindable name ∨ name = debugName) :
    Bindable name ↔ name ≠ debugName :=
  ⟨Bindable.assignable, ordinary.resolve_right⟩

/-- An import is accepted if it names no constant. -/
theorem Statement.isValid_importFrom_iff (entry : Import) :
    (importFrom entry).isValid = true ↔ ∀ name ∈ entry.names, name ∉ constantWords := by
  simp [isValid]

/-- A class is accepted if its name is no constant and all its lines can be assigned. -/
theorem Statement.isValid_classDefinition_iff (definition : ClassDefinition) :
    (classDefinition definition).isValid = true ↔ definition.name ∉ constantWords ∧
      ∀ name ∈ definition.body.flatMap Line.given, name ≠ debugName := by
  simp only [isValid, Bool.and_eq_true, List.all_eq_true, Bool.not_eq_true', List.contains_eq_mem,
    decide_eq_false_iff_not, List.forall_mem_flatMap]
  refine and_congr_right fun _ => forall₂_congr fun line _ => ?_
  cases line <;> simp [Line.given]

/-- A handler is accepted if all its arguments can be assigned. -/
theorem Statement.isValid_function_iff (definition : FunctionDefinition) :
    (function definition).isValid = true ↔
      ∀ argument ∈ definition.arguments, argument.name ≠ debugName := by
  simp [isValid]

/-- An ordinary statement is accepted exactly if all the names that it gives can be given. -/
theorem Statement.isValid_iff_of_ordinary {statement : Statement} (ordinary : statement.Ordinary) :
    statement.isValid = true ↔ ∀ name ∈ statement.given, Bindable name := by
  cases statement with
  | line single =>
      have assignable : ∀ name ∈ single.given, name ≠ debugName :=
        fun name member => (ordinary name member).assignable
      refine iff_of_true ?_ ordinary
      cases single with
      | annotated name type value | assignment name value =>
          exact bne_iff_ne.mpr (assignable name (List.mem_singleton_self name))
      | documentation | expression | raise | pass => rfl
  | importFrom entry =>
      rw [isValid_importFrom_iff]
      exact forall₂_congr fun name member =>
        (bindable_iff_notMem_constantWords (ordinary name member)).symm
  | classDefinition definition =>
      rw [isValid_classDefinition_iff, given, List.forall_mem_cons,
        bindable_iff_notMem_constantWords ordinary.1]
      refine and_congr_right fun _ => forall₂_congr fun name member => ?_
      exact (bindable_iff_ne_debugName (ordinary.2 name member)).symm
  | function definition =>
      rw [isValid_function_iff, given, List.forall_mem_cons, and_iff_right ordinary.1,
        List.forall_mem_map]
      exact forall₂_congr fun argument member =>
        (bindable_iff_ne_debugName (ordinary.2.1 _ (List.mem_map_of_mem member))).symm

/-! ## The statements of modules -/

/-- Arguments with different names are legal in the order of a handler.  Only those that may be
absent have a default. -/
theorem argumentsLegal_orderedArguments {arguments : List ArgumentCode}
    (distinct : (arguments.map ArgumentCode.name).Nodup) :
    ArgumentsLegal (orderedArguments arguments) := by
  constructor
  · have names : (orderedArguments arguments).map Argument.name =
        (arguments.filter ArgumentCode.mandatory ++
          arguments.filter fun argument => !argument.mandatory).map ArgumentCode.name := by
      rw [orderedArguments, List.map_map]
      rfl
    have perm := List.filter_append_perm ArgumentCode.mandatory arguments
    rw [names, (perm.map ArgumentCode.name).nodup_iff]
    exact distinct
  · rw [orderedArguments, List.pairwise_map, List.pairwise_append]
    have given : ∀ argument ∈ arguments.filter ArgumentCode.mandatory,
        argument.argument.default.isSome = false := by
      intro argument member
      simp [ArgumentCode.argument, (List.mem_filter.mp member).2]
    have absent : ∀ argument ∈ arguments.filter fun argument => !argument.mandatory,
        argument.argument.default.isSome = true := by
      intro argument member
      have optional : argument.mandatory = false := by simpa using (List.mem_filter.mp member).2
      simp [ArgumentCode.argument, optional]
    refine ⟨?_, ?_, ?_⟩
    · apply List.pairwise_of_forall_mem_list
      intro first isFirst second _ hasDefault
      rw [given first isFirst] at hasDefault
      cases hasDefault
    · apply List.pairwise_of_forall_mem_list
      exact fun _ _ second isSecond _ => absent second isSecond
    · exact fun _ _ second isSecond _ => absent second isSecond

theorem ordinary_of_handler {operation : Operation} {arguments : List ArgumentCode}
    {code : HandlerCode} (made : code.MadeOf service operation arguments) :
    (Statement.function code.definition).Ordinary := by
  refine ⟨bindable_handlerName made.isName, ?_, ?_⟩
  · rw [List.forall_mem_map, made.ordered, forall_mem_orderedArguments_iff]
    intro argument isArgument
    change Bindable argument.name ∨ argument.name = debugName
    obtain ⟨part, _, isBuilt⟩ := Entries.exists_left_of_forall₂ made.pairs isArgument
    cases isArgument_of_partArgument isBuilt with
    | parameter isName spelled => exact bindable_of_fieldName? isName
    | rawBody isTarget isRaw => exact Or.inl (show Bindable "request" by decide)
    | body spelled => exact Or.inl (show Bindable Field.bodyName by decide)
  · rw [made.ordered]
    exact argumentsLegal_orderedArguments made.distinct

/-- The names of classes are those of structs, and of inputs and outputs. -/
theorem Module.HasClass.bindable {name : String} {fields : List Field}
    (hasClass : module.HasClass service options name fields) :
    Bindable name ∨ name ∈ constantWords := by
  rcases hasClass with ⟨_, entry, _, _, rfl, _⟩ | ⟨operation, ⟨_, rfl, _⟩ | ⟨_, rfl, _⟩⟩
  · exact bindable_typeName entry.1
  · exact Or.inl (bindable_operationTypeName operation.id).1
  · exact Or.inl (bindable_operationTypeName operation.id).2

/-- The lines of a class give the names of its fields, and that of its settings. -/
theorem ClassCode.MadeOf.cases_of_mem_given {name : String} {fields : List Field}
    {codes : List FieldCode} {code : ClassCode} (made : code.MadeOf service name fields codes)
    {line : Line} (isLine : line ∈ code.definition.body) {given : String}
    (member : given ∈ line.given) :
    given = "model_config" ∨ ∃ field ∈ codes, given = field.name := by
  obtain ⟨documentation, inBody⟩ := made.isBody
  rcases inBody line isLine with rfl | isDocumentation | isSettings | ⟨field, isField, rfl⟩
  · cases member
  · unfold documentationLine at isDocumentation
    split at isDocumentation
    · cases isDocumentation
    · split at isDocumentation
      · cases isDocumentation
      · obtain rfl := List.mem_singleton.mp isDocumentation
        cases member
  · unfold settingsLine at isSettings
    split at isSettings
    · cases isSettings
    · obtain rfl := List.mem_singleton.mp isSettings
      exact Or.inl (List.mem_singleton.mp member)
  · exact Or.inr ⟨field, isField, List.mem_singleton.mp member⟩

theorem ordinary_of_class {name : String} {fields : List Field} {codes : List FieldCode}
    {code : ClassCode} (hasClass : module.HasClass service options name fields)
    (made : code.MadeOf service name fields codes) :
    (Statement.classDefinition code.definition).Ordinary := by
  refine ⟨made.isName ▸ hasClass.bindable, ?_⟩
  rw [List.forall_mem_flatMap]
  intro line isLine given member
  rcases made.cases_of_mem_given isLine member with rfl | ⟨field, isField, rfl⟩
  · exact Or.inl (by decide)
  · obtain ⟨_, _, _, madeField⟩ := Entries.exists_left_of_forall₂ made.pairs isField
    exact bindable_of_fieldName? madeField.isName

/-- The lines of the table of routes give the name of the table only. -/
theorem given_of_mem_routeLines {lines : List Line} (areLines : routeLines service = .ok lines) :
    ∀ line ∈ lines, ∀ name ∈ line.given, name = routerName := by
  obtain ⟨routes, areRoutes, wrapped⟩ := Outcome.bind_eq_ok_iff.mp areLines
  cases wrapped
  rw [List.forall_mem_cons]
  constructor
  · exact fun name member => List.mem_singleton.mp member
  · intro line isLine name member
    obtain ⟨operation, _, isBuilt⟩ :=
      Entries.exists_left_of_forall₂ (Outcome.mapM_eq_ok_iff.mp areRoutes) isLine
    obtain ⟨_, _, isRoute⟩ := Outcome.bind_eq_ok_iff.mp isBuilt
    cases isRoute
    cases member

/-- All statements of a module are ordinary. -/
theorem Module.ordinary_of_mem_statements {document : Document}
    (built : document.service = .ok service) {code : ModuleCode}
    (isCode : module.code service options = .ok code) :
    ∀ statement ∈ code.statements, statement.Ordinary := by
  obtain ⟨classes, codes, lines, made⟩ := Module.exists_madeOf isCode
  intro statement member
  rcases ModuleCode.cases_of_mem_statements member with ⟨text, rfl⟩ | ⟨entry, rfl⟩ | inBody
  · exact fun name impossible => nomatch impossible
  · have listed : ∀ name ∈ templateTypes ++ templateNames, Bindable name := by
      decide
    intro name isImported
    have inCode : name ∈ code.importedNames := List.mem_flatMap.mpr ⟨_, member, isImported⟩
    rcases made.cases_of_mem_importedNames built inCode with isType | isName | ⟨isRoutes, isStruct⟩
    · exact Or.inl (listed name (List.mem_append_left _ isType))
    · exact Or.inl (listed name (List.mem_append_right _ isName))
    · rcases made.areParts with ⟨_, areHandlers, _⟩ | ⟨noRoutes, _⟩
      · rcases structs_of_handlers areHandlers name isStruct with isTypeName | ⟨operation, _, rfl⟩
        · obtain ⟨entry, _, rfl⟩ := List.mem_map.mp isTypeName
          exact bindable_typeName entry.1
        · exact Or.inl (bindable_operationTypeName operation.id).2
      · rw [isRoutes] at noRoutes
        cases noRoutes
  · rcases (made.mem_body_iff statement).mp inBody with
      ⟨given, isClass, rfl⟩ | ⟨handler, isHandler, rfl⟩ | ⟨line, isLine, rfl⟩ | ⟨names, _, rfl⟩
    · obtain ⟨_, _, _, hasClass, madeClass⟩ := made.exists_madeOf_of_mem_classes built given isClass
      exact ordinary_of_class hasClass madeClass
    · obtain ⟨_, _, _, madeHandler⟩ := made.exists_madeOf_of_mem_codes handler isHandler
      exact ordinary_of_handler madeHandler
    · rcases made.areParts with ⟨_, _, areLines⟩ | ⟨_, _, rfl⟩
      · intro name isGiven
        rw [given_of_mem_routeLines areLines line isLine name isGiven]
        decide
      · cases isLine
    · intro name isGiven
      rw [List.mem_singleton.mp isGiven]
      decide

end ApiScaffold.PythonCode

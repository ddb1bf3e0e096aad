import ApiScaffold.Emission.PythonModule
import ApiScaffold.Proofs.Outcome
import ApiScaffold.Proofs.Service.UniqueTypeNames

/-!
# Names that Python code uses

The names that an expression or a statement uses, imports, binds and offers.  Code is put
together with the imports that it needs and the names of the structs that it mentions: every
name that an annotation, a class or a handler uses is built in, is among its imports, or is the
type name of a struct.
-/

namespace ApiScaffold.PythonCode

/-! ## Names in a tree -/

/-- The names that every program knows, as far as generated code uses them. -/
def builtinNames : List String :=
  ["bool", "bytes", "dict", "float", "int", "list", "str", "NotImplementedError"]

namespace Expression

mutual

/-- The names that an expression uses. -/
def names : Expression → List String
  | .name identifier => [identifier]
  | .none | .true | .integer _ | .text _ => []
  | .list items => namesOfEach items
  | .member owner _ => [owner]
  | .generic base arguments => base :: namesOfEach arguments
  | .either first second => names first ++ names second
  | .call function arguments keywords =>
      names function ++ namesOfEach arguments ++ namesOfKeywords keywords
termination_by structural expression => expression

/-- The names that expressions use. -/
def namesOfEach : List Expression → List String
  | [] => []
  | expression :: rest => names expression ++ namesOfEach rest
termination_by structural expressions => expressions

/-- The names that the values of keyword arguments use. -/
def namesOfKeywords : List (String × Expression) → List String
  | [] => []
  | (_, value) :: rest => names value ++ namesOfKeywords rest
termination_by structural keywords => keywords

end

theorem mem_namesOfEach_iff {expressions : List Expression} {name : String} :
    name ∈ namesOfEach expressions ↔ ∃ expression ∈ expressions, name ∈ expression.names := by
  induction expressions with
  | nil => simp [namesOfEach]
  | cons expression rest ih => simp [namesOfEach, ih]

theorem mem_namesOfKeywords_iff {keywords : List (String × Expression)} {name : String} :
    name ∈ namesOfKeywords keywords ↔ ∃ keyword ∈ keywords, name ∈ keyword.2.names := by
  induction keywords with
  | nil => simp [namesOfKeywords]
  | cons keyword rest ih => simp [namesOfKeywords, ih]

/-- The text that an expression is, if it is one. -/
def text? : Expression → Option String
  | .text value => some value
  | _ => Option.none

end Expression

/-- The names that a line uses. -/
def Line.names : Line → List String
  | .documentation _ | .pass => []
  | .annotated _ type value => type.names ++ (value.map Expression.names).getD []
  | .assignment _ value | .expression value | .raise value => value.names

/-- The names that a parameter of a function uses. -/
def Argument.names (argument : Argument) : List String :=
  argument.type.names ++ (argument.default.map Expression.names).getD []

namespace Statement

/-- The names that a statement uses: in annotations, base classes, results, calls and values. -/
def names : Statement → List String
  | .line single => single.names
  | .importFrom _ => []
  | .classDefinition definition => definition.base :: definition.body.flatMap Line.names
  | .function definition =>
      definition.arguments.flatMap Argument.names ++
        definition.result :: definition.body.flatMap Line.names

/-- The names that a statement imports. -/
def imported : Statement → List String
  | .importFrom statement => statement.names
  | _ => []

/-- The names that a statement binds in its module. -/
def bound : Statement → List String
  | .classDefinition definition => [definition.name]
  | .function definition => [definition.name]
  | .line (.assignment name _) => [name]
  | _ => []

/-- The names that a statement lists as those that its module offers. -/
def exported : Statement → List String
  | .line (.assignment name (.list items)) =>
      if name = "__all__" then items.filterMap Expression.text? else []
  | _ => []

end Statement

/-! ## Where names come from -/

/-- A name that is built in, that is among some imports, or that is one of the given names. -/
def Known (imports : List (String × String)) (others : List String) (name : String) : Prop :=
  name ∈ builtinNames ∨ name ∈ imports.map Prod.snd ∨ name ∈ others

theorem Known.mono {imports more : List (String × String)} {others further : List String}
    {name : String} (known : Known imports others name)
    (wider : ∀ entry ∈ imports, entry ∈ more) (longer : ∀ other ∈ others, other ∈ further) :
    Known more further name := by
  rcases known with isBuiltin | isImported | isOther
  · exact Or.inl isBuiltin
  · obtain ⟨entry, member, rfl⟩ := List.mem_map.mp isImported
    exact Or.inr (Or.inl (List.mem_map_of_mem (wider entry member)))
  · exact Or.inr (Or.inr (longer name isOther))

/-- An annotation that comes with the imports of its names and with the names of its structs. -/
structure TypeCode.Supplied (typeNames : List String) (type : TypeCode) : Prop where
  known : ∀ name ∈ type.expression.names, Known type.imports type.structs name
  structs : ∀ name ∈ type.structs, name ∈ typeNames

namespace TypeCode

variable {typeNames : List String} {type : TypeCode}

theorem supplied_builtin {name : String} (isBuiltin : name ∈ builtinNames) :
    (builtin name).Supplied typeNames := by
  constructor
  · intro other member
    obtain rfl := List.mem_singleton.mp member
    exact Or.inl isBuiltin
  · simp [builtin]

theorem supplied_imported (module name : String) :
    (imported module name).Supplied typeNames := by
  constructor
  · intro other member
    obtain rfl := List.mem_singleton.mp member
    exact Or.inr (Or.inl (by simp [imported]))
  · simp [imported]

/-- An annotation may be put into another one that is built in or imported. -/
theorem Supplied.wrap (supplied : type.Supplied typeNames) {expression : Expression}
    {imports : List (String × String)}
    (uses : ∀ name ∈ expression.names, name ∈ builtinNames ∨ name ∈ imports.map Prod.snd ∨
      name ∈ type.expression.names) :
    Supplied typeNames ⟨expression, type.imports ++ imports, type.structs⟩ := by
  refine ⟨?_, supplied.structs⟩
  intro name member
  rcases uses name member with isBuiltin | isImported | inside
  · exact Or.inl isBuiltin
  · exact Or.inr (Or.inl (by simp only [List.map_append, List.mem_append, isImported, or_true]))
  · exact (supplied.known name inside).mono (fun _ => List.mem_append_left _) fun _ => id

theorem Supplied.inside (supplied : type.Supplied typeNames) {wrap : Expression → Expression}
    (uses : ∀ name ∈ (wrap type.expression).names, name ∈ builtinNames ∨
      name ∈ type.expression.names) : (type.inside wrap).Supplied typeNames := by
  have wrapped : Supplied typeNames ⟨wrap type.expression, type.imports ++ [], type.structs⟩ :=
    supplied.wrap fun name member => (uses name member).imp_right Or.inr
  rwa [List.append_nil] at wrapped

theorem Supplied.optional (supplied : type.Supplied typeNames) :
    type.optional.Supplied typeNames :=
  supplied.inside fun name member => Or.inr (by simpa [Expression.names] using member)

theorem Supplied.list (supplied : type.Supplied typeNames) :
    (type.inside fun item => .generic "list" [item]).Supplied typeNames := by
  apply supplied.inside
  intro name member
  simp only [Expression.names, Expression.namesOfEach, List.append_nil, List.mem_cons] at member
  rcases member with rfl | inside
  · exact Or.inl (by decide)
  · exact Or.inr inside

theorem Supplied.dict (supplied : type.Supplied typeNames) :
    (type.inside fun item => .generic "dict" [.name "str", item]).Supplied typeNames := by
  apply supplied.inside
  intro name member
  simp only [Expression.names, Expression.namesOfEach, List.append_nil, List.mem_cons,
    List.mem_append, List.not_mem_nil, or_false] at member
  rcases member with rfl | rfl | inside
  · exact Or.inl (by decide)
  · exact Or.inl (by decide)
  · exact Or.inr inside

theorem Supplied.iterator (supplied : type.Supplied typeNames) :
    ((type.inside fun item => .generic "AsyncIterator" [item]).importing
      [("collections.abc", "AsyncIterator")]).Supplied typeNames := by
  apply supplied.wrap
  intro name member
  change name ∈ Expression.names (.generic "AsyncIterator" [type.expression]) at member
  simp only [Expression.names, Expression.namesOfEach, List.append_nil, List.mem_cons] at member
  rcases member with rfl | inside
  · exact Or.inr (Or.inl (by simp))
  · exact Or.inr (Or.inr inside)

/-- A marker is imported together with the annotation that holds it. -/
theorem Supplied.marked (supplied : type.Supplied typeNames) (marker : String)
    {keywords : List (String × Expression)}
    (plain : ∀ keyword ∈ keywords, keyword.2.names = []) :
    (type.marked marker keywords).Supplied typeNames := by
  apply supplied.wrap
  intro name member
  change name ∈ Expression.names
    (.generic "Annotated" [type.expression, .call (.name marker) [] keywords]) at member
  simp only [Expression.names, Expression.namesOfEach, List.append_nil, List.mem_cons,
    List.mem_append, List.not_mem_nil, or_false, Expression.mem_namesOfKeywords_iff] at member
  rcases member with rfl | inside | rfl | ⟨keyword, isKeyword, inValue⟩
  · exact Or.inr (Or.inl (by simp))
  · exact Or.inr (Or.inr inside)
  · exact Or.inr (Or.inl (by simp))
  · rw [plain keyword isKeyword] at inValue
    cases inValue

end TypeCode

/-! ## Types -/

theorem supplied_primitiveTypeCode {typeNames : List String} {kind : ModelKind}
    {type : TypeCode} (isType : primitiveTypeCode? kind = some type) :
    type.Supplied typeNames := by
  cases kind <;> cases isType <;>
    first
    | exact TypeCode.supplied_imported _ _
    | exact TypeCode.supplied_builtin (by decide)

theorem supplied_bytesTypeCode {typeNames : List String} : bytesTypeCode.Supplied typeNames :=
  TypeCode.supplied_builtin (by decide)

section TypeCodeWith

variable {typeNames : List String} {expand : Option String → Outcome TypeCode}

mutual

/-- An annotation is supplied if those of references are. -/
theorem supplied_typeCodeWith
    (expands : ∀ name type, expand name = .ok type → type.Supplied typeNames)
    (model : Model) {type : TypeCode} (spelled : typeCodeWith expand model = .ok type) :
    type.Supplied typeNames := by
  obtain ⟨kind, element, properties, name, description⟩ := model
  cases primitive : primitiveTypeCode? kind with
  | some known =>
      simp only [typeCodeWith, primitive, Except.ok.injEq] at spelled
      exact spelled ▸ supplied_primitiveTypeCode primitive
  | none =>
      cases kind with
      | array =>
          simp only [typeCodeWith, primitiveTypeCode?] at spelled
          obtain ⟨⟨isByte, item⟩, isItem, wrapped⟩ := Outcome.bind_eq_ok_iff.mp spelled
          have supplied := supplied_elementTypeCode expands element isItem
          cases isByte with
          | true =>
              cases wrapped
              exact supplied_bytesTypeCode
          | false =>
              cases wrapped
              exact supplied.list
      | map =>
          simp only [typeCodeWith, primitiveTypeCode?] at spelled
          obtain ⟨⟨isByte, item⟩, isItem, wrapped⟩ := Outcome.bind_eq_ok_iff.mp spelled
          cases wrapped
          exact (supplied_elementTypeCode expands element isItem).dict
      | iterator =>
          simp only [typeCodeWith, primitiveTypeCode?] at spelled
          obtain ⟨⟨isByte, item⟩, isItem, wrapped⟩ := Outcome.bind_eq_ok_iff.mp spelled
          have supplied := supplied_elementTypeCode expands element isItem
          cases isByte with
          | true =>
              cases wrapped
              exact supplied_bytesTypeCode.iterator
          | false =>
              cases wrapped
              exact supplied.iterator
      | reference =>
          simp only [typeCodeWith, primitiveTypeCode?] at spelled
          exact expands name type spelled
      | struct | enum => cases spelled
      | _ => cases primitive
termination_by structural model

theorem supplied_elementTypeCode
    (expands : ∀ name type, expand name = .ok type → type.Supplied typeNames)
    (element : Option Model) {isByte : Bool} {type : TypeCode}
    (spelled : elementTypeCode expand element = .ok (isByte, type)) :
    type.Supplied typeNames := by
  match element with
  | none => cases spelled
  | some element =>
      rw [elementTypeCode] at spelled
      obtain ⟨item, isItem, wrapped⟩ := Outcome.bind_eq_ok_iff.mp spelled
      cases wrapped
      exact supplied_typeCodeWith expands element isItem
termination_by structural element

end

end TypeCodeWith

variable {service : Service}

/-- A struct that is found has one of the type names of the structs. -/
theorem mem_structTypeNames_of_model {name : Option String} {target : Model}
    (found : service.model name = .ok target) (isStruct : target.isStruct = true) :
    Naming.typeName (name.getD "") ∈ service.structTypeNames := by
  unfold Service.model at found
  cases known : name.bind service.models.get? with
  | none =>
      rw [known] at found
      cases found
  | some model =>
      rw [known] at found
      obtain rfl := Except.ok.inj found
      obtain ⟨key, rfl, isModel⟩ := Option.bind_eq_some_iff.mp known
      have inStructs : (key, model) ∈ service.models.filter fun entry => entry.2.isStruct :=
        List.mem_filter.mpr ⟨Entries.mem_of_get? isModel, isStruct⟩
      exact List.mem_map.mpr ⟨(key, model), inStructs, rfl⟩

theorem supplied_referenceTypeCode (steps : Nat) {name : Option String} {type : TypeCode}
    (spelled : referenceTypeCode service steps name = .ok type) :
    type.Supplied service.structTypeNames := by
  induction steps generalizing name type with
  | zero => cases spelled
  | succ steps ih =>
      rw [referenceTypeCode] at spelled
      obtain ⟨target, found, expanded⟩ := Outcome.bind_eq_ok_iff.mp spelled
      by_cases isStruct : target.isStruct = true
      · rw [if_pos isStruct] at expanded
        cases expanded
        constructor
        · exact fun other member => Or.inr (Or.inr member)
        · intro other member
          obtain rfl := List.mem_singleton.mp member
          exact mem_structTypeNames_of_model found isStruct
      · rw [if_neg isStruct] at expanded
        exact supplied_typeCodeWith (fun _ _ => ih) target expanded

/-- Every annotation of a service is supplied. -/
theorem supplied_typeCode {model : Model} {type : TypeCode}
    (spelled : typeCode service model = .ok type) : type.Supplied service.structTypeNames :=
  supplied_typeCodeWith (fun _ _ => supplied_referenceTypeCode _) model spelled

/-! ## Classes -/

/-- What a field is made of: an annotation, which may be optional, and plain keywords. -/
theorem fieldCode_spec {field : Field} {code : FieldCode}
    (built : fieldCode service field = .ok code) :
    ∃ type, typeCode service field.model = .ok type ∧
      (code.type = type.expression ∨ code.type = .either type.expression .none) ∧
        (∀ keyword ∈ code.keywords, keyword.2.names = []) ∧
          code.imports = type.imports ++
            (if code.keywords.isEmpty then [] else [("pydantic", "Field")]) := by
  obtain ⟨type, spelled, more⟩ := Outcome.bind_eq_ok_iff.mp built
  obtain ⟨legal, _, wrapped⟩ := Outcome.bind_eq_ok_iff.mp more
  cases wrapped
  refine ⟨type, spelled, ?_, ?_, rfl⟩
  · cases field.mandatory with
    | true => exact Or.inl rfl
    | false => exact Or.inr rfl
  · intro keyword member
    simp only [List.mem_append] at member
    rcases member with (isDefault | isAlias) | isDescription
    · split at isDefault
      · cases isDefault
      · rw [List.mem_singleton.mp isDefault]
        rfl
    · split at isAlias
      · rw [List.mem_singleton.mp isAlias]
        rfl
      · cases isAlias
    · unfold textKeyword at isDescription
      split at isDescription
      · cases isDescription
      · split at isDescription
        · cases isDescription
        · rw [List.mem_singleton.mp isDescription]
          rfl

/-- The names that the line of a field uses are known. -/
theorem known_of_fieldCode {field : Field} {code : FieldCode}
    (built : fieldCode service field = .ok code) :
    ∀ name ∈ code.line.names, Known code.imports service.structTypeNames name := by
  obtain ⟨type, spelled, isType, plain, imports⟩ := fieldCode_spec built
  have supplied := supplied_typeCode spelled
  intro name member
  rw [imports]
  rcases List.mem_append.mp member with inType | inValue
  · have inExpression : name ∈ type.expression.names := by
      rcases isType with same | optional
      · exact same ▸ inType
      · simpa [optional, Expression.names] using inType
    exact (supplied.known name inExpression).mono (fun _ => List.mem_append_left _)
      supplied.structs
  · by_cases noKeywords : code.keywords.isEmpty = true
    · simp [noKeywords] at inValue
    · simp only [noKeywords, Bool.false_eq_true, if_false, Option.map_some, Option.getD_some,
        Expression.names, Expression.namesOfEach, List.append_nil, List.mem_append,
        List.mem_singleton, Expression.mem_namesOfKeywords_iff] at inValue
      rcases inValue with rfl | ⟨keyword, isKeyword, inKeyword⟩
      · exact Or.inr (Or.inl (by simp [noKeywords]))
      · rw [plain keyword isKeyword] at inKeyword
        cases inKeyword

theorem exists_fieldCode_of_mem {owner : String} {seen : List String} {fields : List Field}
    {codes : List FieldCode} (built : fieldCodes service owner seen fields = .ok codes) :
    ∀ code ∈ codes, ∃ field, fieldCode service field = .ok code := by
  induction fields generalizing seen codes with
  | nil =>
      cases built
      simp
  | cons field rest ih =>
      rw [fieldCodes] at built
      obtain ⟨code, first, more⟩ := Outcome.bind_eq_ok_iff.mp built
      split at more
      · cases more
      · obtain ⟨others, later, wrapped⟩ := Outcome.bind_eq_ok_iff.mp more
        cases wrapped
        rw [List.forall_mem_cons]
        exact ⟨⟨field, first⟩, ih later⟩

theorem names_of_documentationLine {documentation : Option String} :
    ∀ line ∈ documentationLine documentation, line.names = [] := by
  intro line member
  unfold documentationLine at member
  split at member
  · cases member
  · split at member
    · cases member
    · rw [List.mem_singleton.mp member]
      rfl

/-- A line of settings uses the name of their constructor. -/
theorem names_of_settingsLine {settings : List String} :
    ∀ line ∈ settingsLine settings, settings.isEmpty = false ∧
      ∀ name ∈ line.names, name = "ConfigDict" := by
  intro line member
  by_cases noSettings : settings.isEmpty = true
  · simp [settingsLine, noSettings] at member
  · refine ⟨eq_false_of_ne_true noSettings, fun name used => ?_⟩
    simp only [settingsLine, noSettings, Bool.false_eq_true, if_false, List.mem_singleton] at member
    subst member
    simp only [Line.names, Expression.names, Expression.namesOfEach, List.append_nil,
      List.mem_append, List.mem_singleton, Expression.mem_namesOfKeywords_iff,
      List.mem_map] at used
    rcases used with isConstructor | ⟨_, ⟨setting, _, rfl⟩, impossible⟩
    · exact isConstructor
    · cases impossible

/-- A class with a name, whose other names are known. -/
structure ClassCode.Supplied (typeNames : List String) (name : String) (code : ClassCode) :
    Prop where
  isName : code.definition.name = name
  known : ∀ other ∈ (Statement.classDefinition code.definition).names,
    Known code.imports typeNames other

theorem supplied_classCode {name : String} {fields : List Field}
    {documentation : Option String} {code : ClassCode}
    (built : classCode service name fields documentation = .ok code) :
    code.Supplied service.structTypeNames name := by
  obtain ⟨codes, isCodes, wrapped⟩ := Outcome.bind_eq_ok_iff.mp built
  have fieldsKnown := exists_fieldCode_of_mem isCodes
  cases wrapped
  refine ⟨rfl, ?_⟩
  simp only [Statement.names, List.forall_mem_cons, List.forall_mem_flatMap]
  refine ⟨Or.inr (Or.inl (by simp)), ?_⟩
  intro line member other used
  have inBody : line ∈ documentationLine documentation ++ settingsLine (settingsOf codes) ++
      codes.map FieldCode.line := by
    split at member
    · obtain rfl := List.mem_singleton.mp member
      cases used
    · exact member
  simp only [List.mem_append, List.mem_map] at inBody
  rcases inBody with (isDocumentation | isSettings) | ⟨code, isCode, rfl⟩
  · rw [names_of_documentationLine line isDocumentation] at used
    cases used
  · obtain ⟨hasSettings, isConstructor⟩ := names_of_settingsLine line isSettings
    obtain rfl := isConstructor other used
    exact Or.inr (Or.inl (by simp [hasSettings]))
  · obtain ⟨field, isField⟩ := fieldsKnown code isCode
    refine (known_of_fieldCode isField other used).mono ?_ fun _ => id
    intro entry isImport
    exact List.mem_append_left _ (List.mem_append_left _ (List.mem_flatMap.mpr
      ⟨code, isCode, isImport⟩))

/-- Every struct gets a class with its type name. -/
theorem forall₂_of_modelClasses {structs : List (String × Model)} {codes : List ClassCode}
    (isStructs : service.structs = .ok structs) (built : modelClasses service = .ok codes) :
    List.Forall₂ (fun entry code =>
      ClassCode.Supplied service.structTypeNames (Naming.typeName entry.1) code) structs codes := by
  rw [modelClasses, isStructs] at built
  exact (Outcome.mapM_eq_ok_iff.mp built).imp fun _ _ => supplied_classCode

/-- The classes of one operation: that of its input and that of its output. -/
def operationClassPair (service : Service) (operation : Operation) : Outcome (List ClassCode) := do
  let input ← inputClass service operation
  let output ← outputClass service operation
  pure [input, output]

theorem supplied_of_operationClassPair {operation : Operation} {codes : List ClassCode}
    (built : operationClassPair service operation = .ok codes) :
    (∀ code ∈ codes, ∃ name, code.Supplied service.structTypeNames name) ∧
      outputTypeName operation.id ∈ codes.map fun code => code.definition.name := by
  obtain ⟨input, isInput, more⟩ := Outcome.bind_eq_ok_iff.mp built
  obtain ⟨output, isOutput, wrapped⟩ := Outcome.bind_eq_ok_iff.mp more
  cases wrapped
  obtain ⟨_, _, inputBuilt⟩ := Outcome.bind_eq_ok_iff.mp isInput
  obtain ⟨_, _, outputBuilt⟩ := Outcome.bind_eq_ok_iff.mp isOutput
  have suppliedInput := supplied_classCode inputBuilt
  have suppliedOutput := supplied_classCode outputBuilt
  constructor
  · simp only [List.forall_mem_cons, List.not_mem_nil, false_imp_iff, implies_true, and_true]
    exact ⟨⟨_, suppliedInput⟩, ⟨_, suppliedOutput⟩⟩
  · simp [suppliedOutput.isName]

/-- Every operation gets a class for its output, and the names of all classes are known. -/
theorem supplied_of_operationClasses {codes : List ClassCode}
    (built : operationClasses service = .ok codes) :
    (∀ code ∈ codes, ∃ name, code.Supplied service.structTypeNames name) ∧
      ∀ operation ∈ service.operations,
        outputTypeName operation.id ∈ codes.map fun code => code.definition.name := by
  obtain ⟨pairs, each, wrapped⟩ := Outcome.bind_eq_ok_iff.mp built
  cases wrapped
  have steps : List.Forall₂ (fun operation pair => operationClassPair service operation = .ok pair)
      service.operations pairs := Outcome.mapM_eq_ok_iff.mp each
  constructor
  · intro code member
    obtain ⟨pair, isPair, inPair⟩ := List.mem_flatten.mp member
    obtain ⟨operation, _, isBuilt⟩ := Entries.exists_left_of_forall₂ steps isPair
    exact (supplied_of_operationClassPair isBuilt).1 code inPair
  · intro operation member
    obtain ⟨pair, isPair, isBuilt⟩ := Entries.exists_left_of_forall₂ steps.flip member
    obtain ⟨code, inPair, isName⟩ :=
      List.mem_map.mp (supplied_of_operationClassPair isBuilt).2
    exact List.mem_map.mpr ⟨code, List.mem_flatten.mpr ⟨pair, isPair, inPair⟩, isName⟩

/-! ## Handlers -/

/-- The annotation of a parameter is supplied, with its marker. -/
theorem supplied_parameterArgument {location : FieldLocation} {parameter : Parameter}
    {argument : ArgumentCode}
    (built : parameterArgument service location parameter = .ok argument) :
    argument.type.Supplied service.structTypeNames := by
  obtain ⟨legal, _, more⟩ := Outcome.bind_eq_ok_iff.mp built
  obtain ⟨type, spelled, wrapped⟩ := Outcome.bind_eq_ok_iff.mp more
  cases wrapped
  have supplied := supplied_typeCode spelled
  apply TypeCode.Supplied.marked
  · split
    · exact supplied
    · exact supplied.optional
  · intro keyword member
    split at member
    · cases member
    · rw [List.mem_singleton.mp member]
      rfl

theorem supplied_bodyArgument {body : Model} {argument : ArgumentCode}
    (built : bodyArgument service body = .ok argument) :
    argument.type.Supplied service.structTypeNames := by
  obtain ⟨target, _, more⟩ := Outcome.bind_eq_ok_iff.mp built
  split at more
  · cases more
    exact TypeCode.supplied_imported _ _
  · obtain ⟨type, spelled, wrapped⟩ := Outcome.bind_eq_ok_iff.mp more
    cases wrapped
    exact (supplied_typeCode spelled).marked _ (by simp)

theorem mem_of_distinctArguments {owner : String} {seen : List String}
    {arguments : List (Outcome ArgumentCode)} {codes : List ArgumentCode}
    (built : distinctArguments owner seen arguments = .ok codes) :
    ∀ code ∈ codes, .ok code ∈ arguments := by
  induction arguments generalizing seen codes with
  | nil =>
      cases built
      simp
  | cons argument rest ih =>
      rw [distinctArguments] at built
      obtain ⟨code, rfl, more⟩ := Outcome.bind_eq_ok_iff.mp built
      split at more
      · cases more
      · obtain ⟨others, later, wrapped⟩ := Outcome.bind_eq_ok_iff.mp more
        cases wrapped
        rw [List.forall_mem_cons]
        exact ⟨List.mem_cons_self, fun other member =>
          List.mem_cons_of_mem _ (ih later other member)⟩

theorem supplied_of_handlerArguments {owner : String} {input : OperationInput}
    {arguments : List ArgumentCode}
    (built : handlerArguments service owner input = .ok arguments) :
    ∀ argument ∈ arguments, argument.type.Supplied service.structTypeNames := by
  intro argument member
  have isArgument := mem_of_distinctArguments built argument member
  simp only [List.mem_append, List.mem_map] at isArgument
  rcases isArgument with ((⟨_, _, built⟩ | ⟨_, _, built⟩) | ⟨_, _, built⟩) | ⟨_, _, built⟩
  · exact supplied_parameterArgument built
  · exact supplied_parameterArgument built
  · exact supplied_parameterArgument built
  · exact supplied_bodyArgument built

/-- A handler that is named after its operation, whose other names are known, and which mentions
no structs but those of the service and the output of the operation. -/
structure HandlerCode.Supplied (service : Service) (operation : Operation) (code : HandlerCode) :
    Prop where
  isName : handlerName operation = .ok code.definition.name
  known : ∀ name ∈ (Statement.function code.definition).names,
    Known code.imports code.structs name
  structs : ∀ name ∈ code.structs,
    name ∈ service.structTypeNames ∨ name = outputTypeName operation.id

theorem names_argument (code : ArgumentCode) :
    code.argument.names = code.type.expression.names := by
  rw [ArgumentCode.argument, Argument.names]
  cases code.mandatory <;> simp [Expression.names]

theorem supplied_handlerCode {operation : Operation} {code : HandlerCode}
    (built : handlerCode service operation = .ok code) :
    HandlerCode.Supplied service operation code := by
  obtain ⟨name, isName, more⟩ := Outcome.bind_eq_ok_iff.mp built
  obtain ⟨arguments, areArguments, wrapped⟩ := Outcome.bind_eq_ok_iff.mp more
  have supplied := supplied_of_handlerArguments areArguments
  have known : ∀ argument ∈ arguments, ∀ other ∈ argument.argument.names,
      Known (arguments.flatMap fun argument => argument.type.imports)
        ((arguments.flatMap fun argument => argument.type.structs) ++
          [outputTypeName operation.id]) other := by
    intro argument member other used
    rw [names_argument] at used
    refine ((supplied argument member).known other used).mono ?_ ?_
    · exact fun entry isImport => List.mem_flatMap.mpr ⟨argument, member, isImport⟩
    · exact fun struct isStruct => List.mem_append_left _
        (List.mem_flatMap.mpr ⟨argument, member, isStruct⟩)
  rw [List.partition_eq_filter_filter] at wrapped
  cases wrapped
  refine ⟨isName, ?_, ?_⟩
  · simp only [Statement.names, List.map_append, List.forall_mem_append, List.forall_mem_cons,
      List.forall_mem_flatMap, List.forall_mem_map]
    refine ⟨⟨?_, ?_⟩, Or.inr (Or.inr (by simp)), ?_⟩
    · exact fun argument member => known argument (List.mem_of_mem_filter member)
    · exact fun argument member => known argument (List.mem_of_mem_filter member)
    · simp only [Line.names, Expression.names, Expression.namesOfEach, Expression.namesOfKeywords,
        List.append_nil, List.mem_singleton, List.not_mem_nil, forall_eq, false_imp_iff,
        implies_true, and_true, true_and]
      exact Or.inl (by decide)
  · intro other member
    rcases List.mem_append.mp member with inArguments | isOutput
    · obtain ⟨argument, isArgument, isStruct⟩ := List.mem_flatMap.mp inArguments
      exact Or.inl ((supplied argument isArgument).structs other isStruct)
    · exact Or.inr (List.mem_singleton.mp isOutput)

/-- Every operation gets a handler. -/
theorem forall₂_of_handlerCodes {seen : List String} {operations : List Operation}
    {codes : List HandlerCode} (built : handlerCodes service seen operations = .ok codes) :
    List.Forall₂ (HandlerCode.Supplied service) operations codes := by
  induction operations generalizing seen codes with
  | nil =>
      cases built
      exact .nil
  | cons operation rest ih =>
      rw [handlerCodes] at built
      obtain ⟨code, first, more⟩ := Outcome.bind_eq_ok_iff.mp built
      dsimp only at more
      split at more
      · cases more
      · obtain ⟨others, later, wrapped⟩ := Outcome.bind_eq_ok_iff.mp more
        cases wrapped
        exact .cons (supplied_handlerCode first) (ih later)

/-! ## Routes -/

theorem names_list_text (texts : List String) :
    (Expression.list (texts.map .text)).names = [] := by
  rw [Expression.names, List.eq_nil_iff_forall_not_mem]
  intro name used
  obtain ⟨item, member, inItem⟩ := Expression.mem_namesOfEach_iff.mp used
  obtain ⟨text, _, rfl⟩ := List.mem_map.mp member
  cases inItem

theorem names_of_statusKeywords {code : Option Int} :
    ∀ keyword ∈ statusKeywords code, keyword.2.names = [] := by
  intro keyword member
  cases code with
  | none => cases member
  | some code =>
      rcases List.mem_cons.mp member with rfl | bodyless
      · rfl
      · split at bodyless
        · rw [List.mem_singleton.mp bodyless]
          rfl
        · cases bodyless

/-- The line of a route uses the table of routes and the name of a handler. -/
theorem names_of_routeLine {operation : Operation} {line : Line}
    (built : routeLine operation = .ok line) :
    ∀ name ∈ line.names, name = routerName ∨ handlerName operation = .ok name := by
  obtain ⟨handler, isHandler, wrapped⟩ := Outcome.bind_eq_ok_iff.mp built
  cases wrapped
  intro name used
  simp only [Line.names, Expression.names, Expression.namesOfEach, List.nil_append,
    List.append_nil, List.mem_append, List.mem_singleton,
    Expression.mem_namesOfKeywords_iff] at used
  rcases used with (rfl | rfl) | ⟨keyword, member, inValue⟩
  · exact Or.inl rfl
  · exact Or.inr isHandler
  · have plain : keyword.2.names = [] := by
      rcases member with (isFixed | isStatus) | isTags
      · rcases List.mem_cons.mp isFixed with rfl | isIdentifier
        · exact names_list_text [Text.upperText operation.method]
        · rw [List.mem_singleton.mp isIdentifier]
          rfl
      · exact names_of_statusKeywords keyword isStatus
      · split at isTags
        · cases isTags
        · rw [List.mem_singleton.mp isTags]
          exact names_list_text operation.tags
    rw [plain] at inValue
    cases inValue

/-- The lines of the routes make the table of routes and offer nothing. -/
theorem bound_of_routeLines {lines : List Line} (built : routeLines service = .ok lines) :
    routerName ∈ (lines.map Statement.line).flatMap Statement.bound ∧
      ∀ line ∈ lines, (Statement.line line).exported = [] := by
  obtain ⟨routes, areRoutes, wrapped⟩ := Outcome.bind_eq_ok_iff.mp built
  cases wrapped
  refine ⟨by simp [Statement.bound], ?_⟩
  rw [List.forall_mem_cons]
  refine ⟨rfl, fun line member => ?_⟩
  obtain ⟨operation, _, isRoute⟩ :=
    Entries.exists_left_of_forall₂ (Outcome.mapM_eq_ok_iff.mp areRoutes) member
  obtain ⟨_, _, made⟩ := Outcome.bind_eq_ok_iff.mp isRoute
  cases made
  rfl

/-- The lines of the routes use the table of routes, its constructor and the names of handlers. -/
theorem names_of_routeLines {lines : List Line} (built : routeLines service = .ok lines) :
    ∀ line ∈ lines, ∀ name ∈ line.names, name = "APIRouter" ∨ name = routerName ∨
      ∃ operation ∈ service.operations, handlerName operation = .ok name := by
  obtain ⟨routes, areRoutes, wrapped⟩ := Outcome.bind_eq_ok_iff.mp built
  cases wrapped
  rw [List.forall_mem_cons]
  constructor
  · intro name used
    exact Or.inl (by simpa [Line.names, Expression.names, Expression.namesOfEach,
      Expression.namesOfKeywords] using used)
  · intro line member name used
    obtain ⟨operation, isOperation, isRoute⟩ :=
      Entries.exists_left_of_forall₂ (Outcome.mapM_eq_ok_iff.mp areRoutes) member
    exact Or.inr ((names_of_routeLine isRoute name used).imp_right fun isHandler =>
      ⟨operation, isOperation, isHandler⟩)

end ApiScaffold.PythonCode

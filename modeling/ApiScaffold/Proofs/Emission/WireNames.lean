import ApiScaffold.Proofs.Collection.LastWritten
import ApiScaffold.Proofs.Emission.Annotations
import ApiScaffold.Proofs.Emission.NamesUsed

/-!
# The wire names of fields

The fields of a class have legal names, but data are read and written with the names of the
document.  A field whose legal name is another one keeps the name of the document as an alias, so
that the names of the document can be read off the class.

Legal names can coincide where names of the document differ.  Then there is no class: it fails with
the first legal name that is taken.
-/

namespace ApiScaffold.PythonCode

/-! ## Reading a class -/

/-- The arguments by keyword of a call of a function. -/
def Expression.keywordsOf (function : String) : Expression → List (String × Expression)
  | .call (.name called) _ keywords => if called = function then keywords else []
  | _ => []

/-- A name of a class with its annotation and its definition. -/
structure FieldLine where
  identifier : String
  type : Expression
  value : Option Expression

namespace FieldLine

/-- The keywords of the definition of a field. -/
def keywords (line : FieldLine) : Entries String Expression :=
  (line.value.map (Expression.keywordsOf "Field")).getD []

/-- The alias of a field. -/
def alias? (line : FieldLine) : Option Expression :=
  line.keywords.get? "alias"

/-- The name of a field in data: its alias if it has one. -/
def wireName (line : FieldLine) : String :=
  (line.alias?.bind Expression.text?).getD line.identifier

/-- Whether a field may have the value `None`. -/
def IsOptional (line : FieldLine) : Prop :=
  ∃ type, line.type = .either type .none

end FieldLine

/-- The annotated name of a line. -/
def Line.field? : Line → Option FieldLine
  | .annotated name type value => some ⟨name, type, value⟩
  | _ => none

/-- The settings of a line that configures a class. -/
def Line.settings : Line → Entries String Expression
  | .assignment target value =>
      if target = "model_config" then value.keywordsOf "ConfigDict" else []
  | _ => []

/-- The annotated names of a class, in order. -/
def ClassDefinition.fieldLines (definition : ClassDefinition) : List FieldLine :=
  definition.body.filterMap Line.field?

/-- The settings of a class. -/
def ClassDefinition.settings (definition : ClassDefinition) : Entries String Expression :=
  definition.body.flatMap Line.settings

/-! ## The line of a field -/

variable {service : Service}

/-- What a line says about a field. -/
structure FieldLine.Renders (service : Service) (field : Field) (line : FieldLine) : Prop where
  isIdentifier : Naming.fieldName? field.name = some line.identifier
  /-- The name of the document can be read off the line. -/
  isWireName : line.wireName = field.name
  /-- There is an alias only if the legal name is another one. -/
  isAliased : line.alias?.isSome = true ↔ line.identifier ≠ field.name
  isType : ∃ type, typeCode service field.model = .ok type ∧
    line.type = (if field.mandatory then type else type.optional).expression
  isOptional : line.IsOptional ↔ field.mandatory = false
  isDefault : line.keywords.get? "default" = if field.mandatory then none else some .none

/-- The line of a field as it is read back. -/
def FieldCode.read (code : FieldCode) : FieldLine :=
  ⟨code.name, code.type,
    if code.keywords.isEmpty then none else some (.call (.name "Field") [] code.keywords)⟩

theorem FieldCode.keywords_read (code : FieldCode) : code.read.keywords = code.keywords := by
  rw [FieldLine.keywords, read]
  split
  · next none => exact (List.isEmpty_iff.mp none).symm
  · rfl

/-- Only a value that may be absent is annotated as one of two. -/
theorem Annotates.expression_ne_either {model : Model} {type : TypeCode}
    (annotates : Annotates service model type) (first second : Expression) :
    type.expression ≠ .either first second := by
  induction annotates with
  | @primitive model type isType =>
      revert isType
      cases model.kind <;> rintro isType <;> cases isType <;> exact fun same => nomatch same
  | expanded _ _ _ _ _ ih => exact ih
  | _ => exact fun same => nomatch same

/-- The keywords of a field with a legal name. -/
def fieldKeywords (field : Field) (legal : String) : Entries String Expression :=
  (if field.mandatory then [] else [("default", Expression.none)]) ++
    (if legal != field.name then [("alias", .text field.name)] else []) ++
    textKeyword "description" field.description

theorem get?_textKeyword_of_ne {keyword wanted : String} (different : keyword ≠ wanted)
    (text : Option String) : Entries.get? (textKeyword keyword text) wanted = none := by
  rw [Entries.get?_eq_none_iff, Entries.keys, List.mem_map]
  rintro ⟨entry, member, rfl⟩
  unfold textKeyword at member
  split at member
  · cases member
  · split at member
    · cases member
    · cases List.mem_singleton.mp member
      exact different rfl

/-- A default stands for what may be absent, and an alias for a name that is not legal. -/
theorem get?_fieldKeywords (field : Field) (legal : String) {wanted : String}
    (other : "description" ≠ wanted) :
    (fieldKeywords field legal).get? wanted =
      if "default" = wanted ∧ field.mandatory = false then some .none
      else if "alias" = wanted ∧ legal ≠ field.name then some (.text field.name)
      else none := by
  rw [fieldKeywords, Entries.get?_append, Entries.get?_append, get?_textKeyword_of_ne other,
    Option.or_none]
  by_cases isDefault : "default" = wanted
  · subst isDefault
    cases field.mandatory <;> by_cases same : legal = field.name <;> simp [same, Entries.get?]
  · cases field.mandatory <;> by_cases same : legal = field.name <;>
      simp [isDefault, same, Entries.get?]

/-- The code of a field, part by part. -/
theorem exists_of_fieldCode {field : Field} {code : FieldCode}
    (built : fieldCode service field = .ok code) :
    ∃ type, typeCode service field.model = .ok type ∧
      code.type = (if field.mandatory then type else type.optional).expression ∧
        Naming.fieldName? field.name = some code.name ∧
          code.keywords = fieldKeywords field code.name ∧
            code.aliased = (code.name != field.name) := by
  obtain ⟨type, spelled, more⟩ := Outcome.bind_eq_ok_iff.mp built
  obtain ⟨legal, isLegal, wrapped⟩ := Outcome.bind_eq_ok_iff.mp more
  cases wrapped
  exact ⟨type, spelled, rfl, legalName_eq_ok_iff.mp isLegal, rfl, rfl⟩

/-- The line of a field says what the field is. -/
theorem renders_of_fieldCode {field : Field} {code : FieldCode}
    (built : fieldCode service field = .ok code) : code.read.Renders service field := by
  obtain ⟨type, spelled, isType, isName, keywords, -⟩ := exists_of_fieldCode built
  have isAlias : code.read.alias? =
      if code.name = field.name then none else some (.text field.name) := by
    rw [FieldLine.alias?, code.keywords_read, keywords, get?_fieldKeywords _ _ (by decide)]
    simp
  refine ⟨isName, ?_, ?_, ⟨type, spelled, isType⟩, ?_, ?_⟩
  · rw [FieldLine.wireName, isAlias]
    split
    · next same => exact same
    · rfl
  · rw [isAlias, FieldCode.read]
    split
    · next same => exact iff_of_false Bool.false_ne_true (not_not_intro same)
    · next different => exact iff_of_true rfl different
  · rw [FieldLine.IsOptional, FieldCode.read, isType]
    cases field.mandatory
    · exact iff_of_true ⟨type.expression, rfl⟩ rfl
    · refine iff_of_false ?_ Bool.noConfusion
      rintro ⟨inside, isEither⟩
      exact (annotates_of_typeCode spelled).expression_ne_either inside .none isEither
  · rw [code.keywords_read, keywords, get?_fieldKeywords _ _ (by decide)]
    cases field.mandatory <;> simp

/-! ## The lines of a class -/

/-- Documentation neither annotates nor configures. -/
theorem forall_mem_documentationLine (documentation : Option String) :
    ∀ line ∈ documentationLine documentation, line.field? = none ∧ line.settings = [] := by
  unfold documentationLine
  split
  · exact fun line member => nomatch member
  · split
    · exact fun line member => nomatch member
    · rw [List.forall_mem_singleton]
      exact ⟨rfl, rfl⟩

theorem filterMap_field?_settingsLine (settings : List String) :
    (settingsLine settings).filterMap Line.field? = [] := by
  unfold settingsLine
  split <;> rfl

theorem flatMap_settings_settingsLine (settings : List String) :
    (settingsLine settings).flatMap Line.settings =
      settings.map fun setting => (setting, Expression.true) := by
  unfold settingsLine
  split
  · next none => rw [List.isEmpty_iff.mp none]; rfl
  · exact List.append_nil _

/-- A class that is made of codes has their lines, and the settings that they call for. -/
theorem exists_of_classCode {name : String} {fields : List Field} {documentation : Option String}
    {code : ClassCode} (built : classCode service name fields documentation = .ok code) :
    ∃ codes, fieldCodes service name [] fields = .ok codes ∧
      code.definition.fieldLines = codes.map FieldCode.read ∧
        code.definition.settings =
          (settingsOf codes).map fun setting => (setting, Expression.true) := by
  obtain ⟨codes, areCodes, wrapped⟩ := Outcome.bind_eq_ok_iff.mp built
  let body := documentationLine documentation ++ settingsLine (settingsOf codes) ++
    codes.map FieldCode.line
  have isBody : code.definition.body = if body.isEmpty then [.pass] else body := by
    cases wrapped
    rfl
  have read : code.definition.fieldLines = body.filterMap Line.field? ∧
      code.definition.settings = body.flatMap Line.settings := by
    rw [ClassDefinition.fieldLines, ClassDefinition.settings, isBody]
    split
    · next none =>
        rw [List.isEmpty_iff.mp none]
        exact ⟨rfl, rfl⟩
    · exact ⟨rfl, rfl⟩
  have noFields : (documentationLine documentation).filterMap Line.field? = [] :=
    List.filterMap_eq_nil_iff.mpr fun line member =>
      (forall_mem_documentationLine documentation line member).1
  have noSettings : (documentationLine documentation).flatMap Line.settings = [] :=
    List.flatMap_eq_nil_iff.mpr fun line member =>
      (forall_mem_documentationLine documentation line member).2
  have noneConfigures : (codes.map FieldCode.line).flatMap Line.settings = [] :=
    List.flatMap_eq_nil_iff.mpr (List.forall_mem_map.mpr fun _ _ => rfl)
  refine ⟨codes, areCodes, ?_, ?_⟩
  · rw [read.1, List.filterMap_append, List.filterMap_append, noFields,
      filterMap_field?_settingsLine, List.nil_append, List.nil_append, List.filterMap_map,
      ← List.filterMap_eq_map]
    rfl
  · rw [read.2, List.flatMap_append, List.flatMap_append, noSettings,
      flatMap_settings_settingsLine, noneConfigures, List.nil_append, List.append_nil]

/-- Only its fields keep a class from being built. -/
theorem classCode_eq_error_iff {name : String} {fields : List Field}
    {documentation : Option String} {failure : Failure} :
    classCode service name fields documentation = .error failure ↔
      fieldCodes service name [] fields = .error failure := by
  rw [classCode, Outcome.bind_eq_error_iff]
  constructor
  · rintro (failed | ⟨codes, _, impossible⟩)
    · exact failed
    · cases impossible
  · exact Or.inl

theorem populate_mem_settingsOf_iff (codes : List FieldCode) :
    "populate_by_name" ∈ settingsOf codes ↔ ∃ code ∈ codes, code.aliased = true := by
  rw [settingsOf, List.mem_eraseDups, List.mem_flatMap]
  refine exists_congr fun code => and_congr_right fun _ => ?_
  cases code.aliased <;> cases code.streamed <;> decide

/-- A code has an alias exactly if its line does. -/
theorem aliased_iff_of_fieldCode {field : Field} {code : FieldCode}
    (built : fieldCode service field = .ok code) :
    code.aliased = true ↔ code.read.alias?.isSome = true := by
  obtain ⟨_, _, _, _, _, isAliased⟩ := exists_of_fieldCode built
  rw [(renders_of_fieldCode built).isAliased, isAliased, bne_iff_ne]
  rfl

/-- Lists that agree item by item under two readings are read as the same list. -/
theorem map_eq_map_of_forall₂ {α β γ : Type} {left : α → γ} {right : β → γ} {first : List α}
    {second : List β}
    (pairs : List.Forall₂ (fun item other => left item = right other) first second) :
    first.map left = second.map right := by
  rw [← List.forall₂_eq_eq_eq, List.forall₂_map_left_iff, List.forall₂_map_right_iff]
  exact pairs

/-- What a class says about its fields. -/
structure ClassDefinition.RendersFields (service : Service) (fields : List Field)
    (definition : ClassDefinition) : Prop where
  /-- There is one line for each field, in their order. -/
  lines : List.Forall₂ (fun field line => line.Renders service field) fields definition.fieldLines
  distinct : (definition.fieldLines.map FieldLine.identifier).Nodup
  /-- The names of the document can be read off. -/
  wireNames : definition.fieldLines.map FieldLine.wireName = fields.map Field.name
  /-- Each setting is there once. -/
  settingsOnce : definition.settings.keys.Nodup
  /-- Fields can be given by their legal names if one of them has an alias. -/
  populates : ("populate_by_name", .true) ∈ definition.settings ↔
    ∃ line ∈ definition.fieldLines, line.alias?.isSome = true
  /-- No setting has another value. -/
  settingsTrue : ∀ setting ∈ definition.settings, setting.2 = .true

/-- A class that is built says what its fields are. -/
theorem rendersFields_of_classCode {name : String} {fields : List Field}
    {documentation : Option String} {code : ClassCode}
    (built : classCode service name fields documentation = .ok code) :
    code.definition.RendersFields service fields := by
  obtain ⟨codes, areCodes, lines, settings⟩ := exists_of_classCode built
  rw [fieldCodes_eq_distinctly] at areCodes
  obtain ⟨pairs, distinct, -⟩ := Outcome.distinctly_eq_ok_iff.mp areCodes
  have rendered : List.Forall₂ (fun field line => line.Renders service field) fields
      code.definition.fieldLines := by
    rw [lines, List.forall₂_map_right_iff]
    exact pairs.imp fun _ _ => renders_of_fieldCode
  have populates : ("populate_by_name", Expression.true) ∈ code.definition.settings ↔
      "populate_by_name" ∈ settingsOf codes := by
    rw [settings, List.mem_map]
    constructor
    · rintro ⟨setting, member, same⟩
      cases same
      exact member
    · exact fun member => ⟨_, member, rfl⟩
  refine ⟨rendered, ?_, ?_, ?_, ?_, ?_⟩
  · rwa [lines, List.map_map]
  · exact (map_eq_map_of_forall₂ (rendered.imp fun _ _ renders => renders.isWireName.symm)).symm
  · rw [settings, Entries.keys, List.map_map]
    exact (List.map_id _).symm ▸ Entries.nodup_eraseDups _
  · rw [populates, populate_mem_settingsOf_iff, lines]
    simp only [List.mem_map, exists_exists_and_eq_and]
    refine exists_congr fun code => and_congr_right fun member => ?_
    obtain ⟨field, _, built⟩ := Entries.exists_left_of_forall₂ pairs member
    exact aliased_iff_of_fieldCode built
  · rw [settings, List.forall_mem_map]
    exact fun _ _ => rfl

/-! ## Classes with repeated names -/

/-- The legal names of fields. -/
def legalNames (fields : List Field) : List (Option String) :=
  fields.map fun field => Naming.fieldName? field.name

/-- Whatever fields with names and with types that can be written down are given, there is no class
exactly if two of them have the same legal name; it fails with the first legal name that is there
already.  Otherwise there is a class, and the names of the document can be read off it. -/
theorem keeps_wireNames (service : Service) (name : String) (fields : List Field)
    (documentation : Option String)
    (typed : ∀ field ∈ fields, ∃ type, typeCode service field.model = .ok type)
    (named : ∀ field ∈ fields, field.name ≠ "") :
    (∀ failure, classCode service name fields documentation = .error failure ↔
      ∃ taken, FirstRepeated (legalNames fields) (some taken) ∧
        failure = .duplicateName taken name) ∧
    ((∃ failure, classCode service name fields documentation = .error failure) ↔
      ¬ (legalNames fields).Nodup) ∧
    ((legalNames fields).Nodup ↔ ∃ code,
      classCode service name fields documentation = .ok code ∧
        code.definition.RendersFields service fields) := by
  have each : ∀ field ∈ fields, ∃ code, fieldCode service field = .ok code := by
    intro field member
    obtain ⟨type, spelled⟩ := typed field member
    obtain ⟨legal, isLegal⟩ := Option.ne_none_iff_exists'.mp
      (mt (Naming.fieldName?_eq_none_iff field.name).mp (named field member))
    exact ⟨_, Outcome.bind_eq_ok_iff.mpr ⟨type, spelled,
      Outcome.bind_eq_ok_iff.mpr ⟨legal, legalName_eq_ok_iff.mpr isLegal, rfl⟩⟩⟩
  obtain ⟨codes, stepped⟩ := Outcome.exists_mapM each
  have pairs := Outcome.mapM_eq_ok_iff.mp stepped
  have names : legalNames fields = (codes.map FieldCode.name).map some := by
    rw [List.map_map]
    exact map_eq_map_of_forall₂
      (pairs.imp fun _ _ built => (renders_of_fieldCode built).isIdentifier)
  have fails : ∀ failure, classCode service name fields documentation = .error failure ↔
      ∃ taken, FirstRepeated (legalNames fields) (some taken) ∧
        failure = .duplicateName taken name := by
    intro failure
    simp only [names, firstRepeated_map_iff (Option.some_injective String)]
    rw [classCode_eq_error_iff, fieldCodes_eq_distinctly,
      Outcome.distinctly_eq_error_iff List.nodup_nil pairs]
    rfl
  have failsIff : (∃ failure, classCode service name fields documentation = .error failure) ↔
      ¬ (legalNames fields).Nodup := by
    simp only [fails]
    rw [names, List.nodup_map_iff (Option.some_injective String), ← exists_firstRepeated_iff]
    simp only [firstRepeated_map_iff (Option.some_injective String)]
    exact ⟨fun ⟨_, taken, first, _⟩ => ⟨taken, first⟩, fun ⟨taken, first⟩ => ⟨_, taken, first, rfl⟩⟩
  refine ⟨fails, failsIff, ?_⟩
  rw [← not_not (a := (legalNames fields).Nodup), ← failsIff]
  cases built : classCode service name fields documentation with
  | ok code =>
      exact iff_of_true (fun ⟨_, failed⟩ => nomatch failed)
        ⟨code, rfl, rendersFields_of_classCode built⟩
  | error failure =>
      exact iff_of_false (fun succeeded => succeeded ⟨failure, rfl⟩)
        fun ⟨_, succeeded, _⟩ => nomatch succeeded

/-- A service without models. -/
def bareService : Service :=
  ⟨[], [], [], [], [], none, none⟩

/-- A number in the query. -/
def queryNumber (name : String) (mandatory : Bool) : Field :=
  ⟨name, ⟨.int64, none, [], none, none⟩, mandatory, .query, none⟩

/-- Two numbers can be told apart by their legal names; a third one has the name of the first. -/
theorem keeps_wireNames_of_numbers :
    let distinct := [queryNumber "page-size" false, queryNumber "limit" true]
    let repeated := distinct ++ [queryNumber "page_size" false]
    (∀ field ∈ repeated, ∃ type, typeCode bareService field.model = .ok type) ∧
      (∀ field ∈ repeated, field.name ≠ "") ∧
      classCode bareService "Page" repeated none = .error (.duplicateName "page_size" "Page") ∧
      ∃ code, classCode bareService "Page" distinct none = .ok code ∧
        code.definition.RendersFields bareService distinct := by
  intro distinct repeated
  have legal : Naming.fieldName? "page-size" = some "page_size" ∧
      Naming.fieldName? "limit" = some "limit" ∧
        Naming.fieldName? "page_size" = some "page_size" := by
    decide +kernel
  have typed : ∀ field ∈ repeated, ∃ type, typeCode bareService field.model = .ok type := by
    simp only [repeated, distinct, List.cons_append, List.nil_append, List.forall_mem_cons,
      List.not_mem_nil, false_imp_iff, implies_true, and_true]
    exact ⟨⟨_, rfl⟩, ⟨_, rfl⟩, ⟨_, rfl⟩⟩
  have named : ∀ field ∈ repeated, field.name ≠ "" := by
    decide
  have fewer : ∀ field ∈ distinct, field ∈ repeated := fun _ => List.mem_append_left _
  refine ⟨typed, named, ?_, ?_⟩
  · refine ((keeps_wireNames bareService "Page" repeated none typed named).1 _).mpr
      ⟨"page_size", ⟨[some "page_size", some "limit"], [], ?_, by decide, by decide⟩, rfl⟩
    simp [legalNames, repeated, distinct, queryNumber, legal]
  · refine (keeps_wireNames bareService "Page" distinct none
      (fun field member => typed field (fewer field member))
      fun field member => named field (fewer field member)).2.2.mp ?_
    simp [legalNames, distinct, queryNumber, legal]

end ApiScaffold.PythonCode

import ApiScaffold.Proofs.Emission.ClassParts
import ApiScaffold.Proofs.Emission.Modules

/-!
# How deeply the statements of a module are nested

The lines of a module are shallow, but for annotations.  A class is nested as deeply as the
annotations of its fields are.  A handler adds two levels to the annotations of its arguments:
one for the place that is put around each, and one for the list of the arguments.
-/

namespace ApiScaffold.PythonCode

variable {service : Service}

theorem largest_le_iff {numbers : List Nat} {bound : Nat} :
    largest numbers ≤ bound ↔ ∀ number ∈ numbers, number ≤ bound := by
  have folded : ∀ start, numbers.foldl max start ≤ bound ↔
      start ≤ bound ∧ ∀ number ∈ numbers, number ≤ bound := by
    induction numbers with
    | nil => simp
    | cons first rest ih =>
        intro start
        rw [List.foldl_cons, ih, Nat.max_le, List.forall_mem_cons, and_assoc]
  rw [largest, folded, and_iff_right (Nat.zero_le bound)]

namespace Expression

theorem forall_mem_bracketDepths_iff {expressions : List Expression} {holds : Nat → Prop} :
    (∀ depth ∈ bracketDepths expressions, holds depth) ↔
      ∀ expression ∈ expressions, holds expression.bracketDepth := by
  induction expressions with
  | nil => simp [bracketDepths]
  | cons first rest ih => rw [bracketDepths, List.forall_mem_cons, List.forall_mem_cons, ih]

theorem forall_mem_keywordDepths_iff {keywords : List (String × Expression)}
    {holds : Nat → Prop} :
    (∀ depth ∈ keywordDepths keywords, holds depth) ↔
      ∀ keyword ∈ keywords, holds keyword.2.bracketDepth := by
  induction keywords with
  | nil => simp [keywordDepths]
  | cons first rest ih =>
      obtain ⟨keyword, value⟩ := first
      rw [keywordDepths, List.forall_mem_cons, List.forall_mem_cons, ih]

/-- A list is one level deeper than the deepest of its items. -/
theorem bracketDepth_list_le_iff {items : List Expression} {bound : Nat} :
    (list items).bracketDepth ≤ bound + 1 ↔ ∀ item ∈ items, item.bracketDepth ≤ bound := by
  rw [bracketDepth, Nat.add_le_add_iff_right, largest_le_iff]
  exact @forall_mem_bracketDepths_iff _ fun depth => depth ≤ bound

/-- A generic type is one level deeper than the deepest of its arguments. -/
theorem bracketDepth_generic_le_iff {base : String} {arguments : List Expression} {bound : Nat} :
    (generic base arguments).bracketDepth ≤ bound + 1 ↔
      ∀ argument ∈ arguments, argument.bracketDepth ≤ bound := by
  rw [bracketDepth, Nat.add_le_add_iff_right, largest_le_iff]
  exact @forall_mem_bracketDepths_iff _ fun depth => depth ≤ bound

/-- The call of a name or a member is one level deeper than the deepest of what it is given. -/
theorem bracketDepth_call_le_iff {function : Expression} {arguments : List Expression}
    {keywords : List (String × Expression)} {bound : Nat} (flat : function.bracketDepth = 0) :
    (call function arguments keywords).bracketDepth ≤ bound + 1 ↔
      (∀ argument ∈ arguments, argument.bracketDepth ≤ bound) ∧
        ∀ keyword ∈ keywords, keyword.2.bracketDepth ≤ bound := by
  rw [bracketDepth, flat, Nat.zero_max, Nat.add_le_add_iff_right, largest_le_iff,
    List.forall_mem_append, @forall_mem_bracketDepths_iff _ fun depth => depth ≤ bound,
    @forall_mem_keywordDepths_iff _ fun depth => depth ≤ bound]

end Expression

/-- What may be absent is nested as deeply as what is there. -/
theorem bracketDepth_optional (type : TypeCode) :
    type.optional.expression.bracketDepth = type.expression.bracketDepth :=
  Nat.max_zero _

/-! ## Classes -/

/-- The line of a field is nested as deeply as the annotation of the field, and not deeper than
one level otherwise. -/
theorem FieldCode.MadeOf.bracketDepth_line_le_iff {field : Field} {type : TypeCode}
    {code : FieldCode} (made : code.MadeOf service field type) {bound : Nat} :
    code.line.bracketDepth ≤ bound + 1 ↔ type.expression.bracketDepth ≤ bound + 1 := by
  have ofType : code.type.bracketDepth = type.expression.bracketDepth := by
    rw [made.isType]
    split
    · rfl
    · exact bracketDepth_optional type
  have shallow : (Expression.call (.name "Field") [] code.keywords).bracketDepth ≤ bound + 1 := by
    rw [Expression.bracketDepth_call_le_iff rfl]
    refine ⟨fun argument member => (nomatch member), fun keyword isKeyword => ?_⟩
    rcases made.plain keyword isKeyword with isNone | ⟨text, isText⟩
    · rw [isNone]
      exact Nat.zero_le bound
    · rw [isText]
      exact Nat.zero_le bound
  rw [FieldCode.line, Line.bracketDepth, ofType, Nat.max_le]
  apply and_iff_left
  split
  · exact Nat.zero_le _
  · exact shallow

theorem bracketDepth_of_mem_documentationLine {documentation : Option String} :
    ∀ line ∈ documentationLine documentation, line.bracketDepth = 0 := by
  unfold documentationLine
  split
  · exact fun line member => nomatch member
  · split
    · exact fun line member => nomatch member
    · rw [List.forall_mem_singleton]
      rfl

theorem bracketDepth_of_mem_settingsLine {settings : List String} :
    ∀ line ∈ settingsLine settings, line.bracketDepth ≤ 1 := by
  unfold settingsLine
  split
  · exact fun line member => nomatch member
  · rw [List.forall_mem_singleton, Line.bracketDepth, Expression.bracketDepth_call_le_iff rfl,
      List.forall_mem_map]
    exact ⟨fun argument member => (nomatch member), fun setting _ => Nat.le_refl 0⟩

/-- A class is nested as deeply as the lines of its fields. -/
theorem ClassCode.MadeOf.bracketDepth_le_iff {name : String} {fields : List Field}
    {codes : List FieldCode} {code : ClassCode} (made : code.MadeOf service name fields codes)
    {bound : Nat} :
    (Statement.classDefinition code.definition).bracketDepth ≤ bound + 1 ↔
      ∀ field ∈ codes, field.line.bracketDepth ≤ bound + 1 := by
  rw [Statement.bracketDepth, Nat.max_le, and_iff_right (Nat.le_add_left 1 bound), largest_le_iff,
    List.forall_mem_map]
  constructor
  · exact fun shallow field isField => shallow _ (made.hasLines field isField)
  · intro shallow line isLine
    obtain ⟨documentation, inBody⟩ := made.isBody
    rcases inBody line isLine with rfl | isDocumentation | isSettings | ⟨field, isField, rfl⟩
    · exact Nat.zero_le _
    · rw [bracketDepth_of_mem_documentationLine line isDocumentation]
      exact Nat.zero_le _
    · exact Nat.le_trans (bracketDepth_of_mem_settingsLine line isSettings)
        (Nat.le_add_left 1 bound)
    · exact shallow field isField

/-! ## Handlers -/

theorem bracketDepth_of_primitiveTypeCode? {kind : ModelKind} {type : TypeCode}
    (isType : primitiveTypeCode? kind = some type) : type.expression.bracketDepth = 0 := by
  cases kind <;> cases isType <;> rfl

/-- The annotation of a raw payload is shallow: a text, or a list of bytes. -/
theorem Annotates.bracketDepth_le_one {model : Model} {type : TypeCode}
    (annotates : Annotates service model type) (isRaw : model.isRawPayload = true) :
    type.expression.bracketDepth ≤ 1 := by
  have kinds := (Model.isRawPayload_iff model).mp isRaw
  cases annotates with
  | primitive isType =>
      rw [bracketDepth_of_primitiveTypeCode? isType]
      exact Nat.zero_le 1
  | bytes => exact Nat.zero_le 1
  | @list _ element item isArray isElement inside =>
      obtain ⟨_, other, isOther, isByte⟩ := kinds.resolve_left (by simp [isArray])
      obtain rfl := Option.some.inj (isElement.symm.trans isOther)
      have flat : item.expression.bracketDepth = 0 := by
        cases inside with
        | primitive isType => exact bracketDepth_of_primitiveTypeCode? isType
        | _ => simp_all
      change (Expression.generic "list" [item.expression]).bracketDepth ≤ 0 + 1
      rw [Expression.bracketDepth_generic_le_iff, List.forall_mem_singleton, flat]
  | dict isMap | byteStream isMap | iterator isMap | struct isMap | expanded isMap =>
      simp [isMap] at kinds

/-- So is the annotation of a raw body, which can be a reference to the payload. -/
theorem bracketDepth_le_one_of_isRawPayload {body target : Model} {type : TypeCode}
    (isTarget : service.dereference body = .ok target) (isRaw : target.isRawPayload = true)
    (annotates : Annotates service body type) : type.expression.bracketDepth ≤ 1 := by
  rw [Service.dereference] at isTarget
  split at isTarget
  · next isReference =>
      have refers : body.kind = .reference := of_decide_eq_true isReference
      obtain ⟨name, isName, found⟩ := Service.model_eq_ok_iff.mp isTarget
      cases annotates with
      | struct => exact Nat.zero_le 1
      | expanded _ isOther foundOther _ inside =>
          obtain rfl := Option.some.inj (isName.symm.trans isOther)
          obtain rfl := Option.some.inj (found.symm.trans foundOther)
          exact inside.bracketDepth_le_one isRaw
      | primitive isType =>
          rw [bracketDepth_of_primitiveTypeCode? isType]
          exact Nat.zero_le 1
      | _ => simp_all
  · cases isTarget
    exact annotates.bracketDepth_le_one isRaw

/-- A marked annotation is one level deeper than the annotation. -/
theorem bracketDepth_marked_le_iff {type : TypeCode} {marker : String}
    {keywords : List (String × Expression)}
    (flat : ∀ keyword ∈ keywords, keyword.2.bracketDepth = 0) {bound : Nat} :
    (type.marked marker keywords).expression.bracketDepth ≤ bound + 2 ↔
      type.expression.bracketDepth ≤ bound + 1 := by
  have shallow : (Expression.call (.name marker) [] keywords).bracketDepth ≤ bound + 1 := by
    rw [Expression.bracketDepth_call_le_iff rfl]
    refine ⟨fun argument member => (nomatch member), fun keyword isKeyword => ?_⟩
    rw [flat keyword isKeyword]
    exact Nat.zero_le bound
  change (Expression.generic "Annotated" [type.expression, _]).bracketDepth ≤ _ ↔ _
  rw [Expression.bracketDepth_generic_le_iff, List.forall_mem_cons, List.forall_mem_singleton]
  exact and_iff_left shallow

theorem ArgumentCode.bracketDepth_argument (code : ArgumentCode) :
    code.argument.bracketDepth = code.type.expression.bracketDepth := by
  rw [ArgumentCode.argument, Argument.bracketDepth]
  split <;> exact Nat.max_zero _

/-- The annotation of a model, if it has one, is nested up to a limit. -/
def AnnotatedWithin (service : Service) (limit : Nat) (model : Model) : Prop :=
  ∀ type, typeCode service model = .ok type → type.expression.bracketDepth ≤ limit

theorem annotatedWithin_iff {model : Model} {type : TypeCode}
    (spelled : typeCode service model = .ok type) {limit : Nat} :
    AnnotatedWithin service limit model ↔ type.expression.bracketDepth ≤ limit := by
  constructor
  · exact fun within => within type spelled
  · rintro shallow other isOther
    obtain rfl := Except.ok.inj (spelled.symm.trans isOther)
    exact shallow

/-- An argument is one level deeper than the annotation of its part of the input.  An argument
with the type of a request is not nested at all. -/
theorem IsArgument.bracketDepth_le_iff {part : InputPart} {argument : ArgumentCode}
    (isArgument : IsArgument service part argument) {bound : Nat} :
    argument.argument.bracketDepth ≤ bound + 2 ↔
      AnnotatedWithin service (bound + 1) part.model := by
  rw [ArgumentCode.bracketDepth_argument]
  cases isArgument with
  | @parameter location given legal known isName spelled =>
      have flat : ∀ keyword ∈ aliasKeywords legal given.name, keyword.2.bracketDepth = 0 := by
        unfold aliasKeywords
        split
        · exact fun keyword member => nomatch member
        · rw [List.forall_mem_singleton]
          rfl
      change _ ↔ AnnotatedWithin service (bound + 1) given.model
      rw [annotatedWithin_iff spelled, bracketDepth_marked_le_iff flat]
      split
      · rfl
      · rw [bracketDepth_optional]
  | rawBody isTarget isRaw =>
      refine iff_of_true (Nat.zero_le _) fun type spelled => ?_
      exact Nat.le_trans (bracketDepth_le_one_of_isRawPayload isTarget isRaw
        (annotates_of_typeCode spelled)) (Nat.le_add_left 1 bound)
  | @body model _ spelled =>
      change _ ↔ AnnotatedWithin service (bound + 1) model
      rw [annotatedWithin_iff spelled]
      apply bracketDepth_marked_le_iff
      exact fun keyword member => nomatch member

/-- A handler is one level deeper than its arguments. -/
theorem HandlerCode.MadeOf.bracketDepth_le_iff {operation : Operation}
    {arguments : List ArgumentCode} {code : HandlerCode}
    (made : code.MadeOf service operation arguments) {bound : Nat} :
    (Statement.function code.definition).bracketDepth ≤ bound + 1 ↔
      ∀ argument ∈ arguments, argument.argument.bracketDepth ≤ bound := by
  have body : largest (code.definition.body.map Line.bracketDepth) ≤ bound + 1 := by
    rw [made.body]
    exact Nat.le_add_left 1 bound
  rw [Statement.bracketDepth, Nat.max_le, and_iff_left body, Nat.add_le_add_iff_right,
    largest_le_iff, List.forall_mem_map, made.ordered, forall_mem_orderedArguments_iff]

end ApiScaffold.PythonCode

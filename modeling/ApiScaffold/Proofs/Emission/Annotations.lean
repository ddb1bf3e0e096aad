import ApiScaffold.Proofs.Emission.DistinctNames

/-!
# How models are annotated

The rules by which a model gets its annotation: one for the primitive kinds, one for each
container, one for references to structs, and one for references that are written out.  Whatever
is computed follows these rules, so what holds of all annotations is shown rule by rule.

By these rules annotations import a few names only, and so do the arguments of handlers, which
are annotated by their place as well.
-/

namespace ApiScaffold

/-- A model is found exactly under a name that has one. -/
theorem Service.model_eq_ok_iff {service : Service} {name : Option String} {target : Model} :
    service.model name = .ok target ↔
      ∃ key, name = some key ∧ service.models.get? key = some target := by
  rw [← Option.bind_eq_some_iff, Service.model]
  cases name.bind service.models.get? <;> simp

/-- A raw payload is a text, or an array of bytes. -/
theorem Model.isRawPayload_iff (model : Model) :
    model.isRawPayload = true ↔ model.kind = .string ∨
      model.kind = .array ∧ ∃ element, model.element = some element ∧ element.kind = .byte := by
  unfold Model.isRawPayload
  split
  · next isString => simp [isString]
  · next element isArray isElement => simp [isArray, isElement]
  · next noString noBytes =>
      refine iff_of_false Bool.false_ne_true ?_
      rintro (isString | ⟨isArray, element, isElement, _⟩)
      · exact noString isString
      · exact noBytes element isArray isElement

namespace PythonCode

namespace TypeCode

/-- The annotation of an array. -/
def listOf (item : TypeCode) : TypeCode :=
  item.inside fun expression => .generic "list" [expression]

/-- The annotation of a map. -/
def dictOf (item : TypeCode) : TypeCode :=
  item.inside fun expression => .generic "dict" [.name "str", expression]

/-- The annotation of elements that are read one after the other. -/
def iteratorOf (item : TypeCode) : TypeCode :=
  (item.inside fun expression => .generic "AsyncIterator" [expression]).importing
    [("collections.abc", "AsyncIterator")]

/-- The annotation of a struct. -/
def named (typeName : String) : TypeCode :=
  ⟨.name typeName, [], [typeName]⟩

end TypeCode

/-- An annotation follows the rules for a model. -/
inductive Annotates (service : Service) : Model → TypeCode → Prop
  | primitive {model : Model} {type : TypeCode}
      (isType : primitiveTypeCode? model.kind = some type) : Annotates service model type
  | bytes {model element : Model} (isArray : model.kind = .array)
      (isElement : model.element = some element) (isByte : element.kind = .byte) :
      Annotates service model bytesTypeCode
  | list {model element : Model} {item : TypeCode} (isArray : model.kind = .array)
      (isElement : model.element = some element) (inside : Annotates service element item) :
      Annotates service model item.listOf
  | dict {model element : Model} {item : TypeCode} (isMap : model.kind = .map)
      (isElement : model.element = some element) (inside : Annotates service element item) :
      Annotates service model item.dictOf
  | byteStream {model element : Model} (isIterator : model.kind = .iterator)
      (isElement : model.element = some element) (isByte : element.kind = .byte) :
      Annotates service model bytesTypeCode.iteratorOf
  | iterator {model element : Model} {item : TypeCode} (isIterator : model.kind = .iterator)
      (isElement : model.element = some element) (inside : Annotates service element item) :
      Annotates service model item.iteratorOf
  | struct {model target : Model} {name : String} (refers : model.kind = .reference)
      (isName : model.name = some name) (found : service.models.get? name = some target)
      (isStruct : target.isStruct = true) :
      Annotates service model (.named (Naming.typeName name))
  | expanded {model target : Model} {name : String} {type : TypeCode}
      (refers : model.kind = .reference) (isName : model.name = some name)
      (found : service.models.get? name = some target) (noStruct : target.isStruct = false)
      (inside : Annotates service target type) : Annotates service model type

variable {service : Service}

section TypeCodeWith

variable {expand : Option String → Outcome TypeCode}

mutual

/-- An annotation follows the rules if those of references do. -/
theorem annotates_of_typeCodeWith
    (expands : ∀ (model : Model) type, model.kind = .reference →
      expand model.name = .ok type → Annotates service model type)
    (model : Model) {type : TypeCode} (spelled : typeCodeWith expand model = .ok type) :
    Annotates service model type := by
  obtain ⟨kind, element, properties, name, description⟩ := model
  cases primitive : primitiveTypeCode? kind with
  | some known =>
      simp only [typeCodeWith, primitive, Except.ok.injEq] at spelled
      exact spelled ▸ .primitive primitive
  | none =>
      cases kind with
      | array =>
          simp only [typeCodeWith, primitiveTypeCode?] at spelled
          obtain ⟨⟨isByte, item⟩, isItem, wrapped⟩ := Outcome.bind_eq_ok_iff.mp spelled
          obtain ⟨inside, isElement, bytes, annotates⟩ :=
            annotates_of_elementTypeCode expands element isItem
          cases isByte with
          | true =>
              cases wrapped
              exact .bytes rfl isElement (bytes rfl)
          | false =>
              cases wrapped
              exact .list rfl isElement annotates
      | map =>
          simp only [typeCodeWith, primitiveTypeCode?] at spelled
          obtain ⟨⟨isByte, item⟩, isItem, wrapped⟩ := Outcome.bind_eq_ok_iff.mp spelled
          obtain ⟨inside, isElement, _, annotates⟩ :=
            annotates_of_elementTypeCode expands element isItem
          cases wrapped
          exact .dict rfl isElement annotates
      | iterator =>
          simp only [typeCodeWith, primitiveTypeCode?] at spelled
          obtain ⟨⟨isByte, item⟩, isItem, wrapped⟩ := Outcome.bind_eq_ok_iff.mp spelled
          obtain ⟨inside, isElement, bytes, annotates⟩ :=
            annotates_of_elementTypeCode expands element isItem
          cases isByte with
          | true =>
              cases wrapped
              exact .byteStream rfl isElement (bytes rfl)
          | false =>
              cases wrapped
              exact .iterator rfl isElement annotates
      | reference =>
          simp only [typeCodeWith, primitiveTypeCode?] at spelled
          exact expands _ type rfl spelled
      | struct | enum => cases spelled
      | _ => cases primitive
termination_by structural model

theorem annotates_of_elementTypeCode
    (expands : ∀ (model : Model) type, model.kind = .reference →
      expand model.name = .ok type → Annotates service model type)
    (element : Option Model) {isByte : Bool} {type : TypeCode}
    (spelled : elementTypeCode expand element = .ok (isByte, type)) :
    ∃ inside, element = some inside ∧ (isByte = true → inside.kind = .byte) ∧
      Annotates service inside type := by
  match element with
  | none => cases spelled
  | some element =>
      rw [elementTypeCode] at spelled
      obtain ⟨item, isItem, wrapped⟩ := Outcome.bind_eq_ok_iff.mp spelled
      cases wrapped
      exact ⟨element, rfl, of_decide_eq_true, annotates_of_typeCodeWith expands element isItem⟩
termination_by structural element

end

end TypeCodeWith

/-- The annotation of a reference follows the rules, in any number of steps.  The induction is
over all models, since each step goes on with the model that was referred to. -/
theorem annotates_of_referenceTypeCode (steps : Nat) {model : Model} {type : TypeCode}
    (refers : model.kind = .reference)
    (spelled : referenceTypeCode service steps model.name = .ok type) :
    Annotates service model type := by
  induction steps generalizing model type with
  | zero => cases spelled
  | succ steps ih =>
      rw [referenceTypeCode] at spelled
      obtain ⟨target, isTarget, expanded⟩ := Outcome.bind_eq_ok_iff.mp spelled
      obtain ⟨name, isName, found⟩ := Service.model_eq_ok_iff.mp isTarget
      by_cases isStruct : target.isStruct = true
      · rw [if_pos isStruct, isName] at expanded
        cases expanded
        exact .struct refers isName found isStruct
      · rw [if_neg isStruct] at expanded
        exact .expanded refers isName found (eq_false_of_ne_true isStruct)
          (annotates_of_typeCodeWith (fun _ _ => ih) target expanded)

/-- Every annotation of a service follows the rules. -/
theorem annotates_of_typeCode {model : Model} {type : TypeCode}
    (spelled : typeCode service model = .ok type) : Annotates service model type :=
  annotates_of_typeCodeWith (fun _ _ => annotates_of_referenceTypeCode _) model spelled

/-! ## What is imported -/

/-- What annotations may import. -/
def typeImports : List (String × String) :=
  [("typing", "Any"), ("datetime", "date"), ("datetime", "time"), ("datetime", "datetime"),
   ("collections.abc", "AsyncIterator")]

theorem forall_mem_imports_iteratorOf {item : TypeCode}
    (inside : ∀ entry ∈ item.imports, entry ∈ typeImports) :
    ∀ entry ∈ item.iteratorOf.imports, entry ∈ typeImports := by
  rw [TypeCode.iteratorOf, TypeCode.importing, List.forall_mem_append, List.forall_mem_singleton]
  exact ⟨inside, by decide⟩

/-- Annotations import nothing else. -/
theorem Annotates.mem_typeImports {model : Model} {type : TypeCode}
    (annotates : Annotates service model type) : ∀ entry ∈ type.imports, entry ∈ typeImports := by
  induction annotates with
  | @primitive model type isType =>
      revert isType
      cases model.kind <;> rintro isType <;> cases isType <;>
        simp [TypeCode.builtin, TypeCode.imported, typeImports]
  | bytes | struct => exact fun entry member => nomatch member
  | list _ _ _ ih | dict _ _ _ ih | expanded _ _ _ _ _ ih => exact ih
  | byteStream => exact forall_mem_imports_iteratorOf fun entry member => nomatch member
  | iterator _ _ _ ih => exact forall_mem_imports_iteratorOf ih

/-! ## Arguments -/

/-- The keywords of the marker of a parameter, given its legal name. -/
def aliasKeywords (legal name : String) : List (String × Expression) :=
  if legal = name then [] else [("alias", .text name)]

/-- An argument belongs to a part of an input. -/
inductive IsArgument (service : Service) : InputPart → ArgumentCode → Prop
  | parameter {location : FieldLocation} {given : Parameter} {legal : String} {type : TypeCode}
      (isName : Naming.fieldName? given.name = some legal)
      (spelled : typeCode service given.model = .ok type) :
      IsArgument service (.parameter location given)
        ⟨legal, (if given.mandatory then type else type.optional).marked (parameterMarker location)
          (aliasKeywords legal given.name), given.mandatory⟩
  | rawBody {model target : Model} (isTarget : service.dereference model = .ok target)
      (isRaw : target.isRawPayload = true) :
      IsArgument service (.body model) ⟨"request", .imported "fastapi" "Request", true⟩
  | body {model : Model} {type : TypeCode} (spelled : typeCode service model = .ok type) :
      IsArgument service (.body model)
        ⟨Field.bodyName, type.marked (parameterMarker .body) [], true⟩

theorem legalName_eq_ok_iff {name legal : String} :
    legalName name = .ok legal ↔ Naming.fieldName? name = some legal := by
  rw [legalName]
  cases Naming.fieldName? name <;> simp

theorem isArgument_of_partArgument {part : InputPart} {argument : ArgumentCode}
    (built : partArgument service part = .ok argument) : IsArgument service part argument := by
  cases part with
  | parameter location given =>
      obtain ⟨legal, isName, more⟩ := Outcome.bind_eq_ok_iff.mp built
      obtain ⟨type, spelled, wrapped⟩ := Outcome.bind_eq_ok_iff.mp more
      cases wrapped
      exact .parameter (legalName_eq_ok_iff.mp isName) spelled
  | body model =>
      obtain ⟨target, isTarget, more⟩ := Outcome.bind_eq_ok_iff.mp built
      split at more
      · next isRaw =>
          cases more
          exact .rawBody isTarget isRaw
      · obtain ⟨type, spelled, wrapped⟩ := Outcome.bind_eq_ok_iff.mp more
        cases wrapped
        exact .body spelled

/-- What the arguments of handlers may import. -/
def argumentImports : List (String × String) :=
  typeImports ++ [("fastapi", "Path"), ("fastapi", "Query"), ("fastapi", "Header"),
    ("fastapi", "Body"), ("fastapi", "Request"), ("typing", "Annotated")]

/-- A marker is imported with the annotation that it belongs to. -/
theorem forall_mem_imports_marked {type : TypeCode} {keywords : List (String × Expression)}
    (inside : ∀ entry ∈ type.imports, entry ∈ typeImports) (location : FieldLocation) :
    ∀ entry ∈ (type.marked (parameterMarker location) keywords).imports,
      entry ∈ argumentImports := by
  rw [TypeCode.marked, TypeCode.importing, List.forall_mem_append]
  constructor
  · exact fun entry member => List.mem_append_left _ (inside entry member)
  · cases location <;> decide

/-- Arguments import nothing else. -/
theorem IsArgument.mem_argumentImports {part : InputPart} {argument : ArgumentCode}
    (isArgument : IsArgument service part argument) :
    ∀ entry ∈ argument.type.imports, entry ∈ argumentImports := by
  cases isArgument with
  | @parameter location given legal type isName spelled =>
      have inside : ∀ entry ∈ (if given.mandatory then type else type.optional).imports,
          entry ∈ typeImports := by
        split
        · exact (annotates_of_typeCode spelled).mem_typeImports
        · exact (annotates_of_typeCode spelled).mem_typeImports
      exact forall_mem_imports_marked inside location
  | rawBody =>
      rw [TypeCode.imported, List.forall_mem_singleton]
      decide
  | body spelled =>
      exact forall_mem_imports_marked (annotates_of_typeCode spelled).mem_typeImports .body

theorem HandlerCode.MadeOf.mem_argumentImports {operation : Operation}
    {arguments : List ArgumentCode} {code : HandlerCode}
    (made : code.MadeOf service operation arguments) :
    ∀ entry ∈ code.imports, entry ∈ argumentImports := by
  rw [made.imports, List.forall_mem_flatMap]
  intro argument member
  obtain ⟨part, _, built⟩ := Entries.exists_left_of_forall₂ made.pairs member
  exact (isArgument_of_partArgument built).mem_argumentImports

end PythonCode

end ApiScaffold

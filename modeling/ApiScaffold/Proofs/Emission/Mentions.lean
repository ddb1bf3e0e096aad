import ApiScaffold.Proofs.Emission.Annotations
import ApiScaffold.Proofs.Emission.DistinctNames
import ApiScaffold.Proofs.Emission.NamesUsed
import ApiScaffold.Proofs.Model.Unfolding

/-!
# Structs that are mentioned

Written out, a model names the structs that it mentions: an array, a map or an iterator mentions
what its elements do, a reference to a struct mentions this struct, and a reference to anything
else mentions what is written out in its place.  An annotation gathers the type names of exactly
these structs, and so does the handler of an operation from all parts of its input.
-/

namespace ApiScaffold

namespace PythonCode

/-- The struct with a name is mentioned by a model when it is written out. -/
inductive Mentions (service : Service) (struct : String) : Model → Prop
  | element {model element : Model} (holds : model.kind.hasElement = true)
      (isElement : model.element = some element) (inside : Mentions service struct element) :
      Mentions service struct model
  | struct {model target : Model} (refers : model.kind = .reference)
      (isName : model.name = some struct) (found : service.models.get? struct = some target)
      (isStruct : target.isStruct = true) : Mentions service struct model
  | expanded {model target : Model} {other : String} (refers : model.kind = .reference)
      (isName : model.name = some other) (found : service.models.get? other = some target)
      (noStruct : target.isStruct = false) (inside : Mentions service struct target) :
      Mentions service struct model

variable {service : Service}

/-- Only structs of the service are mentioned. -/
theorem Mentions.mem_structTypeNames {struct : String} {model : Model}
    (mentions : Mentions service struct model) :
    Naming.typeName struct ∈ service.structTypeNames := by
  induction mentions with
  | element _ _ _ ih => exact ih
  | struct _ _ found isStruct =>
      have isModel : service.model (some struct) = .ok _ :=
        Service.model_eq_ok_iff.mpr ⟨struct, rfl, found⟩
      have member := mem_structTypeNames_of_model isModel isStruct
      rwa [Option.getD_some] at member
  | expanded _ _ _ _ _ ih => exact ih

/-- The type name of a struct that a model mentions. -/
def MentionsType (service : Service) (model : Model) (typeName : String) : Prop :=
  ∃ struct, Mentions service struct model ∧ Naming.typeName struct = typeName

/-- An annotation that gathers the type names of the structs that a model mentions. -/
def Gathers (service : Service) (model : Model) (type : TypeCode) : Prop :=
  ∀ typeName, typeName ∈ type.structs ↔ MentionsType service model typeName

/-- A model without elements that is no reference mentions nothing. -/
theorem not_mentionsType {model : Model} (holdsNothing : model.kind.hasElement = false)
    (refersNot : model.kind ≠ .reference) (typeName : String) :
    ¬ MentionsType service model typeName := by
  rintro ⟨struct, mentions, _⟩
  cases mentions with
  | element holds => simp [holdsNothing] at holds
  | struct refers => exact refersNot refers
  | expanded refers => exact refersNot refers

/-- A container mentions what its element does. -/
theorem mentionsType_element_iff {model element : Model} (holds : model.kind.hasElement = true)
    (isElement : model.element = some element) (typeName : String) :
    MentionsType service model typeName ↔ MentionsType service element typeName := by
  have refersNot : model.kind ≠ .reference := by
    intro refers
    rw [refers] at holds
    cases holds
  constructor
  · rintro ⟨struct, mentions, isType⟩
    cases mentions with
    | element _ isOther inside =>
        obtain rfl := Option.some.inj (isElement.symm.trans isOther)
        exact ⟨struct, inside, isType⟩
    | struct refers => exact absurd refers refersNot
    | expanded refers => exact absurd refers refersNot
  · rintro ⟨struct, mentions, isType⟩
    exact ⟨struct, .element holds isElement mentions, isType⟩

/-- A reference to a struct mentions this struct and no other. -/
theorem mentionsType_struct_iff {model target : Model} {name : String}
    (refers : model.kind = .reference) (isName : model.name = some name)
    (found : service.models.get? name = some target) (isStruct : target.isStruct = true)
    (typeName : String) :
    MentionsType service model typeName ↔ Naming.typeName name = typeName := by
  constructor
  · rintro ⟨struct, mentions, isType⟩
    cases mentions with
    | element holds => simp [refers, ModelKind.hasElement] at holds
    | struct _ isOther =>
        obtain rfl := Option.some.inj (isName.symm.trans isOther)
        exact isType
    | expanded _ isOther foundOther noStruct =>
        obtain rfl := Option.some.inj (isName.symm.trans isOther)
        obtain rfl := Option.some.inj (found.symm.trans foundOther)
        simp [isStruct] at noStruct
  · rintro isType
    exact ⟨name, .struct refers isName found isStruct, isType⟩

/-- A reference to anything else mentions what is written out in its place. -/
theorem mentionsType_expanded_iff {model target : Model} {name : String}
    (refers : model.kind = .reference) (isName : model.name = some name)
    (found : service.models.get? name = some target) (noStruct : target.isStruct = false)
    (typeName : String) :
    MentionsType service model typeName ↔ MentionsType service target typeName := by
  constructor
  · rintro ⟨struct, mentions, isType⟩
    cases mentions with
    | element holds => simp [refers, ModelKind.hasElement] at holds
    | struct _ isOther foundOther isStruct =>
        obtain rfl := Option.some.inj (isName.symm.trans isOther)
        obtain rfl := Option.some.inj (found.symm.trans foundOther)
        simp [noStruct] at isStruct
    | expanded _ isOther foundOther _ inside =>
        obtain rfl := Option.some.inj (isName.symm.trans isOther)
        obtain rfl := Option.some.inj (found.symm.trans foundOther)
        exact ⟨struct, inside, isType⟩
  · rintro ⟨struct, mentions, isType⟩
    exact ⟨struct, .expanded refers isName found noStruct mentions, isType⟩

/-- A primitive model mentions nothing, and its annotation names no structs. -/
theorem not_mentionsType_of_primitive {model : Model} {type : TypeCode}
    (isType : primitiveTypeCode? model.kind = some type) (typeName : String) :
    typeName ∉ type.structs ∧ ¬ MentionsType service model typeName := by
  have nothing : type.structs = [] ∧ model.kind.hasElement = false ∧ model.kind ≠ .reference := by
    revert isType
    cases model.kind <;> rintro isType <;> cases isType <;>
      exact ⟨rfl, rfl, ModelKind.noConfusion⟩
  rw [nothing.1]
  exact ⟨List.not_mem_nil, not_mentionsType nothing.2.1 nothing.2.2 typeName⟩

/-- Elements that are bytes mention nothing. -/
theorem not_mentionsType_of_byte {model element : Model} (holds : model.kind.hasElement = true)
    (isElement : model.element = some element) (isByte : element.kind = .byte)
    (typeName : String) : ¬ MentionsType service model typeName := by
  rw [mentionsType_element_iff holds isElement]
  have isType : primitiveTypeCode? element.kind = some (.builtin "int") := by
    rw [isByte]
    rfl
  exact (not_mentionsType_of_primitive isType typeName).2

/-- An annotation by the rules gathers what its model mentions. -/
theorem Annotates.gathers {model : Model} {type : TypeCode}
    (annotates : Annotates service model type) : Gathers service model type := by
  induction annotates with
  | primitive isType =>
      intro typeName
      obtain ⟨noStruct, mentionsNot⟩ := not_mentionsType_of_primitive isType typeName
      exact iff_of_false noStruct mentionsNot
  | bytes isArray isElement isByte =>
      intro typeName
      apply iff_of_false List.not_mem_nil
      exact not_mentionsType_of_byte (by rw [isArray]; rfl) isElement isByte typeName
  | list isArray isElement _ ih =>
      intro typeName
      rw [mentionsType_element_iff (by rw [isArray]; rfl) isElement]
      exact ih typeName
  | dict isMap isElement _ ih =>
      intro typeName
      rw [mentionsType_element_iff (by rw [isMap]; rfl) isElement]
      exact ih typeName
  | byteStream isIterator isElement isByte =>
      intro typeName
      apply iff_of_false List.not_mem_nil
      exact not_mentionsType_of_byte (by rw [isIterator]; rfl) isElement isByte typeName
  | iterator isIterator isElement _ ih =>
      intro typeName
      rw [mentionsType_element_iff (by rw [isIterator]; rfl) isElement]
      exact ih typeName
  | struct refers isName found isStruct =>
      intro typeName
      rw [mentionsType_struct_iff refers isName found isStruct, TypeCode.named, List.mem_singleton]
      exact eq_comm
  | expanded refers isName found noStruct _ ih =>
      intro typeName
      rw [mentionsType_expanded_iff refers isName found noStruct]
      exact ih typeName

/-- Every annotation of a service gathers the structs that its model mentions. -/
theorem gathers_typeCode {model : Model} {type : TypeCode}
    (spelled : typeCode service model = .ok type) : Gathers service model type :=
  (annotates_of_typeCode spelled).gathers

/-! ## Handlers -/

theorem Gathers.marked {model : Model} {type : TypeCode} (gathers : Gathers service model type)
    (marker : String) (keywords : List (String × Expression)) :
    Gathers service model (type.marked marker keywords) :=
  gathers

theorem Gathers.optional {model : Model} {type : TypeCode} (gathers : Gathers service model type) :
    Gathers service model type.optional :=
  gathers

/-- A raw body mentions nothing: it is a text or made of bytes. -/
theorem not_mentionsType_of_isRawPayload {body target : Model}
    (isTarget : service.dereference body = .ok target) (isRaw : target.isRawPayload = true)
    (typeName : String) : ¬ MentionsType service body typeName := by
  have nothing : ¬ MentionsType service target typeName ∧ target.isStruct = false := by
    rcases (Model.isRawPayload_iff target).mp isRaw with
      isString | ⟨isArray, element, isElement, isByte⟩
    · have isPlain : target.kind.hasElement = false ∧ target.kind ≠ .reference := by
        rw [isString]
        exact ⟨rfl, ModelKind.noConfusion⟩
      exact ⟨not_mentionsType isPlain.1 isPlain.2 typeName, by simp [Model.isStruct, isString]⟩
    · have holds : target.kind.hasElement = true := by
        rw [isArray]
        rfl
      exact ⟨not_mentionsType_of_byte holds isElement isByte typeName,
        by simp [Model.isStruct, isArray]⟩
  rw [Service.dereference] at isTarget
  split at isTarget
  · next isReference =>
      obtain ⟨key, isName, found⟩ := Service.model_eq_ok_iff.mp isTarget
      rw [mentionsType_expanded_iff (of_decide_eq_true isReference) isName found nothing.2]
      exact nothing.1
  · cases isTarget
    exact nothing.1

/-- The annotation of an argument gathers what its part of the input mentions. -/
theorem gathers_partArgument {part : InputPart} {argument : ArgumentCode}
    (built : partArgument service part = .ok argument) :
    Gathers service part.model argument.type := by
  cases isArgument_of_partArgument built with
  | parameter isName spelled =>
      apply Gathers.marked
      split
      · exact gathers_typeCode spelled
      · exact (gathers_typeCode spelled).optional
  | rawBody isTarget isRaw =>
      intro typeName
      exact iff_of_false List.not_mem_nil
        (not_mentionsType_of_isRawPayload isTarget isRaw typeName)
  | body spelled => exact (gathers_typeCode spelled).marked _ _

/-- A handler mentions the output of its operation, and the structs that the parts of the input
mention. -/
theorem HandlerCode.MadeOf.mem_structs_iff {operation : Operation} {arguments : List ArgumentCode}
    {code : HandlerCode} (made : code.MadeOf service operation arguments) (typeName : String) :
    typeName ∈ code.structs ↔ typeName = outputTypeName operation.id ∨
      ∃ part ∈ operation.input.parts, MentionsType service part.model typeName := by
  rw [made.structs, List.mem_append, List.mem_singleton, List.mem_flatMap, or_comm]
  apply or_congr_right
  constructor
  · rintro ⟨argument, isArgument, member⟩
    obtain ⟨part, isPart, built⟩ := Entries.exists_left_of_forall₂ made.pairs isArgument
    exact ⟨part, isPart, (gathers_partArgument built typeName).mp member⟩
  · rintro ⟨part, isPart, mentions⟩
    obtain ⟨argument, isArgument, built⟩ := Entries.exists_left_of_forall₂ made.pairs.flip isPart
    exact ⟨argument, isArgument, (gathers_partArgument built typeName).mpr mentions⟩

/-- What the handlers of a service mention. -/
theorem mem_structs_of_handlers_iff {codes : List HandlerCode}
    (built : handlers service = .ok codes) (typeName : String) :
    typeName ∈ codes.flatMap HandlerCode.structs ↔
      (∃ operation ∈ service.operations, typeName = outputTypeName operation.id) ∨
        ∃ operation ∈ service.operations, ∃ part ∈ operation.input.parts,
          MentionsType service part.model typeName := by
  obtain ⟨pairs, _⟩ := madeOf_of_handlers built
  rw [List.mem_flatMap]
  constructor
  · rintro ⟨code, isCode, member⟩
    obtain ⟨operation, isOperation, arguments, made⟩ := Entries.exists_left_of_forall₂ pairs isCode
    rcases (made.mem_structs_iff typeName).mp member with isOutput | mentions
    · exact Or.inl ⟨operation, isOperation, isOutput⟩
    · exact Or.inr ⟨operation, isOperation, mentions⟩
  · have each : ∀ operation ∈ service.operations, typeName = outputTypeName operation.id ∨
        (∃ part ∈ operation.input.parts, MentionsType service part.model typeName) →
          ∃ code ∈ codes, typeName ∈ code.structs := by
      intro operation isOperation either
      obtain ⟨code, isCode, arguments, made⟩ :=
        Entries.exists_left_of_forall₂ pairs.flip isOperation
      exact ⟨code, isCode, (made.mem_structs_iff typeName).mpr either⟩
    rintro (⟨operation, isOperation, isOutput⟩ | ⟨operation, isOperation, mentions⟩)
    · exact each operation isOperation (Or.inl isOutput)
    · exact each operation isOperation (Or.inr mentions)

end PythonCode

end ApiScaffold

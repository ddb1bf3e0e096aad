import ApiScaffold.Emission.Target
import ApiScaffold.Proofs.Service.WellFormed

/-!
# The types of a service

Every target spells models by the same rules: a container by its element, a reference to a
struct by its name, and any other reference by what it refers to.  A speller is anything that
follows these rules.

In a well-formed service nothing is left that has no spelling, and what is written out comes
to an end, so every speller gives every model a type.
-/

namespace ApiScaffold

/-- How models are spelled, given the spelling of references, and how references are spelled
within a number of steps. -/
structure Speller (service : Service) (α : Type) where
  spell : (Option String → Outcome α) → Model → Outcome α
  expand : Nat → Option String → Outcome α
  basic : ∀ {kind : ModelKind}, kind.isPrimitive = true → ∀ known description,
    ∃ type, spell known (.ofKind kind description) = .ok type
  array : ∀ {known element}, (∃ type, spell known element = .ok type) → ∀ description,
    ∃ type, spell known (.array element description) = .ok type
  map : ∀ {known element}, (∃ type, spell known element = .ok type) → ∀ description,
    ∃ type, spell known (.map element description) = .ok type
  iterator : ∀ {known element}, (∃ type, spell known element = .ok type) →
    ∃ type, spell known (.iterator element) = .ok type
  reference : ∀ known name description,
    spell known ⟨.reference, none, [], some name, description⟩ = known (some name)
  struct : ∀ {name target} steps, service.model (some name) = .ok target →
    target.isStruct = true → ∃ type, expand (steps + 1) (some name) = .ok type
  expanded : ∀ {name target} steps, service.model (some name) = .ok target →
    target.isStruct = false → expand (steps + 1) (some name) = spell (expand steps) target

namespace Speller

variable {service : Service} {α : Type}

/-- The spelling of a model, for which references are written out in at most as many steps as
there are models. -/
def typeOf (speller : Speller service α) (model : Model) : Outcome α :=
  speller.spell (speller.expand (service.models.length + 1)) model

/-- A plain model is spelled if all its references are. -/
theorem exists_spell_of_plain (speller : Speller service α) {known : Option String → Outcome α}
    {model : Model} (plain : model.Plain)
    (knows : model.RefersWithin fun name => ∃ type, known (some name) = .ok type) :
    ∃ type, speller.spell known model = .ok type := by
  induction plain with
  | basic primitive description => exact speller.basic primitive known description
  | array _ description ih =>
      apply speller.array
      exact ih ((Model.refersWithin_array _ _).mp knows)
  | map _ description ih =>
      apply speller.map
      exact ih ((Model.refersWithin_map _ _).mp knows)
  | reference name description =>
      rw [speller.reference]
      exact (Model.refersWithin_reference name description).mp knows

/-- A name of a model is spelled within more steps than its rank. -/
theorem exists_expand (speller : Speller service α) (wellFormed : service.WellFormed)
    (ranked : ExpansionRank service.models) {steps : Nat} {name : String}
    (isKey : name ∈ service.models.keys) (enough : ranked.rank name < steps) :
    ∃ type, speller.expand steps (some name) = .ok type := by
  induction steps generalizing name with
  | zero => exact absurd enough (Nat.not_lt_zero _)
  | succ steps ih =>
      rcases Entries.mem_keys_iff.mp isKey with ⟨target, found⟩
      have isTarget := Service.model_of_get? found
      by_cases isStruct : target.isStruct = true
      · exact speller.struct steps isTarget isStruct
      · have noStruct : target.isStruct = false := by simpa using isStruct
        rw [speller.expanded steps isTarget noStruct]
        apply speller.exists_spell_of_plain
        · exact (wellFormed.flat found).plain_of_isStruct_eq_false noStruct
        · intro other refers
          have lower := ranked.rank_lt found noStruct refers
          apply ih
          · exact wellFormed.resolved found other refers
          · exact Nat.lt_of_lt_of_le lower (Nat.le_of_lt_succ enough)

/-- A plain model is spelled if its references are resolved. -/
theorem exists_typeOf (speller : Speller service α) (wellFormed : service.WellFormed)
    {model : Model} (plain : model.Plain) (resolved : model.Resolved service.models) :
    ∃ type, speller.typeOf model = .ok type := by
  rcases wellFormed.ranked with ⟨ranked⟩
  apply speller.exists_spell_of_plain plain
  intro name refers
  apply speller.exists_expand wellFormed ranked (resolved name refers)
  exact Nat.lt_succ_of_le (ranked.rank_le_length name)

/-- The bytes of a body are spelled. -/
theorem exists_typeOf_byteStream (speller : Speller service α) :
    ∃ type, speller.typeOf .byteStream = .ok type := by
  apply speller.iterator
  exact speller.basic rfl _ none

end Speller

/-! ## The targets -/

namespace PythonCode

theorem exists_primitiveTypeCode {kind : ModelKind} (primitive : kind.isPrimitive = true) :
    ∃ type, primitiveTypeCode? kind = some type := by
  cases kind <;> first | exact ⟨_, rfl⟩ | cases primitive

/-- Annotations follow the rules of spelling. -/
def speller (service : Service) : Speller service TypeCode where
  spell := typeCodeWith
  expand := referenceTypeCode service
  basic := by
    intro kind primitive known description
    rcases exists_primitiveTypeCode primitive with ⟨type, isType⟩
    exact ⟨type, by simp [Model.ofKind, typeCodeWith, isType]⟩
  array := by
    rintro known element ⟨type, spelled⟩ description
    simp only [Model.array, typeCodeWith, primitiveTypeCode?, elementTypeCode, spelled]
    by_cases isByte : element.kind = .byte
    · exact ⟨bytesTypeCode, by simp [isByte]; rfl⟩
    · exact ⟨_, by simp [isByte]; rfl⟩
  map := by
    rintro known element ⟨type, spelled⟩ description
    simp only [Model.map, typeCodeWith, primitiveTypeCode?, elementTypeCode, spelled]
    exact ⟨_, rfl⟩
  iterator := by
    rintro known element ⟨type, spelled⟩
    simp only [Model.iterator, typeCodeWith, primitiveTypeCode?, elementTypeCode, spelled]
    exact ⟨_, rfl⟩
  reference := by
    intro known name description
    simp [typeCodeWith, primitiveTypeCode?]
  struct := by
    intro name target steps isTarget isStruct
    simp only [referenceTypeCode, isTarget, bind, Except.bind, isStruct, if_true]
    exact ⟨_, rfl⟩
  expanded := by
    intro name target steps isTarget noStruct
    simp [referenceTypeCode, isTarget, bind, Except.bind, noStruct]

theorem typeCode_eq (service : Service) (model : Model) :
    typeCode service model = (speller service).typeOf model :=
  rfl

end PythonCode

namespace RustCode

theorem exists_primitiveType {kind : ModelKind} (primitive : kind.isPrimitive = true) :
    ∃ type, primitiveType? kind = some type := by
  cases kind <;> first | exact ⟨_, rfl⟩ | cases primitive

/-- Types follow the rules of spelling. -/
def speller (service : Service) : Speller service String where
  spell := typeWith
  expand := referenceType service
  basic := by
    intro kind primitive known description
    rcases exists_primitiveType primitive with ⟨type, isType⟩
    exact ⟨type, by simp [Model.ofKind, typeWith, isType]⟩
  array := by
    rintro known element ⟨type, spelled⟩ description
    simp only [Model.array, typeWith, primitiveType?, elementType, spelled]
    exact ⟨_, rfl⟩
  map := by
    rintro known element ⟨type, spelled⟩ description
    simp only [Model.map, typeWith, primitiveType?, elementType, spelled]
    exact ⟨_, rfl⟩
  iterator := by
    rintro known element ⟨type, spelled⟩
    simp only [Model.iterator, typeWith, primitiveType?, elementType, spelled]
    exact ⟨_, rfl⟩
  reference := by
    intro known name description
    simp [typeWith, primitiveType?]
  struct := by
    intro name target steps isTarget isStruct
    simp only [referenceType, isTarget, bind, Except.bind, isStruct, if_true]
    exact ⟨_, rfl⟩
  expanded := by
    intro name target steps isTarget noStruct
    simp [referenceType, isTarget, bind, Except.bind, noStruct]

theorem renderType_eq (service : Service) (model : Model) :
    renderType service model = (speller service).typeOf model :=
  rfl

end RustCode

namespace Service

variable {service : Service}

/-- A model has a type in every target.  In Python this is its annotation, written out. -/
structure Spells (service : Service) (model : Model) : Prop where
  rust : ∃ type, Target.rust.renderType service model = .ok type
  python : ∃ code, PythonCode.typeCode service model = .ok code ∧
    Target.python.renderType service model = .ok code.expression.render

/-- What every speller gives a type has a type in every target. -/
theorem spells_of_spellers {model : Model}
    (each : ∀ {α : Type} (speller : Speller service α), ∃ type, speller.typeOf model = .ok type) :
    service.Spells model := by
  constructor
  · rcases each (RustCode.speller service) with ⟨type, spelled⟩
    exact ⟨type, by rw [Target.renderType, RustCode.renderType_eq, spelled]⟩
  · rcases each (PythonCode.speller service) with ⟨code, spelled⟩
    rw [← PythonCode.typeCode_eq] at spelled
    refine ⟨code, spelled, ?_⟩
    rw [Target.renderType, PythonCode.renderType, spelled]
    rfl

/-- Plain models whose references are resolved have types. -/
theorem WellFormed.spells (wellFormed : service.WellFormed) {model : Model}
    (plain : model.Plain) (resolved : model.Resolved service.models) : service.Spells model :=
  spells_of_spellers fun speller => speller.exists_typeOf wellFormed plain resolved

theorem spells_byteStream : service.Spells .byteStream :=
  spells_of_spellers fun speller => speller.exists_typeOf_byteStream

/-! ## Fields -/

/-- All fields have types, unless two of them have the same name. -/
def SpellsFields (service : Service) (fields : Outcome (List Field)) : Prop :=
  (∃ given, fields = .ok given ∧ ∀ field ∈ given, service.Spells field.model) ∨
    ∃ name owner, fields = .error (.duplicateName name owner)

/-- The check of names succeeds or reports a name. -/
theorem checkDistinct_eq (owner : String) (seen : List String) (fields : List Field) :
    checkDistinct owner seen fields = .ok () ∨
      ∃ name, checkDistinct owner seen fields = .error (.duplicateName name owner) := by
  induction fields generalizing seen with
  | nil => exact Or.inl rfl
  | cons field rest ih =>
      by_cases repeated : seen.contains field.name = true
      · right
        exact ⟨field.name, by rw [checkDistinct, if_pos repeated]⟩
      · rw [checkDistinct, if_neg repeated]
        exact ih (field.name :: seen)

theorem SpellsFields.of_checked {given : List Field}
    (each : ∀ field ∈ given, service.Spells field.model) (owner : String) :
    service.SpellsFields (do checkDistinct owner [] given; pure given) := by
  rcases checkDistinct_eq owner [] given with passed | ⟨name, failed⟩
  · left
    exact ⟨given, by rw [passed]; rfl, each⟩
  · right
    exact ⟨name, owner, by rw [failed]; rfl⟩

/-- Only structs are turned into structs by following a reference. -/
theorem isStruct_of_dereference {model target : Model}
    (isTarget : service.dereference model = .ok target) (isStruct : model.isStruct = true) :
    target.isStruct = true := by
  have noReference : model.isReference = false := by
    simp only [Model.isStruct, decide_eq_true_eq] at isStruct
    simp [Model.isReference, isStruct]
  rw [dereference, noReference] at isTarget
  cases isTarget
  exact isStruct

/-- A body has fields, and all of them have types. -/
theorem WellFormed.exists_bodyFields (wellFormed : service.WellFormed) {body : Option Model}
    (flat : ∀ model ∈ body, model.Flat ∧ model.Resolved service.models) :
    ∃ fields, bodyFields service body = .ok fields ∧
      ∀ field ∈ fields, service.Spells field.model := by
  cases body with
  | none => exact ⟨[], rfl, by simp⟩
  | some body =>
      rcases flat body rfl with ⟨isFlat, resolved⟩
      rcases wellFormed.exists_dereference isFlat resolved with
        ⟨target, isTarget, targetFlat, targetResolved⟩
      simp only [bodyFields, isTarget, bind, Except.bind]
      by_cases isRaw : target.isRawPayload = true
      · refine ⟨_, by rw [if_pos isRaw]; rfl, ?_⟩
        simp only [List.mem_singleton, forall_eq]
        exact spells_byteStream
      · by_cases isStruct : target.isStruct = true
        · refine ⟨_, by rw [if_neg isRaw, if_pos isStruct]; rfl, ?_⟩
          rw [List.forall_mem_map]
          intro property member
          exact wellFormed.spells (targetFlat.plain_of_mem_properties member)
            (targetResolved.of_mem_properties member)
        · refine ⟨_, by rw [if_neg isRaw, if_neg isStruct]; rfl, ?_⟩
          simp only [List.mem_singleton, forall_eq]
          have noStruct : body.isStruct = false := by
            by_contra bodyIsStruct
            apply isStruct
            exact isStruct_of_dereference isTarget (by simpa using bodyIsStruct)
          exact wellFormed.spells (isFlat.plain_of_isStruct_eq_false noStruct) resolved

/-! ## Operations -/

/-- All parameters and headers of an operation have types. -/
theorem WellFormed.spells_parameter (wellFormed : service.WellFormed) {operation : Operation}
    (member : operation ∈ service.operations) :
    ∀ parameter ∈ operation.input.parameters ++ operation.output.header,
      service.Spells parameter.model := by
  have inside : ∀ model ∈ operation.places.inside, service.Spells model := by
    intro model isInside
    rcases wellFormed.inside operation member model isInside with ⟨plain, resolved⟩
    exact wellFormed.spells plain resolved
  rw [Places.forall_mem_inside_iff] at inside
  simp only [Operation.places, List.forall_mem_map, Parameter.entry] at inside
  rcases inside with ⟨path, query, header, _, outputHeader⟩
  simp only [OperationInput.parameters, List.forall_mem_append]
  exact ⟨⟨⟨path, query⟩, header⟩, outputHeader⟩

/-- The body of an input is plain and resolved. -/
theorem WellFormed.inputBody (wellFormed : service.WellFormed) {operation : Operation}
    (member : operation ∈ service.operations) :
    ∀ body ∈ operation.input.body, body.Plain ∧ body.Resolved service.models := by
  have inside := wellFormed.inside operation member
  rw [Places.forall_mem_inside_iff] at inside
  exact inside.2.2.2.1

theorem WellFormed.spellsFields_input (wellFormed : service.WellFormed) {operation : Operation}
    (member : operation ∈ service.operations) :
    service.SpellsFields (service.inputFields operation) := by
  have parameters := wellFormed.spells_parameter member
  simp only [OperationInput.parameters, List.forall_mem_append] at parameters
  rcases parameters with ⟨⟨⟨path, query⟩, header⟩, _⟩
  have flat : ∀ body ∈ operation.input.body, body.Flat ∧ body.Resolved service.models := by
    intro body isBody
    rcases wellFormed.inputBody member body isBody with ⟨plain, resolved⟩
    exact ⟨.plain plain, resolved⟩
  rcases wellFormed.exists_bodyFields flat with ⟨body, isBody, spelled⟩
  simp only [inputFields, isBody, bind, Except.bind]
  apply SpellsFields.of_checked
  simp only [List.forall_mem_append, List.forall_mem_map]
  exact ⟨⟨⟨path, query⟩, header⟩, spelled⟩

theorem WellFormed.spellsFields_output (wellFormed : service.WellFormed) {operation : Operation}
    (member : operation ∈ service.operations) :
    service.SpellsFields (service.outputFields operation) := by
  have parameters := wellFormed.spells_parameter member
  rw [List.forall_mem_append] at parameters
  rcases wellFormed.exists_bodyFields (wellFormed.outputBody operation member) with
    ⟨body, isBody, spelled⟩
  simp only [outputFields, isBody, bind, Except.bind]
  apply SpellsFields.of_checked
  simp only [List.forall_mem_append, List.forall_mem_map]
  exact ⟨parameters.2, spelled⟩

/-- The body of an input can be an argument of a handler. -/
theorem WellFormed.exists_bodyArgument (wellFormed : service.WellFormed) {body : Model}
    (plain : body.Plain) (resolved : body.Resolved service.models) :
    ∃ argument, PythonCode.bodyArgument service body = .ok argument := by
  rcases wellFormed.exists_dereference (.plain plain) resolved with ⟨target, isTarget, _, _⟩
  rcases (wellFormed.spells plain resolved).python with ⟨code, spelled, _⟩
  simp only [PythonCode.bodyArgument, isTarget, bind, Except.bind]
  by_cases isRaw : target.isRawPayload = true
  · exact ⟨_, by rw [if_pos isRaw]; rfl⟩
  · exact ⟨_, by rw [if_neg isRaw, spelled]; rfl⟩

end Service

/-- In a built service everything has a type in every target: named models that are no structs,
properties, references to any name, parameters and headers, bodies of requests, and all fields
of inputs and outputs. -/
theorem Document.service_spells {document : Document} {service : Service}
    (built : document.service = .ok service) :
    (∀ entry ∈ service.models, service.Spells (.reference entry.1) ∧
      (entry.2.isStruct = false → service.Spells entry.2) ∧
        ∀ property ∈ entry.2.properties, service.Spells property.2) ∧
    (∀ entry ∈ service.parameters, service.Spells entry.2.model) ∧
    ∀ operation ∈ service.operations,
      (∀ parameter ∈ operation.input.parameters ++ operation.output.header,
        service.Spells parameter.model) ∧
      (∀ body ∈ operation.input.body, service.Spells body ∧
        ∃ argument, PythonCode.bodyArgument service body = .ok argument) ∧
      service.SpellsFields (service.inputFields operation) ∧
        service.SpellsFields (service.outputFields operation) := by
  have wellFormed := Document.wellFormed_of_service built
  constructor
  · intro entry member
    have found := Entries.get?_eq_some_of_mem wellFormed.distinct member
    have flat := wellFormed.flat found
    have resolved := wellFormed.resolved found
    constructor
    · apply wellFormed.spells (.reference entry.1 none)
      exact (Model.refersWithin_reference _ _).mpr (List.mem_map_of_mem member)
    constructor
    · intro noStruct
      exact wellFormed.spells (flat.plain_of_isStruct_eq_false noStruct) resolved
    · intro property inProperties
      exact wellFormed.spells (flat.plain_of_mem_properties inProperties)
        (resolved.of_mem_properties inProperties)
  constructor
  · intro entry member
    rcases wellFormed.parameters entry member with ⟨plain, resolved⟩
    exact wellFormed.spells plain resolved
  · intro operation member
    refine ⟨wellFormed.spells_parameter member, ?_, wellFormed.spellsFields_input member,
      wellFormed.spellsFields_output member⟩
    intro body isBody
    rcases wellFormed.inputBody member body isBody with ⟨plain, resolved⟩
    exact ⟨wellFormed.spells plain resolved, wellFormed.exists_bodyArgument plain resolved⟩

/-! ## Maps inside each other -/

/-- The name of a map on a level. -/
def mapName (level : Nat) : String :=
  "Map" ++ toString level

/-- A map with the map of the level below inside of it. -/
def mapSchema : Nat → SchemaObject
  | 0 => .text
  | level + 1 => .dictionary (.pointer (mapName level))

/-- Maps inside each other, each with a name. -/
def mapDocument : Document where
  openapi := "3.0.0"
  info := none
  paths := []
  components := some {
    schemas := some ((List.range 4).map fun level => (mapName level, mapSchema level))
    parameters := none, responses := none, requestBodies := none, headers := none }

/-- The map of the highest level is spelled, with the others written out. -/
theorem service_spells_map :
    ∃ service, mapDocument.service = .ok service ∧ service.Spells (.reference (mapName 3)) := by
  have passes : mapDocument.draft.succeedsWith (fun draft =>
      draft.passes (fun name => mapDocument.schemas.keys.idxOf name) &&
        draft.models.keys.contains (mapName 3)) = true := by
    decide +kernel
  rcases Document.exists_service_of_test passes with ⟨draft, order, built, isKey⟩
  rw [List.contains_iff_mem] at isKey
  rcases List.mem_map.mp isKey with ⟨entry, member, isName⟩
  have spelled := (Document.service_spells built).1 entry member
  rw [isName] at spelled
  exact ⟨_, built, spelled.1⟩

end ApiScaffold

import ApiScaffold.Proofs.Collection.Rearrangement
import ApiScaffold.Proofs.Document.Agreement
import ApiScaffold.Proofs.Service.Draft
import ApiScaffold.Proofs.Service.Reserved

/-!
# Documents with the same service

Building an operation looks at what is declared only after it is resolved, and of that only at
some parts: the schema of the selected content, the headers, whether there is anything.  Two
documents whose operations agree on these parts, and whose components become the same models and
parameters, have the same service, or they fail for the same reason.
-/

namespace ApiScaffold

theorem operationIdOf_eq {method : Method} {uri : String} {object other : OperationObject}
    (same : object.operationId = other.operationId) :
    operationIdOf method uri object = operationIdOf method uri other := by
  simp only [operationIdOf, same]

namespace Definitions

/-! ## What is declared -/

section Declarations

variable (one two : Definitions)

/-- Headers that are resolved to the same, in every context. -/
def HeadersAgree (header other : HeaderObject) : Prop :=
  ∀ context, one.document.resolve header context = two.document.resolve other context

/-- Request bodies that are resolved to bodies with the same selected schema. -/
def BodiesAgree (body other : RequestBodyObject) : Prop :=
  ∀ context, Outcome.Agree
    (fun definition result => contentSchema? definition.content = contentSchema? result.content)
    (one.document.resolve body context) (two.document.resolve other context)

/-- Definitions of responses that declare the same output. -/
structure SameOutput (response other : ResponseObject) : Prop where
  informative : response.isInformative = other.isInformative
  content : contentSchema? response.content = contentSchema? other.content
  headers : Entries.Matches (HeadersAgree one two) (response.headers.getD [])
    (other.headers.getD [])

/-- Responses that are resolved to definitions with the same output. -/
def ResponsesAgree (response other : ResponseObject) : Prop :=
  ∀ context, Outcome.Agree (SameOutput one two) (one.document.resolve response context)
    (two.document.resolve other context)

/-- Parameters that an operation takes alike. -/
def ParametersAgree (object other : ParameterObject) : Prop :=
  ∀ operationId, one.parameterFor operationId object = two.parameterFor operationId other

/-- Operations whose parts agree. -/
structure OperationsAgree (object other : OperationObject) : Prop where
  operationId : object.operationId = other.operationId
  summary : object.summary = other.summary
  description : object.description = other.description
  tags : object.tags = other.tags
  parameters : List.Forall₂ (ParametersAgree one two) (object.parameters.getD [])
    (other.parameters.getD [])
  requestBody : Option.Rel (BodiesAgree one two) object.requestBody other.requestBody
  responses : Entries.Matches (ResponsesAgree one two) (object.responses.getD [])
    (other.responses.getD [])

/-- Path items with operations and shared parameters that agree. -/
structure ItemsAgree (item other : PathItemObject) : Prop where
  parameters : List.Forall₂ (ParametersAgree one two) (item.parameters.getD [])
    (other.parameters.getD [])
  operations : Entries.Matches (OperationsAgree one two) item.operations other.operations

end Declarations

/-! ## What is built -/

variable {one two : Definitions}

theorem mergedParameters_eq {operationId : String} {objects others : List ParameterObject}
    (agree : List.Forall₂ (ParametersAgree one two) objects others) :
    one.mergedParameters operationId objects = two.mergedParameters operationId others := by
  have same := Outcome.mapM_eq_of_forall₂
    (List.Forall₂.imp (fun _ _ agrees => agrees operationId) agree)
  rw [mergedParameters, mergedParameters, same]

theorem requestBody_eq {operationId : String} {object other : OperationObject}
    (agree : Option.Rel (BodiesAgree one two) object.requestBody other.requestBody) :
    one.requestBody operationId object = two.requestBody operationId other := by
  unfold requestBody
  generalize object.requestBody = body at agree
  generalize other.requestBody = otherBody at agree
  cases agree with
  | none => rfl
  | some agrees =>
      apply (agrees (some operationId)).bind_eq
      intro definition result sameSchema
      rw [sameSchema]

theorem flatten_eq (sameModels : one.models = two.models) : one.flatten = two.flatten := by
  funext keepStructs context model
  simp only [flatten, sameModels]

theorem responseHeader_eq (sameModels : one.models = two.models) {context name : String}
    {header other : HeaderObject} (agree : HeadersAgree one two header other) :
    one.responseHeader context name header = two.responseHeader context name other := by
  rw [responseHeader, responseHeader, agree, flatten_eq sameModels]

theorem outputOf_eq (sameModels : one.models = two.models) {context : String}
    {statusCode : Int} {response other : ResponseObject}
    (same : SameOutput one two response other) :
    one.outputOf context statusCode response = two.outputOf context statusCode other := by
  rw [outputOf, outputOf]
  apply Outcome.bind_eq_bind
  · apply Outcome.mapM_eq_of_forall₂
    apply List.Forall₂.imp _ same.headers
    rintro ⟨name, header⟩ ⟨_, otherHeader⟩ ⟨rfl, agree⟩
    exact responseHeader_eq sameModels agree
  · intro headers
    rw [responseBody, responseBody, same.content, flatten_eq sameModels]

/-- The same output is selected from responses that agree under the same codes. -/
theorem selectOutput_eq (sameModels : one.models = two.models) {operationId : String}
    {found : Option OperationOutput} {responses others : List (Int × ResponseObject)}
    (agree : Entries.Matches (ResponsesAgree one two) responses others) :
    one.selectOutput operationId found responses =
      two.selectOutput operationId found others := by
  induction agree generalizing found with
  | nil => rfl
  | @cons entry other _ _ heads _ ih =>
      obtain ⟨statusCode, response⟩ := entry
      obtain ⟨_, otherResponse⟩ := other
      obtain ⟨rfl, agrees⟩ := heads
      simp only [selectOutput]
      apply (agrees _).bind_eq
      intro definition result same
      simp only [same.informative, outputOf_eq sameModels same, ih]

/-- The responses of success match if all responses do. -/
theorem keptResponses_matches {related : ResponseObject → ResponseObject → Prop}
    {responses others : Entries String ResponseObject} (agree : responses.Matches related others) :
    (keptResponses responses).Matches related (keptResponses others) := by
  apply Entries.Matches.ofList
  apply List.rel_filterMap _ agree
  rintro ⟨key, response⟩ ⟨_, other⟩ ⟨rfl, here⟩
  cases read : ResponseKey.ofText key with
  | success statusCode => simpa only [read, Option.rel_some_some, true_and] using here
  | ignored reason => simp only [read, Option.rel_none_none]

/-- Which responses are left out depends on their keys alone. -/
theorem ignoredResponses_eq {related : ResponseObject → ResponseObject → Prop}
    {responses others : Entries String ResponseObject} (agree : responses.Matches related others)
    (operationId : String) :
    ignoredResponses operationId responses = ignoredResponses operationId others := by
  unfold ignoredResponses
  induction agree with
  | nil => rfl
  | @cons entry other _ _ heads _ ih =>
      obtain ⟨key, response⟩ := entry
      obtain ⟨_, otherResponse⟩ := other
      obtain ⟨rfl, _⟩ := heads
      simp only [List.filterMap_cons, ih]

/-- What is found under some keys in matching entries matches. -/
theorem matches_filterMap_get? {related : ResponseObject → ResponseObject → Prop}
    {responses others : Entries Int ResponseObject} (agree : responses.Matches related others)
    (codes : List Int) :
    Entries.Matches related
      (codes.filterMap fun code => (responses.get? code).map fun response => (code, response))
      (codes.filterMap fun code => (others.get? code).map fun response => (code, response)) := by
  have sameCodes : List.Forall₂ Eq codes codes := List.forall₂_same.mpr fun _ _ => rfl
  apply List.rel_filterMap _ sameCodes
  rintro code _ rfl
  exact (agree.get?_rel code).map fun _ _ here => ⟨rfl, here⟩

theorem responses_eq (sameModels : one.models = two.models) {operationId : String}
    {responses others : Entries String ResponseObject}
    (agree : responses.Matches (ResponsesAgree one two) others) :
    one.responses operationId responses = two.responses operationId others := by
  have kept := keptResponses_matches agree
  have sameOutput := fun codes => @selectOutput_eq one two sameModels operationId none _ _
    (matches_filterMap_get? kept codes)
  simp only [Definitions.responses, ← kept.keys_eq, sameOutput, ignoredResponses_eq agree]

/-- Operations that agree are built alike at the same route. -/
theorem operationAt_eq (sameModels : one.models = two.models) (uri : String) (method : Method)
    {shared others : List ParameterObject} {object other : OperationObject}
    (agreeShared : List.Forall₂ (ParametersAgree one two) shared others)
    (agree : OperationsAgree one two object other) :
    one.operationAt uri method shared object = two.operationAt uri method others other := by
  have sameId := @operationIdOf_eq method uri object other agree.operationId
  have agreeParameters := List.rel_append agreeShared agree.parameters
  simp only [operationAt, assemble, sameId, mergedParameters_eq agreeParameters,
    requestBody_eq agree.requestBody, responses_eq sameModels agree.responses, agree.summary,
    agree.description, agree.tags]

/-- All operations are built alike from path items that agree, path by path. -/
theorem operations_eq (sameModels : one.models = two.models)
    (agree : one.document.paths.sorted.Matches (ItemsAgree one two) two.document.paths.sorted) :
    one.operations = two.operations := by
  have same : one.document.declaredOperations.mapM (fun declared =>
      one.operationAt declared.uri declared.method declared.shared declared.object) =
        two.document.declaredOperations.mapM fun declared =>
          two.operationAt declared.uri declared.method declared.shared declared.object := by
    apply Outcome.mapM_eq_of_forall₂
    apply List.rel_flatMap agree
    rintro ⟨uri, item⟩ ⟨_, otherItem⟩ ⟨rfl, agrees⟩
    apply List.forall₂_map_left_iff.mpr
    apply List.forall₂_map_right_iff.mpr
    apply List.Forall₂.imp _ agrees.operations
    rintro ⟨method, object⟩ ⟨_, otherObject⟩ ⟨rfl, agreeObject⟩
    exact operationAt_eq sameModels uri method agrees.parameters agreeObject
  rw [operations, operations, same]

end Definitions

/-! ## Services -/

/-- Parameters that have no structs in them stay as they were declared. -/
def KeepsPlain (declared parameters : Entries String Parameter) : Prop :=
  ∀ name parameter, declared.get? name = some parameter → parameter.model.Plain →
    parameters.get? name = some parameter

/-- Hoisting keeps parameters that have no structs in them. -/
theorem keepsPlain_hoistParameters (owner : String → String)
    (declared : Entries String Parameter) (registry : ModelRegistry) :
    KeepsPlain declared ((hoistParameters owner declared).run registry).1 := by
  induction declared generalizing registry with
  | nil =>
      intro name parameter found
      cases found
  | cons entry rest ih =>
      obtain ⟨key, first⟩ := entry
      intro name parameter found plain
      have run : ((hoistParameters owner ((key, first) :: rest)).run registry).1 =
          (key, { first with model := ((first.model.hoist (owner key)).run registry).1 }) ::
            ((hoistParameters owner rest).run
              ((first.model.hoist (owner key)).run registry).2).1 := rfl
      rw [run]
      by_cases isFirst : key = name
      · simp only [Entries.get?, isFirst, if_true, Option.some.injEq] at found ⊢
        subst found
        rw [plain.hoist_eq]
        rfl
      · simp only [Entries.get?, isFirst, if_false] at found ⊢
        exact ih _ name parameter found plain

namespace Document

/-- Documents whose operations agree, whatever models and parameters their components become. -/
structure ServiceAgrees (first second : Document) : Prop where
  title : first.info.bind InfoObject.title = second.info.bind InfoObject.title
  version : first.info.bind InfoObject.version = second.info.bind InfoObject.version
  models : first.declaredModels = second.declaredModels
  parameters : first.declaredParameters = second.declaredParameters
  typeNames : first.operationTypeNames.Perm second.operationTypeNames
  operations : ∀ {declared parameters : Entries String Parameter} (models : Entries String Model),
    first.declaredParameters = .ok declared → KeepsPlain declared parameters →
      first.paths.sorted.Matches (Definitions.ItemsAgree ⟨first, models, parameters⟩
        ⟨second, models, parameters⟩) second.paths.sorted

/-- Documents that say the same about themselves, and whose components have the same schemas and
parameters. -/
structure KeepsComponents (first second : Document) : Prop where
  info : first.info = second.info
  components : first.components.isNone = second.components.isNone
  schemas : first.schemas = second.schemas
  parameters : first.parameters = second.parameters

/-- A parameter is resolved to the same with the same definitions of parameters. -/
theorem KeepsComponents.resolve_eq {first second : Document} (kept : KeepsComponents first second)
    (object : ParameterObject) (context : Option String) :
    first.resolve object context = second.resolve object context :=
  resolve_eq_of_definitions kept.components kept.parameters object context

/-- The same parameter is taken alike with the same definitions of parameters. -/
theorem KeepsComponents.parametersAgree {first second : Document}
    (kept : KeepsComponents first second) (models : Entries String Model)
    (parameters : Entries String Parameter) (object : ParameterObject) :
    Definitions.ParametersAgree ⟨first, models, parameters⟩ ⟨second, models, parameters⟩ object
      object := by
  intro operationId
  rw [Definitions.parameterFor, Definitions.parameterFor, kept.resolve_eq]

/-- The type names of operations do not depend on the order of paths. -/
theorem operationTypeNames_perm {first second : Document}
    (sameIds : first.paths.sorted.Matches (fun item other => Entries.Matches
      (fun object result => object.operationId = result.operationId) item.operations
        other.operations) second.paths.sorted) :
    first.operationTypeNames.Perm second.operationTypeNames := by
  let names := fun entry : String × PathItemObject => entry.2.operations.flatMap fun operation =>
    let id := operationIdOf operation.1 entry.1 operation.2
    [inputTypeName id, outputTypeName id]
  have isNames : ∀ document : Document, document.operationTypeNames.Perm
      (document.paths.sorted.flatMap names) := by
    intro document
    exact ((List.mergeSort_perm document.paths _).flatMap_right names).symm
  have same : List.Forall₂ Eq (first.paths.sorted.flatMap names)
      (second.paths.sorted.flatMap names) := by
    apply List.rel_flatMap sameIds
    rintro ⟨uri, item⟩ ⟨_, otherItem⟩ ⟨rfl, operations⟩
    apply List.rel_flatMap operations
    rintro ⟨method, object⟩ ⟨_, otherObject⟩ ⟨rfl, sameId⟩
    simp only [operationIdOf_eq sameId, List.forall₂_eq_eq_eq]
  rw [List.forall₂_eq_eq_eq] at same
  exact (isNames first).trans (same ▸ (isNames second).symm)

/-- Documents with the same schemas and parameters agree if their paths do, one by one in the order
of their names. -/
theorem KeepsComponents.serviceAgrees {first second : Document}
    (kept : KeepsComponents first second) {related : PathItemObject → PathItemObject → Prop}
    (paths : first.paths.sorted.Matches related second.paths.sorted)
    (sameIds : ∀ item other, related item other → Entries.Matches
      (fun object result => object.operationId = result.operationId) item.operations
        other.operations)
    (agree : ∀ {declared parameters : Entries String Parameter} (models : Entries String Model),
      first.declaredParameters = .ok declared → KeepsPlain declared parameters →
        ∀ item other, related item other → Definitions.ItemsAgree ⟨first, models, parameters⟩
          ⟨second, models, parameters⟩ item other) : ServiceAgrees first second := by
  constructor
  · rw [kept.info]
  · rw [kept.info]
  · rw [declaredModels, declaredModels, kept.schemas]
  · simp only [declaredParameters, kept.parameters, kept.resolve_eq]
  · exact operationTypeNames_perm (paths.imp sameIds)
  · intro declared parameters models isDeclared plain
    exact paths.imp (agree models isDeclared plain)

/-- Documents that agree have the same draft. -/
theorem ServiceAgrees.draft_eq {first second : Document} (agrees : ServiceAgrees first second) :
    first.draft = second.draft := by
  unfold draft
  rw [← agrees.models, ← agrees.parameters]
  cases first.declaredModels with
  | error failure => rfl
  | ok declared =>
      obtain ⟨_, settled, run, otherRun⟩ :=
        unordered_hoistDeclared declared declared agrees.typeNames
      simp only [bind, Except.bind, run, otherRun]
      cases isDeclared : first.declaredParameters with
      | error failure => rfl
      | ok declaredParameters =>
          obtain ⟨parameters, known, hoisted, otherHoisted⟩ :=
            unordered_hoistParameters (fun name => Naming.typeName name ++ "Parameter")
              declaredParameters settled agrees.typeNames
          have kept := keepsPlain_hoistParameters (fun name => Naming.typeName name ++ "Parameter")
            declaredParameters ⟨settled, first.operationTypeNames⟩
          rw [hoisted] at kept
          have sameOperations : Definitions.operations ⟨first, known, parameters⟩ =
              Definitions.operations ⟨second, known, parameters⟩ :=
            Definitions.operations_eq rfl (agrees.operations known isDeclared kept)
          simp only [hoisted, otherHoisted, sameOperations]
          cases Definitions.operations ⟨second, known, parameters⟩ with
          | error failure => rfl
          | ok built =>
              obtain ⟨operations, final, last, otherLast⟩ :=
                Hoist.Unordered.mapM Operation.unordered_hoist built.1 known agrees.typeNames
              simp only [last, otherLast]

/-- Documents that agree have the same service, or fail for the same reason. -/
theorem ServiceAgrees.service_eq {first second : Document}
    (agrees : ServiceAgrees first second) : first.service = second.service := by
  have sameCompletion : ∀ draft : Draft, draft.complete first = draft.complete second := by
    intro draft
    simp only [Draft.complete, Draft.ordered, agrees.title, agrees.version]
  rw [Document.service_eq, Document.service_eq, agrees.draft_eq]
  simp only [sameCompletion]

end Document

end ApiScaffold

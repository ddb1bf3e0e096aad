import ApiScaffold.Proofs.Service.Agreement
import ApiScaffold.Proofs.Service.Built

/-!
# Operations that fail alike

An operation is built from the components of its document, and from the models and parameters that
they became.  The models depend on the whole document, since hoisting invents names that no
operation uses.  Whether an operation is built, and how it fails, depends on them at one point only:
a pointer in its output must be the name of some model.

So definitions with the same components build an operation, or fail with the same failure, unless
its output points to a name that is known to one of them only.
-/

namespace ApiScaffold

/-- A section is the same in documents with the same components. -/
class IsComponentSection (α : Type) [Component α] : Prop where
  definitions_eq : ∀ {first second : Document}, first.components = second.components →
    Component.definitions (α := α) first = Component.definitions second

instance : IsComponentSection ParameterObject :=
  ⟨fun same => by simp only [Component.definitions, Document.parameters, same]⟩

instance : IsComponentSection RequestBodyObject :=
  ⟨fun same => by simp only [Component.definitions, Document.requestBodies, same]⟩

instance : IsComponentSection ResponseObject :=
  ⟨fun same => by simp only [Component.definitions, Document.responses, same]⟩

instance : IsComponentSection HeaderObject :=
  ⟨fun same => by simp only [Component.definitions, Document.headers, same]⟩

namespace Document

variable {first second : Document} {α : Type} [Referable α] [IsSection α] [IsComponentSection α]

/-- Items are resolved alike in documents with the same components. -/
theorem resolve_eq_of_components (same : first.components = second.components) (item : α)
    (context : Option String) : first.resolve item context = second.resolve item context :=
  resolve_eq_of_definitions (congrArg Option.isNone same) (IsComponentSection.definitions_eq same)
    item context

theorem resolve_agree_of_components (same : first.components = second.components) (item : α)
    (context : Option String) :
    Outcome.Agree
      (fun definition other => definition = other ∧ first.definition? item = some definition)
      (first.resolve item context) (second.resolve item context) := by
  rw [← resolve_eq_of_components same]
  exact .self fun _ resolved => ⟨rfl, definition?_of_resolve resolved⟩

end Document

namespace Definitions

open Document

/-- Whether two runs succeed together, or fail with the same failure. -/
abbrev FailAlike {α β : Type} (first : Outcome α) (second : Outcome β) : Prop :=
  Outcome.Agree (fun _ _ => True) first second

/-- Definitions of documents with the same components. -/
structure SameComponents (one two : Definitions) : Prop where
  components : one.document.components = two.document.components
  parameters : one.parameters.keys = two.parameters.keys

/-- A schema that points to a model in both definitions, or in none of them. -/
def PointsAlike (one two : Definitions) (schema : SchemaObject) : Prop :=
  ∀ pointer, schema.ref = some pointer →
    (pointerName pointer ∈ one.models.keys ↔ pointerName pointer ∈ two.models.keys)

/-- An operation whose output points to models in both definitions, or in none of them. -/
def OutputPointsAlike (one two : Definitions) (declared : DeclaredOperation) : Prop :=
  (∀ entry ∈ (one.document.places declared).outputHeader, one.PointsAlike two entry.2) ∧
    ∀ schema ∈ (one.document.places declared).outputBody, one.PointsAlike two schema

variable {one two : Definitions}

/-- Where the same names are known, something is found under a name in both or in none. -/
theorem rel_get?_of_mem_iff {α β : Type} {first : Entries String α} {second : Entries String β}
    {name : String} (same : name ∈ first.keys ↔ name ∈ second.keys) :
    Option.Rel (fun _ _ => True) (first.get? name) (second.get? name) := by
  rw [← Entries.get?_isSome_iff, ← Entries.get?_isSome_iff] at same
  cases here : first.get? name <;> cases there : second.get? name
  · exact .none
  · simp [here, there] at same
  · simp [here, there] at same
  · exact .some trivial

section SameComponents

variable (same : one.SameComponents two)
include same

/-! ## Inputs -/

/-- A parameter has the same definition, whatever its model is. -/
theorem parameterFor_failAlike (operationId : String) (object : ParameterObject) :
    FailAlike (one.parameterFor operationId object) (two.parameterFor operationId object) := by
  rw [parameterFor, parameterFor]
  cases object.ref with
  | none => exact .self fun _ _ => trivial
  | some pointer =>
      have known : Option.Rel (fun _ _ => True) (one.parameters.get? (pointerName pointer))
          (two.parameters.get? (pointerName pointer)) :=
        rel_get?_of_mem_iff (by rw [same.parameters])
      apply (resolve_agree_of_components same.components object (some operationId)).bind
      rintro definition _ ⟨rfl, -⟩
      generalize one.parameters.get? (pointerName pointer) = here at known
      generalize two.parameters.get? (pointerName pointer) = there at known
      cases known with
      | none => exact .error _
      | some _ =>
          simp only [pure_bind]
          cases definition.location.bind ParameterLocation.ofName? with
          | none => exact .error _
          | some location => exact .ok trivial

theorem mergedParameters_failAlike (operationId : String) (objects : List ParameterObject) :
    FailAlike (one.mergedParameters operationId objects)
      (two.mergedParameters operationId objects) := by
  rw [mergedParameters, mergedParameters]
  apply (Outcome.Agree.mapM fun object _ => parameterFor_failAlike same operationId object).bind
  exact fun _ _ _ => .ok trivial

theorem requestBody_failAlike (operationId : String) (object : OperationObject) :
    FailAlike (one.requestBody operationId object) (two.requestBody operationId object) := by
  unfold requestBody
  simp only [resolve_eq_of_components same.components]
  exact .self fun _ _ => trivial

/-! ## Outputs -/

omit same in
/-- What is flattened is found in both definitions, or in none. -/
theorem flatten_failAlike {schema : SchemaObject} {model : Model} (maps : schema.Maps model)
    (pointsAlike : one.PointsAlike two schema) (keepStructs : Bool) (context : String) :
    FailAlike (one.flatten keepStructs context model) (two.flatten keepStructs context model) := by
  unfold flatten
  by_cases isReference : model.isReference = true
  · obtain ⟨pointer, ref, rfl⟩ := maps.exists_pointer isReference
    have known := rel_get?_of_mem_iff (pointsAlike pointer ref)
    rw [if_pos isReference, if_pos isReference, Model.reference, Option.bind_some,
      Option.bind_some]
    generalize one.models.get? (pointerName pointer) = here at known
    generalize two.models.get? (pointerName pointer) = there at known
    cases known with
    | none => exact .error _
    | some _ => exact .ok trivial
  · rw [if_neg isReference, if_neg isReference]
    exact .ok trivial

omit same in
/-- The model of a schema is flattened alike. -/
theorem flattened_failAlike {schema : SchemaObject} (pointsAlike : one.PointsAlike two schema)
    (path : String) (keepStructs : Bool) (context : String) {α : Type} (make : Model → α) :
    FailAlike
      (do
        let model ← Model.ofSchema schema path
        let flattened ← one.flatten keepStructs context model
        pure (make flattened) : Outcome α)
      (do
        let model ← Model.ofSchema schema path
        let flattened ← two.flatten keepStructs context model
        pure (make flattened) : Outcome α) := by
  have maps : Outcome.Agree (fun model other => model = other ∧ schema.Maps model)
      (Model.ofSchema schema path) (Model.ofSchema schema path) :=
    .self fun _ mapped => ⟨rfl, SchemaObject.maps_of_ofSchema mapped⟩
  apply maps.bind
  rintro model _ ⟨rfl, isModel⟩
  apply (flatten_failAlike isModel pointsAlike keepStructs context).bind
  exact fun _ _ _ => .ok trivial

theorem responseHeader_failAlike (context name : String) {object : HeaderObject}
    (pointsAlike : ∀ schema, one.document.schemaOf? HeaderObject.schema object = some schema →
      one.PointsAlike two schema) :
    FailAlike (one.responseHeader context name object)
      (two.responseHeader context name object) := by
  rw [responseHeader, responseHeader]
  apply (resolve_agree_of_components same.components object _).bind
  rintro header _ ⟨rfl, isHeader⟩
  cases declared : header.schema with
  | none => exact .error _
  | some schema =>
      refine flattened_failAlike (pointsAlike schema ?_) _ true context _
      rw [schemaOf?, isHeader, Option.bind_some, declared]

omit same in
theorem responseBody_failAlike (context : String) {response : ResponseObject}
    (pointsAlike : ∀ schema ∈ contentSchema? response.content, one.PointsAlike two schema) :
    FailAlike (one.responseBody context response) (two.responseBody context response) := by
  unfold responseBody
  cases declared : contentSchema? response.content with
  | none => exact .ok trivial
  | some schema => exact flattened_failAlike (pointsAlike schema declared) _ false context some

/-- A response whose headers and body point to models in both definitions, or in none. -/
def ResponsePointsAlike (one two : Definitions) (response : ResponseObject) : Prop :=
  (∀ entry ∈ one.document.headerSchemas response, one.PointsAlike two entry.2) ∧
    ∀ schema ∈ contentSchema? response.content, one.PointsAlike two schema

theorem outputOf_failAlike (context : String) (statusCode : Int) {response : ResponseObject}
    (pointsAlike : one.ResponsePointsAlike two response) :
    FailAlike (one.outputOf context statusCode response)
      (two.outputOf context statusCode response) := by
  have headers : ∀ entry ∈ response.headers.getD [],
      FailAlike (one.responseHeader context entry.1 entry.2)
        (two.responseHeader context entry.1 entry.2) := by
    rintro ⟨name, header⟩ member
    apply responseHeader_failAlike same
    intro schema hasSchema
    refine pointsAlike.1 (name, schema) (List.mem_filterMap.mpr ⟨(name, header), member, ?_⟩)
    simp only [hasSchema, Option.map_some]
  rw [outputOf, outputOf]
  apply (Outcome.Agree.mapM headers).bind
  intro _ _ _
  apply (responseBody_failAlike context pointsAlike.2).bind
  exact fun _ _ _ => .ok trivial

/-- Outputs are selected alike if the response that gives the output points alike. -/
theorem selectOutput_failAlike (operationId : String) {declared : List (Int × ResponseObject)}
    {found other : Option OperationOutput} (sameFound : found.isSome = other.isSome)
    (pointsAlike : found = none →
      ∀ response ∈ (one.definedResponses declared).find? ResponseObject.isInformative,
        one.ResponsePointsAlike two response) :
    FailAlike (one.selectOutput operationId found declared)
      (two.selectOutput operationId other declared) := by
  induction declared generalizing found other with
  | nil => exact .ok trivial
  | cons entry rest ih =>
      obtain ⟨statusCode, object⟩ := entry
      let context := operationId ++ ".responses." ++ toString statusCode
      rw [selectOutput, selectOutput]
      apply (resolve_agree_of_components same.components object (some context)).bind
      rintro response _ ⟨rfl, isDefinition⟩
      have responses : one.definedResponses ((statusCode, object) :: rest) =
          response :: one.definedResponses rest :=
        List.filterMap_cons_some isDefinition
      rw [responses, List.find?_cons] at pointsAlike
      by_cases informative : response.isInformative = true
      · simp only [informative] at pointsAlike
        rw [if_pos informative, if_pos informative]
        cases found with
        | none =>
            cases other with
            | some _ => cases sameFound
            | none =>
                have made := outputOf_failAlike same context statusCode
                  (pointsAlike rfl response rfl)
                apply made.bind
                intro output result _
                exact ih rfl fun impossible => absurd impossible (Option.some_ne_none output)
        | some output =>
            cases other with
            | none => cases sameFound
            | some result =>
                have later : FailAlike (one.selectOutput operationId (some output) rest)
                    (two.selectOutput operationId (some result) rest) :=
                  ih rfl fun impossible => absurd impossible (Option.some_ne_none output)
                apply later.bind
                rintro ⟨selected, diagnostics⟩ ⟨otherSelected, others⟩ _
                exact .ok trivial
      · simp only [informative] at pointsAlike
        rw [if_neg informative, if_neg informative]
        exact ih sameFound pointsAlike

theorem responses_failAlike (operationId : String) {declared : Entries String ResponseObject}
    (pointsAlike : ∀ response ∈ one.document.outputResponse? declared,
      one.ResponsePointsAlike two response) :
    FailAlike (one.responses operationId declared) (two.responses operationId declared) := by
  rw [responses, responses]
  refine (selectOutput_failAlike same operationId rfl fun _ => ?_).bind ?_
  · rwa [find?_definedResponses]
  · rintro ⟨output, diagnostics⟩ ⟨other, others⟩ _
    exact .ok trivial

/-! ## Operations -/

/-- An operation is assembled alike if its output points alike. -/
theorem assemble_failAlike {declared : DeclaredOperation}
    (pointsAlike : one.OutputPointsAlike two declared) (operationId : String) :
    FailAlike
      (one.assemble operationId declared.uri declared.method declared.shared declared.object)
      (two.assemble operationId declared.uri declared.method declared.shared declared.object) := by
  rw [assemble, assemble]
  apply (mergedParameters_failAlike same operationId _).bind
  intro merged others _
  apply (requestBody_failAlike same operationId declared.object).bind
  intro body other _
  refine (responses_failAlike same operationId ?_).bind ?_
  · intro response isOutput
    have isResponse : one.document.outputResponse? (declared.object.responses.getD []) =
        some response := isOutput
    obtain ⟨headers, isBody⟩ := pointsAlike
    simp only [places, isResponse, Option.map_some, Option.getD_some, Option.bind_some]
      at headers isBody
    exact ⟨headers, isBody⟩
  · rintro ⟨expect, output, diagnostics⟩ ⟨_, _, _⟩ _
    exact .ok trivial

theorem build_failAlike {declared : DeclaredOperation}
    (pointsAlike : one.OutputPointsAlike two declared) :
    FailAlike (one.build declared) (two.build declared) :=
  (assemble_failAlike same pointsAlike _).mapError _

end SameComponents

end Definitions

end ApiScaffold

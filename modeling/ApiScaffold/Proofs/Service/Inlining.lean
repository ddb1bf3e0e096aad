import ApiScaffold.Proofs.Service.Agreement
import ApiScaffold.Proofs.Service.Follows

/-!
# Documents with definitions in place of pointers

A request body, a response or a header may be given by a pointer, or by a copy of the definition
that the pointer leads to.  It is resolved in any case, so this makes no difference.

A parameter of the components is made once and looked up by its name, and its structs are
hoisted under this name.  A copy of its definition is made anew in each operation.  As long as it
has no structs in it, both ways lead to the same parameter.
-/

namespace ApiScaffold

namespace Document

/-! ## What may be inlined -/

section Definitions

variable (document : Document)

/-- The same response with headers that are the same or copies of what they lead to. -/
structure InlinesHeaders (response other : ResponseObject) : Prop where
  same : other = { response with headers := other.headers }
  headers : Option.Rel (Entries.Matches (document.StandsIn Eq)) response.headers other.headers

/-- The same parameter, or a copy of the definition that it leads to if this has no structs. -/
def InlinesParameter (object other : ParameterObject) : Prop :=
  other = object ∨ document.LeadsTo object other ∧
    ∀ schema model, other.schema = some schema → schema.Maps model → model.Plain

/-- The same operation with parts that are the same or copies of what they lead to. -/
structure InlinesOperation (object other : OperationObject) : Prop where
  same : other = { object with
    parameters := other.parameters, requestBody := other.requestBody, responses := other.responses }
  parameters : Option.Rel (List.Forall₂ document.InlinesParameter) object.parameters
    other.parameters
  requestBody : Option.Rel (document.StandsIn Eq) object.requestBody other.requestBody
  responses : Option.Rel (Entries.Matches (document.StandsIn document.InlinesHeaders))
    object.responses other.responses

/-- The same path item with parts that are the same or copies of what they lead to. -/
structure InlinesItem (item other : PathItemObject) : Prop where
  same : other = { item with operations := other.operations, parameters := other.parameters }
  operations : Entries.Matches document.InlinesOperation item.operations other.operations
  parameters : Option.Rel (List.Forall₂ document.InlinesParameter) item.parameters
    other.parameters

/-- The same components, where definitions may be copies of what they lead to. -/
structure InlinesComponents (components other : ComponentsObject) : Prop where
  same : other = { components with
    responses := other.responses, requestBodies := other.requestBodies, headers := other.headers }
  responses : Option.Rel (Entries.Matches (document.StandsIn document.InlinesHeaders))
    components.responses other.responses
  requestBodies : Option.Rel (Entries.Matches (document.StandsIn Eq)) components.requestBodies
    other.requestBodies
  headers : Option.Rel (Entries.Matches (document.StandsIn Eq)) components.headers other.headers

/-- The same document, where request bodies, responses, headers, and parameters of operations and
path items may be copies of the definitions that they lead to. -/
structure Inlined (other : Document) : Prop where
  same : other = { document with paths := other.paths, components := other.components }
  paths : document.paths.Matches document.InlinesItem other.paths
  components : Option.Rel document.InlinesComponents document.components other.components

end Definitions

/-! ## Parameters of the components -/

/-- The context of a parameter only matters for what a failure says. -/
theorem ofObject_eq_ok_of_context {object : ParameterObject} {context : String}
    {parameter : Parameter} (built : Parameter.ofObject object context = .ok parameter)
    (other : String) : Parameter.ofObject object other = .ok parameter := by
  unfold Parameter.ofObject at built ⊢
  split at built
  · cases built
  · cases built
  · next name schema _ _ =>
      obtain ⟨model, mapped, rest⟩ := Outcome.bind_eq_ok_iff.mp built
      have maps := SchemaObject.maps_of_ofSchema mapped
      rw [(SchemaObject.maps_iff_ofSchema_eq_ok _).mp maps]
      exact rest

/-- A declared parameter of the components is made of the definition that its object leads to. -/
theorem exists_declaredParameter {document : Document} {declared : Entries String Parameter}
    (isDeclared : document.declaredParameters = .ok declared) {name : String}
    {object definition : ParameterObject} (found : document.parameters.get? name = some object)
    (leads : document.LeadsTo object definition) :
    ∃ parameter context, declared.get? name = some parameter ∧
      Parameter.ofObject definition context = .ok parameter := by
  have matching : document.parameters.Matches (fun object parameter => ∃ context result,
      document.LeadsTo object result ∧ Parameter.ofObject result context = .ok parameter)
        declared := by
    apply List.Forall₂.imp _ (Outcome.mapM_eq_ok_iff.mp isDeclared)
    rintro ⟨name, object⟩ entry step
    obtain ⟨result, resolved, rest⟩ := Outcome.bind_eq_ok_iff.mp step
    obtain ⟨parameter, built, wrapped⟩ := Outcome.bind_eq_ok_iff.mp rest
    cases wrapped
    exact ⟨rfl, _, result, leadsTo_of_resolve resolved, built⟩
  obtain ⟨parameter, isParameter, context, result, toResult, built⟩ := matching.get?_right found
  rw [toResult.unique leads] at built
  exact ⟨parameter, context, isParameter, built⟩

/-- A pointer to a parameter without structs is taken like a copy of its definition. -/
theorem parametersAgree_of_leadsTo {document other : Document}
    {declared parameters : Entries String Parameter} (models : Entries String Model)
    (isDeclared : document.declaredParameters = .ok declared)
    (kept : KeepsPlain declared parameters)
    {object definition : ParameterObject} (leads : document.LeadsTo object definition)
    (plain : ∀ schema model, definition.schema = some schema → schema.Maps model → model.Plain) :
    Definitions.ParametersAgree ⟨document, models, parameters⟩ ⟨other, models, parameters⟩ object
      definition := by
  intro operationId
  have noPointer : definition.ref = none := leads.ref_eq_none
  have resolved : document.resolve object (some operationId) = .ok definition :=
    resolve_eq_ok_iff.mpr leads
  cases leads with
  | self =>
      simp only [Definitions.parameterFor, noPointer]
  | @step _ next _ pointer ref found leads =>
      have isPointer : object.ref = some pointer := ref
      obtain ⟨parameter, context, isParameter, built⟩ :=
        exists_declaredParameter isDeclared found leads
      obtain ⟨_, schema, hasSchema, maps⟩ := Parameter.ofObject_spec built
      have known := kept _ _ isParameter (plain schema _ hasSchema maps)
      simp only [Definitions.parameterFor, isPointer, noPointer, resolved, known,
        ofObject_eq_ok_of_context built operationId, bind, Except.bind, pure, Except.pure]

/-! ## Documents that agree -/

/-- A section agrees if its definitions stand for each other one by one. -/
theorem sectionAgrees_of_matches {α : Type} [Referable α] {alike : α → α → Prop}
    {first second : Document}
    (ref : ∀ {item other : α}, alike item other → Referable.ref item = Referable.ref other)
    (components : first.components.isNone = second.components.isNone)
    (matching : (Component.definitions (α := α) first).Matches (first.StandsIn alike)
      (Component.definitions second)) : SectionAgrees alike first second := by
  constructor
  · exact ref
  · exact components
  · exact List.Forall₂.length_eq matching
  · exact matching.get?_rel

namespace Inlined

variable {document other : Document} (inlined : document.Inlined other)

include inlined

theorem keepsComponents : KeepsComponents document other := by
  constructor
  · exact (congrArg Document.info inlined.same).symm
  · exact inlined.components.isNone_eq
  · have same := inlined.components.bind_eq fun _ _ here =>
      (congrArg ComponentsObject.schemas here.same).symm
    rw [schemas, schemas, same]
  · have same := inlined.components.bind_eq fun _ _ here =>
      (congrArg ComponentsObject.parameters here.same).symm
    rw [parameters, parameters, same]

theorem headers_agree : SectionAgrees (@Eq HeaderObject) document other := by
  apply sectionAgrees_of_matches (congrArg Referable.ref) inlined.components.isNone_eq
  have both := inlined.components.bind fun _ _ here => here.headers
  exact both.getD .nil

theorem requestBodies_agree : SectionAgrees (@Eq RequestBodyObject) document other := by
  apply sectionAgrees_of_matches (congrArg Referable.ref) inlined.components.isNone_eq
  have both := inlined.components.bind fun _ _ here => here.requestBodies
  exact both.getD .nil

theorem responses_agree : SectionAgrees document.InlinesHeaders document other := by
  apply sectionAgrees_of_matches _ inlined.components.isNone_eq
  · have both := inlined.components.bind fun _ _ here => here.responses
    exact both.getD .nil
  · intro response result here
    exact (congrArg ResponseObject.ref here.same).symm

/-- Responses that differ in inlined headers declare the same output. -/
theorem sameOutput (models : Entries String Model) (parameters : Entries String Parameter)
    {response result : ResponseObject} (here : document.InlinesHeaders response result) :
    Definitions.SameOutput ⟨document, models, parameters⟩ ⟨other, models, parameters⟩ response
      result := by
  have sameContent : result.content = response.content :=
    (congrArg ResponseObject.content here.same :)
  have headers := here.headers.getD .nil
  constructor
  · rw [ResponseObject.isInformative, ResponseObject.isInformative, sameContent,
      headers.isEmpty_eq]
  · rw [sameContent]
  · apply headers.imp
    intro header copy stands context
    exact (inlined.headers_agree.resolve_agree stands context).eq

/-- A parameter that is the same or an inlined one is taken alike. -/
theorem parametersAgree {declared parameters : Entries String Parameter}
    (models : Entries String Model) (isDeclared : document.declaredParameters = .ok declared)
    (kept : KeepsPlain declared parameters) {objects results : Option (List ParameterObject)}
    (here : Option.Rel (List.Forall₂ document.InlinesParameter) objects results) :
    List.Forall₂ (Definitions.ParametersAgree ⟨document, models, parameters⟩
      ⟨other, models, parameters⟩) (objects.getD []) (results.getD []) := by
  apply List.Forall₂.imp _ (here.getD .nil)
  rintro object result (rfl | ⟨leads, plain⟩)
  · exact inlined.keepsComponents.parametersAgree models parameters result
  · exact parametersAgree_of_leadsTo models isDeclared kept leads plain

/-- Operations with inlined parts agree. -/
theorem operationsAgree {declared parameters : Entries String Parameter}
    (models : Entries String Model) (isDeclared : document.declaredParameters = .ok declared)
    (kept : KeepsPlain declared parameters) {object result : OperationObject}
    (here : document.InlinesOperation object result) :
    Definitions.OperationsAgree ⟨document, models, parameters⟩ ⟨other, models, parameters⟩ object
      result := by
  constructor
  · exact (congrArg OperationObject.operationId here.same).symm
  · exact (congrArg OperationObject.summary here.same).symm
  · exact (congrArg OperationObject.description here.same).symm
  · exact (congrArg OperationObject.tags here.same).symm
  · exact inlined.parametersAgree models isDeclared kept here.parameters
  · apply here.requestBody.imp
    intro body copy stands context
    apply (inlined.requestBodies_agree.resolve_agree stands context).imp
    rintro definition _ rfl
    rfl
  · apply (here.responses.getD .nil).imp
    intro response copy stands context
    apply (inlined.responses_agree.resolve_agree stands context).imp
    intro definition otherDefinition similar
    exact inlined.sameOutput models parameters similar

/-- Documents with inlined parts agree. -/
theorem serviceAgrees : ServiceAgrees document other := by
  apply inlined.keepsComponents.serviceAgrees inlined.paths.sorted
  · intro item result here
    apply here.operations.imp
    intro object otherObject inside
    exact (congrArg OperationObject.operationId inside.same).symm
  · intro declared parameters models isDeclared kept item result here
    constructor
    · exact inlined.parametersAgree models isDeclared kept here.parameters
    · apply here.operations.imp
      intro object otherObject inside
      exact inlined.operationsAgree models isDeclared kept inside

end Inlined

/-- Copies of definitions in place of the pointers that lead to them do not change the service
of a document, nor its failure. -/
theorem service_eq_of_inlined {document other : Document} (inlined : document.Inlined other) :
    document.service = other.service :=
  inlined.serviceAgrees.service_eq

end Document

/-- A parameter that traces a parcel. -/
def traceParameter : ParameterObject :=
  ⟨none, some "trace", some "header", none, none, none, some .text⟩

/-- A body with a parcel. -/
def parcelBody : RequestBodyObject :=
  ⟨none, none, some [("application/json", ⟨some (.pointer "#/components/schemas/Parcel")⟩)], none⟩

/-- A header that says when to come again. -/
def retryHeader : HeaderObject :=
  ⟨none, none, none, some .text⟩

/-- A response with a header. -/
def deliveredResponse (header : HeaderObject) : ResponseObject :=
  ⟨none, none, some [("Retry", header)], none⟩

/-- A post office with these parts of its only operation, and this header in its response. -/
def postOffice (parameter : ParameterObject) (body : RequestBodyObject)
    (response : ResponseObject) (header : HeaderObject) : Document where
  openapi := "3.0.0"
  info := none
  paths := [("/parcels", ⟨none, none, [(.post, ⟨none, none, none, none, some [parameter], some body,
    some [("200", response)]⟩)], none⟩)]
  components := some {
    schemas := some [("Parcel", .object [("weight", .text)])]
    responses := some [("Delivered", deliveredResponse header)]
    parameters := some [("Trace", traceParameter)]
    requestBodies := some
      [("Sent", ⟨some "#/components/requestBodies/Parcel", none, none, none⟩),
        ("Parcel", parcelBody)]
    headers := some [("Retry", retryHeader)] }

/-- The post office with pointers for all parts. -/
def referringOffice : Document :=
  postOffice ⟨some "#/components/parameters/Trace", none, none, none, none, none, none⟩
    ⟨some "#/components/requestBodies/Sent", none, none, none⟩
    ⟨some "#/components/responses/Delivered", none, none, none⟩
    ⟨some "#/components/headers/Retry", none, none, none⟩

/-- The post office with copies of all parts. -/
def copyingOffice : Document :=
  postOffice traceParameter parcelBody (deliveredResponse retryHeader) retryHeader

/-- A post office has a service, which is the same with copies for its pointers. -/
theorem service_eq_of_copying_office : referringOffice.Inlined copyingOffice ∧
    ∃ service, referringOffice.service = .ok service ∧ copyingOffice.service = .ok service := by
  have names : pointerName "#/components/parameters/Trace" = "Trace" ∧
      pointerName "#/components/requestBodies/Sent" = "Sent" ∧
      pointerName "#/components/requestBodies/Parcel" = "Parcel" ∧
      pointerName "#/components/responses/Delivered" = "Delivered" ∧
      pointerName "#/components/headers/Retry" = "Retry" := by
    decide +kernel
  obtain ⟨trace, sent, parcel, delivered, retry⟩ := names
  have toTrace : referringOffice.LeadsTo (⟨some "#/components/parameters/Trace", none, none, none,
      none, none, none⟩ : ParameterObject) traceParameter :=
    .step rfl (by rw [trace]; rfl) (.self rfl)
  have toParcel : referringOffice.LeadsTo (⟨some "#/components/requestBodies/Sent", none, none,
      none⟩ : RequestBodyObject) parcelBody :=
    .step rfl (by rw [sent]; rfl) (.step rfl (by rw [parcel]; rfl) (.self rfl))
  have toRetry : referringOffice.LeadsTo (⟨some "#/components/headers/Retry", none, none,
      none⟩ : HeaderObject) retryHeader :=
    .step rfl (by rw [retry]; rfl) (.self rfl)
  have copiesHeader : referringOffice.InlinesHeaders
      (deliveredResponse ⟨some "#/components/headers/Retry", none, none, none⟩)
      (deliveredResponse retryHeader) :=
    ⟨rfl, .some (.cons ⟨rfl, _, .inr toRetry, rfl⟩ .nil)⟩
  have toDelivered : referringOffice.LeadsTo (⟨some "#/components/responses/Delivered", none, none,
      none⟩ : ResponseObject)
      (deliveredResponse ⟨some "#/components/headers/Retry", none, none, none⟩) :=
    .step rfl (by rw [delivered]; rfl) (.self rfl)
  have plain : ∀ schema model, traceParameter.schema = some schema → schema.Maps model →
      model.Plain := by
    rintro _ model ⟨⟩ maps
    cases (SchemaObject.maps_iff_ofSchema_eq_ok "trace").mp maps
    exact .basic rfl none
  have inlined : referringOffice.Inlined copyingOffice := by
    constructor
    · rfl
    · refine .cons ⟨rfl, rfl, .cons ⟨rfl, rfl, ?_, ?_, ?_⟩ .nil, .none⟩ .nil
      · exact .some (.cons (.inr ⟨toTrace, plain⟩) .nil)
      · exact .some ⟨_, .inr toParcel, rfl⟩
      · exact .some (.cons ⟨rfl, _, .inr toDelivered, copiesHeader⟩ .nil)
    · refine .some ⟨rfl, ?_, ?_, ?_⟩
      · exact .some (.cons ⟨rfl, _, .inl rfl, copiesHeader⟩ .nil)
      · exact .some (.cons ⟨rfl, _, .inl rfl, rfl⟩ (.cons ⟨rfl, _, .inl rfl, rfl⟩ .nil))
      · exact .some (.cons ⟨rfl, _, .inl rfl, rfl⟩ .nil)
  have passes : referringOffice.draft.succeedsWith (fun draft =>
      draft.passes (fun _ => 0) && true) = true := by
    decide +kernel
  obtain ⟨draft, order, built, _⟩ := Document.exists_service_of_test passes
  have same := Document.service_eq_of_inlined inlined
  exact ⟨inlined, _, built, same ▸ built⟩

end ApiScaffold

import ApiScaffold.Proofs.Model.Mapping
import ApiScaffold.Proofs.Service.Places

/-!
# Models of built operations

A built operation has a model at every place at which the declared one has a schema, and
nowhere else.  The model is that of the schema, or the one that a parameter of the
components got, or, in an output, the named model that the schema refers to.
-/

namespace ApiScaffold

/-- A declared parameter has a name, and a schema with its model. -/
theorem Parameter.ofObject_spec {object : ParameterObject} {context : String}
    {parameter : Parameter} (built : Parameter.ofObject object context = .ok parameter) :
    object.name = some parameter.name ∧
      ∃ schema, object.schema = some schema ∧ schema.Maps parameter.model := by
  unfold Parameter.ofObject at built
  split at built
  · cases built
  · cases built
  · next name schema named hasSchema =>
      obtain ⟨model, mapped, rest⟩ := Outcome.bind_eq_ok_iff.mp built
      cases rest
      exact ⟨(Option.filter_eq_some_iff.mp named).1, schema, hasSchema,
        SchemaObject.maps_of_ofSchema mapped⟩

/-- The parameters of the components, each made of what its object defines. -/
def Document.Defines (document : Document) (related : SchemaObject → Model → Prop)
    (object : ParameterObject) (parameter : Parameter) : Prop :=
  ∃ definition schema, document.definition? object = some definition ∧
    definition.name = some parameter.name ∧ definition.schema = some schema ∧
      related schema parameter.model

namespace Definitions

/-- What a built operation can have where the declared one has a schema. -/
inductive Gives (definitions : Definitions) : SchemaObject → Model → Prop
  | mapped {schema : SchemaObject} {model : Model} (maps : schema.Maps model) :
      Gives definitions schema model
  | declared {name : String} {object : ParameterObject} {parameter : Parameter}
      {schema : SchemaObject} (inDocument : definitions.document.parameters.get? name = some object)
      (known : definitions.parameters.get? name = some parameter)
      (hasSchema : definitions.document.schemaOf? ParameterObject.schema object = some schema) :
      Gives definitions schema parameter.model
  | flattened {schema : SchemaObject} {name : String} {description : Option String}
      {model : Model} (maps : schema.Maps ⟨.reference, none, [], some name, description⟩)
      (known : definitions.models.get? name = some model) : Gives definitions schema model

variable {definitions : Definitions}

/-! ## Parameters -/

theorem eq_of_located {definition : ParameterObject} {found parameter : Parameter}
    {location : ParameterLocation}
    (located : (match definition.location.bind ParameterLocation.ofName? with
      | some location => pure (location, found)
      | none => throw (.invalidLocation definition.location definition.name) :
      Outcome (ParameterLocation × Parameter)) = .ok (location, parameter)) :
    definition.location.bind ParameterLocation.ofName? = some location ∧ found = parameter := by
  cases known : definition.location.bind ParameterLocation.ofName? with
  | none =>
      rw [known] at located
      cases located
  | some other =>
      rw [known] at located
      cases located
      exact ⟨rfl, rfl⟩

/-- A parameter of an operation has the name, the location and the schema of what its object
defines. -/
theorem parameterFor_spec {operationId : String} {object : ParameterObject}
    {location : ParameterLocation} {parameter : Parameter}
    (defined : definitions.document.parameters.Matches
      (definitions.document.Defines fun _ _ => True) definitions.parameters)
    (built : definitions.parameterFor operationId object = .ok (location, parameter)) :
    ∃ schema, definitions.document.locatedSchema? object =
      some ((parameter.name, location), schema) ∧ definitions.Gives schema parameter.model := by
  rw [parameterFor] at built
  cases ref : object.ref with
  | none =>
      rw [ref] at built
      obtain ⟨own, ofObject, rest⟩ := Outcome.bind_eq_ok_iff.mp built
      obtain ⟨hasLocation, rfl⟩ := eq_of_located rest
      obtain ⟨hasName, schema, hasSchema, maps⟩ := Parameter.ofObject_spec ofObject
      have itself := definitions.document.definition?_of_ref_eq_none object ref
      exact ⟨schema, by simp [Document.locatedSchema?, itself, hasName, hasLocation, hasSchema],
        .mapped maps⟩
  | some pointer =>
      rw [ref] at built
      obtain ⟨target, resolved, rest⟩ := Outcome.bind_eq_ok_iff.mp built
      cases known : definitions.parameters.get? (pointerName pointer) with
      | none =>
          rw [known] at rest
          cases rest
      | some other =>
          rw [known] at rest
          obtain ⟨hasLocation, rfl⟩ := eq_of_located rest
          obtain ⟨component, inDocument, own, schema, isDefinition, hasName, hasSchema, _⟩ :=
            defined.flip.get?_right known
          have here := Document.definition?_of_resolve resolved
          obtain rfl := Document.definition?_eq_of_ref ref inDocument here isDefinition
          refine ⟨schema, by simp [Document.locatedSchema?, here, hasName, hasLocation, hasSchema],
            .declared inDocument known ?_⟩
          simp [Document.schemaOf?, isDefinition, hasSchema]

/-- The merged parameters are those of the located schemas, under their own names. -/
theorem mergedParameters_spec {operationId : String} {objects : List ParameterObject}
    {merged : Entries (String × ParameterLocation) Parameter}
    (defined : definitions.document.parameters.Matches
      (definitions.document.Defines fun _ _ => True) definitions.parameters)
    (built : definitions.mergedParameters operationId objects = .ok merged) :
    Entries.Matches (fun schema parameter => definitions.Gives schema parameter.model)
        (Entries.ofList (objects.filterMap definitions.document.locatedSchema?)) merged ∧
      ∀ entry ∈ merged, entry.2.name = entry.1.1 := by
  obtain ⟨resolved, each, rest⟩ := Outcome.bind_eq_ok_iff.mp built
  cases rest
  have steps := Outcome.mapM_eq_ok_iff.mp each
  refine ⟨Entries.Matches.ofList ?_, ?_⟩
  · clear each built
    induction steps with
    | nil => exact .nil
    | @cons object located _ _ head _ ih =>
        obtain ⟨location, parameter⟩ := located
        obtain ⟨schema, isLocated, gives⟩ := parameterFor_spec defined head
        rw [List.filterMap_cons_some isLocated, List.map_cons]
        exact .cons ⟨rfl, gives⟩ ih
  · intro entry member
    obtain ⟨located, _, rfl⟩ := List.mem_map.mp (Entries.mem_of_mem_ofList member)
    rfl

/-- The parameters at a location have the schemas at the location. -/
theorem parametersAt_spec {operationId : String} {objects : List ParameterObject}
    {merged : Entries (String × ParameterLocation) Parameter}
    (defined : definitions.document.parameters.Matches
      (definitions.document.Defines fun _ _ => True) definitions.parameters)
    (built : definitions.mergedParameters operationId objects = .ok merged)
    (location : ParameterLocation) :
    Entries.Matches definitions.Gives (definitions.document.schemasAt objects location)
      ((parametersAt merged location).map Parameter.entry) := by
  obtain ⟨matching, named⟩ := mergedParameters_spec defined built
  have kept := matching.filter fun key => decide (key.2 = location)
  rw [Document.schemasAt, parametersAt, List.map_map]
  apply kept.rename Prod.fst (Parameter.entry ∘ Prod.snd)
  intro entry member
  exact ⟨named entry (List.mem_of_mem_filter member), fun _ gives => gives⟩

/-! ## Bodies -/

/-- The model of a schema that is used for a request body. -/
theorem requestBody_spec {operationId : String} {object : OperationObject} {body : Option Model}
    (built : definitions.requestBody operationId object = .ok body) :
    Option.Rel definitions.Gives (object.requestBody.bind
      (definitions.document.schemaOf? fun body => contentSchema? body.content)) body := by
  unfold requestBody at built
  cases declared : object.requestBody with
  | none =>
      rw [declared] at built
      cases built
      exact .none
  | some declaredBody =>
      rw [declared] at built
      obtain ⟨definition, resolved, rest⟩ := Outcome.bind_eq_ok_iff.mp built
      have isDefinition := Document.definition?_of_resolve resolved
      simp only [Option.bind_some, Document.schemaOf?, isDefinition]
      cases schema? : contentSchema? definition.content with
      | none =>
          rw [schema?] at rest
          cases rest
          exact .none
      | some schema =>
          rw [schema?] at rest
          obtain ⟨model, mapped, wrapped⟩ := Outcome.bind_eq_ok_iff.mp rest
          cases wrapped
          exact .some (.mapped (SchemaObject.maps_of_ofSchema mapped))

/-- What a model in an output is flattened to, its schema gives. -/
theorem flatten_spec {keepStructs : Bool} {context : String} {schema : SchemaObject}
    {model result : Model} (maps : schema.Maps model)
    (flattened : definitions.flatten keepStructs context model = .ok result) :
    definitions.Gives schema result := by
  unfold flatten at flattened
  by_cases isReference : model.isReference = true
  · simp only [isReference, if_true] at flattened
    cases found : model.name.bind definitions.models.get? with
    | none =>
        rw [found] at flattened
        cases flattened
    | some target =>
        rw [found] at flattened
        cases flattened
        split
        · exact .mapped maps
        · obtain ⟨name, hasName, known⟩ := Option.bind_eq_some_iff.mp found
          cases maps.shaped with
          | basic primitive => simp [Model.ofKind] at hasName
          | array => simp [Model.array] at hasName
          | map => simp [Model.map] at hasName
          | struct => simp [Model.struct] at hasName
          | reference own description =>
              cases hasName
              exact .flattened maps known
  · simp only [isReference, Bool.false_eq_true, if_false] at flattened
    cases flattened
    exact .mapped maps

/-! ## Outputs -/

/-- A header of an output has the schema of what it defines. -/
theorem responseHeader_spec {context name : String} {object : HeaderObject}
    {parameter : Parameter}
    (built : definitions.responseHeader context name object = .ok parameter) :
    parameter.name = name ∧ ∃ schema,
      definitions.document.schemaOf? HeaderObject.schema object = some schema ∧
        definitions.Gives schema parameter.model := by
  obtain ⟨header, resolved, rest⟩ := Outcome.bind_eq_ok_iff.mp built
  have isDefinition := Document.definition?_of_resolve resolved
  cases hasSchema : header.schema with
  | none =>
      rw [hasSchema] at rest
      cases rest
  | some schema =>
      rw [hasSchema] at rest
      obtain ⟨model, mapped, more⟩ := Outcome.bind_eq_ok_iff.mp rest
      obtain ⟨result, flattened, wrapped⟩ := Outcome.bind_eq_ok_iff.mp more
      cases wrapped
      exact ⟨rfl, schema, by simp [Document.schemaOf?, isDefinition, hasSchema],
        flatten_spec (SchemaObject.maps_of_ofSchema mapped) flattened⟩

theorem responseBody_spec {context : String} {response : ResponseObject} {body : Option Model}
    (built : definitions.responseBody context response = .ok body) :
    Option.Rel definitions.Gives (contentSchema? response.content) body := by
  unfold responseBody at built
  cases schema? : contentSchema? response.content with
  | none =>
      rw [schema?] at built
      cases built
      exact .none
  | some schema =>
      rw [schema?] at built
      obtain ⟨model, mapped, rest⟩ := Outcome.bind_eq_ok_iff.mp built
      obtain ⟨result, flattened, wrapped⟩ := Outcome.bind_eq_ok_iff.mp rest
      cases wrapped
      exact .some (flatten_spec (SchemaObject.maps_of_ofSchema mapped) flattened)

/-- What an output is made of: the headers and the body of a response, or nothing. -/
def OutputGives (definitions : Definitions) (response? : Option ResponseObject)
    (output : OperationOutput) : Prop :=
  Entries.Matches definitions.Gives ((response?.map definitions.document.headerSchemas).getD [])
      (output.header.map Parameter.entry) ∧
    Option.Rel definitions.Gives (response?.bind fun response => contentSchema? response.content)
      output.body

theorem outputOf_spec {context : String} {statusCode : Int} {response : ResponseObject}
    {output : OperationOutput}
    (built : definitions.outputOf context statusCode response = .ok output) :
    definitions.OutputGives (some response) output := by
  obtain ⟨headers, each, rest⟩ := Outcome.bind_eq_ok_iff.mp built
  obtain ⟨body, bodyBuilt, wrapped⟩ := Outcome.bind_eq_ok_iff.mp rest
  cases wrapped
  refine ⟨?_, responseBody_spec bodyBuilt⟩
  simp only [Option.map_some, Option.getD_some, Document.headerSchemas]
  have steps := Outcome.mapM_eq_ok_iff.mp each
  clear each built rest
  generalize response.headers.getD [] = declared at steps ⊢
  induction steps with
  | nil => exact .nil
  | @cons entry parameter _ _ head _ ih =>
      obtain ⟨name, header⟩ := entry
      obtain ⟨sameName, schema, hasSchema, gives⟩ := responseHeader_spec head
      rw [List.filterMap_cons_some (by rw [hasSchema]; rfl), List.map_cons]
      exact .cons ⟨sameName.symm, gives⟩ ih

/-- The responses that are left, with what they stand for. -/
def definedResponses (definitions : Definitions) (declared : List (Int × ResponseObject)) :
    List ResponseObject :=
  declared.filterMap fun entry => definitions.document.definition? entry.2

/-- An output that is found already is kept; otherwise the first informative response gives
it. -/
def SelectionGives (definitions : Definitions) :
    Option OperationOutput → Option ResponseObject → Option OperationOutput → Prop
  | some output, _, selected => selected = some output
  | none, some response, selected =>
      ∃ output, selected = some output ∧ definitions.OutputGives (some response) output
  | none, none, selected => selected = none

theorem selectOutput_spec {operationId : String} {found selected : Option OperationOutput}
    {declared : List (Int × ResponseObject)} {diagnostics : List Diagnostic}
    (built : definitions.selectOutput operationId found declared = .ok (selected, diagnostics)) :
    definitions.SelectionGives found
      ((definitions.definedResponses declared).find? ResponseObject.isInformative) selected := by
  induction declared generalizing found selected diagnostics with
  | nil =>
      cases built
      cases found <;> rfl
  | cons entry rest ih =>
      obtain ⟨statusCode, object⟩ := entry
      rw [selectOutput] at built
      obtain ⟨response, resolved, next⟩ := Outcome.bind_eq_ok_iff.mp built
      have isDefinition := Document.definition?_of_resolve resolved
      have responses : definitions.definedResponses ((statusCode, object) :: rest) =
          response :: definitions.definedResponses rest :=
        List.filterMap_cons_some isDefinition
      rw [responses, List.find?_cons]
      by_cases informative : response.isInformative = true
      · simp only [informative, if_true] at next ⊢
        cases found with
        | none =>
            obtain ⟨output, outputBuilt, more⟩ := Outcome.bind_eq_ok_iff.mp next
            exact ⟨output, ih more, outputOf_spec outputBuilt⟩
        | some output =>
            obtain ⟨⟨chosen, others⟩, more, wrapped⟩ := Outcome.bind_eq_ok_iff.mp next
            cases wrapped
            exact ih more
      · simp only [informative, Bool.false_eq_true, if_false] at next ⊢
        exact ih next

/-- Among the responses that are left, the first informative one gives the output. -/
theorem find?_definedResponses (declared : Entries String ResponseObject) :
    (definitions.definedResponses
      ((ascending (keptResponses declared).keys).filterMap fun code =>
        ((keptResponses declared).get? code).map fun response => (code, response))).find?
          ResponseObject.isInformative = definitions.document.outputResponse? declared := by
  rw [definedResponses, List.filterMap_filterMap, Document.outputResponse?]
  congr 2
  funext code
  cases (keptResponses declared).get? code <;> rfl

theorem responses_spec {operationId : String} {declared : Entries String ResponseObject}
    {expect : List Int} {output : OperationOutput} {diagnostics : List Diagnostic}
    (built : definitions.responses operationId declared = .ok (expect, output, diagnostics)) :
    definitions.OutputGives (definitions.document.outputResponse? declared) output := by
  obtain ⟨⟨selected, others⟩, chosen, wrapped⟩ := Outcome.bind_eq_ok_iff.mp built
  cases wrapped
  have gives := selectOutput_spec chosen
  rw [find?_definedResponses] at gives
  cases response? : definitions.document.outputResponse? declared with
  | none =>
      rw [response?] at gives
      cases gives
      exact ⟨.nil, .none⟩
  | some response =>
      rw [response?] at gives
      obtain ⟨found, rfl, outputGives⟩ := gives
      exact outputGives

/-! ## Operations -/

/-- An operation is put together from its parameters, its body and its responses. -/
theorem operationAt_eq_ok_iff {uri : String} {method : Method} {shared : List ParameterObject}
    {object : OperationObject} {operation : Operation} {diagnostics : List Diagnostic} :
    definitions.operationAt uri method shared object = .ok (operation, diagnostics) ↔
      ∃ merged body expect output,
        definitions.mergedParameters (operationIdOf method uri object)
          (shared ++ object.parameters.getD []) = .ok merged ∧
        definitions.requestBody (operationIdOf method uri object) object = .ok body ∧
        definitions.responses (operationIdOf method uri object) (object.responses.getD []) =
          .ok (expect, output, diagnostics) ∧
        operation =
          { id := operationIdOf method uri object
            method := method.name
            uri := uri
            expect := expect
            input :=
              { path := parametersAt merged .path
                query := parametersAt merged .query
                header := parametersAt merged .header
                body := body }
            output := output
            summary := object.summary
            description := object.description
            tags := object.tags.getD [] } := by
  rw [operationAt, Outcome.mapError_eq_ok_iff, assemble]
  constructor
  · intro built
    obtain ⟨merged, mergedBuilt, rest⟩ := Outcome.bind_eq_ok_iff.mp built
    obtain ⟨body, bodyBuilt, more⟩ := Outcome.bind_eq_ok_iff.mp rest
    obtain ⟨⟨expect, output, others⟩, outputBuilt, wrapped⟩ := Outcome.bind_eq_ok_iff.mp more
    cases wrapped
    exact ⟨merged, body, expect, output, mergedBuilt, bodyBuilt, outputBuilt, rfl⟩
  · rintro ⟨merged, body, expect, output, mergedBuilt, bodyBuilt, outputBuilt, rfl⟩
    refine Outcome.bind_eq_ok_iff.mpr ⟨merged, mergedBuilt, ?_⟩
    refine Outcome.bind_eq_ok_iff.mpr ⟨body, bodyBuilt, ?_⟩
    exact Outcome.bind_eq_ok_iff.mpr ⟨(expect, output, diagnostics), outputBuilt, rfl⟩

/-- A built operation has a model wherever the declared one has a schema. -/
theorem operationAt_spec {declared : DeclaredOperation} {operation : Operation}
    {diagnostics : List Diagnostic}
    (defined : definitions.document.parameters.Matches
      (definitions.document.Defines fun _ _ => True) definitions.parameters)
    (built : definitions.operationAt declared.uri declared.method declared.shared
      declared.object = .ok (operation, diagnostics)) :
    operation.id = operationIdOf declared.method declared.uri declared.object ∧
      (definitions.document.places declared).Related definitions.Gives definitions.Gives
        operation.places := by
  obtain ⟨merged, body, expect, output, mergedBuilt, bodyBuilt, outputBuilt, rfl⟩ :=
    operationAt_eq_ok_iff.mp built
  obtain ⟨outputHeader, outputBody⟩ := responses_spec outputBuilt
  exact ⟨rfl,
    { path := parametersAt_spec defined mergedBuilt .path
      query := parametersAt_spec defined mergedBuilt .query
      header := parametersAt_spec defined mergedBuilt .header
      body := requestBody_spec bodyBuilt
      outputHeader := outputHeader
      outputBody := outputBody }⟩

/-- Every declared operation is built, in its place. -/
theorem operations_spec {operations : List Operation} {diagnostics : List Diagnostic}
    (defined : definitions.document.parameters.Matches
      (definitions.document.Defines fun _ _ => True) definitions.parameters)
    (built : definitions.operations = .ok (operations, diagnostics)) :
    List.Forall₂ (fun declared operation =>
        operation.id = operationIdOf declared.method declared.uri declared.object ∧
          (definitions.document.places declared).Related definitions.Gives definitions.Gives
            operation.places)
      definitions.document.declaredOperations operations := by
  obtain ⟨results, each, wrapped⟩ := Outcome.bind_eq_ok_iff.mp built
  cases wrapped
  have steps := Outcome.mapM_eq_ok_iff.mp each
  exact List.forall₂_map_right_iff.mpr
    (List.Forall₂.imp (fun _ _ step => operationAt_spec defined step) steps)

end Definitions

end ApiScaffold

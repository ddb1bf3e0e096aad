import ApiScaffold.Proofs.Service.KeptResponses
import ApiScaffold.Proofs.Service.Rearrangement

/-!
# The output that is selected

Of the responses of success that have content or headers, the one with the least status code
gives the output, and each of the others is reported.  If there is none, the output has the
least status code of success and nothing else.

The responses are gone through by ascending codes.  So the first of them that says anything is
the one with the least code, and all that say anything after it have higher codes.
-/

namespace ApiScaffold

/-- An informative response has content or headers. -/
theorem ResponseObject.isInformative_iff {response : ResponseObject} :
    response.isInformative = true ↔
      response.content.getD [] ≠ [] ∨ response.headers.getD [] ≠ [] := by
  simp [isInformative, List.isEmpty_eq_false_iff]

/-- The responses that a declared operation has. -/
def OperationObject.declaredResponses (object : OperationObject) : Entries String ResponseObject :=
  object.responses.getD []

namespace Document

/-- A response of success that has content or headers: its status code, and what it stands
for. -/
def Informs (document : Document) (responses : Entries String ResponseObject) (code : Int)
    (response : ResponseObject) : Prop :=
  ∃ entry ∈ responses, successCode? entry.1 = some code ∧ document.LeadsTo entry.2 response ∧
    (response.content.getD [] ≠ [] ∨ response.headers.getD [] ≠ [])

/-- The responses that are informative, as what they stand for. -/
def informativeResponses (document : Document) (declared : List (Int × ResponseObject)) :
    Entries Int ResponseObject :=
  declared.filterMap fun entry =>
    ((document.definition? entry.2).filter ResponseObject.isInformative).map fun response =>
      (entry.1, response)

variable {document : Document}

theorem informativeResponses_cons_of_informative {code : Int} {object response : ResponseObject}
    (rest : List (Int × ResponseObject)) (defined : document.definition? object = some response)
    (informative : response.isInformative = true) :
    document.informativeResponses ((code, object) :: rest) =
      (code, response) :: document.informativeResponses rest := by
  simp [informativeResponses, defined, informative]

theorem informativeResponses_cons_of_not {code : Int} {object response : ResponseObject}
    (rest : List (Int × ResponseObject)) (defined : document.definition? object = some response)
    (uninformative : ¬ response.isInformative = true) :
    document.informativeResponses ((code, object) :: rest) =
      document.informativeResponses rest := by
  simp [informativeResponses, defined, uninformative]

theorem mem_informativeResponses_iff {declared : List (Int × ResponseObject)} {code : Int}
    {response : ResponseObject} :
    (code, response) ∈ document.informativeResponses declared ↔
      ∃ object, (code, object) ∈ declared ∧ document.definition? object = some response ∧
        response.isInformative = true := by
  simp only [informativeResponses, List.mem_filterMap, Option.map_eq_some_iff,
    Option.filter_eq_some_iff, Prod.mk.injEq]
  constructor
  · rintro ⟨⟨own, object⟩, member, found, ⟨defined, informative⟩, rfl, rfl⟩
    exact ⟨object, member, defined, informative⟩
  · rintro ⟨object, member, defined, informative⟩
    exact ⟨(code, object), member, response, ⟨defined, informative⟩, rfl, rfl⟩

/-- Of responses whose codes ascend, the informative ones have codes that ascend. -/
theorem pairwise_informativeResponses {declared : Entries Int ResponseObject}
    (ascends : declared.keys.Pairwise (· < ·)) :
    (document.informativeResponses declared).keys.Pairwise (· < ·) := by
  rw [Entries.keys, List.pairwise_map] at ascends ⊢
  apply ascends.filterMap
  intro first second below one isOne two isTwo
  obtain ⟨_, _, rfl⟩ := Option.map_eq_some_iff.mp isOne
  obtain ⟨_, _, rfl⟩ := Option.map_eq_some_iff.mp isTwo
  exact below

end Document

namespace Definitions

variable {definitions : Definitions}

/-! ## What an output is made of -/

/-- A header of an output is what is declared for it: its name, and the model of its schema. -/
def HeaderFrom (definitions : Definitions) (entry : String × HeaderObject) (header : Parameter) :
    Prop :=
  header.name = entry.1 ∧ ∃ definition schema model context,
    definitions.document.LeadsTo entry.2 definition ∧ definition.schema = some schema ∧
      schema.Maps model ∧ definitions.flatten true context model = .ok header.model ∧
        header.mandatory = definition.required.getD false ∧
          header.description = definition.description

/-- A body of an output is that of the media type whose name is least. -/
inductive BodyFrom (definitions : Definitions) (content : Entries String MediaTypeObject) :
    Option Model → Prop
  | noContent (isEmpty : content = []) : BodyFrom definitions content none
  | noSchema {entry : String × MediaTypeObject} (member : entry ∈ content)
      (least : ∀ other ∈ content, entry.1 ≤ other.1) (absent : entry.2.schema = none) :
      BodyFrom definitions content none
  | ofSchema {entry : String × MediaTypeObject} (member : entry ∈ content)
      (least : ∀ other ∈ content, entry.1 ≤ other.1) {schema : SchemaObject} {mapped model : Model}
      {context : String} (present : entry.2.schema = some schema) (maps : schema.Maps mapped)
      (flattened : definitions.flatten false context mapped = .ok model) :
      BodyFrom definitions content (some model)

/-- An output that is made of a response alone. -/
structure OutputFrom (definitions : Definitions) (response : ResponseObject)
    (output : OperationOutput) : Prop where
  header : List.Forall₂ definitions.HeaderFrom (response.headers.getD []) output.header
  body : definitions.BodyFrom (response.content.getD []) output.body

theorem headerFrom_of_responseHeader {context name : String} {object : HeaderObject}
    {header : Parameter} (built : definitions.responseHeader context name object = .ok header) :
    definitions.HeaderFrom (name, object) header := by
  obtain ⟨definition, resolved, rest⟩ := Outcome.bind_eq_ok_iff.mp built
  have leads := Document.leadsTo_of_resolve resolved
  cases hasSchema : definition.schema with
  | none =>
      rw [hasSchema] at rest
      cases rest
  | some schema =>
      rw [hasSchema] at rest
      obtain ⟨model, mapped, more⟩ := Outcome.bind_eq_ok_iff.mp rest
      obtain ⟨result, flattened, wrapped⟩ := Outcome.bind_eq_ok_iff.mp more
      cases wrapped
      exact ⟨rfl, definition, schema, model, context, leads, hasSchema,
        SchemaObject.maps_of_ofSchema mapped, flattened, rfl, rfl⟩

theorem bodyFrom_of_responseBody {context : String} {response : ResponseObject}
    {body : Option Model} (built : definitions.responseBody context response = .ok body) :
    definitions.BodyFrom (response.content.getD []) body := by
  unfold responseBody at built
  cases least : (response.content.getD []).least? with
  | none =>
      have noSchema : contentSchema? response.content = none := by simp [contentSchema?, least]
      rw [noSchema] at built
      cases built
      exact .noContent (Entries.least?_eq_none_iff.mp least)
  | some entry =>
      obtain ⟨member, below⟩ := Entries.least?_spec least
      have isSchema : contentSchema? response.content = entry.2.schema := by
        simp [contentSchema?, least]
      rw [isSchema] at built
      cases hasSchema : entry.2.schema with
      | none =>
          rw [hasSchema] at built
          cases built
          exact .noSchema member below hasSchema
      | some schema =>
          rw [hasSchema] at built
          obtain ⟨model, mapped, rest⟩ := Outcome.bind_eq_ok_iff.mp built
          obtain ⟨result, flattened, wrapped⟩ := Outcome.bind_eq_ok_iff.mp rest
          cases wrapped
          exact .ofSchema member below hasSchema (SchemaObject.maps_of_ofSchema mapped) flattened

theorem outputFrom_of_outputOf {context : String} {code : Int} {response : ResponseObject}
    {output : OperationOutput}
    (built : definitions.outputOf context code response = .ok output) :
    output.statusCode = some code ∧ definitions.OutputFrom response output := by
  obtain ⟨headers, each, rest⟩ := Outcome.bind_eq_ok_iff.mp built
  obtain ⟨body, bodyBuilt, wrapped⟩ := Outcome.bind_eq_ok_iff.mp rest
  cases wrapped
  refine ⟨rfl, ?_, bodyFrom_of_responseBody bodyBuilt⟩
  apply List.Forall₂.imp _ (Outcome.mapM_eq_ok_iff.mp each)
  intro entry header headerBuilt
  exact headerFrom_of_responseHeader headerBuilt

/-! ## The selection -/

/-- What is reported of a response that comes after the one that gives the output. -/
def duplicateOutput (operationId : String) (kept : Option Int) (code : Int) : Diagnostic :=
  ⟨.duplicateOutput, "Response " ++ toString code ++ " also declares content; keeping response " ++
    textOrNone (kept.map toString), some operationId⟩

/-- The output that informative responses give, and what is reported of them. -/
inductive Selected (definitions : Definitions) (operationId : String) :
    Entries Int ResponseObject → Option OperationOutput → List Diagnostic → Prop
  | nothing : Selected definitions operationId [] none []
  | first {code : Int} {response : ResponseObject} {rest : Entries Int ResponseObject}
      {output : OperationOutput} (hasCode : output.statusCode = some code)
      (made : definitions.OutputFrom response output) :
      Selected definitions operationId ((code, response) :: rest) (some output)
        (rest.keys.map (duplicateOutput operationId output.statusCode))

/-- Once there is an output, all informative responses are reported. -/
theorem selectOutput_of_found {operationId : String} {output : OperationOutput}
    {declared : List (Int × ResponseObject)} {selected : Option OperationOutput}
    {diagnostics : List Diagnostic}
    (built : definitions.selectOutput operationId (some output) declared =
      .ok (selected, diagnostics)) :
    selected = some output ∧
      diagnostics = (definitions.document.informativeResponses declared).keys.map
        (duplicateOutput operationId output.statusCode) := by
  induction declared generalizing selected diagnostics with
  | nil =>
      cases built
      exact ⟨rfl, rfl⟩
  | cons entry rest ih =>
      obtain ⟨code, object⟩ := entry
      rw [selectOutput] at built
      obtain ⟨response, resolved, next⟩ := Outcome.bind_eq_ok_iff.mp built
      have defined := Document.definition?_of_resolve resolved
      by_cases informative : response.isInformative = true
      · simp only [informative, if_true] at next
        obtain ⟨⟨chosen, others⟩, more, wrapped⟩ := Outcome.bind_eq_ok_iff.mp next
        cases wrapped
        obtain ⟨isChosen, rfl⟩ := ih more
        rw [Document.informativeResponses_cons_of_informative rest defined informative]
        exact ⟨isChosen, rfl⟩
      · simp only [informative, Bool.false_eq_true, if_false] at next
        rw [Document.informativeResponses_cons_of_not rest defined informative]
        exact ih next

/-- The first informative response is selected, and the others are reported. -/
theorem selectOutput_of_none {operationId : String} {declared : List (Int × ResponseObject)}
    {selected : Option OperationOutput} {diagnostics : List Diagnostic}
    (built : definitions.selectOutput operationId none declared = .ok (selected, diagnostics)) :
    definitions.Selected operationId (definitions.document.informativeResponses declared) selected
      diagnostics := by
  induction declared generalizing selected diagnostics with
  | nil =>
      cases built
      exact .nothing
  | cons entry rest ih =>
      obtain ⟨code, object⟩ := entry
      rw [selectOutput] at built
      obtain ⟨response, resolved, next⟩ := Outcome.bind_eq_ok_iff.mp built
      have defined := Document.definition?_of_resolve resolved
      by_cases informative : response.isInformative = true
      · simp only [informative, if_true] at next
        obtain ⟨output, outputBuilt, more⟩ := Outcome.bind_eq_ok_iff.mp next
        obtain ⟨rfl, rfl⟩ := selectOutput_of_found more
        obtain ⟨hasCode, made⟩ := outputFrom_of_outputOf outputBuilt
        rw [Document.informativeResponses_cons_of_informative rest defined informative]
        exact .first hasCode made
      · simp only [informative, Bool.false_eq_true, if_false] at next
        rw [Document.informativeResponses_cons_of_not rest defined informative]
        exact ih next

/-- All responses that are gone through have a definition. -/
theorem exists_definition_of_selectOutput {operationId : String}
    {found selected : Option OperationOutput} {declared : List (Int × ResponseObject)}
    {diagnostics : List Diagnostic}
    (built : definitions.selectOutput operationId found declared = .ok (selected, diagnostics)) :
    ∀ entry ∈ declared, ∃ response, definitions.document.definition? entry.2 = some response := by
  induction declared generalizing found selected diagnostics with
  | nil => simp
  | cons entry rest ih =>
      obtain ⟨code, object⟩ := entry
      rw [selectOutput] at built
      obtain ⟨response, resolved, next⟩ := Outcome.bind_eq_ok_iff.mp built
      have later : ∃ found selected diagnostics,
          definitions.selectOutput operationId found rest = .ok (selected, diagnostics) := by
        split at next
        · split at next
          · obtain ⟨output, _, more⟩ := Outcome.bind_eq_ok_iff.mp next
            exact ⟨_, _, _, more⟩
          · obtain ⟨⟨chosen, others⟩, more, _⟩ := Outcome.bind_eq_ok_iff.mp next
            exact ⟨_, _, _, more⟩
        · exact ⟨_, _, _, next⟩
      obtain ⟨_, _, _, more⟩ := later
      exact List.forall_mem_cons.mpr ⟨⟨response, Document.definition?_of_resolve resolved⟩, ih more⟩

/-- If the kept responses have definitions, those that inform are the informative ones among
them. -/
theorem informs_iff {responses : Entries String ResponseObject}
    (distinct : (successCodes responses).Nodup)
    (defined : ∀ entry ∈ orderedResponses responses,
      ∃ response, definitions.document.definition? entry.2 = some response) {code : Int}
    {response : ResponseObject} :
    definitions.document.Informs responses code response ↔
      (code, response) ∈
        definitions.document.informativeResponses (orderedResponses responses) := by
  rw [Document.mem_informativeResponses_iff]
  constructor
  · rintro ⟨⟨key, object⟩, member, written, leads, isSaid⟩
    have isKept := (mem_orderedResponses_iff distinct).mpr ⟨key, member, written⟩
    obtain ⟨other, isDefinition⟩ := defined _ isKept
    obtain rfl := leads.unique (Document.leadsTo_of_definition? isDefinition)
    exact ⟨object, isKept, isDefinition, ResponseObject.isInformative_iff.mpr isSaid⟩
  · rintro ⟨object, isKept, isDefinition, informative⟩
    obtain ⟨key, member, written⟩ := (mem_orderedResponses_iff distinct).mp isKept
    exact ⟨(key, object), member, written, Document.leadsTo_of_definition? isDefinition,
      ResponseObject.isInformative_iff.mp informative⟩

/-- The status codes of success, the output and the diagnostics that declared responses call
for. -/
structure SelectsOutput (definitions : Definitions) (responses : Entries String ResponseObject)
    (operationId : String) (expect : List Int) (output : OperationOutput)
    (diagnostics : List Diagnostic) : Prop where
  ascends : expect.Pairwise (· < ·)
  mem_expect_iff : ∀ code, code ∈ expect ↔ ∃ entry ∈ responses, successCode? entry.1 = some code
  selected :
    (∃ code response, definitions.document.Informs responses code response ∧
      (∀ other otherResponse, definitions.document.Informs responses other otherResponse →
        code ≤ other) ∧
        output.statusCode = some code ∧ definitions.OutputFrom response output) ∨
    (∀ code response, ¬ definitions.document.Informs responses code response) ∧
      output = ⟨expect.head?, [], none⟩
  reported : ∃ (ignored : List Diagnostic) (later : List Int),
    diagnostics = ignored ++ later.map (duplicateOutput operationId output.statusCode) ∧
      List.Forall₂ (fun entry diagnostic => ∃ reason,
          ResponseKey.ofText entry.1 = .ignored reason ∧
            diagnostic = ⟨.ignoredResponse, reason, some operationId⟩)
        (responses.filter fun entry => (successCode? entry.1).isNone) ignored ∧
        later.Pairwise (· < ·) ∧
          ∀ code, code ∈ later ↔
            (∃ response, definitions.document.Informs responses code response) ∧
            ∃ lower response, lower < code ∧
              definitions.document.Informs responses lower response

/-- Responses with distinct codes of success select the output. -/
theorem selectsOutput_of_responses {operationId : String}
    {responses : Entries String ResponseObject} {expect : List Int} {output : OperationOutput}
    {diagnostics : List Diagnostic} (distinct : (successCodes responses).Nodup)
    (built : definitions.responses operationId responses = .ok (expect, output, diagnostics)) :
    definitions.SelectsOutput responses operationId expect output diagnostics := by
  obtain ⟨⟨selected, others⟩, chosen, wrapped⟩ := Outcome.bind_eq_ok_iff.mp built
  cases wrapped
  have keptKeys : (keptResponses responses).keys = successCodes responses := by
    rw [keptResponses_eq distinct, keys_successResponses]
  have ascends : (ascending (keptResponses responses).keys).Pairwise (· < ·) :=
    pairwise_lt_ascending (keptKeys ▸ distinct)
  have informs := fun code response =>
    @informs_iff definitions responses distinct (exists_definition_of_selectOutput chosen) code
      response
  have informativeAscend : (definitions.document.informativeResponses
      (orderedResponses responses)).keys.Pairwise (· < ·) := by
    apply Document.pairwise_informativeResponses
    rwa [keys_orderedResponses]
  have selection := selectOutput_of_none chosen
  change Selected definitions operationId
    (definitions.document.informativeResponses (orderedResponses responses)) selected others
    at selection
  generalize definitions.document.informativeResponses (orderedResponses responses) = informative
    at informs informativeAscend selection
  have isExpected : ∀ code, code ∈ ascending (keptResponses responses).keys ↔
      ∃ entry ∈ responses, successCode? entry.1 = some code := by
    intro code
    rw [(ascending_perm _).mem_iff, keptKeys, mem_successCodes_iff]
  cases selection with
  | nothing =>
      have nothingInforms : ∀ code response,
          ¬ definitions.document.Informs responses code response := by simp [informs]
      refine ⟨ascends, isExpected, Or.inr ⟨nothingInforms, rfl⟩, _, [], rfl,
        ignoredResponses_spec operationId responses, .nil, ?_⟩
      simp [nothingInforms]
  | @first code response rest output hasCode made =>
      obtain ⟨isLeast, restAscend⟩ := List.pairwise_cons.mp informativeAscend
      have here : definitions.document.Informs responses code response :=
        (informs _ _).mpr List.mem_cons_self
      have least : ∀ other otherResponse,
          definitions.document.Informs responses other otherResponse → code ≤ other := by
        intro other otherResponse informsToo
        rcases List.mem_cons.mp ((informs _ _).mp informsToo) with equal | inRest
        · cases equal
          exact Int.le_refl _
        · exact Int.le_of_lt (isLeast other (List.mem_map_of_mem inRest))
      refine ⟨ascends, isExpected, Or.inl ⟨code, response, here, least, hasCode, made⟩, _,
        rest.keys,
        rfl, ignoredResponses_spec operationId responses, restAscend, ?_⟩
      intro other
      constructor
      · intro inRest
        obtain ⟨⟨_, otherResponse⟩, member, rfl⟩ := List.mem_map.mp inRest
        exact ⟨⟨otherResponse, (informs _ _).mpr (List.mem_cons_of_mem _ member)⟩, code, response,
          isLeast _ inRest, here⟩
      · rintro ⟨⟨otherResponse, informsToo⟩, lower, lowerResponse, below, informsLower⟩
        rcases List.mem_cons.mp ((informs _ _).mp informsToo) with equal | inRest
        · cases equal
          exact absurd (least _ _ informsLower) (Int.not_le.mpr below)
        · exact List.mem_map_of_mem inRest

/-- The order in which responses with distinct codes of success are declared only matters for
what is reported. -/
theorem exists_responses_of_perm {operationId : String}
    {responses moved : Entries String ResponseObject} {expect : List Int}
    {output : OperationOutput} {diagnostics : List Diagnostic}
    (distinct : (successCodes responses).Nodup) (perm : responses.Perm moved)
    (built : definitions.responses operationId responses = .ok (expect, output, diagnostics)) :
    ∃ others, definitions.responses operationId moved = .ok (expect, output, others) := by
  obtain ⟨⟨selected, reported⟩, chosen, wrapped⟩ := Outcome.bind_eq_ok_iff.mp built
  cases wrapped
  have sameCodes := keptCodes_eq_of_perm distinct perm
  have sameResponses := orderedResponses_eq_of_perm distinct perm
  refine ⟨ignoredResponses operationId moved ++ reported, ?_⟩
  change definitions.selectOutput operationId none (orderedResponses responses) = _ at chosen
  rw [sameResponses] at chosen
  rw [sameCodes]
  exact Outcome.bind_eq_ok_iff.mpr ⟨(selected, reported), chosen, rfl⟩

/-- An operation that is built has its codes, its output and its diagnostics from the responses
that are declared for it, as long as their codes of success are distinct: the informative
response with the least code gives the output, all with higher codes are reported after those
that are left out, and the order of the declarations does not matter for the operation. -/
theorem operationAt_selects {declared : DeclaredOperation} {operation : Operation}
    {diagnostics : List Diagnostic}
    (distinct : (successCodes declared.object.declaredResponses).Nodup)
    (built : definitions.operationAt declared.uri declared.method declared.shared
      declared.object = .ok (operation, diagnostics)) :
    definitions.SelectsOutput declared.object.declaredResponses operation.id operation.expect
        operation.output diagnostics ∧
      ∀ moved, declared.object.declaredResponses.Perm moved → ∃ others,
        definitions.operationAt declared.uri declared.method declared.shared
          { declared.object with responses := some moved } = .ok (operation, others) := by
  obtain ⟨merged, body, expect, output, mergedBuilt, bodyBuilt, outputBuilt, rfl⟩ :=
    operationAt_eq_ok_iff.mp built
  refine ⟨selectsOutput_of_responses distinct outputBuilt, ?_⟩
  intro moved perm
  obtain ⟨others, movedBuilt⟩ := exists_responses_of_perm distinct perm outputBuilt
  exact ⟨others, operationAt_eq_ok_iff.mpr
    ⟨merged, body, expect, output, mergedBuilt, bodyBuilt, movedBuilt, rfl⟩⟩

end Definitions

/-- A ticket is accepted with a text, or created where a pointer says; the rest is left out. -/
def ticketResponses : Entries String ResponseObject :=
  [("default", ⟨none, none, none, none⟩),
    ("202", ⟨none, none, none, some [("text/plain", ⟨some .text⟩)]⟩),
    ("404", ⟨none, none, none, none⟩),
    ("201", ⟨some "#/components/responses/Ticket", none, none, none⟩)]

/-- The operation that creates a ticket. -/
def createTicket : OperationObject where
  tags := none
  summary := none
  description := none
  operationId := some "createTicket"
  parameters := none
  requestBody := none
  responses := some ticketResponses

/-- Definitions with a response that says where a ticket is. -/
def ticketDefinitions : Definitions where
  document := {
    openapi := "3.0.0"
    info := none
    paths := []
    components := some {
      schemas := none
      responses := some
        [("Ticket", ⟨none, none, some [("Location", ⟨none, none, none, some .text⟩)], none⟩)]
      parameters := none
      requestBodies := none
      headers := none } }
  models := []
  parameters := []

/-- The responses for a ticket are gone through by their codes. -/
theorem ascending_ticketCodes : ascending (keptResponses ticketResponses).keys = [201, 202] := by
  have kept : (keptResponses ticketResponses).keys = [202, 201] := by decide +kernel
  have isSorted : ascending [201, 202] = [201, 202] :=
    List.mergeSort_of_pairwise (by decide)
  rw [kept, ascending_eq_of_perm (.swap 201 202 []), isSorted]

/-- The output of a ticket is the one with the lower code, in every order of the responses. -/
theorem operationAt_selects_of_ticket :
    (successCodes createTicket.declaredResponses).Nodup ∧ ∃ operation diagnostics,
      ticketDefinitions.operationAt "/tickets" .post [] createTicket =
          .ok (operation, diagnostics) ∧
        operation.output.statusCode = some 201 ∧
          (∀ code, code ∈ operation.expect ↔
            ∃ entry ∈ ticketResponses, successCode? entry.1 = some code) ∧
            ∃ others, ticketDefinitions.operationAt "/tickets" .post []
              { createTicket with responses := some ticketResponses.reverse } =
                .ok (operation, others) := by
  have distinct : (successCodes createTicket.declaredResponses).Nodup := by decide +kernel
  have passes : (ticketDefinitions.responses "createTicket" ticketResponses).succeedsWith
      (fun result => decide (result.2.1.statusCode = some 201)) = true := by
    rw [Definitions.responses, ascending_ticketCodes]
    decide +kernel
  obtain ⟨⟨expect, output, diagnostics⟩, outputBuilt, isLeast⟩ :=
    Outcome.succeedsWith_iff.mp passes
  have built : ticketDefinitions.operationAt "/tickets" .post [] createTicket =
      .ok (_, diagnostics) :=
    Definitions.operationAt_eq_ok_iff.mpr ⟨[], none, expect, output, rfl, rfl, outputBuilt, rfl⟩
  obtain ⟨selects, permuted⟩ := @Definitions.operationAt_selects ticketDefinitions
    ⟨"/tickets", .post, [], createTicket⟩ _ diagnostics distinct built
  exact ⟨distinct, _, diagnostics, built, of_decide_eq_true isLeast,
    selects.mem_expect_iff, permuted _ (List.reverse_perm _).symm⟩

end ApiScaffold

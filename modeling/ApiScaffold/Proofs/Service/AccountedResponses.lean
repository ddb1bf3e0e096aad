import ApiScaffold.Proofs.Document.Fields
import ApiScaffold.Proofs.Service.Built
import ApiScaffold.Proofs.Service.SelectedOutput
import ApiScaffold.Proofs.Service.UniqueTypeNames

/-!
# What becomes of declared responses

A response is kept under the status code of success that its key writes, or reported under its
key.  Two keys that write the same code, such as `200` and `0200`, are kept under one code, and
two keys that are written out as the same text are one key.  Nothing is reported in these cases,
so the number of codes and reports is that of the different accounts, which is the number of the
declared responses exactly if all of them have different accounts.
-/

namespace ApiScaffold

/-! ## Accounts -/

/-- What becomes of the response under a key. -/
inductive ResponseAccount where
  /-- It is kept under a status code. -/
  | kept (code : Int)
  /-- It is reported. -/
  | reported (key : String)
  deriving DecidableEq, Repr

/-- The account of a key. -/
def ResponseAccount.ofKey (key : String) : ResponseAccount :=
  match successCode? key with
  | some code => .kept code
  | none => .reported key

theorem ResponseAccount.ofKey_eq_kept_iff {key : String} {code : Int} :
    ofKey key = .kept code ↔ successCode? key = some code := by
  cases written : successCode? key <;> simp [ofKey, written]

theorem ResponseAccount.ofKey_eq_reported_iff {key other : String} :
    ofKey key = .reported other ↔ successCode? key = none ∧ key = other := by
  cases written : successCode? key <;> simp [ofKey, written]

/-- The reports of responses of an operation that were left out. -/
def ignoredFor (diagnostics : List Diagnostic) (operationId : String) : List Diagnostic :=
  diagnostics.filter fun diagnostic =>
    diagnostic.category = .ignoredResponse && diagnostic.operationId = some operationId

/-- What the responses under these keys become in an operation: codes that are expected, and
reports. -/
structure AccountsFor (keys : List String) (operation : Operation) (reports : List Diagnostic) :
    Prop where
  /-- The expected codes ascend, so each of them is there once. -/
  ascends : operation.expect.Pairwise (· < ·)
  /-- Exactly the codes under which responses are kept are expected. -/
  expected : ∀ code, code ∈ operation.expect ↔ .kept code ∈ keys.map ResponseAccount.ofKey
  /-- Each other key is reported once, in the order of the first occurrences. -/
  reported : List.Forall₂ (fun key report => ∃ reason, ResponseKey.ofText key = .ignored reason ∧
      report = ⟨.ignoredResponse, reason, some operation.id⟩)
    (keys.eraseDups.filter fun key => (successCode? key).isNone) reports
  /-- There are as many codes and reports as different accounts. -/
  count : operation.expect.length + reports.length =
    (keys.map ResponseAccount.ofKey).eraseDups.length
  /-- Nothing is lost exactly if the accounts of all keys are different. -/
  complete : operation.expect.length + reports.length = keys.length ↔
    (keys.map ResponseAccount.ofKey).Nodup

/-- The codes of kept responses are the different codes of success. -/
theorem keys_keptResponses (responses : Entries String ResponseObject) :
    (keptResponses responses).keys = (successCodes responses).eraseDups := by
  rw [keptResponses_eq_ofList, Entries.keys_ofList, keys_successResponses]

/-- Codes and reports, taken together, are the different accounts. -/
theorem length_eraseDups_accounts {keys : List String} {codes : List Int}
    (distinct : codes.Nodup)
    (isCode : ∀ code, code ∈ codes ↔ .kept code ∈ keys.map ResponseAccount.ofKey) :
    (keys.map ResponseAccount.ofKey).eraseDups.length =
      codes.length + (keys.eraseDups.filter fun key => (successCode? key).isNone).length := by
  have accounts : (codes.map ResponseAccount.kept ++
      (keys.eraseDups.filter fun key => (successCode? key).isNone).map
        ResponseAccount.reported).Nodup := by
    rw [List.nodup_append]
    refine ⟨distinct.map fun _ _ => ResponseAccount.kept.inj, ?_, ?_⟩
    · exact ((Entries.nodup_eraseDups keys).filter _).map fun _ _ => ResponseAccount.reported.inj
    · intro first isKept second isReported same
      rcases List.mem_map.mp isKept with ⟨code, _, rfl⟩
      rcases List.mem_map.mp isReported with ⟨key, _, rfl⟩
      cases same
  have same : ∀ account, account ∈ keys.map ResponseAccount.ofKey ↔
      account ∈ codes.map ResponseAccount.kept ++
        (keys.eraseDups.filter fun key => (successCode? key).isNone).map
          ResponseAccount.reported := by
    intro account
    cases account with
    | kept code => simp [isCode]
    | reported key =>
        simp [ResponseAccount.ofKey_eq_reported_iff, and_comm]
  rw [Entries.length_eraseDups accounts same, List.length_append, List.length_map,
    List.length_map]

/-- An operation that expects the codes of the kept responses accounts for all responses, together
with the reports of those that are left out. -/
theorem accountsFor_keptResponses {keys : List String} {responses : Entries String ResponseObject}
    {operation : Operation} (isKeys : responses.keys = keys.eraseDups)
    (isExpect : operation.expect = ascending (keptResponses responses).keys) :
    AccountsFor keys operation (ignoredResponses operation.id responses) := by
  have distinct : (keptResponses responses).keys.Nodup := Entries.nodup_keys_ofList _
  have isCode : ∀ code, code ∈ (keptResponses responses).keys ↔
      .kept code ∈ keys.map ResponseAccount.ofKey := by
    intro code
    calc
      code ∈ (keptResponses responses).keys ↔
        ∃ entry ∈ responses, successCode? entry.1 = some code := by
        rw [keys_keptResponses, List.mem_eraseDups, mem_successCodes_iff]
      _ ↔ ∃ key ∈ responses.keys, successCode? key = some code := by
        simp [Entries.keys]
      _ ↔ .kept code ∈ keys.map ResponseAccount.ofKey := by
        rw [isKeys]
        simp [ResponseAccount.ofKey_eq_kept_iff]
  have reported : List.Forall₂ (fun key report => ∃ reason,
      ResponseKey.ofText key = .ignored reason ∧
        report = ⟨.ignoredResponse, reason, some operation.id⟩)
      (keys.eraseDups.filter fun key => (successCode? key).isNone)
      (ignoredResponses operation.id responses) := by
    rw [← isKeys, Entries.keys, List.filter_map, List.forall₂_map_left_iff]
    exact ignoredResponses_spec operation.id responses
  have sorted := ascending_perm (keptResponses responses).keys
  have count : operation.expect.length + (ignoredResponses operation.id responses).length =
      (keys.map ResponseAccount.ofKey).eraseDups.length := by
    rw [length_eraseDups_accounts distinct isCode, isExpect, sorted.length_eq, reported.length_eq]
  constructor
  · rw [isExpect]
    exact pairwise_lt_ascending distinct
  · intro code
    rw [isExpect, sorted.mem_iff, isCode]
  · exact reported
  · exact count
  · rw [count, ← List.length_map ResponseAccount.ofKey]
    exact Entries.length_eraseDups_eq_iff

/-! ## Built operations -/

namespace Definitions

variable {definitions : Definitions}

/-- The codes and the diagnostics of declared responses: first those for the responses that are
left out, then those for further outputs. -/
theorem diagnostics_of_responses {operationId : String} {declared : Entries String ResponseObject}
    {expect : List Int} {output : OperationOutput} {diagnostics : List Diagnostic}
    (built : definitions.responses operationId declared = .ok (expect, output, diagnostics)) :
    expect = ascending (keptResponses declared).keys ∧ ∃ (kept : Option Int) (later : List Int),
      diagnostics = ignoredResponses operationId declared ++
        later.map (duplicateOutput operationId kept) := by
  rcases Outcome.bind_eq_ok_iff.mp built with ⟨⟨selected, others⟩, chosen, wrapped⟩
  cases wrapped
  refine ⟨rfl, ?_⟩
  have selection := selectOutput_of_none chosen
  generalize definitions.document.informativeResponses _ = informative at selection
  cases selection with
  | nothing => exact ⟨none, [], rfl⟩
  | @first _ _ rest output => exact ⟨output.statusCode, rest.keys, rfl⟩

/-- The reports of responses that are left out name their operation. -/
theorem ignored_of_mem_ignoredResponses {operationId : String}
    {responses : Entries String ResponseObject} {diagnostic : Diagnostic}
    (member : diagnostic ∈ ignoredResponses operationId responses) :
    diagnostic.category = .ignoredResponse ∧ diagnostic.operationId = some operationId := by
  rcases Entries.exists_left_of_forall₂ (ignoredResponses_spec operationId responses) member with
    ⟨_, _, _, _, rfl⟩
  exact ⟨rfl, rfl⟩

/-- Each diagnostic of an operation names it. -/
theorem operationId_of_build {declared : DeclaredOperation} {operation : Operation}
    {diagnostics : List Diagnostic}
    (built : definitions.build declared = .ok (operation, diagnostics)) :
    ∀ diagnostic ∈ diagnostics, diagnostic.operationId = some operation.id := by
  rcases operationAt_eq_ok_iff.mp built with ⟨_, _, _, _, _, _, responses, rfl⟩
  rcases diagnostics_of_responses responses with ⟨_, kept, later, rfl⟩
  intro diagnostic member
  rcases List.mem_append.mp member with isIgnored | isDuplicate
  · exact (ignored_of_mem_ignoredResponses isIgnored).2
  · rcases List.mem_map.mp isDuplicate with ⟨code, _, rfl⟩
    rfl

/-- Among the diagnostics for the responses of an operation are the reports of those that are
left out. -/
theorem ignoredFor_append (operationId : String) (responses : Entries String ResponseObject)
    (kept : Option Int) (later : List Int) :
    ignoredFor (ignoredResponses operationId responses ++
      later.map (duplicateOutput operationId kept)) operationId =
        ignoredResponses operationId responses := by
  have all : ignoredFor (ignoredResponses operationId responses) operationId =
      ignoredResponses operationId responses := by
    rw [ignoredFor, List.filter_eq_self]
    intro diagnostic member
    simp [ignored_of_mem_ignoredResponses member]
  have others : ignoredFor (later.map (duplicateOutput operationId kept)) operationId = [] := by
    simp [ignoredFor, duplicateOutput]
  rw [ignoredFor, List.filter_append, ← ignoredFor, ← ignoredFor, all, others, List.append_nil]

/-- A built operation has the method and the path under which it is declared. -/
theorem place_of_build {declared : DeclaredOperation} {operation : Operation}
    {diagnostics : List Diagnostic}
    (built : definitions.build declared = .ok (operation, diagnostics)) :
    operation.method = declared.method.name ∧ operation.uri = declared.uri := by
  rcases operationAt_eq_ok_iff.mp built with ⟨_, _, _, _, _, _, _, rfl⟩
  exact ⟨rfl, rfl⟩

/-- A built operation expects the codes of the kept responses, and the others are reported. -/
theorem expect_of_build {declared : DeclaredOperation} {operation : Operation}
    {diagnostics : List Diagnostic}
    (built : definitions.build declared = .ok (operation, diagnostics)) :
    operation.expect = ascending (keptResponses declared.object.declaredResponses).keys ∧
      ignoredFor diagnostics operation.id =
        ignoredResponses operation.id declared.object.declaredResponses := by
  rcases operationAt_eq_ok_iff.mp built with ⟨_, _, _, _, _, _, responses, rfl⟩
  rcases diagnostics_of_responses responses with ⟨rfl, kept, later, rfl⟩
  exact ⟨rfl, ignoredFor_append _ _ kept later⟩

end Definitions

/-! ## Services -/

namespace Document

/-- The results of building operations with different identifiers: the diagnostics that name an
operation are its own. -/
theorem ignoredFor_flatMap {results : List (Operation × List Diagnostic)}
    (distinct : (results.map fun result => result.1.id).Nodup)
    (own : ∀ result ∈ results, ∀ diagnostic ∈ result.2,
      diagnostic.operationId = some result.1.id) {result : Operation × List Diagnostic}
    (member : result ∈ results) :
    ignoredFor (results.flatMap Prod.snd) result.1.id = ignoredFor result.2 result.1.id := by
  induction results with
  | nil => cases member
  | cons first rest ih =>
      rw [List.map_cons, List.nodup_cons] at distinct
      rcases List.forall_mem_cons.mp own with ⟨ownFirst, ownRest⟩
      rw [List.flatMap_cons, ignoredFor, List.filter_append, ← ignoredFor, ← ignoredFor]
      rcases List.mem_cons.mp member with rfl | inRest
      · have foreign : ignoredFor (rest.flatMap Prod.snd) result.1.id = [] := by
          rw [ignoredFor, List.filter_eq_nil_iff]
          intro diagnostic isOther
          rcases List.mem_flatMap.mp isOther with ⟨other, inRest, isOwn⟩
          have different : other.1.id ≠ result.1.id := fun same =>
            distinct.1 (List.mem_map.mpr ⟨other, inRest, same⟩)
          simp [ownRest other inRest diagnostic isOwn, different]
        rw [foreign, List.append_nil]
      · have foreign : ignoredFor first.2 result.1.id = [] := by
          rw [ignoredFor, List.filter_eq_nil_iff]
          intro diagnostic isOther
          have different : first.1.id ≠ result.1.id := fun same =>
            distinct.1 (List.mem_map.mpr ⟨result, inRest, same.symm⟩)
          simp [ownFirst diagnostic isOther, different]
        rw [foreign, List.nil_append, ih distinct.2 ownRest inRest]

/-- Every declared operation of a valid document is a valid value of the data. -/
theorem exists_declares {content : Decoded} {document : Document}
    (passed : Document.ofDecoded content = .ok document) {declared : DeclaredOperation}
    (member : declared ∈ document.declaredOperations) :
    ∃ part, content.Declares declared.uri declared.method part ∧
      ∃ room, OperationObject.ofDecoded room part = .ok declared.object := by
  rcases List.mem_flatMap.mp member with ⟨⟨uri, item⟩, isItem, inItem⟩
  rcases List.mem_map.mp inItem with ⟨⟨method, object⟩, isOperation, rfl⟩
  have inPaths : (uri, item) ∈ document.paths := (List.mergeSort_perm _ _).mem_iff.mp isItem
  rcases exists_of_mem_paths passed inPaths with
    ⟨paths, named, itemPart, isPaths, isNamed, last, _, itemPasses⟩
  rcases PathItemObject.exists_of_mem_operations itemPasses isOperation with
    ⟨part, isPart, passes⟩
  exact ⟨part, ⟨paths, named, itemPart, isPaths, isNamed, last, isPart⟩, passes⟩

/-- The keys of the responses of a valid operation are those of the data, written out. -/
theorem exists_responseKeys {room : Nat} {part : Decoded} {object : OperationObject}
    (passed : OperationObject.ofDecoded room part = .ok object) :
    ∃ keys : List String,
      part.responseEntries.map (fun entry => Shape.writtenKey entry.1) = keys.map some ∧
      object.declaredResponses.keys = keys.eraseDups := by
  have related := OperationObject.responses_of_ofDecoded passed
  unfold Decoded.responseEntries OperationObject.declaredResponses
  generalize part.field? "responses" = responses? at related
  generalize object.responses = declared? at related
  cases related with
  | none => exact ⟨[], rfl, rfl⟩
  | some here =>
      rcases here with ⟨named, isNamed, sameKeys⟩
      rcases Decoded.map_writtenKey_of_namedEntries? isNamed with ⟨pairs, isMapping, written⟩
      refine ⟨Entries.keys named, ?_, ?_⟩
      · rw [Option.bind_some, isMapping]
        exact written
      · rw [Option.getD_some, ← sameKeys, Entries.keys_ofList]

/-- The operations of a service have different identifiers. -/
theorem nodup_operationIds {document : Document} {service : Service}
    (built : document.service = .ok service) : (service.operations.map Operation.id).Nodup := by
  rcases exists_draft_of_service built with ⟨draft, order, _, names, _, _, rfl⟩
  rcases Outcome.bind_eq_ok_iff.mp names with ⟨_, _, operations⟩
  exact ((checkOperationNames_eq_ok_iff _ _ _).mp operations).1

/-- A document in decoded data passed the check. -/
theorem ofDecoded_of_ofData {content : Decoded} {source : String} {document : Document}
    (loaded : ofData content source = .ok document) :
    Document.ofDecoded content = .ok document := by
  unfold ofData at loaded
  split at loaded
  · split at loaded
    · next passed =>
        cases loaded
        exact passed
    · cases loaded
    · cases loaded
  · cases loaded

/-- Hoisting keeps the identifiers of operations. -/
theorem map_id_of_hoisted {operations hoisted : List Operation}
    (each : List.Forall₂ (fun operation result => result.HoistedFrom operation) operations
      hoisted) : hoisted.map Operation.id = operations.map Operation.id := by
  induction each with
  | nil => rfl
  | cons isHoisted _ ih =>
      rcases isHoisted with ⟨registry, rfl⟩
      rw [List.map_cons, List.map_cons, ih]
      rfl

/-- Every operation of a service is declared.  It expects the codes of its kept responses, and the
others are reported. -/
theorem exists_declared_of_service {document : Document} {service : Service}
    (built : document.service = .ok service) {operation : Operation}
    (member : operation ∈ service.operations) :
    ∃ declared ∈ document.declaredOperations, operation.method = declared.method.name ∧
      operation.uri = declared.uri ∧
        operation.expect = ascending (keptResponses declared.object.declaredResponses).keys ∧
          ignoredFor service.diagnostics operation.id =
            ignoredResponses operation.id declared.object.declaredResponses := by
  rcases exists_definitions_of_service built with
    ⟨definitions, operations, defined, operationsBuilt, hoisted⟩
  rcases Outcome.bind_eq_ok_iff.mp operationsBuilt with ⟨results, each, wrapped⟩
  rcases Prod.mk.inj (Except.ok.inj wrapped) with ⟨rfl, diagnostics⟩
  have steps := Outcome.mapM_eq_ok_iff.mp each
  rw [(definitions_spec defined).1] at steps
  have distinct : (results.map fun result => result.1.id).Nodup := by
    have sameIds := map_id_of_hoisted hoisted
    rw [List.map_map] at sameIds
    exact sameIds ▸ nodup_operationIds built
  have own : ∀ result ∈ results, ∀ diagnostic ∈ result.2,
      diagnostic.operationId = some result.1.id := by
    intro result isResult
    rcases Entries.exists_left_of_forall₂ steps isResult with ⟨declared, _, step⟩
    exact Definitions.operationId_of_build step
  rcases Entries.exists_left_of_forall₂ hoisted member with ⟨_, isBuilt, registry, rfl⟩
  rcases List.mem_map.mp isBuilt with ⟨result, isResult, rfl⟩
  rcases Entries.exists_left_of_forall₂ steps isResult with ⟨declared, isDeclared, step⟩
  rcases Definitions.expect_of_build step with ⟨isExpect, isIgnored⟩
  rcases Definitions.place_of_build step with ⟨isMethod, isUri⟩
  refine ⟨declared, isDeclared, isMethod, isUri, isExpect, ?_⟩
  change ignoredFor service.diagnostics result.1.id =
    ignoredResponses result.1.id declared.object.declaredResponses
  rw [← diagnostics, ignoredFor_flatMap distinct own isResult, isIgnored]

/-- How an operation and the diagnostics for it account for the responses that the data of a
document declares. -/
structure DeclaredAccounts (content : Decoded) (operation : Operation)
    (diagnostics : List Diagnostic) (method : Method) (part : Decoded) (keys : List String) :
    Prop where
  /-- The operation is declared in the data, by this part of it. -/
  hasMethod : operation.method = method.name
  declared : content.Declares operation.uri method part
  /-- The keys of its responses, written out. -/
  written : part.responseEntries.map (fun entry => Shape.writtenKey entry.1) = keys.map some
  accounts : AccountsFor keys operation (ignoredFor diagnostics operation.id)

/-- Responses of a declared operation are accounted for by what is expected and reported. -/
theorem exists_accounts {content : Decoded} {source : String} {document : Document}
    (loaded : ofData content source = .ok document) {declared : DeclaredOperation}
    (isDeclared : declared ∈ document.declaredOperations) {operation : Operation}
    {diagnostics : List Diagnostic} (isMethod : operation.method = declared.method.name)
    (isUri : operation.uri = declared.uri)
    (isExpect : operation.expect =
      ascending (keptResponses declared.object.declaredResponses).keys)
    (isIgnored : ignoredFor diagnostics operation.id =
      ignoredResponses operation.id declared.object.declaredResponses) :
    ∃ part keys, DeclaredAccounts content operation diagnostics declared.method part keys := by
  rcases exists_declares (ofDecoded_of_ofData loaded) isDeclared with
    ⟨part, declares, _, partPasses⟩
  rcases exists_responseKeys partPasses with ⟨keys, written, isKeys⟩
  refine ⟨part, keys, isMethod, ?_, written, ?_⟩
  · rw [isUri]
    exact declares
  · rw [isIgnored]
    exact accountsFor_keptResponses isKeys isExpect

/-- How the operations of a document account for the responses that its data declares. -/
structure AccountsForResponses (document : Document) (content : Decoded) : Prop where
  /-- Whatever is built for a declared operation accounts for its responses. -/
  built : ∀ (definitions : Definitions), ∀ declared ∈ document.declaredOperations,
    ∀ operation diagnostics, definitions.build declared = .ok (operation, diagnostics) →
      ∃ part keys, DeclaredAccounts content operation diagnostics declared.method part keys
  /-- So does every operation of a service, with all diagnostics of the service. -/
  kept : ∀ service, document.service = .ok service → ∀ operation ∈ service.operations,
    ∃ method part keys, DeclaredAccounts content operation service.diagnostics method part keys

/-- Every operation of a document accounts for its declared responses, where a response is lost
exactly if another one has the same account. -/
theorem accountsForResponses {content : Decoded} {source : String} {document : Document}
    (loaded : ofData content source = .ok document) : document.AccountsForResponses content where
  built definitions declared isDeclared operation diagnostics built := by
    rcases Definitions.place_of_build built with ⟨isMethod, isUri⟩
    rcases Definitions.expect_of_build built with ⟨isExpect, isIgnored⟩
    exact exists_accounts loaded isDeclared isMethod isUri isExpect isIgnored
  kept service built operation member := by
    rcases exists_declared_of_service built member with
      ⟨declared, isDeclared, isMethod, isUri, isExpect, isIgnored⟩
    exact ⟨declared.method, exists_accounts loaded isDeclared isMethod isUri isExpect isIgnored⟩

end Document

/-! ## Responses of one operation -/

/-- The data of an operation whose responses have these keys. -/
def countPart (keys : List Scalar) : Value :=
  .mapping [(.text "operationId", .ofText "count"),
    (.text "responses", .mapping
      (keys.map fun key => (key, .mapping [(.text "description", .ofText "ok")])))]

/-- The data of a document with this operation only. -/
def countData (keys : List Scalar) : Decoded :=
  .ofValue (.mapping [(.text "openapi", .ofText "3.0.0"), (.text "paths", .mapping
    [(.text "/count", .mapping [(.text "get", countPart keys)])])])

theorem declares_countData (keys : List Scalar) :
    (countData keys).Declares "/count" .get (.ofValue (countPart keys)) :=
  ⟨.ofValue (.mapping [(.text "/count", .mapping [(.text "get", countPart keys)])]),
    [("/count", .ofValue (.mapping [(.text "get", countPart keys)]))],
    .ofValue (.mapping [(.text "get", countPart keys)]), rfl, rfl, ⟨[], [], rfl, by simp⟩, rfl⟩

/-- The service of the document, if its draft passes all checks. -/
theorem exists_service_of_countData {keys : List Scalar} {expect : List Int}
    {diagnostics : List Diagnostic}
    (passes : (Document.ofData (countData keys) Document.anonymousName).succeedsWith
      (fun document => document.draft.succeedsWith fun draft => draft.passes (fun _ => 0) &&
        decide (draft.operations.map (fun operation =>
          (operation.id, operation.uri, operation.method, operation.expect)) =
            [("count", "/count", "get", expect)] ∧ draft.diagnostics = diagnostics)) = true) :
    ∃ document service operation,
      Document.ofData (countData keys) Document.anonymousName = .ok document ∧
        document.service = .ok service ∧ operation ∈ service.operations ∧
          operation.id = "count" ∧ operation.uri = "/count" ∧ operation.method = "get" ∧
            operation.expect = expect ∧ service.diagnostics = diagnostics := by
  rcases Outcome.succeedsWith_iff.mp passes with ⟨document, loaded, drafted⟩
  rcases Document.exists_service_of_test drafted with ⟨draft, order, built, tested⟩
  rcases of_decide_eq_true tested with ⟨isOnly, isReported⟩
  rcases List.map_eq_singleton_iff.mp isOnly with ⟨operation, operations, parts⟩
  simp only [Prod.mk.injEq] at parts
  rcases parts with ⟨id, uri, method, isExpect⟩
  refine ⟨document, _, operation, loaded, built, ?_, id, uri, method, isExpect, isReported⟩
  rw [Draft.ordered, operations]
  exact List.mem_singleton_self operation

/-- A number and a text are keys of responses alike; the one of success is expected, and the
others are reported. -/
theorem accountsForResponses_count :
    ∃ document service operation method part keys,
      Document.ofData (countData [.int 200, .text "default", .text "404"])
          Document.anonymousName = .ok document ∧
        document.service = .ok service ∧ operation ∈ service.operations ∧
          Document.DeclaredAccounts (countData [.int 200, .text "default", .text "404"])
            operation service.diagnostics method part keys ∧
          operation.expect = [200] ∧
            (ignoredFor service.diagnostics operation.id).length = 2 := by
  have passes : (Document.ofData (countData [.int 200, .text "default", .text "404"])
      Document.anonymousName).succeedsWith (fun document => document.draft.succeedsWith
        fun draft => draft.passes (fun _ => 0) && decide (draft.operations.map (fun operation =>
          (operation.id, operation.uri, operation.method, operation.expect)) =
            [("count", "/count", "get", [200])] ∧ draft.diagnostics =
              [⟨.ignoredResponse, "Ignoring 'default' response", some "count"⟩,
                ⟨.ignoredResponse, "Ignoring non-success response 404", some "count"⟩])) =
      true := by
    decide +kernel
  rcases exists_service_of_countData passes with
    ⟨document, service, operation, loaded, built, member, isId, _, _, isExpect, reports⟩
  rcases (Document.accountsForResponses loaded).kept service built operation member with
    ⟨method, part, keys, accounts⟩
  refine ⟨document, service, operation, method, part, keys, loaded, built, member, accounts,
    isExpect, ?_⟩
  rw [reports, isId]
  rfl

/-- Of two responses whose keys write the same code, one is lost: it has no code of its own and
no report. -/
theorem exists_lost_response :
    ∃ document service operation part,
      Document.ofData (countData [.text "200", .text "0200"]) Document.anonymousName =
          .ok document ∧
        document.service = .ok service ∧ operation ∈ service.operations ∧
          operation.method = Method.get.name ∧
          (countData [.text "200", .text "0200"]).Declares operation.uri .get part ∧
            operation.expect.length + (ignoredFor service.diagnostics operation.id).length ≠
              part.responseEntries.length := by
  have passes : (Document.ofData (countData [.text "200", .text "0200"])
      Document.anonymousName).succeedsWith (fun document => document.draft.succeedsWith
        fun draft => draft.passes (fun _ => 0) && decide (draft.operations.map (fun operation =>
          (operation.id, operation.uri, operation.method, operation.expect)) =
            [("count", "/count", "get", [200])] ∧ draft.diagnostics = [])) = true := by
    decide +kernel
  rcases exists_service_of_countData passes with
    ⟨document, service, operation, loaded, built, member, _, isUri, isMethod, isExpect, reports⟩
  refine ⟨document, service, operation, _, loaded, built, member, isMethod,
    isUri ▸ declares_countData _, ?_⟩
  rw [isExpect, reports]
  change 1 ≠ 2
  decide

end ApiScaffold

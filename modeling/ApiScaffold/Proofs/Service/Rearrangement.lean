import ApiScaffold.Proofs.Service.Agreement

/-!
# Documents in another order

The order of paths, of media types, and of the definitions of responses, request bodies and
headers says nothing.  Paths are sorted, the media type with the least name is selected, and
definitions are looked up by their names.  So two documents that differ in nothing but this
order have the same service, or they fail for the same reason.
-/

namespace ApiScaffold

/-! ## What may be rearranged -/

/-- The same request body, with its media types in another order. -/
structure RequestBodyObject.Rearranged (body other : RequestBodyObject) : Prop where
  same : other = { body with content := other.content }
  content : Option.Rel (Entries.Rearranged Eq) body.content other.content

/-- The same response, with its media types in another order. -/
structure ResponseObject.Rearranged (response other : ResponseObject) : Prop where
  same : other = { response with content := other.content }
  content : Option.Rel (Entries.Rearranged Eq) response.content other.content

/-- The same operation, with media types in another order. -/
structure OperationObject.Rearranged (object other : OperationObject) : Prop where
  same : other = { object with requestBody := other.requestBody, responses := other.responses }
  requestBody : Option.Rel RequestBodyObject.Rearranged object.requestBody other.requestBody
  responses : Option.Rel (Entries.Matches ResponseObject.Rearranged) object.responses
    other.responses

/-- The same path item, with media types in another order. -/
structure PathItemObject.Rearranged (item other : PathItemObject) : Prop where
  same : other = { item with operations := other.operations }
  operations : Entries.Matches OperationObject.Rearranged item.operations other.operations

/-- The same components, with responses, request bodies, headers and media types in another
order. -/
structure ComponentsObject.Rearranged (components other : ComponentsObject) : Prop where
  same : other = { components with
    responses := other.responses, requestBodies := other.requestBodies, headers := other.headers }
  responses : Option.Rel (Entries.Rearranged ResponseObject.Rearranged) components.responses
    other.responses
  requestBodies : Option.Rel (Entries.Rearranged RequestBodyObject.Rearranged)
    components.requestBodies other.requestBodies
  headers : Option.Rel (Entries.Rearranged Eq) components.headers other.headers

/-- The same document, with paths, media types, and definitions of responses, request bodies and
headers in another order. -/
structure Document.Rearranged (document other : Document) : Prop where
  same : other = { document with paths := other.paths, components := other.components }
  paths : document.paths.Rearranged PathItemObject.Rearranged other.paths
  components : Option.Rel ComponentsObject.Rearranged document.components other.components

/-! ## The selected content -/

namespace Entries

variable {α : Type}

theorem least?_eq_none_iff {entries : Entries String α} : entries.least? = none ↔ entries = [] := by
  cases entries with
  | nil => simp [least?]
  | cons first rest =>
      rw [least?]
      split
      · simp
      · split <;> simp

/-- The least entry is one whose key comes before all keys. -/
theorem least?_spec {entries : Entries String α} {entry : String × α}
    (least : entries.least? = some entry) :
    entry ∈ entries ∧ ∀ other ∈ entries, entry.1 ≤ other.1 := by
  induction entries generalizing entry with
  | nil => cases least
  | cons first rest ih =>
      rw [least?] at least
      cases leastOfRest : least? rest with
      | none =>
          rw [leastOfRest] at least
          cases least
          simp [least?_eq_none_iff.mp leastOfRest]
      | some second =>
          obtain ⟨member, below⟩ := ih leastOfRest
          rw [leastOfRest] at least
          by_cases before : second.1 < first.1
          · simp only [before, if_true, Option.some.injEq] at least
            subst least
            have isBelow : second.1 ≤ first.1 := String.not_lt.mp (String.lt_asymm before)
            exact ⟨List.mem_cons_of_mem first member, List.forall_mem_cons.mpr ⟨isBelow, below⟩⟩
          · simp only [before, if_false, Option.some.injEq] at least
            subst least
            have isBelow : first.1 ≤ second.1 := String.not_lt.mp before
            exact ⟨List.mem_cons_self, List.forall_mem_cons.mpr ⟨String.le_refl _,
              fun other inRest => String.le_trans isBelow (below other inRest)⟩⟩

/-- The least entry is the same in every order. -/
theorem least?_eq_of_perm {entries moved : Entries String α} (distinct : entries.keys.Nodup)
    (perm : entries.Perm moved) : entries.least? = moved.least? := by
  cases least : entries.least? with
  | none =>
      have empty := least?_eq_none_iff.mp least
      subst empty
      rw [List.nil_perm.mp perm]
      rfl
  | some entry =>
      cases leastMoved : moved.least? with
      | none =>
          rw [least?_eq_none_iff.mp leastMoved] at perm
          rw [List.perm_nil.mp perm] at least
          cases least
      | some other =>
          obtain ⟨key, value⟩ := entry
          obtain ⟨otherKey, otherValue⟩ := other
          obtain ⟨member, below⟩ := least?_spec least
          obtain ⟨otherMember, otherBelow⟩ := least?_spec leastMoved
          have otherBack := perm.mem_iff.mpr otherMember
          obtain rfl : key = otherKey := String.le_antisymm (below _ otherBack)
            (otherBelow _ (perm.mem_iff.mp member))
          have found := get?_eq_some_of_mem distinct member
          rw [get?_eq_some_of_mem distinct otherBack] at found
          cases found
          rfl

end Entries

section Content

variable {content other : Option (Entries String MediaTypeObject)}

/-- The selected schema does not depend on the order of media types. -/
theorem contentSchema?_eq (rearranged : Option.Rel (Entries.Rearranged Eq) content other) :
    contentSchema? content = contentSchema? other := by
  cases rearranged with
  | none => rfl
  | some here =>
      obtain ⟨distinct, moved, perm, matching⟩ := here
      rw [← matching.eq, contentSchema?, contentSchema?]
      simp only [Option.getD_some, Entries.least?_eq_of_perm distinct perm]

theorem isEmpty_content_eq (rearranged : Option.Rel (Entries.Rearranged Eq) content other) :
    (content.getD []).isEmpty = (other.getD []).isEmpty := by
  cases rearranged with
  | none => rfl
  | some here => exact here.isEmpty_eq

end Content

/-! ## Documents that agree -/

namespace Document

variable {first second : Document}

/-- A section with rearranged definitions agrees, as long as pointers stay what they are. -/
theorem sectionAgrees_of_rearranged {α : Type} [Referable α] {alike : α → α → Prop}
    (ref : ∀ {item other : α}, alike item other → Referable.ref item = Referable.ref other)
    (components : first.components.isNone = second.components.isNone)
    (rearranged : (Component.definitions (α := α) first).Rearranged alike
      (Component.definitions second)) : SectionAgrees alike first second := by
  constructor
  · exact ref
  · exact components
  · exact rearranged.length_eq
  · intro name
    exact (rearranged.get?_rel name).imp fun item other here => ⟨item, Or.inl rfl, here⟩

namespace Rearranged

variable (rearranged : first.Rearranged second)

include rearranged

theorem keepsComponents : KeepsComponents first second := by
  constructor
  · exact (congrArg Document.info rearranged.same).symm
  · exact rearranged.components.isNone_eq
  · have same := rearranged.components.bind_eq fun _ _ here =>
      (congrArg ComponentsObject.schemas here.same).symm
    rw [schemas, schemas, same]
  · have same := rearranged.components.bind_eq fun _ _ here =>
      (congrArg ComponentsObject.parameters here.same).symm
    rw [parameters, parameters, same]

theorem headers_agree : SectionAgrees (@Eq HeaderObject) first second := by
  apply sectionAgrees_of_rearranged (congrArg Referable.ref) rearranged.components.isNone_eq
  have both := rearranged.components.bind fun _ _ here => here.headers
  exact both.getD .nil

theorem requestBodies_agree : SectionAgrees RequestBodyObject.Rearranged first second := by
  apply sectionAgrees_of_rearranged _ rearranged.components.isNone_eq
  · have both := rearranged.components.bind fun _ _ here => here.requestBodies
    exact both.getD .nil
  · intro body other here
    exact (congrArg RequestBodyObject.ref here.same).symm

theorem responses_agree : SectionAgrees ResponseObject.Rearranged first second := by
  apply sectionAgrees_of_rearranged _ rearranged.components.isNone_eq
  · have both := rearranged.components.bind fun _ _ here => here.responses
    exact both.getD .nil
  · intro response other here
    exact (congrArg ResponseObject.ref here.same).symm

/-- Responses that stand under the same name in rearranged documents declare the same output. -/
theorem sameOutput (models : Entries String Model) (parameters : Entries String Parameter)
    {response other : ResponseObject} (here : response.Rearranged other) :
    Definitions.SameOutput ⟨first, models, parameters⟩ ⟨second, models, parameters⟩ response
      other := by
  have sameHeaders : other.headers = response.headers :=
    (congrArg ResponseObject.headers here.same :)
  constructor
  · rw [ResponseObject.isInformative, ResponseObject.isInformative, sameHeaders,
      isEmpty_content_eq here.content]
  · exact contentSchema?_eq here.content
  · rw [sameHeaders]
    apply List.forall₂_same.mpr
    intro entry _
    constructor
    · rfl
    · intro context
      exact (rearranged.headers_agree.resolve_agree ⟨entry.2, Or.inl rfl, rfl⟩ context).eq

/-- Rearranged operations agree, whatever the components of their documents become. -/
theorem operationsAgree (models : Entries String Model) (parameters : Entries String Parameter)
    {object other : OperationObject} (here : object.Rearranged other) :
    Definitions.OperationsAgree ⟨first, models, parameters⟩ ⟨second, models, parameters⟩ object
      other := by
  constructor
  · exact (congrArg OperationObject.operationId here.same).symm
  · exact (congrArg OperationObject.summary here.same).symm
  · exact (congrArg OperationObject.description here.same).symm
  · exact (congrArg OperationObject.tags here.same).symm
  · have sameParameters : other.parameters = object.parameters :=
      (congrArg OperationObject.parameters here.same :)
    rw [sameParameters]
    exact List.forall₂_same.mpr fun parameter _ =>
      rearranged.keepsComponents.parametersAgree models parameters parameter
  · apply here.requestBody.imp
    intro body result inside context
    apply (rearranged.requestBodies_agree.resolve_agree ⟨body, Or.inl rfl, inside⟩ context).imp
    intro definition otherDefinition similar
    exact contentSchema?_eq similar.content
  · apply (here.responses.getD .nil).imp
    intro response result inside context
    apply (rearranged.responses_agree.resolve_agree ⟨response, Or.inl rfl, inside⟩ context).imp
    intro definition otherDefinition similar
    exact rearranged.sameOutput models parameters similar

/-- Rearranged documents agree. -/
theorem serviceAgrees : ServiceAgrees first second := by
  apply rearranged.keepsComponents.serviceAgrees rearranged.paths.sorted
  · intro item other here
    apply here.operations.imp
    intro object result inside
    exact (congrArg OperationObject.operationId inside.same).symm
  · intro declared parameters models _ _ item other here
    have sameParameters : other.parameters = item.parameters :=
      (congrArg PathItemObject.parameters here.same :)
    constructor
    · rw [sameParameters]
      exact List.forall₂_same.mpr fun parameter _ =>
        rearranged.keepsComponents.parametersAgree models parameters parameter
    · apply here.operations.imp
      intro object result inside
      exact rearranged.operationsAgree models parameters inside

end Rearranged

/-- The service of a document does not depend on the order of its paths, of its media types, or
of its definitions of responses, request bodies and headers: it is the same service, or the same
failure. -/
theorem service_eq_of_rearranged {document other : Document}
    (rearranged : document.Rearranged other) : document.service = other.service :=
  rearranged.serviceAgrees.service_eq

end Document

/-- Media types of a book. -/
def bookContent : Entries String MediaTypeObject :=
  [("application/json", ⟨some (.pointer "#/components/schemas/Book")⟩),
    ("text/plain", ⟨some .text⟩)]

/-- A library with these media types of books, and with these paths and responses. -/
def libraryDocument (content : Entries String MediaTypeObject)
    (paths : List (String × OperationObject)) (responses : Entries String ResponseObject) :
    Document where
  openapi := "3.0.0"
  info := none
  paths := paths.map fun (uri, object) => (uri, ⟨none, none, [(.post, object)], none⟩)
  components := some {
    schemas := some [("Book", .object [("title", .text)])]
    responses := some responses
    parameters := none
    requestBodies := some [("Book", ⟨none, none, some content, none⟩)]
    headers := none }

/-- An operation that takes a book and gives a response. -/
def bookOperation (content : Entries String MediaTypeObject) (response : String) :
    OperationObject where
  tags := none
  summary := none
  description := none
  operationId := none
  parameters := none
  requestBody := some ⟨none, none, some content, none⟩
  responses := some [("200", ⟨some response, none, none, none⟩)]

/-- A library. -/
def library : Document :=
  libraryDocument bookContent
    [("/borrow", bookOperation bookContent "#/components/responses/Lent"),
      ("/return", bookOperation bookContent "#/components/responses/Kept")]
    [("Lent", ⟨none, none, none, some bookContent⟩), ("Kept", ⟨none, none, none, none⟩)]

/-- The library with everything in the opposite order. -/
def reversedLibrary : Document :=
  libraryDocument bookContent.reverse
    [("/return", bookOperation bookContent.reverse "#/components/responses/Kept"),
      ("/borrow", bookOperation bookContent.reverse "#/components/responses/Lent")]
    [("Kept", ⟨none, none, none, none⟩), ("Lent", ⟨none, none, none, some bookContent.reverse⟩)]

/-- A library has a service, which is the same in the opposite order. -/
theorem service_eq_of_reversed_library : library.Rearranged reversedLibrary ∧
    ∃ service, library.service = .ok service ∧ reversedLibrary.service = .ok service := by
  have content : Option.Rel (Entries.Rearranged Eq) (some bookContent)
      (some bookContent.reverse) :=
    .some ⟨by decide, _, (List.reverse_perm _).symm, .cons ⟨rfl, rfl⟩ (.cons ⟨rfl, rfl⟩ .nil)⟩
  have operation : ∀ response, (bookOperation bookContent response).Rearranged
      (bookOperation bookContent.reverse response) := fun response =>
    ⟨rfl, .some ⟨rfl, content⟩, .some (.cons ⟨rfl, rfl, .none⟩ .nil)⟩
  have rearranged : library.Rearranged reversedLibrary := by
    constructor
    · rfl
    · exact ⟨by decide, _, .swap _ _ _, .cons ⟨rfl, rfl, .cons ⟨rfl, operation _⟩ .nil⟩
        (.cons ⟨rfl, rfl, .cons ⟨rfl, operation _⟩ .nil⟩ .nil)⟩
    · refine .some ⟨rfl, ?_, ?_, .none⟩
      · exact .some ⟨by decide, _, .swap _ _ _,
          .cons ⟨rfl, rfl, .none⟩ (.cons ⟨rfl, rfl, content⟩ .nil)⟩
      · exact .some ⟨by decide, _, .refl _, .cons ⟨rfl, rfl, content⟩ .nil⟩
  have inOrder : sortedPaths library = library.paths :=
    List.mergeSort_of_pairwise (by decide +kernel)
  have passes : library.draft.succeedsWith (fun draft =>
      draft.passes (fun _ => 0) && true) = true := by
    simp only [Document.draft, Definitions.operations, Document.declaredOperations, inOrder]
    decide +kernel
  obtain ⟨draft, order, built, _⟩ := Document.exists_service_of_test passes
  have same := Document.service_eq_of_rearranged rearranged
  exact ⟨rearranged, _, built, same ▸ built⟩

end ApiScaffold

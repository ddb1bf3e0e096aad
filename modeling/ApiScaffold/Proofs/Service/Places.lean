import ApiScaffold.Proofs.Collection.Matching
import ApiScaffold.Proofs.Collection.Optional
import ApiScaffold.Proofs.Document.Definitions
import ApiScaffold.Service.Build

/-!
# The places of an operation

An operation has something at each of its places: under the names of its parameters by
location, in its body, in the headers and in the body of its output.  A built operation has
models there, a declared one has schemas.

Which schema a declared operation has at a place follows from the document alone.  Of two
declarations of one parameter the later one counts, and of the responses the one with the
least status code of success that says anything.
-/

namespace ApiScaffold

/-- What stands at the places of an operation. -/
structure Places (α : Type) where
  path : Entries String α
  query : Entries String α
  header : Entries String α
  body : Option α
  outputHeader : Entries String α
  outputBody : Option α

namespace Places

variable {α β γ : Type}

/-- All that stands anywhere but in the body of the output. -/
def inside (places : Places α) : List α :=
  places.path.map Prod.snd ++ places.query.map Prod.snd ++ places.header.map Prod.snd ++
    places.body.toList ++ places.outputHeader.map Prod.snd

/-- All that stands at any place. -/
def all (places : Places α) : List α :=
  places.inside ++ places.outputBody.toList

theorem forall_mem_inside_iff {holds : α → Prop} (places : Places α) :
    (∀ content ∈ places.inside, holds content) ↔
      (∀ entry ∈ places.path, holds entry.2) ∧ (∀ entry ∈ places.query, holds entry.2) ∧
        (∀ entry ∈ places.header, holds entry.2) ∧ (∀ content ∈ places.body, holds content) ∧
          ∀ entry ∈ places.outputHeader, holds entry.2 := by
  simp only [inside, List.forall_mem_append, List.forall_mem_map, Option.mem_toList,
    Option.mem_def, and_assoc]

theorem forall_mem_all_iff {holds : α → Prop} (places : Places α) :
    (∀ content ∈ places.all, holds content) ↔
      (∀ entry ∈ places.path, holds entry.2) ∧ (∀ entry ∈ places.query, holds entry.2) ∧
        (∀ entry ∈ places.header, holds entry.2) ∧ (∀ content ∈ places.body, holds content) ∧
          (∀ entry ∈ places.outputHeader, holds entry.2) ∧
            ∀ content ∈ places.outputBody, holds content := by
  simp only [all, inside, List.forall_mem_append, List.forall_mem_map, Option.mem_toList,
    Option.mem_def, and_assoc]

/-- The same places with related contents.  The body of the output has a relation of its
own. -/
structure Related (inside output : α → β → Prop) (first : Places α) (second : Places β) :
    Prop where
  path : Entries.Matches inside first.path second.path
  query : Entries.Matches inside first.query second.query
  header : Entries.Matches inside first.header second.header
  body : Option.Rel inside first.body second.body
  outputHeader : Entries.Matches inside first.outputHeader second.outputHeader
  outputBody : Option.Rel output first.outputBody second.outputBody

/-! ## Related contents -/

variable {inside output : α → β → Prop} {first : Places α} {second : Places β}

/-- Everything outside the body of the output has its counterpart in the first places. -/
theorem Related.exists_left_inside (related : first.Related inside output second) :
    ∀ content ∈ second.inside, ∃ other ∈ first.inside, inside other content := by
  obtain ⟨inPath, inQuery, inHeader, inBody, inOutputHeader⟩ :=
    (forall_mem_inside_iff first).mp fun content member => member
  have ofEntries : ∀ {entries : Entries String α} {others : Entries String β},
      entries.Matches inside others → (∀ entry ∈ entries, entry.2 ∈ first.inside) →
        ∀ other ∈ others, ∃ content ∈ first.inside, inside content other.2 := by
    intro entries others matching inFirst other member
    obtain ⟨content, inEntries, here⟩ := matching.exists_left member
    exact ⟨content, inFirst _ inEntries, here⟩
  rw [forall_mem_inside_iff]
  refine ⟨ofEntries related.path inPath, ofEntries related.query inQuery,
    ofEntries related.header inHeader, ?_, ofEntries related.outputHeader inOutputHeader⟩
  intro content member
  obtain ⟨other, isBody, here⟩ := related.body.exists_left content member
  exact ⟨other, inBody other isBody, here⟩

/-- Everything in the second places has its counterpart in the first. -/
theorem Related.exists_left (related : first.Related inside output second) :
    ∀ content ∈ second.all, ∃ other ∈ first.all, inside other content ∨ output other content := by
  intro content member
  rcases List.mem_append.mp member with isInside | isOutput
  · obtain ⟨other, inFirst, here⟩ := related.exists_left_inside content isInside
    exact ⟨other, List.mem_append_left _ inFirst, Or.inl here⟩
  · obtain ⟨other, inFirst, here⟩ :=
      related.outputBody.exists_left content (Option.mem_toList.mp isOutput)
    exact ⟨other, List.mem_append_right _ (Option.mem_toList.mpr inFirst), Or.inr here⟩

theorem Related.flip (related : first.Related inside output second) :
    second.Related (fun content other => inside other content)
      (fun content other => output other content) first := by
  constructor
  · exact related.path.flip
  · exact related.query.flip
  · exact related.header.flip
  · exact related.body.flip
  · exact related.outputHeader.flip
  · exact related.outputBody.flip

theorem Related.imp {weak weakOutput : α → β → Prop}
    (related : first.Related inside output second)
    (implies : ∀ content other, inside content other → weak content other)
    (impliesOutput : ∀ content other, output content other → weakOutput content other) :
    first.Related weak weakOutput second := by
  constructor
  · exact related.path.imp implies
  · exact related.query.imp implies
  · exact related.header.imp implies
  · exact related.body.imp implies
  · exact related.outputHeader.imp implies
  · exact related.outputBody.imp impliesOutput

/-- What holds of everything in the first places can be added to the relations. -/
theorem Related.and_left (related : first.Related inside output second) {holds : α → Prop}
    (each : ∀ content ∈ first.all, holds content) :
    first.Related (fun content other => holds content ∧ inside content other)
      (fun content other => holds content ∧ output content other) second := by
  obtain ⟨path, query, header, body, outputHeader, outputBody⟩ :=
    (forall_mem_all_iff first).mp each
  constructor
  · exact related.path.and_left path
  · exact related.query.and_left query
  · exact related.header.and_left header
  · exact related.body.and_left body
  · exact related.outputHeader.and_left outputHeader
  · exact related.outputBody.and_left outputBody

/-- Places that are related to common ones are related to each other. -/
theorem Related.trans {third : Places γ} {late lateOutput : β → γ → Prop}
    {whole wholeOutput : α → γ → Prop} (related : first.Related inside output second)
    (others : second.Related late lateOutput third)
    (compose : ∀ one two three, inside one two → late two three → whole one three)
    (composeOutput : ∀ one two three, output one two → lateOutput two three →
      wholeOutput one three) : first.Related whole wholeOutput third := by
  constructor
  · exact related.path.trans others.path compose
  · exact related.query.trans others.query compose
  · exact related.header.trans others.header compose
  · exact related.body.trans others.body compose
  · exact related.outputHeader.trans others.outputHeader compose
  · exact related.outputBody.trans others.outputBody composeOutput

end Places

/-- The name of a parameter with its model. -/
def Parameter.entry (parameter : Parameter) : String × Model :=
  (parameter.name, parameter.model)

/-- The models of an operation. -/
def Operation.places (operation : Operation) : Places Model where
  path := operation.input.path.map Parameter.entry
  query := operation.input.query.map Parameter.entry
  header := operation.input.header.map Parameter.entry
  body := operation.input.body
  outputHeader := operation.output.header.map Parameter.entry
  outputBody := operation.output.body

namespace Document

/-- The schema of what an item defines. -/
def schemaOf? {α : Type} [Referable α] (document : Document) (schema : α → Option SchemaObject)
    (item : α) : Option SchemaObject :=
  (document.definition? item).bind schema

/-- The schemas of the parameters of the components. -/
def parameterSchemas (document : Document) : Entries String SchemaObject :=
  document.parameters.filterMap fun (name, object) =>
    (document.schemaOf? ParameterObject.schema object).map fun schema => (name, schema)

/-- The schema of a parameter under its name and location. -/
def locatedSchema? (document : Document) (object : ParameterObject) :
    Option ((String × ParameterLocation) × SchemaObject) := do
  let definition ← document.definition? object
  let name ← definition.name
  let location ← definition.location.bind ParameterLocation.ofName?
  let schema ← definition.schema
  pure ((name, location), schema)

/-- The schemas of the parameters at a location.  A later declaration replaces an earlier
one. -/
def schemasAt (document : Document) (objects : List ParameterObject)
    (location : ParameterLocation) : Entries String SchemaObject :=
  ((Entries.ofList (objects.filterMap document.locatedSchema?)).filter fun entry =>
    decide (entry.1.2 = location)).map fun entry => (entry.1.1, entry.2)

/-- The response that an output is made of: the first one of success that says anything. -/
def outputResponse? (document : Document) (responses : Entries String ResponseObject) :
    Option ResponseObject :=
  let kept := keptResponses responses
  ((ascending kept.keys).filterMap fun code =>
    (kept.get? code).bind document.definition?).find? ResponseObject.isInformative

/-- The schemas of the headers of a response. -/
def headerSchemas (document : Document) (response : ResponseObject) :
    Entries String SchemaObject :=
  (response.headers.getD []).filterMap fun (name, header) =>
    (document.schemaOf? HeaderObject.schema header).map fun schema => (name, schema)

/-- The schemas of a declared operation. -/
def places (document : Document) (declared : DeclaredOperation) : Places SchemaObject :=
  let objects := declared.shared ++ declared.object.parameters.getD []
  let response := document.outputResponse? (declared.object.responses.getD [])
  { path := document.schemasAt objects .path
    query := document.schemasAt objects .query
    header := document.schemasAt objects .header
    body := declared.object.requestBody.bind
      (document.schemaOf? fun body => contentSchema? body.content)
    outputHeader := (response.map document.headerSchemas).getD []
    outputBody := response.bind fun response => contentSchema? response.content }

/-- All schemas from which a service is made: those of the components, of their parameters,
and at the places of all operations. -/
def usedSchemas (document : Document) : List SchemaObject :=
  document.schemas.map Prod.snd ++ document.parameterSchemas.map Prod.snd ++
    document.declaredOperations.flatMap fun declared => (document.places declared).all

end Document

end ApiScaffold

import ApiScaffold.Proofs.Model.Mapping
import ApiScaffold.Proofs.Service.Draft

/-!
# Type names that are emitted

A type is emitted for every struct, and for the input and the output of every operation.
Their names differ exactly if the type names of the operations differ.  The check of names
makes sure of everything else: names of models are compared as type names, also with those of
inputs and outputs, but operations are compared by their identifiers as they are written.
-/

namespace ApiScaffold

/-- The type names of the structs. -/
def Service.structTypeNames (service : Service) : List String :=
  (service.models.filter fun entry => entry.2.isStruct).map fun entry =>
    Naming.typeName entry.1

/-- The type names of inputs and outputs. -/
def Service.operationTypeNames (service : Service) : List String :=
  service.operations.flatMap fun operation =>
    [inputTypeName operation.id, outputTypeName operation.id]

/-- The names of all types that are emitted. -/
def Service.emittedTypeNames (service : Service) : List String :=
  service.structTypeNames ++ service.operationTypeNames

/-! ## Names of inputs and outputs -/

theorem inputTypeName_inj {first second : String} :
    inputTypeName first = inputTypeName second ↔
      Naming.typeName first = Naming.typeName second := by
  simp [inputTypeName, ← String.toList_inj]

theorem outputTypeName_inj {first second : String} :
    outputTypeName first = outputTypeName second ↔
      Naming.typeName first = Naming.typeName second := by
  simp [outputTypeName, ← String.toList_inj]

/-- No input has the type name of an output. -/
theorem inputTypeName_ne_outputTypeName (first second : String) :
    inputTypeName first ≠ outputTypeName second := by
  intro equal
  have sameChars := congrArg (fun name => name.toList.reverse) equal
  simp [inputTypeName, outputTypeName] at sameChars

/-- Inputs and outputs have no names that end in another way. -/
theorem operationTypeName_notMem_of_endings {words : List String}
    (endings : ∀ word ∈ words,
      ¬ "Input".toList <:+ word.toList ∧ ¬ "Output".toList <:+ word.toList) (id : String) :
    inputTypeName id ∉ words ∧ outputTypeName id ∉ words := by
  constructor
  · intro member
    apply (endings _ member).1
    rw [inputTypeName, String.toList_append]
    exact List.suffix_append _ _
  · intro member
    apply (endings _ member).2
    rw [outputTypeName, String.toList_append]
    exact List.suffix_append _ _

/-- An operation takes the name of an input or an output exactly if another one has its type
name. -/
theorem mem_operationTypeNames_iff {operations : List Operation} {id name : String}
    (isName : name = inputTypeName id ∨ name = outputTypeName id) :
    name ∈ operations.flatMap (fun operation =>
        [inputTypeName operation.id, outputTypeName operation.id]) ↔
      Naming.typeName id ∈ operations.map fun operation => Naming.typeName operation.id := by
  have same : ∀ operation : Operation,
      name = inputTypeName operation.id ∨ name = outputTypeName operation.id ↔
        Naming.typeName operation.id = Naming.typeName id := by
    intro operation
    rcases isName with rfl | rfl
    · simp only [inputTypeName_inj, inputTypeName_ne_outputTypeName, or_false]
      exact eq_comm
    · simp only [outputTypeName_inj, (inputTypeName_ne_outputTypeName _ _).symm, false_or]
      exact eq_comm
  simp only [List.mem_flatMap, List.mem_cons, List.not_mem_nil, or_false, List.mem_map, same]

/-- The names of inputs and outputs differ exactly if the type names of operations do. -/
theorem nodup_operationTypeNames_iff (service : Service) :
    service.operationTypeNames.Nodup ↔
      (service.operations.map fun operation => Naming.typeName operation.id).Nodup := by
  unfold Service.operationTypeNames
  induction service.operations with
  | nil => simp
  | cons operation rest ih =>
      have inputTaken := @mem_operationTypeNames_iff rest operation.id _ (Or.inl rfl)
      have outputTaken := @mem_operationTypeNames_iff rest operation.id _ (Or.inr rfl)
      rw [List.flatMap_cons, List.cons_append, List.cons_append, List.nil_append,
        List.nodup_cons, List.nodup_cons, List.mem_cons, not_or, inputTaken, outputTaken, ih,
        List.map_cons, List.nodup_cons]
      constructor
      · rintro ⟨_, fresh, distinct⟩
        exact ⟨fresh, distinct⟩
      · rintro ⟨fresh, distinct⟩
        exact ⟨⟨inputTypeName_ne_outputTypeName _ _, fresh⟩, fresh, distinct⟩

/-! ## The check of names -/

/-- Operations pass the check exactly if their identifiers differ and no model has the type
name of an input or an output. -/
theorem checkOperationNames_eq_ok_iff (typeNames seen : List String)
    (operations : List Operation) :
    checkOperationNames typeNames seen operations = .ok () ↔
      (operations.map Operation.id).Nodup ∧ ∀ operation ∈ operations, operation.id ∉ seen ∧
        inputTypeName operation.id ∉ typeNames ∧ outputTypeName operation.id ∉ typeNames := by
  induction operations generalizing seen with
  | nil => simp [checkOperationNames]
  | cons operation rest ih =>
      simp only [checkOperationNames, List.contains_iff_mem]
      by_cases repeated : operation.id ∈ seen
      · simp [repeated]
      · by_cases takesInput : inputTypeName operation.id ∈ typeNames
        · simp [repeated, takesInput]
        · by_cases takesOutput : outputTypeName operation.id ∈ typeNames
          · simp [repeated, takesInput, takesOutput]
          · rw [List.forall_mem_cons]
            simp only [repeated, takesInput, takesOutput, if_false, ih, List.map_cons,
              List.nodup_cons, List.mem_cons, not_or, List.mem_map, not_exists, not_and,
              not_false_eq_true, and_self, true_and]
            constructor
            · rintro ⟨distinct, others⟩
              constructor
              · exact ⟨fun other member => (others other member).1.1, distinct⟩
              · intro other member
                exact ⟨(others other member).1.2, (others other member).2⟩
            · rintro ⟨⟨fresh, distinct⟩, others⟩
              constructor
              · exact distinct
              · intro other member
                rcases others other member with ⟨unseen, free⟩
                exact ⟨⟨fresh other member, unseen⟩, free⟩

/-- In a draft that passed the check, no model has the type name of an input or an output. -/
theorem Draft.operationTypeName_notMem {draft : Draft} (names : draft.checkNames = .ok ()) :
    ∀ operation ∈ draft.operations,
      inputTypeName operation.id ∉ draft.models.keys.map Naming.typeName ∧
        outputTypeName operation.id ∉ draft.models.keys.map Naming.typeName := by
  obtain ⟨_, _, operations⟩ := Outcome.bind_eq_ok_iff.mp names
  intro operation member
  exact (((checkOperationNames_eq_ok_iff _ _ _).mp operations).2 operation member).2

namespace Service

theorem mem_keys_of_mem_structTypeNames {service : Service} {name : String}
    (member : name ∈ service.structTypeNames) :
    name ∈ service.models.keys.map Naming.typeName := by
  obtain ⟨entry, inStructs, isName⟩ := List.mem_map.mp member
  have inModels : entry ∈ service.models := (List.mem_filter.mp inStructs).1
  exact List.mem_map.mpr ⟨entry.1, List.mem_map_of_mem inModels, isName⟩

theorem nodup_structTypeNames {service : Service}
    (distinct : (service.models.keys.map Naming.typeName).Nodup) :
    service.structTypeNames.Nodup := by
  have sublist : service.structTypeNames.Sublist (service.models.keys.map Naming.typeName) := by
    rw [Entries.keys, List.map_map]
    exact List.filter_sublist.map _
  exact distinct.sublist sublist

end Service

/-- The names of all types that are emitted for a built service differ exactly if the type
names of its operations differ. -/
theorem Document.nodup_emittedTypeNames_iff {document : Document} {service : Service}
    (built : document.service = .ok service) :
    service.emittedTypeNames.Nodup ↔
      (service.operations.map fun operation => Naming.typeName operation.id).Nodup := by
  obtain ⟨draft, order, _, names, _, _, rfl⟩ := Document.exists_draft_of_service built
  rw [← nodup_operationTypeNames_iff, Service.emittedTypeNames, List.nodup_append]
  constructor
  · rintro ⟨_, distinct, _⟩
    exact distinct
  · intro distinct
    refine ⟨Service.nodup_structTypeNames (Draft.nodup_typeNames names), distinct, ?_⟩
    rintro structName inStructs other inOperations rfl
    have isTaken := Service.mem_keys_of_mem_structTypeNames inStructs
    obtain ⟨operation, member, either⟩ := List.mem_flatMap.mp inOperations
    obtain ⟨freeInput, freeOutput⟩ := Draft.operationTypeName_notMem names operation member
    rcases List.mem_cons.mp either with rfl | isOutput
    · exact freeInput isTaken
    · rw [List.mem_singleton.mp isOutput] at isTaken
      exact freeOutput isTaken

/-- A struct, and two operations with the given identifiers. -/
def twoOperations (first second : String) : Document where
  openapi := "3.0.0"
  info := none
  paths := [("/a", {
    summary := none, description := none, parameters := none
    operations :=
      [(.get, ⟨none, none, none, some first, none, none, none⟩),
        (.post, ⟨none, none, none, some second, none, none, none⟩)] })]
  components := some {
    schemas := some [("Widget", .object [("id", .text)])]
    parameters := none, responses := none, requestBodies := none, headers := none }

/-- Operations with other type names have inputs and outputs with other names. -/
theorem nodup_emittedTypeNames_of_other_names :
    ∃ service, (twoOperations "AB" "AC").service = .ok service ∧
      service.emittedTypeNames.Nodup := by
  have passes : (twoOperations "AB" "AC").draft.succeedsWith (fun draft =>
      draft.passes (fun _ => 0) && decide
        (draft.operations.map fun operation => Naming.typeName operation.id).Nodup) = true := by
    decide +kernel
  obtain ⟨draft, order, built, distinct⟩ := Document.exists_service_of_test passes
  exact ⟨_, built, (Document.nodup_emittedTypeNames_iff built).mpr (of_decide_eq_true distinct)⟩

/-- Operations with different identifiers may have inputs with one name. -/
theorem exists_repeated_emittedTypeName :
    ∃ service, (twoOperations "AB" "a_b").service = .ok service ∧
      ¬ service.emittedTypeNames.Nodup := by
  have passes : (twoOperations "AB" "a_b").draft.succeedsWith (fun draft =>
      draft.passes (fun _ => 0) && decide
        (¬ (draft.operations.flatMap fun operation =>
          [inputTypeName operation.id, outputTypeName operation.id]).Nodup)) = true := by
    decide +kernel
  obtain ⟨draft, order, built, repeated⟩ := Document.exists_service_of_test passes
  refine ⟨_, built, ?_⟩
  intro distinct
  have distinctNames := (List.nodup_append.mp distinct).2.1
  exact of_decide_eq_true repeated distinctNames

end ApiScaffold

import ApiScaffold.Proofs.Service.Failing
import ApiScaffold.Proofs.Service.Follows
import ApiScaffold.Proofs.Service.UniqueTypeNames

/-!
# Names that hoisting invents

Hoisting adds names to those of the schemas.  The type names of the added ones differ from each
other, from those of all schemas, and from those of the inputs and outputs of all operations.
This holds from one registration to the next, so it holds of the whole run, whatever names the
schemas have.

The check of names therefore says the same with the added names as without them.  A document is
rejected for a name of a model only if its own names clash, and then it is rejected.
-/

namespace ApiScaffold

/-- Names whose type names differ from each other and from those that are taken. -/
def FreshNames (taken names : List String) : Prop :=
  (names.map Naming.typeName).Nodup ∧ ∀ name ∈ names, Naming.typeName name ∉ taken

theorem FreshNames.nil (taken : List String) : FreshNames taken [] := by
  constructor <;> simp

/-- Names that are fresh after others are fresh together with them. -/
theorem FreshNames.append {taken first second : List String} (fresh : FreshNames taken first)
    (later : FreshNames (taken ++ first.map Naming.typeName) second) :
    FreshNames taken (first ++ second) := by
  obtain ⟨distinct, free⟩ := fresh
  obtain ⟨laterDistinct, laterFree⟩ := later
  simp only [List.mem_append, not_or] at laterFree
  constructor
  · rw [List.map_append, List.nodup_append]
    refine ⟨distinct, laterDistinct, ?_⟩
    rintro typeName inFirst _ inSecond rfl
    obtain ⟨name, member, rfl⟩ := List.mem_map.mp inSecond
    exact (laterFree name member).2 inFirst
  · intro name member
    rcases List.mem_append.mp member with inFirst | inSecond
    · exact free name inFirst
    · exact (laterFree name inSecond).1

/-- What is fresh among some names is fresh among fewer of them. -/
theorem FreshNames.of_subset {taken fewer names : List String} (fresh : FreshNames taken names)
    (subset : fewer ⊆ taken) : FreshNames fewer names :=
  ⟨fresh.1, fun name member isTaken => fresh.2 name member (subset isTaken)⟩

/-! ## Registries -/

namespace ModelRegistry

variable {source : String → Prop}

/-- The type names that no other model may take. -/
def takenNames (registry : ModelRegistry) : List String :=
  registry.typeNames ++ registry.reserved

/-- A registry with the names of another one and fresh ones after them. -/
def Invents (start after : ModelRegistry) : Prop :=
  after.reserved = start.reserved ∧ ∃ invented : List String,
    after.models.keys = start.models.keys ++ invented ∧ FreshNames start.takenNames invented

theorem Invents.refl (registry : ModelRegistry) : registry.Invents registry :=
  ⟨rfl, [], by simp, .nil _⟩

theorem Invents.trans {first second third : ModelRegistry} (early : first.Invents second)
    (late : second.Invents third) : first.Invents third := by
  obtain ⟨sameReserved, invented, keys, fresh⟩ := early
  obtain ⟨laterReserved, laterInvented, laterKeys, laterFresh⟩ := late
  refine ⟨laterReserved.trans sameReserved, invented ++ laterInvented, ?_, ?_⟩
  · rw [laterKeys, keys, List.append_assoc]
  · apply fresh.append
    apply laterFresh.of_subset
    intro typeName
    simp only [takenNames, typeNames, keys, sameReserved, List.map_append, List.mem_append]
    tauto

/-- A model that is added under a free name has a fresh one. -/
theorem invents_of_isFree {registry : ModelRegistry} {name : String}
    (free : registry.isFree name = true) (model : Model) :
    registry.Invents { registry with models := registry.models ++ [(name, model)] } := by
  obtain ⟨unused, unreserved⟩ := (isFree_iff registry name).mp free
  refine ⟨rfl, [name], by simp [Entries.keys], ?_, ?_⟩
  · simp
  · simp only [List.mem_singleton, forall_eq, takenNames, List.mem_append, not_or]
    exact ⟨unused, unreserved⟩

/-- A model that replaces another one needs no name. -/
theorem invents_of_mem_keys {registry : ModelRegistry} {name : String}
    (isKey : name ∈ registry.models.keys) (model : Model) :
    registry.Invents { registry with models := registry.models.put name model } := by
  refine ⟨rfl, [], ?_, .nil _⟩
  simp [Entries.keys_put, isKey]

theorem Grows.invents {start after : ModelRegistry} (grows : start.Grows source after) :
    start.Invents after := by
  induction grows with
  | refl => exact .refl start
  | add _ free _ _ ih => exact ih.trans (invents_of_isFree free _)

end ModelRegistry

/-- Hoisting in place gives nothing but fresh names.  The structs inside a model get new names,
and the model itself keeps its own. -/
theorem invents_hoistDeclared {source : String → Prop} {pending : Entries String Model}
    (ready : ∀ entry ∈ pending, entry.2.Shaped ∧ entry.2.RefersWithin source)
    {registry : ModelRegistry} (known : ∀ entry ∈ pending, entry.1 ∈ registry.models.keys) :
    registry.Invents ((hoistDeclared pending).run registry).2 := by
  induction pending generalizing registry with
  | nil => exact .refl registry
  | cons entry rest ih =>
      obtain ⟨name, raw⟩ := entry
      obtain ⟨shaped, within⟩ := ready _ List.mem_cons_self
      obtain ⟨grows, _⟩ := shaped.gives_hoistNested within name registry trivial
      have isKey : name ∈ ((raw.hoistNested name).run registry).2.models.keys :=
        mem_keys_of_isPrefix grows.keys_isPrefix (known _ List.mem_cons_self)
      have settled : registry.Invents (registry.settleOne name raw) :=
        grows.invents.trans (ModelRegistry.invents_of_mem_keys isKey _)
      rw [hoistDeclared_cons_run]
      apply settled.trans
      apply ih fun other member => ready other (List.mem_cons_of_mem _ member)
      intro other member
      have isPrefix : registry.models.keys <+: (registry.settleOne name raw).models.keys :=
        grows.keys_isPrefix.trans (keys_isPrefix_put _ _ _)
      exact mem_keys_of_isPrefix isPrefix (known other (List.mem_cons_of_mem _ member))

/-! ## Drafts -/

/-- The identifier of a declared operation. -/
def DeclaredOperation.id (declared : DeclaredOperation) : String :=
  operationIdOf declared.method declared.uri declared.object

namespace Document

variable {document : Document}

/-- The names of inputs and outputs are those of the declared operations. -/
theorem mem_operationTypeNames {name : String} :
    name ∈ document.operationTypeNames ↔ ∃ declared ∈ document.declaredOperations,
      name = inputTypeName declared.id ∨ name = outputTypeName declared.id := by
  have sorted : (sortedPaths document).Perm document.paths := List.mergeSort_perm _ _
  have sameNames : (document.declaredOperations.flatMap fun declared =>
      [inputTypeName declared.id, outputTypeName declared.id]).Perm
        document.operationTypeNames := by
    rw [declaredOperations, List.flatMap_assoc]
    simp only [List.flatMap_map]
    exact sorted.flatMap_right _
  rw [← sameNames.mem_iff]
  simp

/-- A draft has the names of the schemas and fresh ones after them, and an operation for each
declared one. -/
theorem exists_invented {draft : Draft} (drafted : document.draft = .ok draft) :
    (∃ invented, draft.models.keys = document.schemas.keys ++ invented ∧
        FreshNames (document.schemas.keys.map Naming.typeName ++ document.operationTypeNames)
          invented) ∧
      draft.operations.map Operation.id =
        document.declaredOperations.map DeclaredOperation.id := by
  obtain ⟨mapped, declared, rest⟩ := Outcome.bind_eq_ok_iff.mp drafted
  obtain ⟨declaredParameters, parametersDeclared, rest⟩ := Outcome.bind_eq_ok_iff.mp rest
  obtain ⟨built, operationsBuilt, rest⟩ := Outcome.bind_eq_ok_iff.mp rest
  cases rest
  obtain ⟨_, growsKnown, _, growsFinal, operationsHoist⟩ :=
    Draft.stages_spec declared rfl parametersDeclared rfl operationsBuilt rfl
  have maps := declaredModels_spec declared
  have settled : ModelRegistry.Invents ⟨mapped, document.operationTypeNames⟩ _ :=
    invents_hoistDeclared (fun _ member => ready_of_mem_mapped maps member)
      fun _ member => List.mem_map_of_mem member
  obtain ⟨_, invented, keys, fresh⟩ :=
    (settled.trans growsKnown.invents).trans growsFinal.invents
  constructor
  · refine ⟨invented, ?_, ?_⟩
    · rw [maps.keys_eq]
      exact keys
    · rw [maps.keys_eq]
      exact fresh
  · have sameIds := operationsHoist.imp fun _ _ hoists => hoists.1.symm
    have inOrder : List.Forall₂ (· = ·) (document.declaredOperations.map DeclaredOperation.id) _ :=
      List.forall₂_map_left_iff.mpr (List.forall₂_map_right_iff.mpr sameIds)
    exact (List.forall₂_eq_eq_eq ▸ inOrder).symm

end Document

/-! ## The check of names -/

/-- Fresh names at the end are not repeated. -/
theorem firstRepeated?_append {seen names fresh : List String} (distinct : fresh.Nodup)
    (free : ∀ name ∈ fresh, name ∉ seen ++ names) :
    firstRepeated? seen (names ++ fresh) = firstRepeated? seen names := by
  induction names generalizing seen with
  | nil =>
      rw [List.nil_append, firstRepeated?, firstRepeated?_eq_none_iff]
      exact ⟨distinct, fun name member => by simpa using free name member⟩
  | cons name rest ih =>
      rw [List.cons_append, firstRepeated?, firstRepeated?, ih]
      intro other member
      have absent := free other member
      simp only [List.mem_append, List.mem_cons, not_or] at absent ⊢
      exact ⟨⟨absent.2.1, absent.1⟩, absent.2.2⟩

/-- Names that no operation has do not matter to operations. -/
theorem checkOperationNames_append {names fresh seen : List String}
    {operations : List Operation}
    (free : ∀ operation ∈ operations,
      inputTypeName operation.id ∉ fresh ∧ outputTypeName operation.id ∉ fresh) :
    checkOperationNames (names ++ fresh) seen operations =
      checkOperationNames names seen operations := by
  induction operations generalizing seen with
  | nil => rfl
  | cons operation rest ih =>
      obtain ⟨freeInput, freeOutput⟩ := free operation List.mem_cons_self
      have others : checkOperationNames (names ++ fresh) (operation.id :: seen) rest =
          checkOperationNames names (operation.id :: seen) rest :=
        ih fun other member => free other (List.mem_cons_of_mem _ member)
      simp only [checkOperationNames, List.contains_iff_mem, List.mem_append, freeInput,
        freeOutput, or_false, others]

/-- Check the names of the schemas against each other and against those of operations. -/
def Document.checkOwnNames (document : Document) (operations : List Operation) :
    Outcome Unit := do
  let typeNames := document.schemas.keys.map Naming.typeName
  checkModelNames typeNames
  checkOperationNames typeNames [] operations

/-- The names that hoisting invents do not matter to the check of names. -/
theorem Draft.checkNames_eq {draft : Draft} {document : Document}
    (drafted : document.draft = .ok draft) :
    draft.checkNames = document.checkOwnNames draft.operations := by
  obtain ⟨⟨invented, keys, distinct, free⟩, sameIds⟩ := Document.exists_invented drafted
  simp only [List.mem_append, not_or] at free
  have models : checkModelNames (draft.models.keys.map Naming.typeName) =
      checkModelNames (document.schemas.keys.map Naming.typeName) := by
    rw [keys, List.map_append, checkModelNames, checkModelNames, firstRepeated?_append distinct]
    rw [List.forall_mem_map, List.nil_append]
    exact fun name member => (free name member).1
  have operations : checkOperationNames (draft.models.keys.map Naming.typeName) []
      draft.operations = checkOperationNames (document.schemas.keys.map Naming.typeName) []
        draft.operations := by
    rw [keys, List.map_append]
    apply checkOperationNames_append
    intro operation member
    have isDeclared : operation.id ∈ document.declaredOperations.map DeclaredOperation.id :=
      sameIds ▸ List.mem_map_of_mem member
    obtain ⟨declared, inDocument, sameId⟩ := List.mem_map.mp isDeclared
    have unused : ∀ typeName, typeName = inputTypeName declared.id ∨
        typeName = outputTypeName declared.id → typeName ∉ invented.map Naming.typeName := by
      intro typeName isName inInvented
      obtain ⟨name, isInvented, rfl⟩ := List.mem_map.mp inInvented
      exact (free name isInvented).2
        (Document.mem_operationTypeNames.mpr ⟨declared, inDocument, isName⟩)
    rw [← sameId]
    exact ⟨unused _ (Or.inl rfl), unused _ (Or.inr rfl)⟩
  rw [Draft.checkNames, Document.checkOwnNames]
  simp only [models, operations]

/-! ## Clashes -/

/-- A type name that two schemas have, or a schema and the input or the output of an
operation. -/
def Document.Clashes (document : Document) (typeName : String) : Prop :=
  (∃ first ∈ document.schemas.keys, ∃ second ∈ document.schemas.keys, first ≠ second ∧
      Naming.typeName first = typeName ∧ Naming.typeName second = typeName) ∨
    ∃ name ∈ document.schemas.keys, Naming.typeName name = typeName ∧
      typeName ∈ document.operationTypeNames

/-- A name that is repeated is there twice, or it was seen before. -/
theorem firstRepeated?_eq_some {seen names : List String} {name : String}
    (repeated : firstRepeated? seen names = some name) :
    ∃ before after, names = before ++ name :: after ∧ (name ∈ seen ∨ name ∈ before) := by
  induction names generalizing seen with
  | nil => cases repeated
  | cons first rest ih =>
      rw [firstRepeated?] at repeated
      by_cases isSeen : seen.contains first = true
      · rw [if_pos isSeen] at repeated
        cases repeated
        exact ⟨[], rest, rfl, Or.inl (List.contains_iff_mem.mp isSeen)⟩
      · rw [if_neg isSeen] at repeated
        obtain ⟨before, after, rfl, either⟩ := ih repeated
        refine ⟨first :: before, after, rfl, ?_⟩
        simp only [List.mem_cons] at either ⊢
        tauto

/-- The check of operations fails for a name that an operation shares with a model, or for an
identifier that is repeated. -/
theorem checkOperationNames_eq_error {typeNames seen : List String} {operations : List Operation}
    {name : String}
    (failed : checkOperationNames typeNames seen operations =
      .error (.duplicateName name "models")) :
    name ∈ typeNames ∧ ∃ operation ∈ operations,
      name = inputTypeName operation.id ∨ name = outputTypeName operation.id := by
  induction operations generalizing seen with
  | nil => cases failed
  | cons operation rest ih =>
      simp only [checkOperationNames, List.contains_iff_mem] at failed
      split at failed
      · simp at failed
      · split at failed
        · next taken =>
            cases failed
            exact ⟨taken, operation, List.mem_cons_self, Or.inl rfl⟩
        · split at failed
          · next taken =>
              cases failed
              exact ⟨taken, operation, List.mem_cons_self, Or.inr rfl⟩
          · obtain ⟨taken, other, member, isName⟩ := ih failed
            exact ⟨taken, other, List.mem_cons_of_mem _ member, isName⟩

namespace Document

variable {document : Document}

/-- If the own names of a document fail the check for a name of a model, they clash. -/
theorem clashes_of_checkOwnNames (distinct : document.schemas.keys.Nodup)
    {operations : List Operation}
    (sameIds : operations.map Operation.id =
      document.declaredOperations.map DeclaredOperation.id) {name : String}
    (failed : document.checkOwnNames operations = .error (.duplicateName name "models")) :
    document.Clashes name := by
  rcases Outcome.bind_eq_error_iff.mp failed with models | ⟨_, _, taken⟩
  · left
    have repeated : firstRepeated? [] (document.schemas.keys.map Naming.typeName) = some name := by
      unfold checkModelNames at models
      cases first : firstRepeated? [] (document.schemas.keys.map Naming.typeName) with
      | none =>
          rw [first] at models
          cases models
      | some other =>
          rw [first] at models
          cases models
          rfl
    obtain ⟨before, after, split, impossible | inBefore⟩ := firstRepeated?_eq_some repeated
    · cases impossible
    · obtain ⟨keysBefore, rest, keys, rfl, isRest⟩ := List.map_eq_append_iff.mp split
      obtain ⟨second, keysAfter, rfl, isSecond, _⟩ := List.map_eq_cons_iff.mp isRest
      obtain ⟨first, isFirst, sameName⟩ := List.mem_map.mp inBefore
      rw [keys] at distinct
      have different : first ≠ second :=
        (List.nodup_append.mp distinct).2.2 first isFirst second List.mem_cons_self
      refine ⟨first, ?_, second, ?_, different, sameName, isSecond⟩
      · rw [keys]
        exact List.mem_append_left _ isFirst
      · rw [keys]
        exact List.mem_append_right _ List.mem_cons_self
  · right
    obtain ⟨inSchemas, operation, member, isName⟩ := checkOperationNames_eq_error taken
    obtain ⟨schema, isKey, isTypeName⟩ := List.mem_map.mp inSchemas
    have isDeclared : operation.id ∈ document.declaredOperations.map DeclaredOperation.id :=
      sameIds ▸ List.mem_map_of_mem member
    obtain ⟨declared, inDocument, sameId⟩ := List.mem_map.mp isDeclared
    rw [← sameId] at isName
    exact ⟨schema, isKey, isTypeName, mem_operationTypeNames.mpr ⟨declared, inDocument, isName⟩⟩

/-- If the own names of a document clash, they fail the check. -/
theorem checkOwnNames_of_clashes {operations : List Operation}
    (sameIds : operations.map Operation.id =
      document.declaredOperations.map DeclaredOperation.id) {name : String}
    (clashes : document.Clashes name) : document.checkOwnNames operations ≠ .ok () := by
  intro passed
  obtain ⟨_, models, taken⟩ := Outcome.bind_eq_ok_iff.mp passed
  rcases clashes with ⟨first, isFirst, second, isSecond, different, rfl, sameName⟩ |
    ⟨schema, isKey, rfl, isTaken⟩
  · have distinct := (checkModelNames_eq_ok_iff _).mp models
    exact different (List.inj_on_of_nodup_map distinct isFirst isSecond sameName.symm)
  · obtain ⟨declared, inDocument, isName⟩ := mem_operationTypeNames.mp isTaken
    have isDeclared : declared.id ∈ operations.map Operation.id :=
      sameIds ▸ List.mem_map_of_mem inDocument
    obtain ⟨operation, member, sameId⟩ := List.mem_map.mp isDeclared
    obtain ⟨_, freeInput, freeOutput⟩ :=
      ((checkOperationNames_eq_ok_iff _ _ _).mp taken).2 operation member
    have isKeyName : Naming.typeName schema ∈ document.schemas.keys.map Naming.typeName :=
      List.mem_map_of_mem isKey
    rw [← sameId] at isName
    rcases isName with isInput | isOutput
    · exact freeInput (isInput ▸ isKeyName)
    · exact freeOutput (isOutput ▸ isKeyName)

/-- A document is rejected for a name of a model only if its own names clash, and then it is
rejected.  The names that hoisting invents do not matter to the check of names. -/
theorem rejects_clashing_names (distinct : document.schemas.keys.Nodup) :
    (∀ name, document.service = .error (.duplicateName name "models") →
        document.Clashes name) ∧
      ((∃ name, document.Clashes name) → ∃ failure, document.service = .error failure) ∧
        ∀ draft, document.draft = .ok draft →
          draft.checkNames = document.checkOwnNames draft.operations := by
  refine ⟨?_, ?_, fun draft => Draft.checkNames_eq⟩
  · intro name failed
    rcases drafting_or_checkNames_of_service failed with drafting | ⟨draft, drafted, names⟩
    · exact absurd drafting (Failure.not_drafting_duplicateName name "models")
    · rw [Draft.checkNames_eq drafted] at names
      exact clashes_of_checkOwnNames distinct (exists_invented drafted).2 names
  · rintro ⟨name, clashes⟩
    cases outcome : document.service with
    | error failure => exact ⟨failure, rfl⟩
    | ok service =>
        obtain ⟨draft, _, drafted, names, _⟩ := exists_draft_of_service outcome
        rw [Draft.checkNames_eq drafted] at names
        exact absurd names (checkOwnNames_of_clashes (exists_invented drafted).2 clashes)

end Document

/-- Two schemas, the first with nested structs, and an operation. -/
def petDocument (first second : String) : Document where
  openapi := "3.0.0"
  info := none
  paths := [("/pets", {
    summary := none, description := none, parameters := none
    operations := [(.get, ⟨none, none, none, some "Pet", none, none, none⟩)] })]
  components := some {
    schemas := some
      [(first, .object
        [("owner", .object [("id", .text)]), ("input", .object [("name", .text)])]),
        (second, .object [("name", .text)])]
    parameters := none, responses := none, requestBodies := none, headers := none }

/-- Two names of schemas that are one type name are rejected.  A name for a nested struct that
belongs to another schema or to an input is not taken, and so it does not clash. -/
theorem rejects_clashing_names_of_pets :
    ((petDocument "pet-tag" "PetTag").schemas.keys.Nodup ∧
      ∃ failure, (petDocument "pet-tag" "PetTag").service = .error failure) ∧
    (petDocument "Pet" "PetOwner").schemas.keys.Nodup ∧
      ∃ service, (petDocument "Pet" "PetOwner").service = .ok service ∧
        ∀ name, ¬ (petDocument "Pet" "PetOwner").Clashes name := by
  have distinctTags : (petDocument "pet-tag" "PetTag").schemas.keys.Nodup := by decide
  have distinctPets : (petDocument "Pet" "PetOwner").schemas.keys.Nodup := by decide
  refine ⟨⟨distinctTags, ?_⟩, distinctPets, ?_⟩
  · apply (Document.rejects_clashing_names distinctTags).2.1
    refine ⟨"PetTag", Or.inl ⟨"pet-tag", ?_, "PetTag", ?_, ?_, ?_, ?_⟩⟩ <;> decide +kernel
  · have passes : (petDocument "Pet" "PetOwner").draft.succeedsWith
        (fun draft => draft.passes (fun _ => 0) && true) = true := by
      decide +kernel
    obtain ⟨draft, order, built, _⟩ := Document.exists_service_of_test passes
    refine ⟨_, built, ?_⟩
    intro name clashes
    obtain ⟨failure, failed⟩ :=
      (Document.rejects_clashing_names distinctPets).2.1 ⟨name, clashes⟩
    rw [built] at failed
    cases failed

end ApiScaffold

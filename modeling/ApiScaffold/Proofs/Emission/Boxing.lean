import ApiScaffold.Emission.RustModule
import ApiScaffold.Proofs.Emission.Held
import ApiScaffold.Proofs.Emission.Spelling
import ApiScaffold.Proofs.Service.ModelOrder

/-!
# Structs of finite size

A struct holds another one through a field that stands for it.  Such a field is boxed exactly
if what it holds leads back to the struct.  The fields that are not boxed therefore lead
nowhere twice, and a struct is written after everything that it holds without a box.

The order of models follows direct references, which pass through aliases, while structs hold
structs.  Both lead to the same structs: what a name stands for is reached from the name, and a
walk of direct references that ends at a struct is a walk of structs that hold each other.
-/

namespace ApiScaffold

open Relation

namespace Model

/-- A struct refers directly to what its properties refer to directly. -/
theorem mem_directReferences_iff_of_isStruct {model : Model} (isStruct : model.isStruct = true)
    {name : Option String} :
    name ∈ model.directReferences ↔ ∃ property ∈ model.properties,
      name ∈ property.2.directReferences := by
  obtain ⟨kind, element, properties, own, description⟩ := model
  simp only [Model.isStruct, decide_eq_true_eq] at isStruct
  subst isStruct
  simp only [directReferences]
  induction properties with
  | nil => simp [directPropertyReferences]
  | cons property rest ih => simp [directPropertyReferences, ih]

/-- Without being a struct a model refers directly to nothing but its own name. -/
theorem mem_directReferences_iff_of_isStruct_eq_false {model : Model}
    (noStruct : model.isStruct = false) {name : Option String} :
    name ∈ model.directReferences ↔ model.isReference = true ∧ model.name = name := by
  obtain ⟨kind, element, properties, own, description⟩ := model
  cases kind with
  | struct => cases noStruct
  | reference => simp [directReferences, isReference, eq_comm]
  | _ => simp [directReferences, isReference]

end Model

namespace RustCode

/-! ## Holding and direct references -/

/-- Direct references lead from a name to the struct that it stands for. -/
theorem StandsFor.reaches {models : Entries String Model} {name held : String}
    (stands : StandsFor models name held) : ReflTransGen (RefersDirectly models) name held := by
  induction stands with
  | struct => exact .refl
  | reference found isReference refers _ ih =>
      apply ReflTransGen.head _ ih
      refine ⟨_, found, ?_⟩
      have noStruct := Bool.eq_false_iff.mpr fun isStruct => by
        rw [isReference_eq_false_of_isStruct isStruct] at isReference
        cases isReference
      exact (Model.mem_directReferences_iff_of_isStruct_eq_false noStruct).mpr
        ⟨isReference, refers⟩

variable {service : Service}

/-- A name from which direct references lead to a struct stands for a struct that leads to it by
holding: going back along the walk, an alias stands for the same struct, and a struct holds it. -/
theorem exists_standsFor_of_reaches (wellFormed : service.WellFormed) {name owner : String}
    (reaches : ReflTransGen (RefersDirectly service.models) name owner) {model : Model}
    (isOwner : service.models.get? owner = some model) (isStruct : model.isStruct = true) :
    ∃ held, StandsFor service.models name held ∧ ReflTransGen (Holds service) held owner := by
  induction reaches using ReflTransGen.head_induction_on with
  | refl => exact ⟨owner, .struct isOwner isStruct, .refl⟩
  | @head name next refers _ ih =>
      obtain ⟨held, stands, leads⟩ := ih
      obtain ⟨middle, found, direct⟩ := refers
      by_cases middleStruct : middle.isStruct = true
      · obtain ⟨property, member, inProperty⟩ :=
          (Model.mem_directReferences_iff_of_isStruct middleStruct).mp direct
        have plain := (wellFormed.flat found).plain_of_mem_properties member
        have resolved := (wellFormed.resolved found).of_mem_properties member
        obtain ⟨isReference, hasName⟩ :=
          (Model.mem_directReferences_iff_of_isStruct_eq_false plain.isStruct_eq_false).mp
            inProperty
        have isHeld := (heldStruct_eq_some_iff wellFormed plain resolved).mpr
          ⟨isReference, next, hasName, stands⟩
        have holds : Holds service name held := ⟨middle, found, property, member, isHeld⟩
        exact ⟨name, .struct found middleStruct, .head holds leads⟩
      · have noStruct : middle.isStruct = false := by simpa using middleStruct
        obtain ⟨isReference, hasName⟩ :=
          (Model.mem_directReferences_iff_of_isStruct_eq_false noStruct).mp direct
        exact ⟨held, .reference found isReference hasName stands, leads⟩

/-! ## What is written -/

/-- Whether a property of a named struct is written as a field of a type. -/
def WritesField (service : Service) (owner : String) (property : String × Model)
    (type : String) : Prop :=
  ∃ before, fieldLines service (some owner) (Naming.rustName property.1)
      (Field.ofProperty property) =
    .ok (before ++ ["    pub " ++ Naming.rustName property.1 ++ ": " ++ type ++ ","])

/-- The type of a field of a struct in a box. -/
def boxedType (type : String) : String :=
  "Option<Box<" ++ type ++ ">>"

theorem boxedType_ne (type : String) : boxedType type ≠ type := by
  intro equal
  have sameLength := congrArg String.length equal
  have lengths : "Option<Box<".length = 11 ∧ ">>".length = 2 := by decide
  simp only [boxedType, String.length_append, lengths] at sameLength
  omega

/-- The last line of a field names its type. -/
theorem writesField_iff {owner : String} {property : String × Model} {type : String}
    {boxed : Bool} (spelled : renderType service property.2 = .ok type)
    (searched : isRecursive service owner property.2 = .ok boxed) (other : String) :
    WritesField service owner property other ↔
      other = if boxed then boxedType type else type := by
  have written : ∃ before, fieldLines service (some owner) (Naming.rustName property.1)
      (Field.ofProperty property) = .ok (before ++ ["    pub " ++ Naming.rustName property.1 ++
        ": " ++ (if boxed then boxedType type else type) ++ ","]) := by
    simp only [fieldLines, Field.ofProperty, spelled, searched, bind, Except.bind]
    exact ⟨_, rfl⟩
  obtain ⟨before, isWritten⟩ := written
  simp only [WritesField, isWritten, Except.ok.injEq]
  constructor
  · rintro ⟨_, lines⟩
    obtain ⟨_, last⟩ := List.append_inj' lines (by simp only [List.length_singleton])
    simpa using last.symm
  · rintro rfl
    exact ⟨before, rfl⟩

/-- A property of a struct is written with its type, in a box exactly if it leads back. -/
theorem exists_writesField_iff (wellFormed : service.WellFormed) (owner : String)
    {property : String × Model} (plain : property.2.Plain)
    (resolved : property.2.Resolved service.models) :
    ∃ type, renderType service property.2 = .ok type ∧
      (WritesField service owner property (boxedType type) ↔
        LeadsBack service owner property.2) ∧
      (WritesField service owner property type ↔ ¬ LeadsBack service owner property.2) := by
  obtain ⟨type, spelled⟩ := (wellFormed.spells plain resolved).rust
  obtain ⟨boxed, searched, isBoxed⟩ := exists_isRecursive wellFormed owner plain resolved
  refine ⟨type, spelled, ?_, ?_⟩
  · rw [writesField_iff spelled searched, ← isBoxed]
    cases boxed with
    | true => simp
    | false => simpa using boxedType_ne type
  · rw [writesField_iff spelled searched, ← isBoxed]
    cases boxed with
    | true => simpa using (boxedType_ne type).symm
    | false => simp

/-- The text of a named struct, given the lines of its fields. -/
def structText (name : String) (documentation : Option String) (fields : List (List String)) :
    String :=
  "\n".intercalate (documentationLines documentation ++ [derives] ++
    if fields.isEmpty then ["pub struct " ++ Naming.typeName name ++ " \x7b\x7d"]
    else ["pub struct " ++ Naming.typeName name ++ " \x7b"] ++ fields.flatten ++ ["\x7d"])

/-- Whether a text is that of a named struct, with the lines of a field for each property. -/
def IsStructText (service : Service) (entry : String × Model) (text : String) : Prop :=
  ∃ fields, List.Forall₂ (fun property lines => fieldLines service (some entry.1)
      (Naming.rustName property.1) (Field.ofProperty property) = .ok lines)
        entry.2.properties fields ∧
    text = structText entry.1 entry.2.description fields

/-- Whether no two properties of a struct have the same identifier. -/
def DistinctFields (entry : String × Model) : Prop :=
  (entry.2.properties.map fun property => Naming.rustName property.1).Nodup

/-- The fields of a struct are written exactly if their identifiers differ. -/
theorem allFieldLines_eq_ok_iff {owner : Option String} {name : String} {seen : List String}
    {fields : List Field} {lines : List String} :
    allFieldLines service owner name seen fields = .ok lines ↔
      (fields.map fun field => Naming.rustName field.name).Nodup ∧
        (∀ field ∈ fields, Naming.rustName field.name ∉ seen) ∧
          ∃ blocks, List.Forall₂ (fun field block => fieldLines service owner
            (Naming.rustName field.name) field = .ok block) fields blocks ∧
              lines = blocks.flatten := by
  induction fields generalizing seen lines with
  | nil => simp [allFieldLines, eq_comm]
  | cons field rest ih =>
      rw [allFieldLines]
      by_cases repeated : Naming.rustName field.name ∈ seen
      · simp [repeated, throw, throwThe, MonadExceptOf.throw, bind, Except.bind]
      simp only [List.contains_iff_mem, repeated, if_false, Outcome.bind_eq_ok_iff, ih,
        List.map_cons, List.nodup_cons, List.forall_mem_cons, List.forall₂_cons_left_iff,
        not_false_eq_true, true_and]
      simp only [List.mem_cons, not_or]
      constructor
      · rintro ⟨block, here, others, ⟨distinct, apart, blocks, inRest, rfl⟩, built⟩
        cases built
        refine ⟨⟨?_, distinct⟩, fun other member => (apart other member).2, block :: blocks,
          ⟨block, blocks, here, inRest, rfl⟩, rfl⟩
        intro member
        obtain ⟨other, inRest, sameName⟩ := List.mem_map.mp member
        exact (apart other inRest).1 sameName
      · rintro ⟨⟨absent, distinct⟩, unseen, _, ⟨block, blocks, here, inRest, rfl⟩, rfl⟩
        refine ⟨block, here, blocks.flatten, ⟨distinct, ?_, blocks, inRest, rfl⟩, rfl⟩
        intro other member
        refine ⟨?_, unseen other member⟩
        intro sameName
        exact absent (List.mem_map.mpr ⟨other, member, sameName⟩)

/-- A named struct is written exactly if the identifiers of its fields differ. -/
theorem renderModel_eq_ok_iff {name : String} {model : Model} {text : String} :
    renderModel service name model = .ok text ↔
      DistinctFields (name, model) ∧ IsStructText service (name, model) text := by
  rw [DistinctFields, renderModel, renderStruct, IsStructText]
  cases hasFields : model.properties with
  | nil =>
      simp only [List.map_nil, List.isEmpty_nil, if_true, List.nodup_nil, true_and,
        List.forall₂_nil_left_iff, exists_eq_left]
      constructor
      · intro built
        cases built
        rfl
      · rintro rfl
        rfl
  | cons property rest =>
      simp only [List.isEmpty_map, List.isEmpty_cons, Bool.false_eq_true, if_false,
        Outcome.bind_eq_ok_iff, allFieldLines_eq_ok_iff, List.map_map, Function.comp_def,
        List.forall₂_map_left_iff, List.not_mem_nil, not_false_eq_true, implies_true, true_and]
      constructor
      · rintro ⟨_, ⟨distinct, blocks, each, rfl⟩, built⟩
        cases built
        refine ⟨distinct, blocks, each, ?_⟩
        obtain ⟨block, others, _, _, rfl⟩ := List.forall₂_cons_left_iff.mp each
        simp [structText]
      · rintro ⟨distinct, blocks, each, rfl⟩
        refine ⟨_, ⟨distinct, blocks, each, rfl⟩, ?_⟩
        obtain ⟨block, others, _, _, rfl⟩ := List.forall₂_cons_left_iff.mp each
        simp [structText, pure, Except.pure]

/-- Structs are written in a row exactly if the identifiers of the fields of each differ. -/
theorem renderModels_eq_ok_iff {structs : List (String × Model)}
    (isStructs : service.structs = .ok structs) {text : String} :
    renderModels service = .ok text ↔ (∀ entry ∈ structs, DistinctFields entry) ∧
      ∃ texts, List.Forall₂ (IsStructText service) structs texts ∧
        text = "\n\n".intercalate texts := by
  rw [renderModels, isStructs]
  simp only [Outcome.bind_eq_ok_iff, Except.ok.injEq, exists_eq_left', Outcome.mapM_eq_ok_iff,
    renderModel_eq_ok_iff]
  constructor
  · rintro ⟨texts, each, built⟩
    cases built
    obtain ⟨distinct, written⟩ := (List.forall₂_and_left _ _).mp each
    exact ⟨distinct, texts, written, rfl⟩
  · rintro ⟨distinct, texts, written, rfl⟩
    exact ⟨texts, (List.forall₂_and_left _ _).mpr ⟨distinct, written⟩, rfl⟩

/-- Every named struct of plain properties has a text. -/
theorem exists_isStructText (wellFormed : service.WellFormed) {name : String} {model : Model}
    (found : service.models.get? name = some model) :
    ∃ text, IsStructText service (name, model) text := by
  have each : ∀ property ∈ model.properties, ∃ lines, fieldLines service (some name)
      (Naming.rustName property.1) (Field.ofProperty property) = .ok lines := by
    intro property member
    obtain ⟨type, _, isBoxed, isUnboxed⟩ := exists_writesField_iff wellFormed name
      ((wellFormed.flat found).plain_of_mem_properties member)
      ((wellFormed.resolved found).of_mem_properties member)
    by_cases back : LeadsBack service name property.2
    · obtain ⟨before, written⟩ := isBoxed.mpr back
      exact ⟨_, written⟩
    · obtain ⟨before, written⟩ := isUnboxed.mpr back
      exact ⟨_, written⟩
  obtain ⟨fields, written⟩ := Outcome.exists_mapM each
  exact ⟨_, fields, Outcome.mapM_eq_ok_iff.mp written, rfl⟩

/-! ## The order of structs -/

/-- Items that are kept stay in their order, also before those that are not. -/
theorem idxOf_filter_lt {α : Type*} [DecidableEq α] {items : List α} {keep : α → Bool}
    {first second : α} (kept : keep first = true)
    (before : items.idxOf first < items.idxOf second) :
    (items.filter keep).idxOf first < (items.filter keep).idxOf second := by
  induction items with
  | nil => cases before
  | cons item rest ih =>
      by_cases isSecond : item = second
      · simp [List.idxOf_cons, isSecond] at before
      by_cases isFirst : item = first
      · subst isFirst
        simp [kept, isSecond]
      have later : rest.idxOf first < rest.idxOf second := by
        simpa [List.idxOf_cons, isFirst, isSecond] using before
      by_cases isKept : keep item = true
      · simpa [isKept, List.idxOf_cons, isFirst, isSecond] using ih later
      · simpa [isKept] using ih later

/-- The names of the structs of a list of names are those that stay in it. -/
theorem map_fst_filterMap_namedStruct (models : Entries String Model) (names : List String) :
    (names.filterMap (namedStruct? models)).map Prod.fst =
      names.filter fun name => (models.get? name).any Model.isStruct := by
  induction names with
  | nil => rfl
  | cons name rest ih =>
      cases found : models.get? name with
      | none => simp [namedStruct?, found, ih]
      | some model =>
          by_cases isStruct : model.isStruct = true
          · simp [namedStruct?, found, isStruct, Option.filter, ih]
          · simp [namedStruct?, found, isStruct, Option.filter, ih]

/-- The structs of a list of names are its models that are structs. -/
theorem mem_filterMap_namedStruct_iff {models : Entries String Model} {names : List String}
    {entry : String × Model} :
    entry ∈ names.filterMap (namedStruct? models) ↔
      entry.1 ∈ names ∧ models.get? entry.1 = some entry.2 ∧ entry.2.isStruct = true := by
  rw [List.mem_filterMap]
  constructor
  · rintro ⟨name, member, isEntry⟩
    obtain ⟨model, isModel, rfl⟩ := Option.map_eq_some_iff.mp isEntry
    exact ⟨member, Option.filter_eq_some_iff.mp isModel⟩
  · rintro ⟨member, found, isStruct⟩
    exact ⟨entry.1, member, by simp [namedStruct?, found, isStruct, Option.filter]⟩

/-- Whether a struct is written with a field that holds another struct without a box. -/
def HoldsUnboxed (service : Service) (owner held : String) : Prop :=
  ∃ model property type, service.models.get? owner = some model ∧ model.isStruct = true ∧
    property ∈ model.properties ∧ heldStruct service property.2 = .ok (some held) ∧
      renderType service property.2 = .ok type ∧ WritesField service owner property type

/-- A struct comes after everything that it holds without a box.  A field that led back by direct
references would lead back by holding, and be boxed. -/
theorem idxOf_lt_of_holdsUnboxed (wellFormed : service.WellFormed)
    (ordered : DependencyOrder service.models service.modelOrder) {owner held : String}
    (holds : HoldsUnboxed service owner held) :
    service.modelOrder.idxOf held < service.modelOrder.idxOf owner := by
  obtain ⟨model, property, type, found, isStruct, member, isHeld, spelled, written⟩ := holds
  have plain := (wellFormed.flat found).plain_of_mem_properties member
  have resolved := (wellFormed.resolved found).of_mem_properties member
  have forward : ¬ LeadsBack service owner property.2 := by
    obtain ⟨other, otherSpelled, _, isForward⟩ :=
      exists_writesField_iff wellFormed owner plain resolved
    rw [spelled] at otherSpelled
    cases otherSpelled
    exact isForward.mp written
  obtain ⟨isReference, name, hasName, stands⟩ :=
    (heldStruct_eq_some_iff wellFormed plain resolved).mp isHeld
  have direct : RefersDirectly service.models owner name := by
    refine ⟨model, found, (Model.mem_directReferences_iff_of_isStruct isStruct).mpr ?_⟩
    exact ⟨property, member, (Model.mem_directReferences_iff_of_isStruct_eq_false
      plain.isStruct_eq_false).mpr ⟨isReference, hasName⟩⟩
  apply ordered.idxOf_lt direct _ stands.reaches
  intro back
  obtain ⟨other, otherStands, leads⟩ :=
    exists_standsFor_of_reaches wellFormed back found isStruct
  rw [otherStands.unique stands] at leads
  exact forward ⟨held, isHeld, leads⟩

/-- No struct holds itself without a box, also not by way of others. -/
theorem not_transGen_holdsUnboxed (wellFormed : service.WellFormed)
    (ordered : DependencyOrder service.models service.modelOrder) (name : String) :
    ¬ TransGen (HoldsUnboxed service) name name := by
  have falls : ∀ {owner held}, TransGen (HoldsUnboxed service) owner held →
      service.modelOrder.idxOf held < service.modelOrder.idxOf owner := by
    intro owner held walk
    induction walk with
    | single holds => exact idxOf_lt_of_holdsUnboxed wellFormed ordered holds
    | tail _ holds ih => exact (idxOf_lt_of_holdsUnboxed wellFormed ordered holds).trans ih
  intro cycle
  exact Nat.lt_irrefl _ (falls cycle)

end RustCode

open RustCode

/-- The structs of a built service have a finite size.  They are written in a row unless two
fields of one have the same identifier.  A field is in a box exactly if what it holds leads back
to its struct, so no struct holds itself without a box, and what a struct holds without a box is
written before it. -/
theorem Document.rust_structs_finite {document : Document} {service : Service}
    (built : document.service = .ok service) :
    ∃ structs, service.structs = .ok structs ∧
      ((∃ text, renderModels service = .ok text) ↔ ∀ entry ∈ structs, DistinctFields entry) ∧
      (∀ text, renderModels service = .ok text → ∃ texts,
        List.Forall₂ (IsStructText service) structs texts ∧
          text = "\n\n".intercalate texts) ∧
      (∀ entry ∈ structs, ∀ property ∈ entry.2.properties,
        ∃ type, renderType service property.2 = .ok type ∧
          (WritesField service entry.1 property (boxedType type) ↔
            LeadsBack service entry.1 property.2) ∧
          (WritesField service entry.1 property type ↔
            ¬ LeadsBack service entry.1 property.2)) ∧
      (∀ name, ¬ TransGen (HoldsUnboxed service) name name) ∧
      ∀ owner held, HoldsUnboxed service owner held →
        (structs.map Prod.fst).idxOf held < (structs.map Prod.fst).idxOf owner := by
  have wellFormed := Document.wellFormed_of_service built
  have ordered := Document.dependencyOrder_of_service built
  have isStructs := Service.structs_eq ordered
  refine ⟨_, isStructs, ⟨?_, ?_⟩, ?_, ?_, not_transGen_holdsUnboxed wellFormed ordered, ?_⟩
  · rintro ⟨text, written⟩
    exact ((renderModels_eq_ok_iff isStructs).mp written).1
  · intro distinct
    have each : ∀ entry ∈ service.modelOrder.filterMap (namedStruct? service.models),
        ∃ text, renderModel service entry.1 entry.2 = .ok text := by
      intro entry member
      obtain ⟨text, isText⟩ :=
        exists_isStructText wellFormed (mem_filterMap_namedStruct_iff.mp member).2.1
      exact ⟨text, renderModel_eq_ok_iff.mpr ⟨distinct entry member, isText⟩⟩
    obtain ⟨texts, written⟩ := Outcome.exists_mapM each
    refine ⟨"\n\n".intercalate texts, ?_⟩
    simp only [renderModels, isStructs, bind, Except.bind, pure, Except.pure] at written ⊢
    rw [written]
  · intro text written
    exact ((renderModels_eq_ok_iff isStructs).mp written).2
  · intro entry member property inProperties
    obtain ⟨_, found, _⟩ := mem_filterMap_namedStruct_iff.mp member
    exact exists_writesField_iff wellFormed entry.1
      ((wellFormed.flat found).plain_of_mem_properties inProperties)
      ((wellFormed.resolved found).of_mem_properties inProperties)
  · intro owner held holds
    rw [map_fst_filterMap_namedStruct]
    apply idxOf_filter_lt _ (idxOf_lt_of_holdsUnboxed wellFormed ordered holds)
    obtain ⟨model, property, _, found, _, member, isHeld, _⟩ := holds
    have isInside : Holds service owner held := ⟨model, found, property, member, isHeld⟩
    obtain ⟨target, isTarget, isStruct⟩ := isInside.exists_struct wellFormed
    simp [isTarget, isStruct]

/-- A node is in a box where it holds the next one, which an alias stands for. -/
theorem rust_structs_finite_of_nodes :
    ∃ service, nodeDocument.service = .ok service ∧ ∃ model,
      service.models.get? "Node" = some model ∧ ∃ property ∈ model.properties,
        property.2.name = some "Next" ∧ ∃ type, renderType service property.2 = .ok type ∧
          WritesField service "Node" property (boxedType type) := by
  have passes : nodeDocument.draft.succeedsWith (fun draft =>
      draft.passes (fun name => if name = "Nodes" then 1 else 0) &&
        ((draft.models.get? "Next").any (fun model =>
            model.isReference && model.name = some "Node") &&
          (draft.models.get? "Node").any fun model => model.isStruct &&
            model.properties.any fun property =>
              property.2.isReference && property.2.name = some "Next")) = true := by
    decide +kernel
  obtain ⟨draft, order, built, tested⟩ := Document.exists_service_of_test passes
  simp only [Bool.and_eq_true, Option.any_eq_true, List.any_eq_true, decide_eq_true_eq] at tested
  obtain ⟨⟨next, isNext, nextRefers, nextName⟩, node, isNode, isStruct, property, member,
    isReference, hasName⟩ := tested
  have wellFormed := Document.wellFormed_of_service built
  have ordered := Document.dependencyOrder_of_service built
  have stands : StandsFor draft.models "Next" "Node" :=
    .reference isNext nextRefers nextName (.struct isNode isStruct)
  have isHeld := (heldStruct_eq_some_iff wellFormed
    ((wellFormed.flat isNode).plain_of_mem_properties member)
    ((wellFormed.resolved isNode).of_mem_properties member)).mpr
      ⟨isReference, "Next", hasName, stands⟩
  obtain ⟨structs, isStructs, _, _, each, _⟩ := Document.rust_structs_finite built
  rw [Service.structs_eq ordered] at isStructs
  cases isStructs
  have isListed : "Node" ∈ (draft.ordered nodeDocument order).modelOrder :=
    ordered.perm.mem_iff.mpr (Entries.mem_keys_iff.mpr ⟨node, isNode⟩)
  obtain ⟨type, spelled, isBoxed, _⟩ := each ("Node", node)
    (mem_filterMap_namedStruct_iff.mpr ⟨isListed, isNode, isStruct⟩) property member
  exact ⟨_, built, node, isNode, property, member, hasName, type, spelled,
    isBoxed.mpr ⟨"Node", isHeld, .refl⟩⟩

end ApiScaffold

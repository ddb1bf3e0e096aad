import ApiScaffold.Proofs.Collection.LenientOrder
import ApiScaffold.Proofs.Service.WellFormed
import Mathlib.Data.Option.Basic

/-!
# The order of models

Models can be put in order exactly if no model that is written out leads back to itself through
other such models.  Otherwise the failure carries a walk that closes such a cycle.

The order lists every model once.  A model comes after everything that one of its direct
references leads to, unless this reference leads back to the model.
-/

namespace ApiScaffold

open DependencyGraph Relation

/-- Whether a model that is no struct is written out with another one that is none. -/
def Expands (models : Entries String Model) (name target : String) : Prop :=
  ∃ model other, models.get? name = some model ∧ model.isStruct = false ∧
    some target ∈ model.references ∧ models.get? target = some other ∧ other.isStruct = false

/-- Whether a model refers to another one outside of arrays, maps and iterators. -/
def RefersDirectly (models : Entries String Model) (name target : String) : Prop :=
  ∃ model, models.get? name = some model ∧ some target ∈ model.directReferences

/-- Models whose references all have a name that one of them carries. -/
def Closed (models : Entries String Model) : Prop :=
  ∀ entry ∈ models, ∀ reference ∈ entry.2.references,
    ∃ name ∈ models.keys, reference = some name

/-! ## Direct references -/

namespace Model

mutual

/-- A direct reference is a reference. -/
theorem mem_references_of_direct (model : Model) {name : Option String}
    (direct : name ∈ model.directReferences) : name ∈ model.references := by
  obtain ⟨kind, element, properties, own, description⟩ := model
  rw [references]
  cases kind with
  | reference =>
      rw [directReferences] at direct
      exact List.mem_append_left _ (List.mem_append_left _ (by simpa using direct))
  | struct =>
      rw [directReferences] at direct
      exact List.mem_append_right _ (mem_propertyReferences_of_direct properties direct)
  | _ => simp [directReferences] at direct
termination_by structural model

/-- A direct reference of a property is a reference of it. -/
theorem mem_propertyReferences_of_direct (properties : List (String × Model))
    {name : Option String} (direct : name ∈ directPropertyReferences properties) :
    name ∈ propertyReferences properties := by
  match properties with
  | [] => cases direct
  | (_, property) :: rest =>
      rw [propertyReferences]
      rcases List.mem_append.mp direct with here | later
      · exact List.mem_append_left _ (mem_references_of_direct property here)
      · exact List.mem_append_right _ (mem_propertyReferences_of_direct rest later)
termination_by structural properties

end

end Model

/-! ## The graphs of models -/

section Graphs

variable {models : Entries String Model}

theorem depends_expansionGraph_iff (distinct : models.keys.Nodup) {name target : String} :
    (expansionGraph models).Depends name target ↔ Expands models name target := by
  rw [DependencyGraph.Depends, mem_dependencies_expansionGraph_iff]
  constructor
  · rintro ⟨model, member, noStruct, inTargets⟩
    obtain ⟨refers, other, found, otherNoStruct⟩ := (mem_expansionTargets_iff _ _ _).mp inTargets
    exact ⟨model, other, Entries.get?_eq_some_of_mem distinct member, noStruct, refers, found,
      otherNoStruct⟩
  · rintro ⟨model, other, found, noStruct, refers, foundOther, otherNoStruct⟩
    exact ⟨model, Entries.mem_of_get? found, noStruct,
      (mem_expansionTargets_iff _ _ _).mpr ⟨refers, other, foundOther, otherNoStruct⟩⟩

theorem mem_dependencies_referenceGraph_iff {name target : Option String} :
    target ∈ (referenceGraph models).dependencies name ↔
      ∃ entry ∈ models, name = some entry.1 ∧ target ∈ entry.2.directReferences := by
  have each : ∀ (graph : DependencyGraph (Option String)) (entry : String × Model) {name target},
      target ∈ (entry.2.directReferences.foldl (fun graph target =>
        graph.addEdge (some entry.1) target) (graph.addNode (some entry.1))).dependencies name ↔
      target ∈ graph.dependencies name ∨
        name = some entry.1 ∧ target ∈ entry.2.directReferences := by
    intro graph entry name target
    rw [DependencyGraph.mem_dependencies_foldl_addEdge_iff, DependencyGraph.dependencies_addNode]
  rw [referenceGraph, DependencyGraph.mem_dependencies_foldl_iff each]
  simp [DependencyGraph.empty, DependencyGraph.dependencies]

/-- The nodes are the names of models and what models refer to directly. -/
theorem mem_nodes_referenceGraph_iff {name : Option String} :
    name ∈ (referenceGraph models).nodes ↔
      ∃ entry ∈ models, name = some entry.1 ∨ name ∈ entry.2.directReferences := by
  have each : ∀ (graph : DependencyGraph (Option String)) (entry : String × Model) {name},
      name ∈ (entry.2.directReferences.foldl (fun graph target =>
        graph.addEdge (some entry.1) target) (graph.addNode (some entry.1))).nodes ↔
      name ∈ graph.nodes ∨ name = some entry.1 ∨ name ∈ entry.2.directReferences := by
    intro graph entry name
    rw [DependencyGraph.mem_nodes_foldl_addEdge_iff _ _ _ (by simp),
      DependencyGraph.mem_nodes_addNode_iff, or_assoc]
  rw [referenceGraph, DependencyGraph.mem_nodes_foldl_iff each]
  simp [DependencyGraph.empty, DependencyGraph.nodes]

theorem nodup_nodes_referenceGraph : (referenceGraph models).nodes.Nodup := by
  apply DependencyGraph.nodup_nodes_foldl
  · intro graph entry distinct
    apply DependencyGraph.nodup_nodes_foldl
    · exact fun graph target => graph.nodup_nodes_addEdge (some entry.1) target
    · exact graph.nodup_nodes_addNode (some entry.1) distinct
  · simp [DependencyGraph.empty, DependencyGraph.nodes]

theorem depends_referenceGraph_iff (distinct : models.keys.Nodup) {name target : String} :
    (referenceGraph models).Depends (some name) (some target) ↔
      RefersDirectly models name target := by
  rw [DependencyGraph.Depends, mem_dependencies_referenceGraph_iff]
  constructor
  · rintro ⟨⟨own, model⟩, member, sameName, direct⟩
    cases sameName
    exact ⟨model, Entries.get?_eq_some_of_mem distinct member, direct⟩
  · rintro ⟨model, found, direct⟩
    exact ⟨(name, model), Entries.mem_of_get? found, rfl, direct⟩

/-- In closed models every direct reference is a name. -/
theorem exists_name_of_depends (closed : Closed models) {name target : Option String}
    (depends : (referenceGraph models).Depends name target) :
    ∃ known ∈ models.keys, target = some known := by
  obtain ⟨entry, member, _, direct⟩ := mem_dependencies_referenceGraph_iff.mp depends
  exact closed entry member target (entry.2.mem_references_of_direct direct)

/-- From names of closed models nothing but names is reached, and that by direct references. -/
theorem reaches_referenceGraph_iff (distinct : models.keys.Nodup) (closed : Closed models)
    {name : String} {target : Option String} :
    ReflTransGen (referenceGraph models).Depends (some name) target ↔
      ∃ known, target = some known ∧ ReflTransGen (RefersDirectly models) name known := by
  constructor
  · intro reaches
    induction reaches with
    | refl => exact ⟨name, rfl, .refl⟩
    | tail _ depends ih =>
        obtain ⟨middle, rfl, early⟩ := ih
        obtain ⟨known, _, rfl⟩ := exists_name_of_depends closed depends
        exact ⟨known, rfl, early.tail ((depends_referenceGraph_iff distinct).mp depends)⟩
  · rintro ⟨known, rfl, reaches⟩
    exact reaches.lift some fun _ _ => (depends_referenceGraph_iff distinct).mpr

/-- The nodes of closed models are their names. -/
theorem perm_nodes_referenceGraph (distinct : models.keys.Nodup) (closed : Closed models) :
    (referenceGraph models).nodes.Perm (models.keys.map some) := by
  rw [List.perm_ext_iff_of_nodup nodup_nodes_referenceGraph
    (distinct.map (Option.some_injective String))]
  intro name
  rw [mem_nodes_referenceGraph_iff]
  constructor
  · rintro ⟨entry, member, rfl | direct⟩
    · exact List.mem_map_of_mem (List.mem_map_of_mem member)
    · obtain ⟨known, isKey, rfl⟩ :=
        closed entry member name (entry.2.mem_references_of_direct direct)
      exact List.mem_map_of_mem isKey
  · intro member
    obtain ⟨known, isKey, rfl⟩ := List.mem_map.mp member
    obtain ⟨entry, inModels, rfl⟩ := List.mem_map.mp isKey
    exact ⟨entry, inModels, Or.inl rfl⟩

end Graphs

/-! ## The order -/

theorem idxOf_map_some {α : Type*} [DecidableEq α] (items : List α) (item : α) :
    @List.idxOf _ instBEqOfDecidableEq (some item) (items.map some) = items.idxOf item := by
  induction items with
  | nil => rfl
  | cons first rest ih => simp [List.idxOf_cons, ih, beq_eq_decide]

/-- Items that are all there are those of a list of them. -/
theorem exists_eq_map_some {α : Type*} {items : List (Option α)}
    (each : ∀ item ∈ items, ∃ known, item = some known) :
    ∃ names : List α, items = names.map some := by
  induction items with
  | nil => exact ⟨[], rfl⟩
  | cons item rest ih =>
      obtain ⟨known, rfl⟩ := each item List.mem_cons_self
      obtain ⟨names, rfl⟩ := ih fun other member => each other (List.mem_cons_of_mem _ member)
      exact ⟨known :: names, rfl⟩

/-- All names of models, each after everything that one of its direct references leads to,
unless this reference leads back. -/
structure DependencyOrder (models : Entries String Model) (names : List String) : Prop where
  perm : names.Perm models.keys
  idxOf_lt : ∀ {name target reached}, RefersDirectly models name target →
    ¬ ReflTransGen (RefersDirectly models) target name →
      ReflTransGen (RefersDirectly models) target reached →
        names.idxOf reached < names.idxOf name

/-- Closed models have an order, which skips the references that lead back. -/
theorem exists_dependencyOrder {models : Entries String Model} (distinct : models.keys.Nodup)
    (closed : Closed models) :
    ∃ names, (referenceGraph models).sort .skip = .ok (names.map some) ∧
      DependencyOrder models names := by
  have nodesPerm := perm_nodes_referenceGraph distinct closed
  have within : ∀ name dependency, (referenceGraph models).Depends name dependency →
      dependency ∈ (referenceGraph models).nodes := by
    intro name dependency depends
    obtain ⟨known, isKey, rfl⟩ := exists_name_of_depends closed depends
    exact nodesPerm.mem_iff.mpr (List.mem_map_of_mem isKey)
  obtain ⟨order, sorted, orderPerm, ordered⟩ :=
    DependencyGraph.exists_sort_skip _ nodup_nodes_referenceGraph within
  have perm := orderPerm.trans nodesPerm
  have named : ∀ name ∈ order, ∃ known, name = some known := by
    intro name member
    obtain ⟨known, _, rfl⟩ := List.mem_map.mp (perm.mem_iff.mp member)
    exact ⟨known, rfl⟩
  obtain ⟨names, rfl⟩ := exists_eq_map_some named
  refine ⟨names, sorted, (List.map_perm_map_iff (Option.some_injective String)).mp perm, ?_⟩
  intro name target reached refers forward reaches
  have depends := (depends_referenceGraph_iff distinct).mpr refers
  have isNode : some name ∈ names.map some := by
    rw [orderPerm.mem_iff]
    by_contra foreign
    rw [DependencyGraph.Depends, DependencyGraph.dependencies_eq_nil _ foreign] at depends
    cases depends
  rw [← idxOf_map_some names, ← idxOf_map_some names]
  apply ordered.idxOf_lt isNode depends
  · intro back
    obtain ⟨known, same, leadsBack⟩ := (reaches_referenceGraph_iff distinct closed).mp back
    cases same
    exact forward leadsBack
  · exact (reaches_referenceGraph_iff distinct closed).mpr ⟨reached, rfl, reaches⟩

/-- Closed models either have a closed walk of models that are written out, which the failure
carries, or they have an order, and no such model leads back to itself. -/
theorem orderModels_cases {models : Entries String Model} (distinct : models.keys.Nodup)
    (closed : Closed models) :
    (∃ path : List String, orderModels models = .error (.cycle (path.map some)) ∧
        ClosedWalk (Expands models) path) ∨
      ∃ names : List String, orderModels models = .ok (names.map some) ∧
        DependencyOrder models names ∧
        ∀ name, ¬ TransGen (Expands models) name name := by
  obtain ⟨names, lenient, ordered⟩ := exists_dependencyOrder distinct closed
  have sameEdges : (expansionGraph models).Depends = Expands models := by
    funext name target
    exact propext (depends_expansionGraph_iff distinct)
  unfold orderModels
  cases strict : (expansionGraph models).sort .reject with
  | error path =>
      left
      refine ⟨path, rfl, ?_⟩
      rw [← sameEdges]
      exact DependencyGraph.closedWalk_of_sort strict
  | ok listed =>
      right
      refine ⟨names, by simp only [lenient]; rfl, ordered, ?_⟩
      intro name cycle
      rw [← sameEdges] at cycle
      obtain ⟨path, failed⟩ := DependencyGraph.exists_error_of_cycle cycle
      rw [strict] at failed
      cases failed

/-! ## The order of a service -/

/-- The models of a service refer to nothing but each other. -/
theorem Service.WellFormed.closed {service : Service} (wellFormed : service.WellFormed) :
    Closed service.models := by
  intro entry member reference refers
  have found := Entries.get?_eq_some_of_mem wellFormed.distinct member
  obtain ⟨name, rfl⟩ := (wellFormed.flat found).shaped.exists_name refers
  exact ⟨name, wellFormed.resolved found name refers, rfl⟩

/-- A built service has its models in order. -/
theorem Document.dependencyOrder_of_service {document : Document} {service : Service}
    (built : document.service = .ok service) :
    DependencyOrder service.models service.modelOrder := by
  have wellFormed := Document.wellFormed_of_service built
  obtain ⟨draft, order, _, _, _, isOrder, rfl⟩ := Document.exists_draft_of_service built
  rcases orderModels_cases wellFormed.distinct wellFormed.closed with
    ⟨path, failed, _⟩ | ⟨names, succeeded, ordered, _⟩
  · rw [show orderModels draft.models = _ from failed] at isOrder
    cases isOrder
  · rw [show orderModels draft.models = _ from succeeded] at isOrder
    cases isOrder
    simpa [Draft.ordered, List.filterMap_map] using ordered

/-- Up to one model can be in one order only. -/
theorem Draft.ordered_eq {document : Document} {draft : Draft} {order : List (Option String)}
    (built : document.service = .ok (draft.ordered document order))
    (few : draft.models.length ≤ 1) :
    draft.ordered document order = draft.ordered document (draft.models.keys.map some) := by
  have perm : (order.filterMap id).Perm draft.models.keys :=
    (Document.dependencyOrder_of_service built).perm
  have sameOrder : order.filterMap id = draft.models.keys := by
    cases models : draft.models with
    | nil =>
        rw [models] at perm
        exact perm.eq_nil
    | cons entry rest =>
        rw [models, List.length_cons] at few
        have noRest : rest = [] := List.length_eq_zero_iff.mp (by omega)
        rw [models, noRest] at perm
        rw [noRest]
        exact List.perm_singleton.mp perm
  rw [Draft.ordered, Draft.ordered, sameOrder, List.filterMap_map]
  simp

/-- A document with up to one model whose draft passes all checks has a service, and what is
tested of the ordered draft holds of the service. -/
theorem Document.exists_service_of_few {document : Document} {rank : String → Nat}
    (test : Service → Bool)
    (passes : document.draft.succeedsWith (fun draft => draft.passes rank &&
      (decide (draft.models.length ≤ 1) &&
        test (draft.ordered document (draft.models.keys.map some)))) = true) :
    ∃ service, document.service = .ok service ∧ test service = true := by
  obtain ⟨draft, order, built, checked⟩ := Document.exists_service_of_test passes
  obtain ⟨few, tested⟩ := Bool.and_eq_true_iff.mp checked
  rw [Draft.ordered_eq built (of_decide_eq_true few)] at built
  exact ⟨_, built, tested⟩

/-- The struct with a name, if there is one. -/
def namedStruct? (models : Entries String Model) (name : String) : Option (String × Model) :=
  ((models.get? name).filter Model.isStruct).map fun model => (name, model)

/-- All structs among names of models are found. -/
theorem Service.structsAmong_eq {models : Entries String Model} {names : List String}
    (known : ∀ name ∈ names, name ∈ models.keys) :
    structsAmong models names = .ok (names.filterMap (namedStruct? models)) := by
  induction names with
  | nil => rfl
  | cons name rest ih =>
      obtain ⟨model, found⟩ := Entries.mem_keys_iff.mp (known name List.mem_cons_self)
      have others := ih fun other member => known other (List.mem_cons_of_mem _ member)
      simp only [structsAmong, found, others, bind, Except.bind]
      by_cases isStruct : model.isStruct = true
      · simp [namedStruct?, found, isStruct, Option.filter, pure, Except.pure]
      · simp [namedStruct?, found, isStruct, Option.filter, pure, Except.pure]

/-- The structs of all models, each under its own name. -/
theorem filterMap_namedStruct_keys {models : Entries String Model}
    (distinct : models.keys.Nodup) :
    models.keys.filterMap (namedStruct? models) =
      models.filter fun entry => entry.2.isStruct := by
  rw [Entries.keys, List.filterMap_map, ← List.filterMap_eq_filter]
  apply List.filterMap_congr
  intro entry member
  have found := Entries.get?_eq_some_of_mem distinct member
  simp only [Function.comp_apply, namedStruct?, found, Option.filter, Option.guard]
  split <;> rfl

/-- A service whose models are in order has its structs in that order. -/
theorem Service.structs_eq {service : Service}
    (ordered : DependencyOrder service.models service.modelOrder) :
    service.structs = .ok (service.modelOrder.filterMap (namedStruct? service.models)) := by
  have sameOrder : service.definitionOrder = service.modelOrder := by
    unfold definitionOrder
    split
    · next isEmpty =>
        have noNames := List.isEmpty_iff.mp isEmpty
        rw [noNames]
        exact List.nil_perm.mp (noNames ▸ ordered.perm)
    · rfl
  rw [structs, sameOrder]
  exact structsAmong_eq fun name member => ordered.perm.mem_iff.mp member

/-- The structs of a built service are its models that are structs. -/
theorem Document.exists_structs_perm {document : Document} {service : Service}
    (built : document.service = .ok service) : ∃ structs, service.structs = .ok structs ∧
      structs.Perm (service.models.filter fun entry => entry.2.isStruct) := by
  have ordered := Document.dependencyOrder_of_service built
  refine ⟨_, Service.structs_eq ordered, ?_⟩
  rw [← filterMap_namedStruct_keys (Document.wellFormed_of_service built).distinct]
  exact ordered.perm.filterMap _

/-- Models are rejected exactly if one that is written out leads back to itself, and then with a
closed walk; otherwise they are listed once each, and after their direct references unless these
lead back.  So a built service lists every model once, and every struct once. -/
theorem orderModels_exact :
    (∀ models : Entries String Model, models.keys.Nodup → Closed models →
      ((∃ path, orderModels models = .error (.cycle path)) ↔
          ∃ name, TransGen (Expands models) name name) ∧
        (∀ failure, orderModels models = .error failure → ∃ path : List String,
          failure = .cycle (path.map some) ∧ ClosedWalk (Expands models) path) ∧
        ((¬ ∃ name, TransGen (Expands models) name name) → ∃ names : List String,
          orderModels models = .ok (names.map some) ∧ names.Perm models.keys ∧
            ∀ name target, RefersDirectly models name target →
              names.idxOf target < names.idxOf name ∨
                ReflTransGen (RefersDirectly models) target name)) ∧
    ∀ (document : Document) (service : Service), document.service = .ok service →
      service.models.keys.Nodup ∧ service.modelOrder.Perm service.models.keys ∧
        ∃ structs, service.structs = .ok structs ∧
          structs.Perm (service.models.filter fun entry => entry.2.isStruct) := by
  constructor
  · intro models distinct closed
    rcases orderModels_cases distinct closed with
      ⟨path, failed, walk⟩ | ⟨names, succeeded, ordered, acyclic⟩
    · refine ⟨⟨fun _ => walk.exists_cycle, fun _ => ⟨_, failed⟩⟩, ?_, ?_⟩
      · intro failure equal
        rw [failed] at equal
        cases equal
        exact ⟨path, rfl, walk⟩
      · intro none
        exact absurd walk.exists_cycle none
    · refine ⟨⟨?_, fun ⟨name, cycle⟩ => absurd cycle (acyclic name)⟩, ?_, ?_⟩
      · rintro ⟨path, failed⟩
        rw [succeeded] at failed
        cases failed
      · intro failure failed
        rw [succeeded] at failed
        cases failed
      · intro _
        refine ⟨names, succeeded, ordered.perm, ?_⟩
        intro name target refers
        by_cases back : ReflTransGen (RefersDirectly models) target name
        · exact Or.inr back
        · exact Or.inl (ordered.idxOf_lt refers back .refl)
  · intro document service built
    have distinct := (Document.wellFormed_of_service built).distinct
    have ordered := Document.dependencyOrder_of_service built
    refine ⟨distinct, ordered.perm, _, Service.structs_eq ordered, ?_⟩
    rw [← filterMap_namedStruct_keys distinct]
    exact ordered.perm.filterMap _

/-- Nodes that lead to the next node by way of an alias, and hold a list of nodes. -/
def nodeDocument : Document where
  openapi := "3.0.0"
  info := none
  paths := []
  components := some {
    schemas := some
      [("Next", .pointer "#/components/schemas/Node"),
        ("Node", .object
          [("next", .pointer "#/components/schemas/Next"),
            ("others", .pointer "#/components/schemas/Nodes")]),
        ("Nodes", .array (.pointer "#/components/schemas/Next"))]
    parameters := none, responses := none, requestBodies := none, headers := none }

/-- The nodes, with an alias that leads back to them and a list of them. -/
def nodeModels : Entries String Model :=
  [("Next", .reference "Node"),
    ("Node", .struct [("next", .reference "Next"), ("others", .reference "Nodes")] none),
    ("Nodes", .array (.reference "Next") none)]

/-- Lists that are made of nothing but lists. -/
def listModels : Entries String Model :=
  [("List", .array (.reference "Lists") none), ("Lists", .map (.reference "List") none)]

instance (models : Entries String Model) : Decidable (Closed models) :=
  inferInstanceAs (Decidable (∀ entry ∈ models, ∀ reference ∈ entry.2.references,
    ∃ name ∈ models.keys, reference = some name))

/-- Nodes that lead back to themselves are put in order, and lists of lists are not. -/
theorem orderModels_exact_of_nodes :
    (nodeModels.keys.Nodup ∧ Closed nodeModels ∧ ∃ names : List String,
      orderModels nodeModels = .ok (names.map some) ∧ names.Perm ["Next", "Node", "Nodes"]) ∧
    (listModels.keys.Nodup ∧ Closed listModels ∧
      ∃ path, orderModels listModels = .error (.cycle path)) ∧
    ∃ service, nodeDocument.service = .ok service ∧
      service.modelOrder.Perm service.models.keys := by
  have distinct : nodeModels.keys.Nodup := by decide
  have closed : Closed nodeModels := by decide
  have distinctLists : listModels.keys.Nodup := by decide
  have closedLists : Closed listModels := by decide
  refine ⟨⟨distinct, closed, ?_⟩, ⟨distinctLists, closedLists, ?_⟩, ?_⟩
  · obtain ⟨isCycle, _, isOrder⟩ := orderModels_exact.1 nodeModels distinct closed
    have succeeds : ∃ order, orderModels nodeModels = .ok order :=
      @exists_orderModels_of_rank _ (fun name => if name = "Nodes" then 1 else 0) (by decide)
    obtain ⟨order, succeeded⟩ := succeeds
    have acyclic : ¬ ∃ name, TransGen (Expands nodeModels) name name := by
      rw [← isCycle]
      rintro ⟨path, failed⟩
      rw [succeeded] at failed
      cases failed
    obtain ⟨names, isNames, perm, _⟩ := isOrder acyclic
    exact ⟨names, isNames, perm⟩
  · apply (orderModels_exact.1 listModels distinctLists closedLists).1.mpr
    have there : Expands listModels "List" "Lists" :=
      ⟨.array (.reference "Lists") none, .map (.reference "List") none, rfl, rfl, by decide,
        rfl, rfl⟩
    have back : Expands listModels "Lists" "List" :=
      ⟨.map (.reference "List") none, .array (.reference "Lists") none, rfl, rfl, by decide,
        rfl, rfl⟩
    exact ⟨"List", .tail (.single there) back⟩
  · have passes : nodeDocument.draft.succeedsWith (fun draft =>
        draft.passes (fun name => if name = "Nodes" then 1 else 0) && true) = true := by
      decide +kernel
    obtain ⟨draft, order, built, _⟩ := Document.exists_service_of_test passes
    exact ⟨_, built, (orderModels_exact.2 _ _ built).2.1⟩

end ApiScaffold

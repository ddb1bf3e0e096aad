import ApiScaffold.Collection.DependencyGraph
import Mathlib.Data.List.Basic

/-!
# Orders that reject cycles

An order lists dependencies first if whatever a node depends on is listed before the
node.  If cycles are rejected, a visit keeps this property and lists all that is pending,
so the order of a graph lists every node after its dependencies.  Nothing is rejected if nodes have
ranks that fall along the edges.

The edges of a graph are exactly those that were added to it.
-/

namespace ApiScaffold.DependencyGraph

universe u

variable {α : Type u} [DecidableEq α]

/-! ## Nodes and edges -/

theorem contains_iff (graph : DependencyGraph α) (name : α) :
    graph.contains name = true ↔ name ∈ graph.nodes :=
  Entries.hasKey_eq_true_iff graph.adjacency name

/-- A new node has no dependencies, and adding a node changes no others. -/
@[simp]
theorem dependencies_addNode (graph : DependencyGraph α) (added name : α) :
    (graph.addNode added).dependencies name = graph.dependencies name := by
  by_cases present : graph.contains added = true
  · simp [addNode, present]
  · by_cases equal : added = name
    · subst equal
      have absent : graph.adjacency.get? added = none := by
        simpa [contains, Entries.get?_eq_none_iff] using present
      simp [addNode, present, dependencies, absent, Entries.get?_put_self, OrderedSet.empty]
    · simp [addNode, present, dependencies, Entries.get?_put_of_ne _ _ equal]

@[simp]
theorem mem_nodes_addNode_iff (graph : DependencyGraph α) (added name : α) :
    name ∈ (graph.addNode added).nodes ↔ name ∈ graph.nodes ∨ name = added := by
  by_cases present : added ∈ graph.nodes
  · simp only [addNode, (contains_iff graph added).mpr present, if_true]
    exact ⟨Or.inl, fun either => either.elim id (fun equal => equal ▸ present)⟩
  · have absent : added ∉ graph.adjacency.keys := present
    simp [addNode, contains_iff, nodes, Entries.keys_put, absent]

/-- An edge that is added joins those that were there. -/
@[simp]
theorem mem_dependencies_addEdge_iff (graph : DependencyGraph α) (source target : α)
    {name dependency : α} :
    dependency ∈ (graph.addEdge source target).dependencies name ↔
      dependency ∈ graph.dependencies name ∨ (name = source ∧ dependency = target) := by
  have before : ((graph.addNode source).addNode target).dependencies name =
      graph.dependencies name := by simp
  by_cases equal : source = name
  · subst equal
    rw [← before]
    simp only [addEdge, dependencies, Entries.get?_put_self, OrderedSet.mem_items_insert]
    cases ((graph.addNode source).addNode target).adjacency.get? source with
    | none => simp [OrderedSet.empty]
    | some targets => simp
  · rw [← before]
    simp [addEdge, dependencies, Entries.get?_put_of_ne _ _ equal, Ne.symm equal]

@[simp]
theorem mem_nodes_addEdge_iff (graph : DependencyGraph α) (source target name : α) :
    name ∈ (graph.addEdge source target).nodes ↔
      name ∈ graph.nodes ∨ name = source ∨ name = target := by
  have present : source ∈ ((graph.addNode source).addNode target).adjacency.keys := by
    have isNode : source ∈ ((graph.addNode source).addNode target).nodes := by simp
    exact isNode
  have same : (graph.addEdge source target).nodes =
      ((graph.addNode source).addNode target).nodes := by
    simp only [addEdge, nodes, Entries.keys_put, present, if_true]
  rw [same, mem_nodes_addNode_iff, mem_nodes_addNode_iff, or_assoc]

/-- If every step adds edges, all steps together add the edges of each of them. -/
theorem mem_dependencies_foldl_iff {β : Type*}
    {step : DependencyGraph α → β → DependencyGraph α} {edge : β → α → α → Prop}
    (each : ∀ graph item {name dependency}, dependency ∈ (step graph item).dependencies name ↔
      dependency ∈ graph.dependencies name ∨ edge item name dependency)
    (items : List β) (graph : DependencyGraph α) {name dependency : α} :
    dependency ∈ (items.foldl step graph).dependencies name ↔
      dependency ∈ graph.dependencies name ∨ ∃ item ∈ items, edge item name dependency := by
  induction items generalizing graph with
  | nil => simp
  | cons item rest ih => rw [List.foldl_cons, ih, each, List.exists_mem_cons_iff, or_assoc]

/-- Edges from one source to each of some targets join those that were there. -/
theorem mem_dependencies_foldl_addEdge_iff (graph : DependencyGraph α) (source : α)
    (targets : List α) {name dependency : α} :
    dependency ∈ (targets.foldl (fun graph target => graph.addEdge source target)
        graph).dependencies name ↔
      dependency ∈ graph.dependencies name ∨ (name = source ∧ dependency ∈ targets) := by
  rw [mem_dependencies_foldl_iff fun graph target =>
    graph.mem_dependencies_addEdge_iff source target]
  apply or_congr_right
  constructor
  · rintro ⟨target, member, rfl, rfl⟩
    exact ⟨rfl, member⟩
  · rintro ⟨isSource, member⟩
    exact ⟨dependency, member, isSource, rfl⟩

omit [DecidableEq α] in
/-- If every step adds nodes, all steps together add the nodes of each of them. -/
theorem mem_nodes_foldl_iff {β : Type*} {step : DependencyGraph α → β → DependencyGraph α}
    {adds : β → α → Prop}
    (each : ∀ graph item {name}, name ∈ (step graph item).nodes ↔
      name ∈ graph.nodes ∨ adds item name)
    (items : List β) (graph : DependencyGraph α) {name : α} :
    name ∈ (items.foldl step graph).nodes ↔
      name ∈ graph.nodes ∨ ∃ item ∈ items, adds item name := by
  induction items generalizing graph with
  | nil => simp
  | cons item rest ih => rw [List.foldl_cons, ih, each, List.exists_mem_cons_iff, or_assoc]

theorem mem_nodes_foldl_addEdge_iff (graph : DependencyGraph α) (source : α)
    (targets : List α) {name : α} (isNode : source ∈ graph.nodes) :
    name ∈ (targets.foldl (fun graph target => graph.addEdge source target) graph).nodes ↔
      name ∈ graph.nodes ∨ name ∈ targets := by
  rw [mem_nodes_foldl_iff fun graph target => graph.mem_nodes_addEdge_iff source target _]
  constructor
  · rintro (old | ⟨target, member, rfl | rfl⟩)
    · exact Or.inl old
    · exact Or.inl isNode
    · exact Or.inr member
  · rintro (old | member)
    · exact Or.inl old
    · exact Or.inr ⟨name, member, Or.inr rfl⟩

theorem nodup_nodes_addNode (graph : DependencyGraph α) (added : α)
    (distinct : graph.nodes.Nodup) : (graph.addNode added).nodes.Nodup := by
  unfold addNode
  split
  · exact distinct
  · exact Entries.nodup_keys_put distinct added _

theorem nodup_nodes_addEdge (graph : DependencyGraph α) (source target : α)
    (distinct : graph.nodes.Nodup) : (graph.addEdge source target).nodes.Nodup := by
  apply Entries.nodup_keys_put
  exact nodup_nodes_addNode _ target (nodup_nodes_addNode graph source distinct)

omit [DecidableEq α] in
/-- If every step keeps the nodes distinct, all steps together do. -/
theorem nodup_nodes_foldl {β : Type*} {step : DependencyGraph α → β → DependencyGraph α}
    (each : ∀ graph item, graph.nodes.Nodup → (step graph item).nodes.Nodup) (items : List β)
    {graph : DependencyGraph α} (distinct : graph.nodes.Nodup) :
    (items.foldl step graph).nodes.Nodup := by
  induction items generalizing graph with
  | nil => exact distinct
  | cons item rest ih => exact ih (each graph item distinct)

/-! ## Dependencies first -/

/-- A list in which whatever a node depends on comes before the node. -/
inductive DependenciesFirst (graph : DependencyGraph α) : List α → Prop
  | nil : DependenciesFirst graph []
  | snoc {listed : List α} (ordered : DependenciesFirst graph listed) {name : α}
      (before : ∀ dependency ∈ graph.dependencies name, dependency ∈ listed) :
      DependenciesFirst graph (listed ++ [name])

/-- A listed node has its dependencies listed. -/
theorem DependenciesFirst.mem {graph : DependencyGraph α} {listed : List α}
    (ordered : graph.DependenciesFirst listed) {name dependency : α} (member : name ∈ listed)
    (depends : dependency ∈ graph.dependencies name) : dependency ∈ listed := by
  induction ordered with
  | nil => cases member
  | @snoc listed _ last before ih =>
      rcases List.mem_append.mp member with earlier | atEnd
      · exact List.mem_append_left _ (ih earlier)
      · rw [List.mem_singleton.mp atEnd] at depends
        exact List.mem_append_left _ (before dependency depends)

/-- What is listed stands before a new item at the end. -/
theorem idxOf_lt_idxOf_last {listed : List α} {earlier last : α} (member : earlier ∈ listed)
    (absent : last ∉ listed) :
    (listed ++ [last]).idxOf earlier < (listed ++ [last]).idxOf last := by
  rw [List.idxOf_append_of_mem member, List.idxOf_append_of_notMem absent]
  exact Nat.lt_of_lt_of_le (List.idxOf_lt_length_of_mem member) (Nat.le_add_right _ _)

/-- A dependency stands at a lower position. -/
theorem DependenciesFirst.idxOf_lt {graph : DependencyGraph α} {listed : List α}
    (ordered : graph.DependenciesFirst listed) {name dependency : α} (member : name ∈ listed)
    (depends : dependency ∈ graph.dependencies name) :
    listed.idxOf dependency < listed.idxOf name := by
  induction ordered with
  | nil => cases member
  | @snoc listed ordered last before ih =>
      by_cases earlier : name ∈ listed
      · rw [List.idxOf_append_of_mem (ordered.mem earlier depends),
          List.idxOf_append_of_mem earlier]
        exact ih earlier
      · have isLast : name = last := by simpa [earlier] using member
        subst isLast
        exact idxOf_lt_idxOf_last (before dependency depends) earlier

/-- Rejecting cycles, a visit keeps dependencies first and lists all that is pending. -/
theorem visit_reject_spec {graph : DependencyGraph α} {path pending : List α}
    {listed result : OrderedSet α} (visited : graph.visit .reject path pending listed = .ok result)
    (ordered : graph.DependenciesFirst listed.items) :
    graph.DependenciesFirst result.items ∧
      ∀ name, name ∈ listed.items ∨ name ∈ pending → name ∈ result.items := by
  fun_induction DependencyGraph.visit graph .reject path pending listed generalizing result with
  | case1 path listed =>
      cases visited
      exact ⟨ordered, by simp⟩
  | case2 path name rest listed known ih =>
      obtain ⟨first, complete⟩ := ih visited ordered
      constructor
      · exact first
      · rintro other (old | new)
        · exact complete other (Or.inl old)
        · rcases List.mem_cons.mp new with rfl | later
          · exact complete _ (Or.inl (by simpa [OrderedSet.contains] using known))
          · exact complete other (Or.inr later)
  | case3 => cases visited
  | case4 => contradiction
  | case5 => cases visited
  | case6 path name rest listed _ _ extended inner ihInner ihRest =>
      obtain ⟨firstInner, completeInner⟩ := ihInner inner ordered
      have orderedInsert : graph.DependenciesFirst (extended.insert name).items := by
        rw [OrderedSet.items_insert]
        split
        · exact firstInner
        · exact .snoc firstInner fun dependency depends =>
            completeInner dependency (Or.inr depends)
      obtain ⟨first, complete⟩ := ihRest visited orderedInsert
      constructor
      · exact first
      · rintro other (old | new)
        · exact complete other (Or.inl (by simp [completeInner other (Or.inl old)]))
        · rcases List.mem_cons.mp new with rfl | later
          · exact complete _ (Or.inl (by simp))
          · exact complete other (Or.inr later)

/-- Rejecting cycles, the order of a graph lists every node after its dependencies. -/
theorem sort_reject_spec {graph : DependencyGraph α} {order : List α}
    (sorted : graph.sort .reject = .ok order) :
    graph.DependenciesFirst order ∧ ∀ name ∈ graph.nodes, name ∈ order := by
  unfold sort at sorted
  cases visited : graph.visit .reject [] graph.nodes .empty with
  | error cycle =>
      rw [visited] at sorted
      cases sorted
  | ok result =>
      rw [visited] at sorted
      cases sorted
      obtain ⟨first, complete⟩ := visit_reject_spec visited .nil
      exact ⟨first, fun name isNode => complete name (Or.inr isNode)⟩

/-! ## Ranks -/

/-- With ranks that fall along the edges, a visit meets no node of its path again. -/
theorem exists_visit_reject_of_rank {graph : DependencyGraph α} {rank : α → Nat}
    (falls : ∀ {name dependency}, dependency ∈ graph.dependencies name →
      rank dependency < rank name) {path pending : List α}
    (below : ∀ name ∈ pending, ∀ entered ∈ path, rank name < rank entered)
    (listed : OrderedSet α) :
    ∃ result, graph.visit .reject path pending listed = .ok result := by
  fun_induction DependencyGraph.visit graph .reject path pending listed with
  | case1 => exact ⟨_, rfl⟩
  | case2 path name rest listed known ih =>
      exact ih fun other member => below other (List.mem_cons_of_mem _ member)
  | case3 path name rest listed unknown onPath =>
      exact absurd (below name List.mem_cons_self name onPath) (Nat.lt_irrefl _)
  | case4 => contradiction
  | case5 path name rest listed unknown offPath cycle failed ih =>
      have inner : ∀ dependency ∈ graph.dependencies name, ∀ entered ∈ path ++ [name],
          rank dependency < rank entered := by
        intro dependency depends entered isEntered
        have lower := falls depends
        rcases List.mem_append.mp isEntered with before | last
        · exact Nat.lt_trans lower (below name List.mem_cons_self entered before)
        · rw [List.mem_singleton.mp last]
          exact lower
      obtain ⟨result, succeeded⟩ := ih inner
      rw [failed] at succeeded
      cases succeeded
  | case6 path name rest listed unknown offPath extended inner ihInner ihRest =>
      exact ihRest fun other member => below other (List.mem_cons_of_mem _ member)

/-- With ranks that fall along the edges, a graph has an order. -/
theorem exists_sort_reject_of_rank {graph : DependencyGraph α} {rank : α → Nat}
    (falls : ∀ {name dependency}, dependency ∈ graph.dependencies name →
      rank dependency < rank name) : ∃ order, graph.sort .reject = .ok order := by
  have below : ∀ name ∈ graph.nodes, ∀ entered ∈ ([] : List α), rank name < rank entered := by
    intro name _ entered impossible
    cases impossible
  obtain ⟨result, visited⟩ := exists_visit_reject_of_rank falls below .empty
  exact ⟨result.items, by simp [sort, visited, Except.map]⟩

end ApiScaffold.DependencyGraph

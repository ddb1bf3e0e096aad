import ApiScaffold.Proofs.Collection.Cycle

/-!
# Graphs that are built step by step

A graph is built from the empty one by adding nodes and edges.  Its nodes are then the names
that occur in the additions, each once, and its edges are exactly those that were added.  So an
edge never leads out of the graph, and no more does a walk.
-/

namespace ApiScaffold.DependencyGraph

open Relation

universe u

variable {α : Type u}

/-- What is added to a graph in one step. -/
inductive Addition (α : Type u) where
  | node (name : α)
  | edge (source target : α)
  deriving DecidableEq

/-- The names that an addition makes nodes of. -/
def Addition.names : Addition α → List α
  | .node name => [name]
  | .edge source target => [source, target]

/-- The edges among additions. -/
def Adds (additions : List (Addition α)) (name dependency : α) : Prop :=
  .edge name dependency ∈ additions

variable [DecidableEq α]

instance (additions : List (Addition α)) (name dependency : α) :
    Decidable (Adds additions name dependency) :=
  inferInstanceAs (Decidable (.edge name dependency ∈ additions))

/-- The graph after an addition. -/
def extend (graph : DependencyGraph α) : Addition α → DependencyGraph α
  | .node name => graph.addNode name
  | .edge source target => graph.addEdge source target

/-- The graph that additions make, the first of them first. -/
def ofAdditions (additions : List (Addition α)) : DependencyGraph α :=
  additions.foldl extend empty

variable {additions : List (Addition α)}

theorem mem_dependencies_extend_iff (graph : DependencyGraph α) (addition : Addition α)
    {name dependency : α} :
    dependency ∈ (graph.extend addition).dependencies name ↔
      dependency ∈ graph.dependencies name ∨ addition = .edge name dependency := by
  cases addition with
  | node added => simp [extend]
  | edge source target =>
      simp only [extend, mem_dependencies_addEdge_iff, Addition.edge.injEq]
      rw [eq_comm (a := source), eq_comm (a := target)]

theorem mem_nodes_extend_iff (graph : DependencyGraph α) (addition : Addition α) {name : α} :
    name ∈ (graph.extend addition).nodes ↔ name ∈ graph.nodes ∨ name ∈ addition.names := by
  cases addition with
  | node added => simp [extend, Addition.names]
  | edge source target => simp [extend, Addition.names]

/-- The edges of a graph are those that were added. -/
theorem depends_ofAdditions : (ofAdditions additions).Depends = Adds additions := by
  funext name dependency
  apply propext
  rw [Depends, ofAdditions, mem_dependencies_foldl_iff mem_dependencies_extend_iff]
  simp [empty, dependencies, Adds]

/-- The nodes of a graph are the names that were added. -/
theorem mem_nodes_ofAdditions_iff {name : α} :
    name ∈ (ofAdditions additions).nodes ↔ ∃ addition ∈ additions, name ∈ addition.names := by
  rw [ofAdditions, mem_nodes_foldl_iff fun graph addition => mem_nodes_extend_iff graph addition]
  simp [empty, nodes]

theorem nodup_nodes_ofAdditions : (ofAdditions additions).nodes.Nodup := by
  apply nodup_nodes_foldl
  · intro graph addition distinct
    cases addition with
    | node name => exact graph.nodup_nodes_addNode name distinct
    | edge source target => exact graph.nodup_nodes_addEdge source target distinct
  · exact List.nodup_nil

/-- Edges lead to nodes. -/
theorem mem_nodes_of_adds {name dependency : α} (adds : Adds additions name dependency) :
    dependency ∈ (ofAdditions additions).nodes :=
  mem_nodes_ofAdditions_iff.mpr ⟨.edge name dependency, adds, by simp [Addition.names]⟩

end ApiScaffold.DependencyGraph

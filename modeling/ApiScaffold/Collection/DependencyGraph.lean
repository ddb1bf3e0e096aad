import ApiScaffold.Collection.Entries
import ApiScaffold.Collection.OrderedSet

/-!
# Graphs of dependencies and their order

A `DependencyGraph` says which names each name depends on.  Nodes and edges
keep the order in which they were added, so every result is reproducible.

`visit` walks the graph depth first and lists a node once everything it depends
on is listed.  A node that is met again while it is still on the current path
closes a cycle.  `CyclePolicy.reject` reports the path walked so far, ended by
that node; `CyclePolicy.skip` leaves the closing edge out.

The walk ends because a path holds no node twice: each step into a node takes
one node of the graph off the set of those not on the path.
-/

namespace ApiScaffold

universe u

/-- Names, and for each name the names it depends on. -/
structure DependencyGraph (α : Type u) where
  /-- Every node with its direct dependencies. -/
  adjacency : Entries α (OrderedSet α)

/-- What to do with an edge that leads back into the current path. -/
inductive CyclePolicy where
  /-- Report the cycle. -/
  | reject
  /-- Leave the edge out. -/
  | skip
  deriving DecidableEq, Repr

namespace DependencyGraph

variable {α : Type u} [DecidableEq α]

/-- The graph without nodes. -/
def empty : DependencyGraph α :=
  ⟨[]⟩

/-- The nodes in the order in which they were added. -/
def nodes (graph : DependencyGraph α) : List α :=
  graph.adjacency.keys

/-- Whether a name is a node. -/
def contains (graph : DependencyGraph α) (name : α) : Bool :=
  graph.adjacency.hasKey name

/-- The number of nodes. -/
def size (graph : DependencyGraph α) : Nat :=
  graph.adjacency.length

/-- The direct dependencies of a node; a name that is no node has none. -/
def dependencies (graph : DependencyGraph α) (name : α) : List α :=
  match graph.adjacency.get? name with
  | none => []
  | some targets => targets.items

/-- Add a node without dependencies.  A node that is there stays as it is. -/
def addNode (graph : DependencyGraph α) (name : α) : DependencyGraph α :=
  if graph.contains name then graph else ⟨graph.adjacency.put name .empty⟩

/-- Record that `source` depends on `target`; both become nodes. -/
def addEdge (graph : DependencyGraph α) (source target : α) : DependencyGraph α :=
  let known := (graph.addNode source).addNode target
  let targets := (known.adjacency.get? source).getD .empty
  ⟨known.adjacency.put source (targets.insert target)⟩

/-- How many nodes are not on a path. -/
def remaining (graph : DependencyGraph α) (path : List α) : Nat :=
  (graph.nodes.filter fun node => decide (node ∉ path)).length

theorem dependencies_eq_nil (graph : DependencyGraph α) {name : α}
    (foreign : name ∉ graph.nodes) : graph.dependencies name = [] := by
  have absent := (Entries.get?_eq_none_iff graph.adjacency name).mpr foreign
  simp [dependencies, absent]

omit [DecidableEq α] in
/-- A stricter test keeps no more items. -/
theorem length_filter_le_of_imp (items : List α) {weak strict : α → Bool}
    (implies : ∀ item, strict item = true → weak item = true) :
    (items.filter strict).length ≤ (items.filter weak).length := by
  induction items with
  | nil => simp
  | cons item rest ih =>
      by_cases strictHere : strict item = true
      · simp [strictHere, implies item strictHere, ih]
      · by_cases weakHere : weak item = true
        · simp [strictHere, weakHere]
          omega
        · simp [strictHere, weakHere, ih]

omit [DecidableEq α] in
/-- A stricter test that rejects a listed item keeps fewer items. -/
theorem length_filter_lt_of_imp (items : List α) {weak strict : α → Bool}
    (implies : ∀ item, strict item = true → weak item = true) {lost : α}
    (member : lost ∈ items) (kept : weak lost = true) (rejected : strict lost = false) :
    (items.filter strict).length < (items.filter weak).length := by
  induction items with
  | nil => cases member
  | cons item rest ih =>
      have tailLe := length_filter_le_of_imp rest implies
      rcases List.mem_cons.mp member with equal | inTail
      · subst equal
        simp [kept, rejected]
        omega
      · have tailLt := ih inTail
        by_cases strictHere : strict item = true
        · simp [strictHere, implies item strictHere, tailLt]
        · by_cases weakHere : weak item = true
          · simp [strictHere, weakHere]
            omega
          · simp [strictHere, weakHere, tailLt]

/-- Stepping into a node leaves fewer nodes off the path. -/
theorem remaining_append_lt (graph : DependencyGraph α) {path : List α} {name : α}
    (isNode : name ∈ graph.nodes) (offPath : name ∉ path) :
    graph.remaining (path ++ [name]) < graph.remaining path := by
  refine length_filter_lt_of_imp graph.nodes ?_ isNode ?_ ?_
  · intro item
    simp only [decide_eq_true_eq, List.mem_append, not_or]
    exact And.left
  · simpa using offPath
  · simp

/-- Stepping along a path never leaves more nodes off it. -/
theorem remaining_append_le (graph : DependencyGraph α) (path : List α) (name : α) :
    graph.remaining (path ++ [name]) ≤ graph.remaining path := by
  refine length_filter_le_of_imp graph.nodes ?_
  intro item
  simp only [decide_eq_true_eq, List.mem_append, not_or]
  exact And.left

/-- List each of the pending nodes after everything it depends on.  `path` holds
the nodes that were entered and are not listed yet.  An error carries the path
that closed a cycle. -/
def visit (graph : DependencyGraph α) (policy : CyclePolicy) (path : List α) :
    List α → OrderedSet α → Except (List α) (OrderedSet α)
  | [], listed => .ok listed
  | name :: rest, listed =>
      if listed.contains name then graph.visit policy path rest listed
      else if name ∈ path then
        match policy with
        | .reject => .error (path ++ [name])
        | .skip => graph.visit policy path rest listed
      else
        match graph.visit policy (path ++ [name]) (graph.dependencies name) listed with
        | .error cycle => .error cycle
        | .ok extended => graph.visit policy path rest (extended.insert name)
termination_by pending => (graph.remaining path, pending.length)
decreasing_by
  · exact Prod.Lex.right _ (by simp)
  · exact Prod.Lex.right _ (by simp)
  · rename_i offPath
    by_cases isNode : name ∈ graph.nodes
    · exact Prod.Lex.left _ _ (remaining_append_lt graph isNode offPath)
    · rw [dependencies_eq_nil graph isNode]
      rcases Nat.lt_or_eq_of_le (remaining_append_le graph path name) with less | same
      · exact Prod.Lex.left _ _ less
      · rw [same]
        exact Prod.Lex.right _ (by simp)
  · exact Prod.Lex.right _ (by simp)

/-- Order what is reachable from a node, dependencies first. -/
def sortFrom (graph : DependencyGraph α) (policy : CyclePolicy) (start : α) :
    Except (List α) (List α) :=
  (graph.visit policy [] [start] .empty).map OrderedSet.items

/-- Order all nodes, dependencies first.  Roots are visited in the order in which
they were added and share one result. -/
def sort (graph : DependencyGraph α) (policy : CyclePolicy) :
    Except (List α) (List α) :=
  (graph.visit policy [] graph.nodes .empty).map OrderedSet.items

/-- Nothing is pending, so nothing changes. -/
theorem visit_nil (graph : DependencyGraph α) (policy : CyclePolicy) (path : List α)
    (listed : OrderedSet α) : graph.visit policy path [] listed = .ok listed := by
  rw [visit]

/-- An edge back into the path is reported under `reject`. -/
theorem visit_reject_of_mem (graph : DependencyGraph α) {path : List α} {name : α}
    (rest : List α) {listed : OrderedSet α} (onPath : name ∈ path)
    (pending : name ∉ listed.items) :
    graph.visit .reject path (name :: rest) listed = .error (path ++ [name]) := by
  rw [visit]
  simp [OrderedSet.contains, pending, onPath]

/-- Skipping edges back into the path, a visit always succeeds. -/
theorem visit_skip_isOk (graph : DependencyGraph α) (path pending : List α)
    (listed : OrderedSet α) : ∃ result, graph.visit .skip path pending listed = .ok result := by
  fun_induction DependencyGraph.visit graph .skip path pending listed with
  | case1 => exact ⟨_, rfl⟩
  | case2 => assumption
  | case3 => contradiction
  | case4 => assumption
  | case5 =>
      rename_i failed ih
      obtain ⟨result, succeeded⟩ := ih
      rw [failed] at succeeded
      cases succeeded
  | case6 => assumption

end DependencyGraph

end ApiScaffold

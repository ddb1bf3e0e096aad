import ApiScaffold.Proofs.Collection.StrictOrder
import ApiScaffold.Proofs.Outcome
import ApiScaffold.Service.ModelOrder

/-!
# Models that are written out

A model that is no struct is written out wherever it is referred to.  The graph of these
models has exactly the edges that its definition asks for.  If models can be put in order,
the graph has no cycle, so every name has a rank that falls with every step, and the rank
of a model is less than the number of models.
-/

namespace ApiScaffold

theorem mem_expansionTargets_iff (models : Entries String Model) (model : Model)
    (target : String) :
    target ∈ expansionTargets models model ↔
      some target ∈ model.references ∧
        ∃ other, models.get? target = some other ∧ other.isStruct = false := by
  simp only [expansionTargets, List.mem_filterMap]
  constructor
  · rintro ⟨name, refers, chosen⟩
    cases name with
    | none => cases chosen
    | some name =>
        simp only at chosen
        cases found : models.get? name with
        | none =>
            rw [found] at chosen
            cases chosen
        | some other =>
            rw [found] at chosen
            by_cases isStruct : other.isStruct = true
            · simp [isStruct] at chosen
            · simp only [isStruct, Bool.false_eq_true, if_false, Option.some.injEq] at chosen
              subst chosen
              exact ⟨refers, other, found, by simpa using isStruct⟩
  · rintro ⟨refers, other, found, noStruct⟩
    exact ⟨some target, refers, by simp [found, noStruct]⟩

/-- A model adds the edges to what it is written out with, unless it is a struct. -/
theorem mem_dependencies_step_iff (models : Entries String Model)
    (graph : DependencyGraph String) (entry : String × Model) {name target : String} :
    target ∈ (if entry.2.isStruct then graph
        else (expansionTargets models entry.2).foldl (fun graph target =>
          graph.addEdge entry.1 target) (graph.addNode entry.1)).dependencies name ↔
      target ∈ graph.dependencies name ∨ name = entry.1 ∧ entry.2.isStruct = false ∧
        target ∈ expansionTargets models entry.2 := by
  by_cases isStruct : entry.2.isStruct = true
  · simp [isStruct]
  · simp [isStruct, DependencyGraph.mem_dependencies_foldl_addEdge_iff]

/-- The edges of the graph lead from models that are no structs to what they are written
out with. -/
theorem mem_dependencies_expansionGraph_iff (models : Entries String Model)
    {name target : String} :
    target ∈ (expansionGraph models).dependencies name ↔
      ∃ model, (name, model) ∈ models ∧ model.isStruct = false ∧
        target ∈ expansionTargets models model := by
  have noEdge : target ∉ (DependencyGraph.empty : DependencyGraph String).dependencies name := by
    simp [DependencyGraph.empty, DependencyGraph.dependencies]
  rw [expansionGraph, DependencyGraph.mem_dependencies_foldl_iff
    (fun graph entry => mem_dependencies_step_iff models graph entry)]
  simp only [noEdge, false_or]
  constructor
  · rintro ⟨entry, member, rfl, noStruct, inTargets⟩
    exact ⟨entry.2, member, noStruct, inTargets⟩
  · rintro ⟨model, member, noStruct, inTargets⟩
    exact ⟨(name, model), member, rfl, noStruct, inTargets⟩

/-- A rank of at most the number of models that falls from every model that is no struct to
what it refers to. -/
structure ExpansionRank (models : Entries String Model) where
  rank : String → Nat
  rank_le_length : ∀ name, rank name ≤ models.length
  rank_lt : ∀ {name model target}, models.get? name = some model → model.isStruct = false →
    some target ∈ model.references → rank target < rank name

/-- How many models are listed before a name. -/
def countBefore (models : Entries String Model) (listed : List String) (name : String) : Nat :=
  (models.keys.filter fun key => decide (listed.idxOf key < listed.idxOf name)).length

theorem countBefore_lt_length {models : Entries String Model} (listed : List String)
    {name : String} (member : name ∈ models.keys) :
    countBefore models listed name < models.length := by
  have fewer : countBefore models listed name < (models.keys.filter fun _ => true).length :=
    DependencyGraph.length_filter_lt_of_imp models.keys (fun _ _ => rfl) member rfl (by simp)
  simpa [Entries.keys] using fewer

theorem countBefore_lt_of_idxOf_lt {models : Entries String Model} {listed : List String}
    {first second : String} (member : first ∈ models.keys)
    (earlier : listed.idxOf first < listed.idxOf second) :
    countBefore models listed first < countBefore models listed second := by
  refine DependencyGraph.length_filter_lt_of_imp models.keys ?_ member
    (by simpa using earlier) (by simp)
  intro key
  simp only [decide_eq_true_eq]
  intro before
  exact Nat.lt_trans before earlier

/-- In an order of models, whatever a model is written out with comes before it. -/
theorem exists_idxOf_lt_of_orderModels {models : Entries String Model}
    {order : List (Option String)} (ordered : orderModels models = .ok order) :
    ∃ listed : List String, ∀ {name model target}, models.get? name = some model →
      model.isStruct = false → target ∈ expansionTargets models model →
        listed.idxOf target < listed.idxOf name := by
  unfold orderModels at ordered
  cases sorted : (expansionGraph models).sort .reject with
  | error path =>
      rw [sorted] at ordered
      cases ordered
  | ok listed =>
      obtain ⟨first, complete⟩ := DependencyGraph.sort_reject_spec sorted
      refine ⟨listed, ?_⟩
      intro name model target found noStruct inTargets
      have depends : target ∈ (expansionGraph models).dependencies name :=
        (mem_dependencies_expansionGraph_iff models).mpr
          ⟨model, Entries.mem_of_get? found, noStruct, inTargets⟩
      have isNode : name ∈ (expansionGraph models).nodes := by
        by_contra foreign
        rw [DependencyGraph.dependencies_eq_nil _ foreign] at depends
        cases depends
      exact first.idxOf_lt (complete name isNode) depends

/-- The place of a model that is written out among the models of an order. -/
def expansionPlace (models : Entries String Model) (listed : List String) (name : String) : Nat :=
  match models.get? name with
  | some model => if model.isStruct then 0 else countBefore models listed name + 1
  | none => 0

/-- Models that can be put in order have a rank. -/
theorem exists_expansionRank {models : Entries String Model} {order : List (Option String)}
    (ordered : orderModels models = .ok order) : Nonempty (ExpansionRank models) := by
  obtain ⟨listed, falls⟩ := exists_idxOf_lt_of_orderModels ordered
  have isKey : ∀ {name model}, models.get? name = some model → name ∈ models.keys := by
    intro name model found
    exact Entries.mem_keys_iff.mpr ⟨model, found⟩
  refine ⟨⟨expansionPlace models listed, ?_, ?_⟩⟩
  · intro name
    unfold expansionPlace
    cases found : models.get? name with
    | none => exact Nat.zero_le _
    | some model =>
        by_cases isStruct : model.isStruct = true
        · simp [isStruct]
        · simpa [isStruct, Nat.succ_le_iff] using countBefore_lt_length listed (isKey found)
  · intro name model target found noStruct refers
    unfold expansionPlace
    simp only [found, noStruct, Bool.false_eq_true, if_false]
    cases foundTarget : models.get? target with
    | none => exact Nat.succ_pos _
    | some other =>
        by_cases isStruct : other.isStruct = true
        · simp [isStruct]
        · have inTargets : target ∈ expansionTargets models model :=
            (mem_expansionTargets_iff _ _ _).mpr
              ⟨refers, other, foundTarget, by simpa using isStruct⟩
          simpa [isStruct] using countBefore_lt_of_idxOf_lt (isKey foundTarget)
            (falls found noStruct inTargets)

/-- Models whose ranks fall wherever one is written out can be put in order. -/
theorem exists_orderModels_of_rank {models : Entries String Model} {rank : String → Nat}
    (falls : ∀ entry ∈ models, entry.2.isStruct = false →
      ∀ target ∈ expansionTargets models entry.2, rank target < rank entry.1) :
    ∃ order, orderModels models = .ok order := by
  have fallsInGraph : ∀ {name dependency},
      dependency ∈ (expansionGraph models).dependencies name → rank dependency < rank name := by
    intro name dependency depends
    obtain ⟨model, member, noStruct, inTargets⟩ :=
      (mem_dependencies_expansionGraph_iff models).mp depends
    exact falls _ member noStruct dependency inTargets
  obtain ⟨_, expanded⟩ := DependencyGraph.exists_sort_reject_of_rank fallsInGraph
  obtain ⟨listed, visited⟩ := (referenceGraph models).visit_skip_isOk []
    (referenceGraph models).nodes .empty
  have sorted : (referenceGraph models).sort .skip = .ok listed.items := by
    simp [DependencyGraph.sort, visited, Except.map]
  exact ⟨listed.items, by simp only [orderModels, expanded, sorted]; rfl⟩

end ApiScaffold

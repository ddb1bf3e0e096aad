import ApiScaffold.Proofs.Emission.RustModules
import ApiScaffold.Proofs.Service.ModelOrder
import ApiScaffold.Proofs.Service.UniqueTypeNames
import ApiScaffold.Proofs.Collection.Matching

/-!
# What Rust modules contain

Besides its imports a module contains the structs of the named models, if it has them, the structs
of inputs and outputs, and, if it has routes, the table of routes with the handlers.
-/

namespace ApiScaffold.RustCode

variable {service : Service} {options : EmissionOptions} {module : Module} {items : List Item}
  {item : Item}

/-! ## Parts of a module -/

namespace Module

/-- Whether a module contains the structs of the named models. -/
def hasStructs (options : EmissionOptions) : Module → Bool
  | .sole | .modelsFile => options.models
  | .models => true
  | .routes | .routesFile | .packageFile | .input _ | .output _ | .both _ => false

/-- Whether a module contains the routes. -/
def hasRoutes (options : EmissionOptions) : Module → Bool
  | .sole => options.routes
  | .routes | .routesFile => true
  | .models | .modelsFile | .packageFile | .input _ | .output _ | .both _ => false

/-- Whether a module contains the struct of the input of an operation. -/
def HasInput (service : Service) : Module → Operation → Prop
  | .sole, operation | .modelsFile, operation => operation ∈ service.operations
  | .input only, operation | .both only, operation => operation = only
  | .models, _ | .routes, _ | .routesFile, _ | .packageFile, _ | .output _, _ => False

/-- Whether a module contains the struct of the output of an operation. -/
def HasOutput (service : Service) : Module → Operation → Prop
  | .sole, operation | .modelsFile, operation => operation ∈ service.operations
  | .output only, operation | .both only, operation => operation = only
  | .models, _ | .routes, _ | .routesFile, _ | .packageFile, _ | .input _, _ => False

end Module

/-- The struct of a named model. -/
def IsModel (service : Service) (item : Item) : Prop :=
  ∃ entry ∈ service.models, entry.2.isStruct = true ∧ modelItem service entry = .ok item

/-- The table of routes, or a handler. -/
def IsRoute (service : Service) (item : Item) : Prop :=
  (∃ routes, service.operations.mapM methodOf = .ok routes ∧ item = .table routes) ∨
    ∃ operation ∈ service.operations, item = .handler operation

/-- An item of a module that is no import. -/
def Module.Contains (service : Service) (options : EmissionOptions) (module : Module)
    (item : Item) : Prop :=
  (module.hasStructs options = true ∧ IsModel service item) ∨
    (∃ operation, (module.HasInput service operation ∧ inputItem service operation = .ok item) ∨
      (module.HasOutput service operation ∧ outputItem service operation = .ok item)) ∨
    (module.hasRoutes options = true ∧ IsRoute service item)

/-- Whether an item is made of imports. -/
def Item.isUse : Item → Bool
  | .uses _ => true
  | .struct _ | .table _ | .handler _ => false

/-! ## Structs -/

theorem name_of_structItem {name : String} {fields : List Field}
    {documentation owner : Option String} {struct : StructItem}
    (made : structItem service name fields documentation owner = .ok struct) :
    struct.name = name := by
  obtain ⟨_, _, wrapped⟩ := Outcome.bind_eq_ok_iff.mp made
  cases wrapped
  rfl

/-- The item of a named model is its struct. -/
theorem exists_struct_of_modelItem {entry : String × Model}
    (made : modelItem service entry = .ok item) : ∃ struct, item = .struct struct ∧
      structItem service (Naming.typeName entry.1) (entry.2.properties.map Field.ofProperty)
        entry.2.description (some entry.1) = .ok struct := by
  obtain ⟨struct, isStruct, wrapped⟩ := Outcome.bind_eq_ok_iff.mp made
  cases wrapped
  exact ⟨struct, rfl, isStruct⟩

/-- The item of some fields of an operation is a struct with these fields. -/
theorem exists_struct_of_fieldsItem {fields : Outcome (List Field)} {name documentation : String}
    (made : fieldsItem service fields name documentation = .ok item) :
    ∃ struct, item = .struct struct ∧ ∃ given, fields = .ok given ∧
      structItem service name given (some documentation) none = .ok struct := by
  obtain ⟨given, areFields, more⟩ := Outcome.bind_eq_ok_iff.mp made
  obtain ⟨struct, isStruct, wrapped⟩ := Outcome.bind_eq_ok_iff.mp more
  cases wrapped
  exact ⟨struct, rfl, given, areFields, isStruct⟩

/-! ## Items of the parts -/

theorem isUse_of_mem_useItems {models routes : Bool}
    (made : useItems service models routes = .ok items) : ∀ item ∈ items, item.isUse = true := by
  obtain ⟨web, _, wrapped⟩ := Outcome.bind_eq_ok_iff.mp made
  cases wrapped
  cases web <;> cases models <;> simp [Item.isUse]

/-- Imports come first, and the rest is elsewhere. -/
theorem mem_append_iff_of_uses {head rest : List Item} (areUses : ∀ item ∈ head, item.isUse = true)
    (noUse : item.isUse = false) : item ∈ head ++ rest ↔ item ∈ rest := by
  rw [List.mem_append, or_iff_right]
  intro inHead
  rw [areUses item inHead] at noUse
  cases noUse

/-- Items that may be wanted are there if they are. -/
theorem mem_of_wantedItems_iff {wanted : Bool} {made : Outcome (List Item)} {holds : Prop}
    (isMade : wantedItems wanted made = .ok items)
    (same : ∀ all, made = .ok all → (item ∈ all ↔ holds)) :
    item ∈ items ↔ wanted = true ∧ holds := by
  cases wanted with
  | true => exact (same items isMade).trans (and_iff_right rfl).symm
  | false =>
      cases isMade
      simp

theorem mem_of_operationItems_iff {operation : Operation}
    (made : operationItems service operation = .ok items) : item ∈ items ↔
      inputItem service operation = .ok item ∨ outputItem service operation = .ok item := by
  obtain ⟨input, isInput, more⟩ := Outcome.bind_eq_ok_iff.mp made
  obtain ⟨output, isOutput, wrapped⟩ := Outcome.bind_eq_ok_iff.mp more
  cases wrapped
  rw [isInput, isOutput, List.mem_pair, Except.ok.injEq, Except.ok.injEq, eq_comm, @eq_comm _ item]

theorem mem_of_routeItems_iff (made : routeItems service = .ok items) :
    item ∈ items ↔ IsRoute service item := by
  obtain ⟨routes, areRoutes, wrapped⟩ := Outcome.bind_eq_ok_iff.mp made
  cases wrapped
  rw [List.mem_cons, List.mem_map, IsRoute, areRoutes]
  simp [eq_comm]

section Built

variable {document : Document} (built : document.service = .ok service)
include built

theorem mem_of_modelItems_iff (made : modelItems service = .ok items) :
    item ∈ items ↔ IsModel service item := by
  obtain ⟨structs, areStructs, perm⟩ := Document.exists_structs_perm built
  rw [modelItems, areStructs] at made
  rw [Outcome.mem_iff_of_mapM_eq_ok made, IsModel]
  simp only [perm.mem_iff, List.mem_filter, and_assoc]

theorem mem_of_blockItems_iff (made : blockItems service options = .ok items) : item ∈ items ↔
    (options.models = true ∧ IsModel service item) ∨ ∃ operation ∈ service.operations,
      inputItem service operation = .ok item ∨ outputItem service operation = .ok item := by
  obtain ⟨models, areModels, more⟩ := Outcome.bind_eq_ok_iff.mp made
  obtain ⟨operations, areOperations, wrapped⟩ := Outcome.bind_eq_ok_iff.mp more
  cases wrapped
  rw [List.mem_append,
    mem_of_wantedItems_iff areModels fun all areAll => mem_of_modelItems_iff built areAll]
  apply or_congr_right
  rw [List.mem_flatten]
  constructor
  · rintro ⟨group, isGroup, inGroup⟩
    obtain ⟨operation, isOperation, areItems⟩ :=
      (Outcome.mem_iff_of_mapM_eq_ok areOperations).mp isGroup
    exact ⟨operation, isOperation, (mem_of_operationItems_iff areItems).mp inGroup⟩
  · rintro ⟨operation, isOperation, isItem⟩
    obtain ⟨group, isGroup, areItems⟩ := Outcome.exists_of_mapM_eq_ok areOperations isOperation
    exact ⟨group, isGroup, (mem_of_operationItems_iff areItems).mpr isItem⟩

omit built in
/-- A module with the structs of the named models has an item for each. -/
theorem Module.exists_modelItems (made : module.items service options = .ok items)
    (hasStructs : module.hasStructs options = true) : ∃ all, modelItems service = .ok all := by
  have ofBlocks : ∀ blocks, blockItems service options = .ok blocks → options.models = true →
      ∃ all, modelItems service = .ok all := by
    intro blocks areBlocks wanted
    obtain ⟨models, areModels, _⟩ := Outcome.bind_eq_ok_iff.mp areBlocks
    rw [wantedItems, if_pos wanted] at areModels
    exact ⟨models, areModels⟩
  cases module with
  | sole =>
      obtain ⟨_, _, more⟩ := Outcome.bind_eq_ok_iff.mp made
      obtain ⟨blocks, areBlocks, _⟩ := Outcome.bind_eq_ok_iff.mp more
      exact ofBlocks blocks areBlocks hasStructs
  | modelsFile =>
      obtain ⟨_, _, more⟩ := Outcome.bind_eq_ok_iff.mp made
      obtain ⟨blocks, areBlocks, _⟩ := Outcome.bind_eq_ok_iff.mp more
      exact ofBlocks blocks areBlocks hasStructs
  | models => exact ⟨items, made⟩
  | routes | routesFile | packageFile | input _ | output _ | both _ => cases hasStructs

omit built in
/-- A module with routes has the methods of all operations. -/
theorem Module.exists_routes (made : module.items service options = .ok items)
    (hasRoutes : module.hasRoutes options = true) :
    ∃ routes, service.operations.mapM methodOf = .ok routes := by
  have ofTable : ∀ table, routeItems service = .ok table →
      ∃ routes, service.operations.mapM methodOf = .ok routes := by
    intro table isTable
    obtain ⟨routes, areRoutes, _⟩ := Outcome.bind_eq_ok_iff.mp isTable
    exact ⟨routes, areRoutes⟩
  cases module with
  | sole =>
      obtain ⟨_, _, more⟩ := Outcome.bind_eq_ok_iff.mp made
      obtain ⟨_, _, rest⟩ := Outcome.bind_eq_ok_iff.mp more
      obtain ⟨table, isTable, _⟩ := Outcome.bind_eq_ok_iff.mp rest
      have wanted : options.routes = true := hasRoutes
      rw [wantedItems, if_pos wanted] at isTable
      exact ofTable table isTable
  | routes => exact ofTable items made
  | routesFile =>
      obtain ⟨table, isTable, _⟩ := Outcome.bind_eq_ok_iff.mp made
      exact ofTable table isTable
  | models | modelsFile | packageFile | input _ | output _ | both _ => cases hasRoutes

/-- The struct of a named model has its item. -/
theorem exists_modelItem {all : List Item} (made : modelItems service = .ok all)
    {entry : String × Model} (inModels : entry ∈ service.models)
    (isStruct : entry.2.isStruct = true) : ∃ item, modelItem service entry = .ok item := by
  obtain ⟨structs, areStructs, perm⟩ := Document.exists_structs_perm built
  rw [modelItems, areStructs] at made
  obtain ⟨item, _, isItem⟩ := Outcome.exists_of_mapM_eq_ok made
    (perm.mem_iff.mpr (List.mem_filter.mpr ⟨inModels, isStruct⟩))
  exact ⟨item, isItem⟩

/-- The items of a module are its imports and what it contains. -/
theorem Module.mem_items_iff (made : module.items service options = .ok items)
    (noUse : item.isUse = false) : item ∈ items ↔ module.Contains service options item := by
  cases module with
  | sole =>
      obtain ⟨head, isHead, more⟩ := Outcome.bind_eq_ok_iff.mp made
      obtain ⟨blocks, areBlocks, rest⟩ := Outcome.bind_eq_ok_iff.mp more
      obtain ⟨routes, areRoutes, wrapped⟩ := Outcome.bind_eq_ok_iff.mp rest
      cases wrapped
      rw [List.append_assoc, mem_append_iff_of_uses (isUse_of_mem_useItems isHead) noUse,
        List.mem_append, mem_of_blockItems_iff built areBlocks,
        mem_of_wantedItems_iff areRoutes fun all areAll => mem_of_routeItems_iff areAll]
      simp [Contains, hasStructs, hasRoutes, HasInput, HasOutput, ← and_or_left, or_assoc]
  | models =>
      rw [mem_of_modelItems_iff built made]
      simp [Contains, hasStructs, hasRoutes, HasInput, HasOutput]
  | routes =>
      rw [mem_of_routeItems_iff made]
      simp [Contains, hasStructs, hasRoutes, HasInput, HasOutput]
  | modelsFile =>
      obtain ⟨head, isHead, more⟩ := Outcome.bind_eq_ok_iff.mp made
      obtain ⟨blocks, areBlocks, wrapped⟩ := Outcome.bind_eq_ok_iff.mp more
      cases wrapped
      rw [mem_append_iff_of_uses (isUse_of_mem_useItems isHead) noUse,
        mem_of_blockItems_iff built areBlocks]
      simp [Contains, hasStructs, hasRoutes, HasInput, HasOutput, ← and_or_left]
  | routesFile =>
      obtain ⟨routes, areRoutes, wrapped⟩ := Outcome.bind_eq_ok_iff.mp made
      cases wrapped
      rw [← List.singleton_append, mem_append_iff_of_uses (by simp [Item.isUse]) noUse,
        mem_of_routeItems_iff areRoutes]
      simp [Contains, hasStructs, hasRoutes, HasInput, HasOutput]
  | packageFile =>
      cases made
      refine iff_of_false ?_ ?_
      · intro member
        rw [List.mem_singleton.mp member] at noUse
        cases noUse
      · simp [Contains, hasStructs, hasRoutes, HasInput, HasOutput]
  | input operation =>
      obtain ⟨input, isInput, wrapped⟩ := Outcome.bind_eq_ok_iff.mp made
      cases wrapped
      simp [Contains, hasStructs, hasRoutes, HasInput, HasOutput, isInput, eq_comm]
  | output operation =>
      obtain ⟨output, isOutput, wrapped⟩ := Outcome.bind_eq_ok_iff.mp made
      cases wrapped
      simp [Contains, hasStructs, hasRoutes, HasInput, HasOutput, isOutput, eq_comm]
  | both operation =>
      rw [mem_of_operationItems_iff made]
      simp [Contains, hasStructs, hasRoutes, HasInput, HasOutput, ← and_or_left]

end Built

end ApiScaffold.RustCode

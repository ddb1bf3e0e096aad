import ApiScaffold.Proofs.Collection.LastWritten
import ApiScaffold.Proofs.Emission.PackageFiles
import Mathlib.Data.List.Sort
import Mathlib.Data.List.TakeWhile
import Mathlib.Data.Prod.Lex
import Mathlib.Data.String.Basic

/-!
# The block of imports is canonical

The imports of a module are registered by calls, in whatever order its parts are put together, and
often more than once.  The block that comes out depends only on what was registered: the modules,
and for each of them the names.

Both the statements of the block and the names of each statement are strictly ascending, and a
strictly ascending list is determined by its members.
-/

namespace ApiScaffold.PythonCode

/-! ## What is registered -/

/-- A call that registers imports. -/
inductive ImportCall where
  /-- One name of one module. -/
  | one (module name : String)
  /-- Modules with any number of names each. -/
  | several (modules : List (String × List String))

/-- The modules that a call registers, with the names that come with them. -/
def ImportCall.entries : ImportCall → List (String × List String)
  | one module name => [(module, [name])]
  | several modules => modules

/-- The imports after a call. -/
def Imports.afterCall (imports : Imports) : ImportCall → Imports
  | .one module name => imports.add module name
  | .several modules => imports.addEach modules

/-- The imports after some calls. -/
def Imports.ofCalls (calls : List ImportCall) : Imports :=
  calls.foldl Imports.afterCall Imports.empty

/-- Some call registers this module. -/
def RegistersModule (calls : List ImportCall) (module : String) : Prop :=
  ∃ call ∈ calls, ∃ names, (module, names) ∈ call.entries

/-- Some call registers this name of this module. -/
def RegistersName (calls : List ImportCall) (module name : String) : Prop :=
  ∃ call ∈ calls, ∃ names, (module, names) ∈ call.entries ∧ name ∈ names

/-- The calls register the same modules and the same names of them. -/
def RegisterSame (calls others : List ImportCall) : Prop :=
  (∀ module, RegistersModule calls module ↔ RegistersModule others module) ∧
    ∀ module name, RegistersName calls module name ↔ RegistersName others module name

/-! ## What is kept of it -/

namespace Imports

theorem addEach_cons (imports : Imports) (entry : String × List String)
    (rest : List (String × List String)) :
    imports.addEach (entry :: rest) = (imports.addAll entry.1 entry.2).addEach rest :=
  rfl

theorem nodup_addEach {imports : Imports} (distinct : imports.modules.keys.Nodup)
    (modules : List (String × List String)) :
    (imports.addEach modules).modules.keys.Nodup := by
  induction modules generalizing imports with
  | nil => exact distinct
  | cons entry rest ih => exact ih (nodup_addAll distinct entry.1 entry.2)

theorem mem_keys_addEach_iff (imports : Imports) (modules : List (String × List String))
    (module : String) :
    module ∈ (imports.addEach modules).modules.keys ↔
      module ∈ imports.modules.keys ∨ ∃ names, (module, names) ∈ modules := by
  induction modules generalizing imports with
  | nil => simp [addEach]
  | cons entry rest ih =>
      have step : module ∈ (imports.addAll entry.1 entry.2).modules.keys ↔
          module ∈ imports.modules.keys ∨ module = entry.1 := by
        rw [addAll, Entries.keys_put]
        split
        · next known => exact ⟨Or.inl, fun either => either.elim id fun same => same ▸ known⟩
        · rw [List.mem_append, List.mem_singleton]
      have first : (∃ names, (module, names) = entry) ↔ module = entry.1 := by
        constructor
        · rintro ⟨names, rfl⟩
          rfl
        · rintro rfl
          exact ⟨entry.2, rfl⟩
      rw [addEach_cons, ih, step, or_assoc, ← first, ← exists_or]
      simp only [List.mem_cons]

theorem mem_namesFrom_addEach_iff (imports : Imports) (modules : List (String × List String))
    (module name : String) :
    name ∈ (imports.addEach modules).namesFrom module ↔
      name ∈ imports.namesFrom module ∨ ∃ names, (module, names) ∈ modules ∧ name ∈ names := by
  induction modules generalizing imports with
  | nil => simp [addEach]
  | cons entry rest ih =>
      have first : (∃ names, (module, names) = entry ∧ name ∈ names) ↔
          module = entry.1 ∧ name ∈ entry.2 := by
        constructor
        · rintro ⟨names, rfl, member⟩
          exact ⟨rfl, member⟩
        · rintro ⟨rfl, member⟩
          exact ⟨entry.2, rfl, member⟩
      rw [addEach_cons, ih, mem_namesFrom_addAll_iff, or_assoc, ← first, ← exists_or]
      simp only [List.mem_cons, or_and_right]

/-- Calls come down to the modules that they register. -/
theorem ofCalls_eq_addEach (calls : List ImportCall) :
    ofCalls calls = empty.addEach (calls.flatMap ImportCall.entries) := by
  rw [ofCalls, addEach, List.foldl_flatMap]
  congr
  funext imports call
  cases call <;> rfl

theorem nodup_ofCalls (calls : List ImportCall) : (ofCalls calls).modules.keys.Nodup := by
  rw [ofCalls_eq_addEach]
  have none : empty.modules.keys.Nodup := List.nodup_nil
  exact nodup_addEach none _

theorem mem_keys_ofCalls_iff (calls : List ImportCall) (module : String) :
    module ∈ (ofCalls calls).modules.keys ↔ RegistersModule calls module := by
  rw [ofCalls_eq_addEach, mem_keys_addEach_iff, RegistersModule]
  simp only [empty, Entries.keys_nil, List.not_mem_nil, false_or, List.mem_flatMap]
  constructor
  · rintro ⟨names, call, isCall, member⟩
    exact ⟨call, isCall, names, member⟩
  · rintro ⟨call, isCall, names, member⟩
    exact ⟨names, call, isCall, member⟩

theorem mem_namesFrom_ofCalls_iff (calls : List ImportCall) (module name : String) :
    name ∈ (ofCalls calls).namesFrom module ↔ RegistersName calls module name := by
  rw [ofCalls_eq_addEach, mem_namesFrom_addEach_iff, RegistersName]
  simp only [namesFrom, empty, Entries.get?_nil, Option.getD_none, List.not_mem_nil, false_or,
    List.mem_flatMap]
  constructor
  · rintro ⟨names, ⟨call, isCall, member⟩, isName⟩
    exact ⟨call, isCall, names, member, isName⟩
  · rintro ⟨call, isCall, names, member, isName⟩
    exact ⟨names, ⟨call, isCall, member⟩, isName⟩

end Imports

/-! ## The parts of a module's name -/

/-- The name of the module that a statement imports from, put together from its parts. -/
def Import.origin (statement : Import) : String :=
  String.ofList (List.replicate statement.level '.') ++ statement.module

namespace Imports

/-- Without more dots to come, dots and the rest of a name are told apart. -/
theorem statement_of_dots (level : Nat) {rest : String} (noDot : rest.toList.head? ≠ some '.')
    (names : List String) :
    statement (String.ofList (List.replicate level '.') ++ rest) names =
      ⟨level, rest, sortedNames names⟩ := by
  have areDots : ∀ char ∈ List.replicate level '.', decide (char = '.') = true :=
    fun char member => decide_eq_true (List.eq_of_mem_replicate member)
  have noMore : rest.toList.takeWhile (fun char => decide (char = '.')) = [] := by
    cases chars : rest.toList with
    | nil => rfl
    | cons first _ =>
        rw [chars, List.head?_cons, ne_eq, Option.some_inj] at noDot
        rw [List.takeWhile_cons_of_neg (by simpa using noDot)]
  simp only [statement, String.toList_append, String.toList_ofList,
    List.takeWhile_append_of_pos areDots, noMore, List.append_nil, List.length_replicate]
  rw [List.drop_left' List.length_replicate, String.ofList_toList]

/-- A module's name is some dots and a rest without a leading dot. -/
theorem exists_dots (module : String) : ∃ level rest,
    module = String.ofList (List.replicate level '.') ++ rest ∧ rest.toList.head? ≠ some '.' := by
  let isDot : Char → Bool := fun char => char = '.'
  refine ⟨(module.toList.takeWhile isDot).length,
    String.ofList (module.toList.dropWhile isDot), ?_, ?_⟩
  · have areDots : module.toList.takeWhile isDot =
        List.replicate (module.toList.takeWhile isDot).length '.' :=
      List.eq_replicate_iff.mpr
        ⟨rfl, fun char member => by simpa [isDot] using List.mem_takeWhile_imp member⟩
    rw [← areDots, ← String.toList_inj, String.toList_append, String.toList_ofList,
      String.toList_ofList, List.takeWhile_append_dropWhile]
  · intro startsWithDot
    have stops := List.head?_dropWhile_not isDot module.toList
    rw [String.toList_ofList] at startsWithDot
    rw [startsWithDot] at stops
    exact Bool.noConfusion stops

theorem origin_statement (module : String) (names : List String) :
    (statement module names).origin = module := by
  obtain ⟨level, rest, rfl, noDot⟩ := exists_dots module
  rw [statement_of_dots level noDot]
  rfl

/-- All leading dots are counted. -/
theorem head?_module_statement (module : String) (names : List String) :
    (statement module names).module.toList.head? ≠ some '.' := by
  obtain ⟨level, rest, rfl, noDot⟩ := exists_dots module
  rwa [statement_of_dots level noDot]

/-! ## Order -/

/-- The place of a module in the block: modules ascend within their section. -/
def place (module : String) : ℕ ×ₗ String :=
  toLex ((sectionOf module).rank, module)

theorem place_injective : Function.Injective place := by
  intro first second same
  exact congrArg (fun position => (ofLex position).2) same

theorem precedes_eq_true_iff (first second : String) :
    precedes first second = true ↔ place first ≤ place second := by
  rw [place, place, Prod.Lex.toLex_le_toLex]
  simp [precedes]

/-- Names are strictly ascending after sorting. -/
theorem pairwise_sortedNames (names : List String) : (sortedNames names).Pairwise (· < ·) := by
  have sorted := @List.pairwise_mergeSort String (fun first second => decide (first ≤ second))
    (by simpa using fun first second third => String.le_trans)
    (by simpa using fun first second => String.le_total first second) names
  have ascending := sorted.sublist (Entries.eraseDups_sublist _)
  have distinct := Entries.nodup_eraseDups
    (names.mergeSort fun first second => decide (first ≤ second))
  refine (ascending.and distinct).imp ?_
  rintro first second ⟨le, different⟩
  exact lt_of_le_of_ne (of_decide_eq_true le) different

/-- The statements of the block are strictly ascending. -/
theorem pairwise_block {imports : Imports} (distinct : imports.modules.keys.Nodup) :
    imports.block.Pairwise fun first second => place first.origin < place second.origin := by
  have sorted := @List.pairwise_mergeSort (String × List String)
    (fun first second => precedes first.1 second.1)
    (by simpa only [precedes_eq_true_iff] using fun first second third => le_trans)
    (by simpa only [Bool.or_eq_true, precedes_eq_true_iff] using
      fun first second => le_total _ _) imports.modules
  have different := (List.pairwise_map.mp distinct).perm
    (List.mergeSort_perm imports.modules fun first second => precedes first.1 second.1).symm
    Ne.symm
  rw [block, List.pairwise_map]
  refine (sorted.and different).imp ?_
  rintro first second ⟨le, apart⟩
  rw [origin_statement, origin_statement]
  exact lt_of_le_of_ne ((precedes_eq_true_iff _ _).mp le) (place_injective.ne apart)

theorem mem_origins_block_iff {imports : Imports} (distinct : imports.modules.keys.Nodup)
    (module : String) :
    module ∈ imports.block.map Import.origin ↔ module ∈ imports.modules.keys := by
  rw [List.mem_map, Entries.mem_keys_iff]
  constructor
  · rintro ⟨entry, member, rfl⟩
    obtain ⟨module, names, found, rfl⟩ := (mem_block_iff distinct entry).mp member
    rw [origin_statement]
    exact ⟨names, found⟩
  · rintro ⟨names, found⟩
    exact ⟨statement module names, (mem_block_iff distinct _).mpr ⟨module, names, found, rfl⟩,
      origin_statement module names⟩

/-- A statement of the block imports the names that are imported from its module. -/
theorem names_of_mem_block {imports : Imports} (distinct : imports.modules.keys.Nodup)
    {entry : Import} (member : entry ∈ imports.block) :
    entry = statement entry.origin (imports.namesFrom entry.origin) := by
  obtain ⟨module, names, found, rfl⟩ := (mem_block_iff distinct entry).mp member
  rw [origin_statement, namesFrom, found]
  rfl

end Imports

/-! ## The block -/

/-- A block of imports that says what calls register, and no more, in canonical order. -/
structure IsBlockOf (calls : List ImportCall) (block : List Import) : Prop where
  /-- The statements ascend by section and module. -/
  ascending : block.Pairwise fun first second =>
    Imports.place first.origin < Imports.place second.origin
  /-- No module comes twice. -/
  once : (block.map Import.origin).Nodup
  /-- The statements are those of the registered modules. -/
  modules : ∀ module, module ∈ block.map Import.origin ↔ RegistersModule calls module
  /-- The dots in front of a module's name are all counted. -/
  dots : ∀ entry ∈ block, entry.module.toList.head? ≠ some '.'
  /-- The names of a statement ascend. -/
  namesAscend : ∀ entry ∈ block, entry.names.Pairwise (· < ·)
  /-- They are the names that are registered for its module. -/
  names : ∀ entry ∈ block, ∀ name, name ∈ entry.names ↔ RegistersName calls entry.origin name

theorem Imports.isBlockOf_ofCalls (calls : List ImportCall) :
    IsBlockOf calls (Imports.ofCalls calls).block := by
  have distinct := nodup_ofCalls calls
  refine ⟨pairwise_block distinct, ?_, ?_, ?_, ?_, ?_⟩
  · refine List.pairwise_map.mpr ((pairwise_block distinct).imp ?_)
    exact fun before same => before.ne (congrArg place same)
  · intro module
    rw [mem_origins_block_iff distinct, mem_keys_ofCalls_iff]
  · intro entry member
    rw [names_of_mem_block distinct member]
    exact head?_module_statement _ _
  · intro entry member
    rw [names_of_mem_block distinct member]
    exact pairwise_sortedNames _
  · intro entry member name
    nth_rewrite 1 [names_of_mem_block distinct member]
    rw [mem_names_statement_iff, mem_namesFrom_ofCalls_iff]

namespace IsBlockOf

variable {calls others : List ImportCall} {block other : List Import}

/-- What calls register can be read off their block. -/
theorem registersName_iff (isBlock : IsBlockOf calls block) (module name : String) :
    RegistersName calls module name ↔
      ∃ entry ∈ block, entry.origin = module ∧ name ∈ entry.names := by
  constructor
  · intro registers
    obtain ⟨call, isCall, names, isEntry, isName⟩ := registers
    obtain ⟨entry, member, rfl⟩ :=
      List.mem_map.mp ((isBlock.modules module).mpr ⟨call, isCall, names, isEntry⟩)
    exact ⟨entry, member, rfl,
      (isBlock.names entry member name).mpr ⟨call, isCall, names, isEntry, isName⟩⟩
  · rintro ⟨entry, member, rfl, isName⟩
    exact (isBlock.names entry member name).mp isName

/-- The statement that imports from a module is determined by what is registered. -/
theorem entry_eq (isBlock : IsBlockOf calls block) (isOther : IsBlockOf others other)
    (same : RegisterSame calls others) {first second : Import} (isFirst : first ∈ block)
    (isSecond : second ∈ other) (origin : first.origin = second.origin) : first = second := by
  have sameNames : first.names = second.names := by
    refine List.Pairwise.eq_of_mem_iff (isBlock.namesAscend first isFirst)
      (isOther.namesAscend second isSecond) fun name => ?_
    rw [isBlock.names first isFirst, isOther.names second isSecond, same.2, origin]
  have left := Imports.statement_of_dots first.level (isBlock.dots first isFirst) []
  have right := Imports.statement_of_dots second.level (isOther.dots second isSecond) []
  rw [← Import.origin] at left right
  rw [origin, right] at left
  cases first
  cases second
  cases left
  cases sameNames
  rfl

theorem subset (isBlock : IsBlockOf calls block) (isOther : IsBlockOf others other)
    (same : RegisterSame calls others) : block ⊆ other := by
  intro entry member
  have registered := (isBlock.modules entry.origin).mp (List.mem_map_of_mem member)
  obtain ⟨found, isFound, origin⟩ :=
    List.mem_map.mp ((isOther.modules entry.origin).mpr ((same.1 _).mp registered))
  rwa [isBlock.entry_eq isOther same member isFound origin.symm]

/-- Two blocks are the same exactly if the same is registered. -/
theorem eq_iff (isBlock : IsBlockOf calls block) (isOther : IsBlockOf others other) :
    block = other ↔ RegisterSame calls others := by
  constructor
  · rintro rfl
    refine ⟨fun module => ?_, fun module name => ?_⟩
    · rw [← isBlock.modules, isOther.modules]
    · rw [isBlock.registersName_iff, isOther.registersName_iff]
  · intro same
    have sameBack : RegisterSame others calls :=
      ⟨fun module => (same.1 module).symm, fun module name => (same.2 module name).symm⟩
    let Before : Import → Import → Prop := fun first second =>
      Imports.place first.origin < Imports.place second.origin
    have : Std.Irrefl Before := ⟨fun entry => lt_irrefl (Imports.place entry.origin)⟩
    have : Std.Antisymm Before := ⟨fun _ _ before after => absurd after before.asymm⟩
    exact List.Subset.antisymm_of_pairwise (r := Before) isBlock.ascending isOther.ascending
      (isBlock.subset isOther same) (isOther.subset isBlock sameBack)

end IsBlockOf

/-- The block of imports has one statement for each registered module, in the order of the
sections and of the modules in a section, with the names that are registered for it in ascending
order.  It is the same block for all calls that register the same, and for no others. -/
theorem canonical_imports (calls others : List ImportCall) :
    IsBlockOf calls (Imports.ofCalls calls).block ∧
      ((Imports.ofCalls calls).block = (Imports.ofCalls others).block ↔
        RegisterSame calls others) :=
  ⟨Imports.isBlockOf_ofCalls calls,
    (Imports.isBlockOf_ofCalls calls).eq_iff (Imports.isBlockOf_ofCalls others)⟩

end ApiScaffold.PythonCode

import ApiScaffold.Document.File
import ApiScaffold.Proofs.Collection.LastWritten
import ApiScaffold.Proofs.Collection.Matching
import ApiScaffold.Proofs.Collection.Optional
import ApiScaffold.Proofs.Outcome

/-!
# What valid data holds

A value that passes a check passes the checks of all its fields.  Among the entries of a mapping
the keys are written out as texts first, so of several entries whose keys are written alike only
the last one is checked and kept.

Every operation of a valid document is a valid value at its path and under its method.
-/

namespace ApiScaffold

/-! ## Checks that are passed -/

namespace Check

variable {α β : Type}

theorem both_eq_ok_iff {first : Check α} {second : Check β} {left : α} {right : β} :
    both first second = .ok (left, right) ↔ first = .ok left ∧ second = .ok right := by
  cases first <;> cases second <;> simp [both]

theorem part_eq_ok_iff {part : Check α} {construct : Check (α → β)} {value : β} :
    Check.part part construct = .ok value ↔
      ∃ make field, construct = .ok make ∧ part = .ok field ∧ make field = value := by
  cases construct <;> cases part <;> simp [Check.part, both, Except.map]

theorem below_eq_ok_iff {key : String} {check : Check α} {value : α} :
    check.below key = .ok value ↔ check = .ok value := by
  cases check <;> simp [below, Except.mapError]

theorem map_eq_ok_iff {check : Check α} {result : α → β} {value : β} :
    check.map result = .ok value ↔ ∃ before, check = .ok before ∧ result before = value := by
  cases check <;> simp [Except.map]

/-- All items pass a check exactly if each does. -/
theorem all_map_eq_ok_iff {items : List α} {check : α → Check β} {results : List β} :
    all (items.map check) = .ok results ↔
      List.Forall₂ (fun item result => check item = .ok result) items results := by
  rw [all_eq_ok_iff]
  induction items generalizing results with
  | nil => cases results <;> simp
  | cons item rest ih => cases results <;> simp [ih]

end Check

/-! ## Fields and entries -/

namespace Decoded

/-- Whether a value is null. -/
def isNull (content : Decoded) : Bool :=
  match content.value with
  | .scalar .null => true
  | _ => false

/-- The value of a field; null counts as absent. -/
def field? (content : Decoded) (name : String) : Option Decoded :=
  (content.entries?.bind fun pairs => Value.findText pairs name).filter (!·.isNull)

/-- The entries of a mapping under the texts that their keys are written as. -/
def namedEntries? (content : Decoded) : Option (List (String × Decoded)) :=
  content.entries?.bind fun pairs =>
    pairs.mapM fun pair => (Shape.writtenKey pair.1).map fun name => (name, pair.2)

/-- The entries under their texts are all the entries, in order. -/
theorem map_writtenKey_of_namedEntries? {content : Decoded} {named : List (String × Decoded)}
    (isNamed : content.namedEntries? = some named) :
    ∃ pairs, content.entries? = some pairs ∧
      pairs.map (fun pair => Shape.writtenKey pair.1) = (Entries.keys named).map some := by
  rcases Option.bind_eq_some_iff.mp isNamed with ⟨pairs, isMapping, written⟩
  refine ⟨pairs, isMapping, ?_⟩
  clear isMapping isNamed
  induction pairs generalizing named with
  | nil =>
      cases written
      rfl
  | cons pair rest ih =>
      rw [List.mapM_cons] at written
      rcases Option.bind_eq_some_iff.mp written with ⟨first, isFirst, others⟩
      rcases Option.bind_eq_some_iff.mp others with ⟨more, isMore, built⟩
      rcases Option.map_eq_some_iff.mp isFirst with ⟨name, isName, rfl⟩
      cases built
      rw [List.map_cons, Entries.keys_cons, List.map_cons, ih isMore, isName]

/-- A mapping is not null. -/
theorem isNull_eq_false_of_namedEntries? {content : Decoded} {named : List (String × Decoded)}
    (isMapping : content.namedEntries? = some named) : content.isNull = false := by
  unfold isNull
  split
  · next isNull =>
      simp [namedEntries?, entries?, form, isNull] at isMapping
  · rfl

end Decoded

namespace Shape

open Decoded

variable {α : Type} {item : Decoded → Check α}

/-- An optional field that passes is absent, or there and passes. -/
theorem rel_of_optional {name : String} {content : Decoded} {pairs : List (Scalar × Decoded)}
    {result : Option α} (isObject : content.entries? = some pairs)
    (passed : optional [name] item pairs = .ok result) :
    Option.Rel (fun part value => item part = .ok value) (content.field? name) result := by
  rw [field?, isObject, Option.bind_some]
  cases found : Value.findText pairs name with
  | none =>
      simp only [optional, find?, List.findSome?_cons, found, Option.map_none,
        List.findSome?_nil] at passed
      cases passed
      exact .none
  | some part =>
      simp only [optional, find?, List.findSome?_cons, found, Option.map_some] at passed
      split at passed
      · next isNull =>
          cases passed
          simp only [Decoded.isNull, Option.filter, isNull]
          exact .none
      · next notNull =>
          rcases Check.map_eq_ok_iff.mp passed with ⟨value, below, rfl⟩
          have kept : part.isNull = false := by
            unfold Decoded.isNull
            split
            · next isNull => exact absurd isNull notNull
            · rfl
          simp only [Option.filter, kept]
          exact .some (Check.below_eq_ok_iff.mp below)

/-- An entry that passes has a text as its key. -/
theorem entry_eq_ok {key : Scalar} {check : Check α} {name : String} {value : α}
    (passed : entry key check = .ok (name, value)) :
    scalarText key = .ok name ∧ check = .ok value := by
  rcases Check.both_eq_ok_iff.mp (Check.below_eq_ok_iff.mp passed) with ⟨isName, isValue⟩
  exact ⟨Check.below_eq_ok_iff.mp isName, isValue⟩

/-- Entries under texts match what they are checked to. -/
theorem matches_of_forall₂_entry {named : List (String × Decoded)} {checked : List (String × α)}
    (steps : List.Forall₂ (fun pair result => entry (.text pair.1) (item pair.2) = .ok result)
      named checked) :
    Entries.Matches (fun part value => item part = .ok value) named checked := by
  refine List.Forall₂.imp ?_ steps
  intro pair result passes
  rcases entry_eq_ok passes with ⟨isName, isValue⟩
  exact ⟨Except.ok.inj isName, isValue⟩

/-- The entries of a mapping that passes.  Their keys are distinct already, so writing the results
once more changes nothing. -/
theorem matches_of_namedMapping {content : Decoded} {results : List (String × α)}
    (passed : namedMapping item content = .ok results) :
    ∃ named, content.namedEntries? = some named ∧
      Entries.Matches (fun part value => item part = .ok value) (Entries.ofList named) results := by
  unfold namedMapping at passed
  split at passed
  · next pairs isMapping =>
      split at passed
      · next named isNamed =>
          rcases Check.map_eq_ok_iff.mp passed with ⟨checked, each, rfl⟩
          have matching := matches_of_forall₂_entry (Check.all_map_eq_ok_iff.mp each)
          have distinct : (Entries.keys checked).Nodup :=
            matching.keys_eq ▸ Entries.nodup_keys_ofList named
          have same : Entries.ofList checked = checked := Entries.putAll_eq_append distinct
          refine ⟨named, ?_, same.symm ▸ matching⟩
          rw [namedEntries?, isMapping]
          exact isNamed
      · cases passed
  · cases passed

end Shape

/-! ## Parts of a document -/

open Decoded

/-- An object that passes has entries, whose fields pass. -/
theorem Shape.exists_of_object {α : Type} {fields : List (Scalar × Decoded) → Check α}
    {content : Decoded} {value : α} (passed : Shape.object fields content = .ok value) :
    ∃ pairs, content.entries? = some pairs ∧ fields pairs = .ok value := by
  unfold Shape.object at passed
  split at passed
  · next pairs isObject => exact ⟨pairs, isObject, passed⟩
  · cases passed

/-- The responses of a valid operation are those of the data, under their written keys. -/
theorem OperationObject.responses_of_ofDecoded {room : Nat} {content : Decoded}
    {object : OperationObject} (passed : OperationObject.ofDecoded room content = .ok object) :
    Option.Rel (fun part responses => ∃ named, part.namedEntries? = some named ∧
        (Entries.ofList named).keys = Entries.keys responses)
      (content.field? "responses") object.responses := by
  rcases Shape.exists_of_object passed with ⟨pairs, isObject, fields⟩
  rcases Check.part_eq_ok_iff.mp fields with ⟨_, responses, withBody, isResponses, rfl⟩
  rcases Check.part_eq_ok_iff.mp withBody with ⟨_, _, withParameters, _, rfl⟩
  rcases Check.part_eq_ok_iff.mp withParameters with ⟨_, _, withId, _, rfl⟩
  rcases Check.part_eq_ok_iff.mp withId with ⟨_, _, withDescription, _, rfl⟩
  rcases Check.part_eq_ok_iff.mp withDescription with ⟨_, _, withSummary, _, rfl⟩
  rcases Check.part_eq_ok_iff.mp withSummary with ⟨_, _, withTags, _, rfl⟩
  rcases Check.part_eq_ok_iff.mp withTags with ⟨_, _, constructor, _, rfl⟩
  cases constructor
  refine (Shape.rel_of_optional isObject isResponses).imp fun part responses mapping => ?_
  rcases Shape.matches_of_namedMapping mapping with ⟨named, isNamed, matching⟩
  exact ⟨named, isNamed, matching.keys_eq⟩

/-- The operations of a valid path item. -/
theorem PathItemObject.exists_operationsOf {room : Nat} {content : Decoded}
    {item : PathItemObject} (passed : PathItemObject.ofDecoded room content = .ok item) :
    ∃ pairs room, content.entries? = some pairs ∧
      PathItemObject.operationsOf room pairs = .ok item.operations := by
  rcases Shape.exists_of_object passed with ⟨pairs, isObject, fields⟩
  rcases Check.part_eq_ok_iff.mp fields with ⟨_, _, withOperations, _, rfl⟩
  rcases Check.part_eq_ok_iff.mp withOperations with ⟨_, operations, withTexts, isOperations, rfl⟩
  rcases Check.part_eq_ok_iff.mp withTexts with ⟨_, _, withSummary, _, rfl⟩
  rcases Check.part_eq_ok_iff.mp withSummary with ⟨_, _, constructor, _, rfl⟩
  cases constructor
  exact ⟨pairs, _, isObject, isOperations⟩

/-- Each operation of a valid path item is a valid value under its method. -/
theorem PathItemObject.exists_of_mem_operations {room : Nat} {content : Decoded}
    {item : PathItemObject} (passed : PathItemObject.ofDecoded room content = .ok item)
    {method : Method} {object : OperationObject} (member : (method, object) ∈ item.operations) :
    ∃ part, content.field? method.name = some part ∧
      ∃ room, OperationObject.ofDecoded room part = .ok object := by
  rcases PathItemObject.exists_operationsOf passed with ⟨pairs, _, isObject, isOperations⟩
  rcases Check.map_eq_ok_iff.mp isOperations with ⟨declared, each, isFiltered⟩
  rw [← isFiltered] at member
  rcases List.mem_filterMap.mp member with ⟨_, isDeclared, rfl⟩
  rcases Entries.exists_left_of_forall₂ (Check.all_map_eq_ok_iff.mp each) isDeclared with
    ⟨other, _, passes⟩
  rcases Check.map_eq_ok_iff.mp passes with ⟨operation?, isOptional, isEntry⟩
  rcases Option.map_eq_some_iff.mp isEntry with ⟨operation, rfl, same⟩
  cases same
  rcases (Shape.rel_of_optional isObject isOptional).exists_left object rfl with
    ⟨part, isField, isOperation⟩
  exact ⟨part, isField, _, isOperation⟩

/-- The methods of a valid path item are in their canonical order. -/
theorem PathItemObject.methods_sublist {room : Nat} {content : Decoded} {item : PathItemObject}
    (passed : PathItemObject.ofDecoded room content = .ok item) :
    (Entries.keys item.operations).Sublist Method.all := by
  rcases PathItemObject.exists_operationsOf passed with ⟨pairs, _, _, isOperations⟩
  rcases Check.map_eq_ok_iff.mp isOperations with ⟨declared, each, isFiltered⟩
  rw [← isFiltered]
  have steps := Check.all_map_eq_ok_iff.mp each
  clear each isFiltered isOperations
  generalize Method.all = methods at steps ⊢
  induction steps with
  | nil => exact List.Sublist.refl _
  | @cons method entry _ _ step _ ih =>
      rcases Check.map_eq_ok_iff.mp step with ⟨operation?, _, rfl⟩
      cases operation? with
      | none => exact ih.cons method
      | some operation => exact ih.cons_cons method

/-- The paths of a valid document, which are none if there is no such field. -/
theorem Document.exists_pathsOf {content : Decoded} {document : Document}
    (passed : Document.ofDecoded content = .ok document) :
    ∃ pairs, content.entries? = some pairs ∧
      Document.pathsOf SchemaObject.nestingLimitWithin pairs = .ok document.paths := by
  rcases Shape.exists_of_object passed with ⟨pairs, isObject, fields⟩
  rcases Check.part_eq_ok_iff.mp fields with ⟨_, _, withPaths, _, rfl⟩
  rcases Check.part_eq_ok_iff.mp withPaths with ⟨_, paths, withInfo, isPaths, rfl⟩
  rcases Check.part_eq_ok_iff.mp withInfo with ⟨_, _, withVersion, _, rfl⟩
  rcases Check.part_eq_ok_iff.mp withVersion with ⟨_, _, constructor, _, rfl⟩
  cases constructor
  exact ⟨pairs, isObject, isPaths⟩

/-- Each path item of a valid document is a valid value, the last one at its path. -/
theorem Document.exists_of_mem_paths {content : Decoded} {document : Document}
    (passed : Document.ofDecoded content = .ok document) {uri : String} {item : PathItemObject}
    (member : (uri, item) ∈ document.paths) :
    ∃ paths named part, content.field? "paths" = some paths ∧ paths.namedEntries? = some named ∧
      Entries.LastWritten named uri part ∧
        ∃ room, PathItemObject.ofDecoded room part = .ok item := by
  rcases Document.exists_pathsOf passed with ⟨pairs, isObject, isPaths⟩
  unfold Document.pathsOf at isPaths
  split at isPaths
  · rw [← Except.ok.inj isPaths] at member
    cases member
  · next value isField =>
      rcases Shape.matches_of_namedMapping (Check.below_eq_ok_iff.mp isPaths) with
        ⟨named, isNamed, matching⟩
      rcases matching.exists_left member with ⟨part, isPart, passes⟩
      have notNull := isNull_eq_false_of_namedEntries? isNamed
      refine ⟨value, named, part, ?_, isNamed, Entries.mem_ofList_iff.mp isPart, _, passes⟩
      rw [field?, isObject, Option.bind_some, isField]
      simp [Option.filter, notNull]

/-- No path of a valid document comes twice. -/
theorem Document.nodup_keys_paths {content : Decoded} {document : Document}
    (passed : Document.ofDecoded content = .ok document) :
    (Entries.keys document.paths).Nodup := by
  rcases Document.exists_pathsOf passed with ⟨pairs, _, isPaths⟩
  unfold Document.pathsOf at isPaths
  split at isPaths
  · rw [← Except.ok.inj isPaths]
    exact List.nodup_nil
  · rcases Shape.matches_of_namedMapping (Check.below_eq_ok_iff.mp isPaths) with
      ⟨named, _, matching⟩
    exact matching.keys_eq ▸ Entries.nodup_keys_ofList named

/-- Whether data has a value at a path and under a method.  Of several entries whose keys are
written like the path, the last one counts. -/
def Decoded.Declares (content : Decoded) (uri : String) (method : Method) (part : Decoded) : Prop :=
  ∃ paths named item, content.field? "paths" = some paths ∧ paths.namedEntries? = some named ∧
    Entries.LastWritten named uri item ∧ item.field? method.name = some part

/-- The declared responses of an operation, under their keys. -/
def Decoded.responseEntries (content : Decoded) : List (Scalar × Decoded) :=
  ((content.field? "responses").bind entries?).getD []

end ApiScaffold

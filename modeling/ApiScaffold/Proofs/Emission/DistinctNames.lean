import ApiScaffold.Emission.PythonModule
import ApiScaffold.Proofs.Collection.Matching
import ApiScaffold.Proofs.Outcome
import Mathlib.Data.List.Induction
import Mathlib.Data.List.Nodup

/-!
# Items with distinct names

The fields of a class, the arguments of a handler and the handlers of a module are worked out one
after the other, and none may take a name that is taken.  All three are one walk over a list with
the names that were seen: it succeeds exactly if every item does and the names differ.

The arguments of a handler belong to the parts of an input: its parameters with their locations,
and its body.
-/

namespace ApiScaffold

/-! ## Repetitions -/

/-- The first item of a list that is there already. -/
def FirstRepeated {α : Type} (items : List α) (item : α) : Prop :=
  ∃ before after, items = before ++ item :: after ∧ before.Nodup ∧ item ∈ before

theorem FirstRepeated.not_nodup {α : Type} {items : List α} {item : α}
    (first : FirstRepeated items item) : ¬ items.Nodup := by
  obtain ⟨before, after, rfl, _, member⟩ := first
  intro distinct
  exact (List.nodup_append.mp distinct).2.2 item member item List.mem_cons_self rfl

/-- There is at most one. -/
theorem FirstRepeated.unique {α : Type} {items : List α} {item other : α}
    (first : FirstRepeated items item) (second : FirstRepeated items other) : item = other := by
  obtain ⟨before, after, rfl, distinct, member⟩ := first
  obtain ⟨earlier, later, split, otherDistinct, otherMember⟩ := second
  rcases List.append_eq_append_iff.mp split with ⟨between, isEarlier, rest⟩ |
      ⟨between, isBefore, rest⟩
  · cases between with
    | nil => exact (List.cons.inj rest).1
    | cons next _ =>
        rw [isEarlier, ← (List.cons.inj rest).1] at otherDistinct
        exact absurd otherDistinct (FirstRepeated.not_nodup ⟨before, _, rfl, distinct, member⟩)
  · cases between with
    | nil => exact ((List.cons.inj rest).1).symm
    | cons next _ =>
        rw [isBefore, ← (List.cons.inj rest).1] at distinct
        exact absurd distinct
          (FirstRepeated.not_nodup ⟨earlier, _, rfl, otherDistinct, otherMember⟩)

/-- There is one exactly if the items are not all different. -/
theorem exists_firstRepeated_iff {α : Type} (items : List α) :
    (∃ item, FirstRepeated items item) ↔ ¬ items.Nodup := by
  refine ⟨fun ⟨item, first⟩ => first.not_nodup, ?_⟩
  induction items using List.reverseRecOn with
  | nil => exact fun repeated => absurd List.nodup_nil repeated
  | append_singleton items last ih =>
      intro repeated
      by_cases distinct : items.Nodup
      · have member : last ∈ items := by
          by_contra absent
          exact repeated (List.concat_eq_append ▸ distinct.concat absent)
        exact ⟨last, items, [], rfl, distinct, member⟩
      · obtain ⟨item, before, after, rfl, first⟩ := ih distinct
        exact ⟨item, before, after ++ [last], by simp, first⟩

/-- Renaming that keeps items apart does not change which is repeated first. -/
theorem firstRepeated_map_iff {α β : Type} {rename : α → β} (injective : rename.Injective)
    {items : List α} {item : α} :
    FirstRepeated (items.map rename) (rename item) ↔ FirstRepeated items item := by
  constructor
  · rintro ⟨_, _, split, distinct, member⟩
    obtain ⟨before, rest, rfl, rfl, isRest⟩ := List.map_eq_append_iff.mp split
    obtain ⟨other, after, rfl, sameName, -⟩ := List.map_eq_cons_iff.mp isRest
    cases injective sameName
    exact ⟨before, after, rfl, distinct.of_map rename,
      (List.mem_map_of_injective injective).mp member⟩
  · rintro ⟨before, after, rfl, distinct, member⟩
    exact ⟨before.map rename, after.map rename, by rw [List.map_append, List.map_cons],
      distinct.map injective, List.mem_map_of_mem member⟩

namespace Outcome

variable {α β : Type} {owner : String} {name : β → String} {step : α → Outcome β}

/-- Work out items one after the other.  No two results may have the same name. -/
def distinctly (owner : String) (name : β → String) (step : α → Outcome β) :
    List String → List α → Outcome (List β)
  | _, [] => .ok []
  | seen, item :: rest => do
      let result ← step item
      if seen.contains (name result) then throw (.duplicateName (name result) owner)
      let results ← distinctly owner name step (name result :: seen) rest
      pure (result :: results)

/-- The walk succeeds exactly if the results belong to the items and their names differ, also from
those that were seen before. -/
theorem distinctly_eq_ok_iff {seen : List String} {items : List α} {results : List β} :
    distinctly owner name step seen items = .ok results ↔
      List.Forall₂ (fun item result => step item = .ok result) items results ∧
        (results.map name).Nodup ∧ ∀ result ∈ results, name result ∉ seen := by
  induction items generalizing seen results with
  | nil =>
      rw [distinctly, List.forall₂_nil_left_iff]
      constructor
      · rintro equal
        cases equal
        simp
      · rintro ⟨rfl, _⟩
        rfl
  | cons item rest ih =>
      rw [distinctly, bind_eq_ok_iff, List.forall₂_cons_left_iff]
      constructor
      · rintro ⟨result, stepped, more⟩
        split at more
        · cases more
        · next fresh =>
            obtain ⟨results, walked, wrapped⟩ := bind_eq_ok_iff.mp more
            cases wrapped
            obtain ⟨pairs, distinct, unseen⟩ := ih.mp walked
            simp only [List.mem_cons, not_or] at unseen
            rw [List.map_cons, List.nodup_cons, List.forall_mem_cons]
            refine ⟨⟨result, results, stepped, pairs, rfl⟩, ⟨?_, distinct⟩, by simpa using fresh,
              fun other member => (unseen other member).2⟩
            rintro taken
            obtain ⟨other, member, sameName⟩ := List.mem_map.mp taken
            exact (unseen other member).1 sameName
      · rintro ⟨⟨result, others, stepped, pairs, rfl⟩, distinct, unseen⟩
        rw [List.map_cons, List.nodup_cons] at distinct
        rw [List.forall_mem_cons] at unseen
        refine ⟨result, stepped, ?_⟩
        rw [if_neg (by simpa using unseen.1)]
        refine bind_eq_ok_iff.mpr ⟨others, ih.mpr ⟨pairs, distinct.2, ?_⟩, rfl⟩
        intro other member taken
        rcases List.mem_cons.mp taken with sameName | seenBefore
        · exact distinct.1 (sameName ▸ List.mem_map_of_mem member)
        · exact unseen.2 other member seenBefore

/-- If every item can be worked out, the walk fails exactly with the first name that is there
already.  The names that were seen stand in front of those that are to come. -/
theorem distinctly_eq_error_iff {seen : List String} (unseen : seen.Nodup) {items : List α}
    {results : List β}
    (pairs : List.Forall₂ (fun item result => step item = .ok result) items results)
    {failure : Failure} :
    distinctly owner name step seen items = .error failure ↔
      ∃ taken, FirstRepeated (seen.reverse ++ results.map name) taken ∧
        failure = .duplicateName taken owner := by
  induction pairs generalizing seen with
  | nil =>
      refine iff_of_false (fun failed => nomatch failed) ?_
      rintro ⟨taken, first, _⟩
      exact first.not_nodup (by simpa using unseen)
  | @cons item result items results stepped pairs ih =>
      have walk : distinctly owner name step seen (item :: items) =
          if seen.contains (name result) then .error (.duplicateName (name result) owner)
          else (distinctly owner name step (name result :: seen) items).map (result :: ·) := by
        rw [distinctly, stepped]
        rfl
      rw [walk]
      by_cases member : name result ∈ seen
      · have first : FirstRepeated (seen.reverse ++ (result :: results).map name) (name result) :=
          ⟨seen.reverse, results.map name, rfl, List.nodup_reverse.mpr unseen,
            List.mem_reverse.mpr member⟩
        rw [if_pos (List.contains_iff_mem.mpr member), Except.error.injEq]
        constructor
        · rintro rfl
          exact ⟨name result, first, rfl⟩
        · rintro ⟨taken, isFirst, rfl⟩
          rw [first.unique isFirst]
      · rw [if_neg (by simpa using member), List.map_cons,
          List.append_cons, ← List.reverse_cons,
          ← ih (List.nodup_cons.mpr ⟨member, unseen⟩)]
        cases distinctly owner name step (name result :: seen) items <;> simp [Except.map]

/-- The walk fails with nothing but what its steps fail with, and with names that are taken. -/
theorem failsOnly_distinctly {allowed : Failure → Prop} {seen : List String} {items : List α}
    (duplicate : ∀ taken, allowed (.duplicateName taken owner))
    (each : ∀ item ∈ items, FailsOnly allowed (step item)) :
    FailsOnly allowed (distinctly owner name step seen items) := by
  induction items generalizing seen with
  | nil => exact .ok []
  | cons item rest ih =>
      rw [List.forall_mem_cons] at each
      rw [distinctly]
      apply each.1.bind
      intro result _
      split
      · exact .error (duplicate _)
      · apply (ih each.2).bind
        intro results _
        exact .ok _

end Outcome

/-- A part of an input: a parameter at a location, or the body. -/
inductive InputPart where
  | parameter (location : FieldLocation) (parameter : Parameter)
  | body (model : Model)

/-- The model of a part. -/
def InputPart.model : InputPart → Model
  | .parameter _ given => given.model
  | .body given => given

/-- The parts of an input in the order in which handlers take them. -/
def OperationInput.parts (input : OperationInput) : List InputPart :=
  input.path.map (.parameter .path) ++ input.query.map (.parameter .query) ++
    input.header.map (.parameter .header) ++ input.body.toList.map .body

namespace PythonCode

variable {service : Service}

/-! ## Fields, arguments and handlers -/

theorem fieldCodes_eq_distinctly (owner : String) (seen : List String) (fields : List Field) :
    fieldCodes service owner seen fields =
      Outcome.distinctly owner FieldCode.name (fieldCode service) seen fields := by
  induction fields generalizing seen with
  | nil => rfl
  | cons field rest ih => simp only [fieldCodes, Outcome.distinctly, ih]

theorem handlerCodes_eq_distinctly (seen : List String) (operations : List Operation) :
    handlerCodes service seen operations =
      Outcome.distinctly "routes" (fun code => code.definition.name) (handlerCode service) seen
        operations := by
  induction operations generalizing seen with
  | nil => rfl
  | cons operation rest ih => simp only [handlerCodes, Outcome.distinctly, ih]

/-- The argument of a part of an input. -/
def partArgument (service : Service) : InputPart → Outcome ArgumentCode
  | .parameter location parameter => parameterArgument service location parameter
  | .body model => bodyArgument service model

theorem distinctArguments_eq_distinctly (owner : String) (seen : List String)
    (parts : List InputPart) :
    distinctArguments owner seen (parts.map (partArgument service)) =
      Outcome.distinctly owner ArgumentCode.name (partArgument service) seen parts := by
  induction parts generalizing seen with
  | nil => rfl
  | cons part rest ih =>
      simp only [List.map_cons, distinctArguments, Outcome.distinctly, ih]

theorem handlerArguments_eq_distinctly (owner : String) (input : OperationInput) :
    handlerArguments service owner input =
      Outcome.distinctly owner ArgumentCode.name (partArgument service) [] input.parts := by
  rw [← distinctArguments_eq_distinctly, handlerArguments, OperationInput.parts]
  simp only [List.map_append, List.map_map, Function.comp_def, partArgument]

/-- The arguments that are given come first, and those that may be absent last. -/
def orderedArguments (arguments : List ArgumentCode) : List Argument :=
  (arguments.filter ArgumentCode.mandatory ++
    arguments.filter fun argument => !argument.mandatory).map ArgumentCode.argument

/-- Arguments in the order of a handler are all arguments. -/
theorem forall_mem_orderedArguments_iff {arguments : List ArgumentCode} {holds : Argument → Prop} :
    (∀ argument ∈ orderedArguments arguments, holds argument) ↔
      ∀ argument ∈ arguments, holds argument.argument := by
  rw [orderedArguments, List.forall_mem_map]
  refine forall_congr' fun argument => ?_
  simp only [List.mem_append, List.mem_filter, Bool.not_eq_true', ← and_or_left]
  cases argument.mandatory <;> simp

/-- A handler that is made of arguments: one for each part of the input, with different names. -/
structure HandlerCode.MadeOf (service : Service) (operation : Operation)
    (arguments : List ArgumentCode) (code : HandlerCode) : Prop where
  isName : handlerName operation = .ok code.definition.name
  pairs : List.Forall₂ (fun part argument => partArgument service part = .ok argument)
    operation.input.parts arguments
  distinct : (arguments.map ArgumentCode.name).Nodup
  ordered : code.definition.arguments = orderedArguments arguments
  body : code.definition.body =
    [.documentation (handlerDocumentation operation),
      .raise (.call (.name "NotImplementedError") [.text operation.id] [])]
  imports : code.imports = arguments.flatMap fun argument => argument.type.imports
  structs : code.structs =
    (arguments.flatMap fun argument => argument.type.structs) ++ [outputTypeName operation.id]

/-- Every handler is made of the arguments of its operation. -/
theorem exists_madeOf_of_handlerCode {operation : Operation} {code : HandlerCode}
    (built : handlerCode service operation = .ok code) :
    ∃ arguments, code.MadeOf service operation arguments := by
  obtain ⟨name, isName, more⟩ := Outcome.bind_eq_ok_iff.mp built
  obtain ⟨arguments, areArguments, wrapped⟩ := Outcome.bind_eq_ok_iff.mp more
  rw [handlerArguments_eq_distinctly] at areArguments
  obtain ⟨pairs, distinct, _⟩ := Outcome.distinctly_eq_ok_iff.mp areArguments
  rw [List.partition_eq_filter_filter] at wrapped
  cases wrapped
  exact ⟨arguments, isName, pairs, distinct, rfl, rfl, rfl, rfl⟩

/-- Every operation gets a handler that is made of its arguments, and the names of handlers
differ. -/
theorem madeOf_of_handlers {codes : List HandlerCode} (built : handlers service = .ok codes) :
    List.Forall₂ (fun operation code => ∃ arguments, code.MadeOf service operation arguments)
        service.operations codes ∧ (codes.map fun code => code.definition.name).Nodup := by
  rw [handlers, handlerCodes_eq_distinctly] at built
  obtain ⟨pairs, distinct, _⟩ := Outcome.distinctly_eq_ok_iff.mp built
  exact ⟨pairs.imp fun _ _ => exists_madeOf_of_handlerCode, distinct⟩

end PythonCode

end ApiScaffold

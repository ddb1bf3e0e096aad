import ApiScaffold.Proofs.Collection.Rearrangement
import ApiScaffold.Proofs.Document.Fields
import ApiScaffold.Proofs.Service.FailingAlike
import ApiScaffold.Proofs.Service.InventedNames
import Mathlib.Data.String.Basic

/-!
# The first operation that fails

All operations are built before anything else is done with them: paths ascend, and the methods of a
path are in canonical order.  So if some operation cannot be built, the service fails for the first
one of them.  The failure says which operation it is, and what is wrong with it.

What comes after that operation takes part in one way only.  The type names of its input and output
are reserved, so it may change the names that hoisting invents, and a pointer in an output is looked
up among these names as well.
-/

namespace ApiScaffold

/-! ## The order of operations -/

/-- The place of a method in the canonical order. -/
def Method.place (method : Method) : Nat :=
  Method.all.idxOf method

namespace DeclaredOperation

/-- Whether an operation comes before another one. -/
def Precedes (first second : DeclaredOperation) : Prop :=
  first.uri < second.uri ∨
    first.uri = second.uri ∧ first.method.place < second.method.place

/-- The failure that says with which operation something is wrong, and what. -/
def report (declared : DeclaredOperation) (cause : Failure) : Failure :=
  .operation declared.id (some declared.method.name) (some declared.uri) (some cause)

end DeclaredOperation

/-- The paths of a valid document ascend, and no path comes twice. -/
theorem Document.pairwise_sortedPaths {content : Decoded} {document : Document}
    (passed : Document.ofDecoded content = .ok document) :
    (sortedPaths document).Pairwise fun first second => first.1 < second.1 := by
  have ascending : (sortedPaths document).Pairwise fun first second => first.1 ≤ second.1 :=
    Entries.pairwise_sorted document.paths
  have sorted : (sortedPaths document).Perm document.paths := List.mergeSort_perm _ _
  have different := (List.pairwise_map.mp (Document.nodup_keys_paths passed)).perm sorted.symm
    Ne.symm
  exact (ascending.and different).imp fun ⟨le, apart⟩ => lt_of_le_of_ne le apart

/-- The operations of a valid document are strictly ordered. -/
theorem Document.pairwise_declaredOperations {content : Decoded} {document : Document}
    (passed : Document.ofDecoded content = .ok document) :
    document.declaredOperations.Pairwise DeclaredOperation.Precedes := by
  rw [declaredOperations, List.pairwise_flatMap]
  constructor
  · rintro ⟨uri, item⟩ member
    have inPaths : (uri, item) ∈ document.paths := (List.mergeSort_perm _ _).mem_iff.mp member
    obtain ⟨_, _, _, _, _, _, room, isItem⟩ := Document.exists_of_mem_paths passed inPaths
    have canonical : Method.all.Pairwise fun first second => first.place < second.place := by
      decide
    have methods := canonical.sublist (PathItemObject.methods_sublist isItem)
    rw [List.pairwise_map]
    exact (List.pairwise_map.mp methods).imp fun before => Or.inr ⟨rfl, before⟩
  · refine (Document.pairwise_sortedPaths passed).imp ?_
    intro first second before one isOne two isTwo
    obtain ⟨_, _, rfl⟩ := List.mem_map.mp isOne
    obtain ⟨_, _, rfl⟩ := List.mem_map.mp isTwo
    exact Or.inl before

/-! ## Reports -/

namespace Definitions

variable {definitions : Definitions}

/-- Whether an operation cannot be built, and for which cause. -/
def FailsOn (definitions : Definitions) (declared : DeclaredOperation) (cause : Failure) : Prop :=
  definitions.assemble declared.id declared.uri declared.method declared.shared declared.object =
    .error cause

/-- The cause is a matter of structure. -/
theorem FailsOn.structural {declared : DeclaredOperation} {cause : Failure}
    (fails : definitions.FailsOn declared cause) : cause.Structural :=
  definitions.failsOnly_assemble _ _ _ _ _ cause fails

/-- An operation that cannot be built is reported with the cause. -/
theorem build_eq_error_iff {declared : DeclaredOperation} {failure : Failure} :
    definitions.build declared = .error failure ↔
      ∃ cause, definitions.FailsOn declared cause ∧ failure = declared.report cause := by
  rw [build, operationAt, Outcome.mapError_eq_error_iff]
  refine exists_congr fun cause => and_congr_right fun fails => ?_
  have documented : cause.isDocumented = true := (FailsOn.structural fails).documented
  rw [if_pos documented]
  exact eq_comm

/-- An operation that cannot be built, while all operations before it can be built. -/
structure FailsFirst (definitions : Definitions) (before : List DeclaredOperation)
    (failing : DeclaredOperation) (cause : Failure) : Prop where
  earlier : ∀ declared ∈ before, ∃ built, definitions.build declared = .ok built
  fails : definitions.FailsOn failing cause

/-- If some operation cannot be built, there is a first one. -/
theorem exists_failsFirst {operations : List DeclaredOperation} {declared : DeclaredOperation}
    (member : declared ∈ operations) {failure : Failure}
    (failed : definitions.build declared = .error failure) :
    ∃ before failing after cause, operations = before ++ failing :: after ∧
      definitions.FailsFirst before failing cause := by
  cases run : operations.mapM definitions.build with
  | ok results =>
      obtain ⟨result, _, built⟩ := Outcome.exists_of_mapM_eq_ok run member
      rw [failed] at built
      cases built
  | error first =>
      obtain ⟨before, failing, after, split, earlier, failedFirst⟩ :=
        Outcome.mapM_eq_error_iff.mp run
      obtain ⟨cause, fails, _⟩ := build_eq_error_iff.mp failedFirst
      exact ⟨before, failing, after, cause, split, earlier, fails⟩

/-- Definitions that fail alike have the same first failure. -/
theorem FailsFirst.of_same {one two : Definitions} {before : List DeclaredOperation}
    {failing : DeclaredOperation} {cause : Failure} (first : one.FailsFirst before failing cause)
    (same : one.SameComponents two)
    (pointsAlike : ∀ declared ∈ before ++ [failing], one.OutputPointsAlike two declared) :
    two.FailsFirst before failing cause := by
  rw [List.forall_mem_append, List.forall_mem_singleton] at pointsAlike
  constructor
  · intro declared member
    exact (build_failAlike same (pointsAlike.1 declared member)).exists_ok
      (first.earlier declared member)
  · exact ((assemble_failAlike same pointsAlike.2 _).eq_error_iff cause).mp first.fails

end Definitions

/-! ## Services -/

namespace Document

variable {document other : Document} {definitions known : Definitions}

/-- A service fails as its operations do. -/
theorem service_eq_error_of_operations (compiled : document.definitions = .ok definitions)
    {failure : Failure} (failed : definitions.operations = .error failure) :
    document.service = .error failure := by
  obtain ⟨models, areModels, rest⟩ := Outcome.bind_eq_ok_iff.mp compiled
  obtain ⟨parameters, areParameters, wrapped⟩ := Outcome.bind_eq_ok_iff.mp rest
  cases wrapped
  rw [service_eq, draft, areModels]
  simp only [areParameters, failed, bind, Except.bind]

/-- A service fails for the first operation that cannot be built. -/
theorem service_of_failsFirst (compiled : document.definitions = .ok definitions)
    {before after : List DeclaredOperation} {failing : DeclaredOperation} {cause : Failure}
    (split : document.declaredOperations = before ++ failing :: after)
    (first : definitions.FailsFirst before failing cause) :
    document.service = .error (failing.report cause) := by
  have failed : definitions.document.declaredOperations.mapM definitions.build =
      .error (failing.report cause) := by
    rw [(definitions_spec compiled).1]
    exact Outcome.mapM_eq_error_iff.mpr ⟨before, failing, after, split, first.earlier,
      Definitions.build_eq_error_iff.mpr ⟨cause, first.fails, rfl⟩⟩
  exact service_eq_error_of_operations compiled
    (Outcome.bind_eq_error_iff.mpr (Or.inl failed))

/-- Documents with the same components have the same definitions, up to their models. -/
theorem sameComponents_of_definitions (same : other.components = document.components)
    (compiled : document.definitions = .ok definitions)
    (otherCompiled : other.definitions = .ok known) : definitions.SameComponents known := by
  obtain ⟨rfl, declared, areDeclared, hoisted⟩ := definitions_spec compiled
  obtain ⟨rfl, others, areOthers, otherHoisted⟩ := definitions_spec otherCompiled
  have sameDeclared : known.document.declaredParameters =
      definitions.document.declaredParameters := by
    simp only [declaredParameters, parameters, resolve_eq_of_components same, same]
  rw [areDeclared, areOthers] at sameDeclared
  cases sameDeclared
  exact ⟨same.symm, hoisted.keys_eq.symm.trans otherHoisted.keys_eq⟩

/-- Whenever a service fails for an operation, the cause is a matter of structure. -/
theorem structural_of_service {id : String} {method uri : Option String} {cause : Option Failure}
    (failed : document.service = .error (.operation id method uri cause)) :
    ∃ structural : Failure, cause = some structural ∧ structural.Structural := by
  rcases drafting_or_checkNames_of_service failed with drafting | ⟨draft, _, names⟩
  · cases drafting with
    | structural impossible => cases impossible
    | operation _ _ _ structural => exact ⟨_, rfl, structural⟩
  · cases draft.failsOnly_checkNames _ names

/-- If the components of a document compile and some operation cannot be built, the service fails
with a report of the first such operation in order of paths and methods.  The cause is a matter of
structure, and no report itself.  Other operations that come after it change the report only if they
change whether a pointer in the output of an operation up to it is the name of a model. -/
theorem reports_first_failure (compiled : document.definitions = .ok definitions) :
    (∀ content, Document.ofDecoded content = .ok document →
      document.declaredOperations.Pairwise DeclaredOperation.Precedes) ∧
    (∀ declared ∈ document.declaredOperations, ∀ failure,
      definitions.build declared = .error failure →
        ∃ before failing after cause,
          document.declaredOperations = before ++ failing :: after ∧
          definitions.FailsFirst before failing cause ∧ cause.Structural ∧
          document.service = .error (failing.report cause) ∧
          ∀ (other : Document) (known : Definitions) (rest : List DeclaredOperation),
            other.components = document.components → other.definitions = .ok known →
            other.declaredOperations = before ++ failing :: rest →
            (∀ earlier ∈ before ++ [failing], definitions.OutputPointsAlike known earlier) →
              other.service = .error (failing.report cause)) ∧
    ∀ id method uri cause, document.service = .error (.operation id method uri cause) →
      ∃ structural : Failure, cause = some structural ∧ structural.Structural := by
  refine ⟨fun content => pairwise_declaredOperations, ?_, fun _ _ _ _ => structural_of_service⟩
  intro declared member failure failed
  obtain ⟨before, failing, after, cause, split, first⟩ :=
    Definitions.exists_failsFirst member failed
  refine ⟨before, failing, after, cause, split, first, first.fails.structural,
    service_of_failsFirst compiled split first, ?_⟩
  intro other known rest sameComponents otherCompiled otherSplit pointsAlike
  have same := sameComponents_of_definitions sameComponents compiled otherCompiled
  exact service_of_failsFirst otherCompiled otherSplit (first.of_same same pointsAlike)

end Document

/-! ## A pointer to an invented name -/

/-- An operation without parts. -/
def plainOperation (id : String) : OperationObject :=
  ⟨none, none, none, some id, none, none, none⟩

/-- A path with one operation. -/
def pathOf (operation : OperationObject) : PathItemObject :=
  ⟨none, none, [(.get, operation)], none⟩

/-- An operation with a header that points to the name of a nested struct, and with one that has
no schema. -/
def strayOperation : OperationObject :=
  { plainOperation "a" with
    responses := some [("200", ⟨none, none, some
      [("X-Widget", ⟨none, none, none, some (.pointer "#/components/schemas/WidgetInput")⟩),
        ("X-Rest", ⟨none, none, none, none⟩)], none⟩)] }

/-- The operation as it is declared. -/
def strayDeclared : DeclaredOperation :=
  ⟨"/a", .get, [], strayOperation⟩

/-- A document with a nested struct, this operation, and others after it. -/
def strayDocument (after : Entries String PathItemObject) : Document where
  openapi := "3.0.0"
  info := none
  paths := ("/a", pathOf strayOperation) :: after
  components := some {
    schemas := some [("Widget", .object [("input", .object [("id", .text)])])]
    parameters := none, responses := none, requestBodies := none, headers := none }

/-- The document with one more operation. -/
def strayDocumentWith (id : String) : Document :=
  strayDocument [("/b", pathOf (plainOperation id))]

theorem declaredOperations_strayDocument :
    (strayDocument []).declaredOperations = [strayDeclared] := by
  have inOrder : sortedPaths (strayDocument []) = (strayDocument []).paths :=
    List.mergeSort_of_pairwise (by decide)
  rw [Document.declaredOperations, inOrder]
  rfl

theorem declaredOperations_strayDocumentWith (id : String) :
    (strayDocumentWith id).declaredOperations =
      [strayDeclared, ⟨"/b", .get, [], plainOperation id⟩] := by
  have ascending : (strayDocumentWith id).paths.Pairwise fun first second =>
      decide (first.1 ≤ second.1) = true := by
    rw [strayDocumentWith, strayDocument, List.pairwise_pair]
    change decide ("/a" ≤ "/b") = true
    decide
  have inOrder : sortedPaths (strayDocumentWith id) = (strayDocumentWith id).paths :=
    List.mergeSort_of_pairwise ascending
  rw [Document.declaredOperations, inOrder]
  rfl

/-- The names of the models of definitions, and the failure with which the operation is built. -/
def Definitions.showsStray (names : List String) (test : Failure → Bool)
    (definitions : Definitions) : Bool :=
  decide (definitions.models.keys = names) &&
    (definitions.assemble "a" "/a" .get [] strayOperation).failsWith test

/-- Whether a field is missing. -/
def Failure.isMissingField : Failure → Bool
  | .missingField _ _ => true
  | _ => false

/-- Definitions that show how the operation fails. -/
theorem exists_failsOn_of_showsStray {document : Document} {names : List String}
    {test : Failure → Bool}
    (shows : document.definitions.succeedsWith (Definitions.showsStray names test) = true) :
    ∃ definitions cause, document.definitions = .ok definitions ∧ definitions.models.keys = names ∧
      definitions.FailsOn strayDeclared cause ∧ test cause = true := by
  obtain ⟨definitions, compiled, both⟩ := Outcome.succeedsWith_iff.mp shows
  obtain ⟨areNames, failing⟩ := Bool.and_eq_true_iff.mp both
  obtain ⟨cause, fails, tested⟩ := Outcome.failsWith_iff.mp failing
  exact ⟨definitions, cause, compiled, of_decide_eq_true areNames, fails, tested⟩

/-- One more operation does not change the report if hoisting invents the same names. -/
theorem reports_first_failure_of_stray :
    ∃ definitions, (strayDocument []).definitions = .ok definitions ∧
      ∃ cause, cause.Structural ∧
        (strayDocument []).service = .error (strayDeclared.report cause) ∧
        (strayDocumentWith "b").service = .error (strayDeclared.report cause) := by
  have shows : (strayDocument []).definitions.succeedsWith
      (Definitions.showsStray ["Widget", "WidgetInput"] fun _ => true) = true := by
    decide +kernel
  have otherShows : (strayDocumentWith "b").definitions.succeedsWith
      (Definitions.showsStray ["Widget", "WidgetInput"] fun _ => true) = true := by
    decide +kernel
  obtain ⟨definitions, cause, compiled, names, fails, _⟩ := exists_failsOn_of_showsStray shows
  obtain ⟨known, _, otherCompiled, otherNames, _⟩ := exists_failsOn_of_showsStray otherShows
  have member : strayDeclared ∈ (strayDocument []).declaredOperations := by
    rw [declaredOperations_strayDocument]
    exact List.mem_singleton_self _
  obtain ⟨before, failing, after, first, split, _, structural, failed, others⟩ :=
    (Document.reports_first_failure compiled).2.1 strayDeclared member _
      (Definitions.build_eq_error_iff.mpr ⟨cause, fails, rfl⟩)
  rw [declaredOperations_strayDocument] at split
  obtain ⟨rfl, rfl, rfl⟩ : before = [] ∧ failing = strayDeclared ∧ after = [] := by
    cases before with
    | nil =>
        cases split
        exact ⟨rfl, rfl, rfl⟩
    | cons _ before => cases before <;> cases split
  refine ⟨definitions, compiled, first, structural, failed, ?_⟩
  refine others _ known _ rfl otherCompiled (declaredOperations_strayDocumentWith "b") ?_
  have sameNames : definitions.models.keys = known.models.keys := names.trans otherNames.symm
  intro declared _
  exact ⟨fun _ _ _ _ => by rw [sameNames], fun _ _ _ _ => by rw [sameNames]⟩

/-- One more operation changes the report if hoisting does not invent the name of a header. -/
theorem exists_influenced_failure :
    ∃ (document other : Document) (failing later : DeclaredOperation) (cause another : Failure),
      document.components = other.components ∧
      document.declaredOperations = [failing] ∧ other.declaredOperations = [failing, later] ∧
      (∃ definitions, document.definitions = .ok definitions) ∧
      (∃ known, other.definitions = .ok known) ∧
      document.service = .error (failing.report cause) ∧
      other.service = .error (failing.report another) ∧ cause ≠ another := by
  have shows : (strayDocument []).definitions.succeedsWith
      (Definitions.showsStray ["Widget", "WidgetInput"] Failure.isMissingField) = true := by
    decide +kernel
  have otherShows : (strayDocumentWith "Widget").definitions.succeedsWith
      (Definitions.showsStray ["Widget", "WidgetInput2"] fun failure =>
        !failure.isMissingField) = true := by
    decide +kernel
  obtain ⟨definitions, cause, compiled, _, fails, missing⟩ := exists_failsOn_of_showsStray shows
  obtain ⟨known, another, otherCompiled, _, otherFails, other⟩ :=
    exists_failsOn_of_showsStray otherShows
  refine ⟨strayDocument [], strayDocumentWith "Widget", strayDeclared, _, cause, another, rfl,
    declaredOperations_strayDocument, declaredOperations_strayDocumentWith "Widget",
    ⟨definitions, compiled⟩, ⟨known, otherCompiled⟩, ?_, ?_, ?_⟩
  · exact Document.service_of_failsFirst compiled declaredOperations_strayDocument
      ⟨List.forall_mem_nil _, fails⟩
  · exact Document.service_of_failsFirst otherCompiled
      (declaredOperations_strayDocumentWith "Widget") ⟨List.forall_mem_nil _, otherFails⟩
  · rintro rfl
    rw [missing] at other
    cases other

end ApiScaffold

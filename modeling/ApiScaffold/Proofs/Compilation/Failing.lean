import ApiScaffold.Compilation.Basic
import ApiScaffold.Proofs.Emission.RustFailing

/-!
# What compilations fail with

A compilation of a document either gives a text or fails with a documented failure, whatever
the names in the document are, with one exception, which concerns Python: an empty name has no
legal name.  This is exactly what happens if an empty name is used, unless a documented failure
comes first.
-/

namespace ApiScaffold

open Outcome (FailsOnly)
open Failure (Documented)

/-- That there is no target with a name is a documented failure. -/
theorem Target.failsOnly_ofName (name : String) : FailsOnly Documented (ofName name) := by
  unfold ofName
  split
  · exact .ok _
  · exact .error rfl

/-- A target is found under its own name only. -/
theorem Target.name_eq_of_ofName {name : String} {target : Target}
    (found : ofName name = .ok target) : target.name = name := by
  unfold ofName at found
  split at found
  · next other isOther =>
      cases found
      simpa using List.find?_some isOther
  · cases found

namespace Compilation

/-- Whether a compilation to Python uses an empty name. -/
def UsesEmptyName (compilation : Compilation) (document : Document) : Prop :=
  compilation.configuration.target = Target.python.name ∧ ∃ service,
    document.service = .ok service ∧ PythonCode.UsesEmptyName service compilation.options

/-- With its document, a compilation renders the module of the service for the target. -/
theorem render_eq {compilation : Compilation} {storage : Storage} {document : Document}
    (loaded : compilation.document storage = .ok document) :
    compilation.render storage =
      Target.ofName compilation.configuration.target >>= fun target =>
        document.service >>= fun service =>
          target.renderModule service compilation.options := by
  simp only [render, prepare, service, loaded, bind_assoc, pure_bind]
  rfl

/-- Every failure of a compilation is documented, unless a Python module uses an empty name.  A
Python module that uses an empty name always fails. -/
theorem failsOnly_render {compilation : Compilation} {storage : Storage} {document : Document}
    (loaded : compilation.document storage = .ok document) :
    (∀ failure, compilation.render storage = .error failure → failure.Documented ∨
      (compilation.UsesEmptyName document ∧ failure = .emptyName)) ∧
    (compilation.UsesEmptyName document → ∃ failure, compilation.render storage = .error failure ∧
      (failure.Documented ∨ failure = .emptyName)) := by
  rw [render_eq loaded]
  constructor
  · refine FailsOnly.bind ((Target.failsOnly_ofName _).imp fun _ => Or.inl) ?_
    intro target found
    have isName := Target.name_eq_of_ofName found
    refine FailsOnly.bind (document.failsOnly_service.imp fun _ => Or.inl) ?_
    intro service built
    cases target with
    | rust => exact (RustCode.failsOnly_renderModule built _).imp fun _ => Or.inl
    | python =>
        refine (PythonCode.renderModule_of_service built _).1.imp ?_
        rintro failure (documented | ⟨isEmptyName, uses⟩)
        · exact Or.inl documented
        · exact Or.inr ⟨⟨isName.symm, service, built, uses⟩, isEmptyName⟩
  · rintro ⟨isPython, service, built, uses⟩
    rw [isPython, built]
    exact (PythonCode.renderModule_of_service built _).2 uses

end Compilation

/-- The value of a JSON object. -/
def objectValue (entries : List (String × Value)) : Value :=
  .mapping (entries.map fun entry => (.text entry.1, entry.2))

/-- A document with one struct, which has a property with the given name. -/
def widgetValue (property : String) : Value :=
  let type := objectValue [("type", .scalar (.text "string"))]
  let widget := objectValue
    [("type", .scalar (.text "object")), ("properties", objectValue [(property, type)])]
  objectValue
    [("openapi", .scalar (.text "3.0.0")), ("paths", objectValue []),
      ("components", objectValue [("schemas", objectValue [("Widget", widget)])])]

/-- The compilation of the struct for a target. -/
def compileWidget (property : String) (target : Target) : Compilation where
  source := .data (.ofValue (widgetValue property))
  configuration := ⟨target.name, true, true, none⟩

/-- A property with the empty name makes a compilation to Python fail. -/
theorem failsOnly_render_of_widget :
    ∃ document, (compileWidget "" .python).document ⟨[], []⟩ = .ok document ∧
      (compileWidget "" .python).UsesEmptyName document ∧
        ∃ failure, (compileWidget "" .python).render ⟨[], []⟩ = .error failure := by
  have passes : ((compileWidget "" .python).document ⟨[], []⟩).succeedsWith (fun document =>
      document.draft.succeedsWith fun draft => draft.passes (fun _ => 0) &&
        draft.models.any fun entry => entry.2.isStruct &&
          entry.2.properties.any fun property => property.1 = "") = true := by
    decide +kernel
  obtain ⟨document, loaded, drafted⟩ := Outcome.succeedsWith_iff.mp passes
  obtain ⟨draft, order, built, tested⟩ := Document.exists_service_of_test drafted
  simp only [List.any_eq_true, Bool.and_eq_true, decide_eq_true_eq] at tested
  have uses : (compileWidget "" .python).UsesEmptyName document :=
    ⟨rfl, _, built, Or.inl ⟨rfl, tested⟩⟩
  obtain ⟨failure, failed, _⟩ := (Compilation.failsOnly_render loaded).2 uses
  exact ⟨document, loaded, uses, failure, failed⟩

/-- The failure of a property with the empty name belongs to no family. -/
theorem exists_undocumented_failure :
    ∃ document failure, (compileWidget "" .python).document ⟨[], []⟩ = .ok document ∧
      (compileWidget "" .python).render ⟨[], []⟩ = .error failure ∧ ¬ failure.Documented ∧
        failure.text? = some "Name cannot be empty" := by
  have passes : ((compileWidget "" .python).document ⟨[], []⟩).succeedsWith (fun document =>
      document.draft.succeedsWith fun draft => draft.passes (fun _ => 0) &&
        (decide (draft.models.length ≤ 1) && (PythonCode.renderModule
          (draft.ordered document (draft.models.keys.map some)) ⟨true, true, true⟩).failsWith
            fun failure => !failure.isDocumented &&
              decide (failure.text? = some "Name cannot be empty"))) = true := by
    decide +kernel
  obtain ⟨document, loaded, drafted⟩ := Outcome.succeedsWith_iff.mp passes
  obtain ⟨service, built, rendered⟩ := Document.exists_service_of_few
    (fun service => (PythonCode.renderModule service ⟨true, true, true⟩).failsWith
      fun failure => !failure.isDocumented &&
        decide (failure.text? = some "Name cannot be empty")) drafted
  obtain ⟨failure, failed, isFailure⟩ := Outcome.failsWith_iff.mp rendered
  simp only [Bool.and_eq_true, Bool.not_eq_true', decide_eq_true_eq] at isFailure
  refine ⟨document, failure, loaded, ?_, by simp [Failure.Documented, isFailure.1], isFailure.2⟩
  rw [Compilation.render_eq loaded, built]
  exact failed

end ApiScaffold

import ApiScaffold.Proofs.Configuration.Loading
import ApiScaffold.Proofs.Document.Loading

/-!
# Unusable files

Files that cannot be used are reported by a documented failure, whatever is in the file system,
unless a fault escapes.  Which faults escape is known exactly.  Bytes that are no text are one of
the causes for documents and configurations alike; a directory in place of a file is one for
configurations only.
-/

namespace ApiScaffold

open Outcome (FailsOnly)

/-- In all file systems, and for all paths: a document is loaded exactly from a file that has it.
Loading a document or a configuration fails with documented failures only, exactly if no fault
escapes from the file that is loaded, and the faults that escape are known. -/
theorem reports_unusable_files (storage : Storage) :
    (∀ base source, let path := Document.sourcePath storage base source
      (∀ document, Document.load storage base source = .ok document ↔
        Document.IsIn storage path document) ∧
      (∀ fault, Document.load storage base source = .error (.fault fault) ↔
        Document.Escapes storage path fault) ∧
      (FailsOnly Document.IsLoadFailure (Document.load storage base source) ↔
        ∀ fault, ¬ Document.Escapes storage path fault)) ∧
    (∀ given,
      (∀ fault, Configuration.load storage given = .error (.fault fault) ↔
        Configuration.Escapes storage given fault) ∧
      (FailsOnly Configuration.IsLoadFailure (Configuration.load storage given) ↔
        ∀ fault, ¬ Configuration.Escapes storage given fault)) := by
  refine ⟨fun base source => ⟨fun document => Document.load_eq_ok_iff,
    fun fault => Document.load_eq_fault_iff, ?_⟩,
    fun given => ⟨fun fault => Configuration.load_eq_fault_iff, ?_⟩⟩
  · exact Outcome.failsOnly_iff_of_faults (Document.failsOnly_load storage base source)
      (fun fault => Document.load_eq_fault_iff) (by simp [Document.IsLoadFailure, Failure.family?])
  · exact Outcome.failsOnly_iff_of_faults (Configuration.failsOnly_load storage given)
      (fun fault => Configuration.load_eq_fault_iff)
      (by simp [Configuration.IsLoadFailure, Failure.family?])

/-- A file with a byte that is in no text, and a directory with the name of a configuration. -/
def strayStorage : Storage where
  workingDirectory := []
  nodes := [(["api.json"], .file ⟨#[0xFF]⟩), (["apiforge.yaml"], .directory)]

/-- Both are unusable, and neither is reported by a documented failure. -/
theorem exists_unreported_files :
    Document.load strayStorage none "api.json" = .error (.fault .notUnicode) ∧
      Configuration.load strayStorage none = .error (.fault .fileSystem) := by
  constructor
  · rfl
  · rfl

end ApiScaffold

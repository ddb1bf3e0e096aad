import ApiScaffold.Document.File
import ApiScaffold.Proofs.Outcome
import ApiScaffold.Proofs.Storage.Reading

/-!
# Loading documents

A document is loaded exactly if its file has a mapping that passes the check.  Otherwise the
failure is about the extension or about the file, or a fault escapes.  Faults escape from three
places: from asking whether the path leads anywhere, from reading the file, and from the check.
-/

namespace ApiScaffold.Document

open Outcome (FailsOnly OrFault)

variable {storage : Storage} {path : FilePath} {fault : Fault}

/-- Whether a failure is one that loading a document is documented to have. -/
def IsLoadFailure (failure : Failure) : Prop :=
  failure.family? = some .unsupportedExtension ∨ failure.family? = some .undecodable

/-- The format of a document file. -/
def fileFormat? (path : FilePath) : Option Format :=
  formatOf? (path.extension?.getD "")

/-- Whether a file has a mapping that passes the check, with this document. -/
def IsIn (storage : Storage) (path : FilePath) (document : Document) : Prop :=
  ∃ format content entries, fileFormat? path = some format ∧
    storage.HasValue path format content ∧ content.form = .mapping entries ∧
      Document.ofDecoded content = .ok document

/-- The faults that escape when the document in a file is loaded. -/
inductive Escapes (storage : Storage) (path : FilePath) : Fault → Prop
  /-- The file system does not take the path. -/
  | refused {format : Format} (known : fileFormat? path = some format)
      (refused : storage.locate path = .error .refused) : Escapes storage path .fileSystem
  /-- Something is wrong with the file, other than that its text is malformed. -/
  | unread {format : Format} {fault : Fault} (known : fileFormat? path = some format)
      (hasFault : storage.HasFault path format fault) : Escapes storage path fault
  /-- The check comes upon a number that it cannot write out. -/
  | unwritable {format : Format} {content : Decoded} {entries : List (Scalar × Value)}
      (known : fileFormat? path = some format) (hasValue : storage.HasValue path format content)
      (isMapping : content.form = .mapping entries)
      (objected : Document.ofDecoded content = .error .unwritable) :
      Escapes storage path .unwritableNumber

/-! ## The check of the value -/

theorem ofData_eq_ok_iff {content : Decoded} {source : String} {document : Document} :
    ofData content source = .ok document ↔
      (∃ entries, content.form = .mapping entries) ∧ Document.ofDecoded content = .ok document := by
  unfold ofData
  cases content.form with
  | mapping entries =>
      cases Document.ofDecoded content with
      | ok other => simp
      | error objection => cases objection <;> simp
  | scalar | list | set | part => simp

theorem ofData_eq_fault_iff {content : Decoded} {source : String} :
    ofData content source = .error (.fault fault) ↔
      (∃ entries, content.form = .mapping entries) ∧
        Document.ofDecoded content = .error .unwritable ∧ fault = .unwritableNumber := by
  unfold ofData
  cases content.form with
  | mapping entries =>
      cases Document.ofDecoded content with
      | ok other => simp
      | error objection => cases objection <;> simp [eq_comm]
  | scalar | list | set | part => simp

theorem failsOnly_ofData (content : Decoded) (source : String) :
    FailsOnly (OrFault IsLoadFailure) (ofData content source) := by
  unfold ofData
  split
  · split
    · exact .ok _
    · exact .error (Or.inl (Or.inr rfl))
    · exact .error (Or.inr ⟨_, rfl⟩)
  · exact .error (Or.inl (Or.inr rfl))

/-! ## The value in the file -/

/-- Malformed texts and refusals of the file system are reported; other faults escape. -/
theorem decodingFailure_eq_fault_iff {cause : Fault} :
    decodingFailure path cause = .fault fault ↔
      cause = fault ∧ fault ≠ .fileSystem ∧ ∀ format, fault ≠ .malformed format := by
  cases cause with
  | malformed format =>
      simp only [decodingFailure, reduceCtorEq, false_iff]
      rintro ⟨rfl, _, isNotMalformed⟩
      exact isNotMalformed format rfl
  | fileSystem =>
      simp only [decodingFailure, reduceCtorEq, false_iff]
      rintro ⟨rfl, isNotFileSystem, _⟩
      exact isNotFileSystem rfl
  | _ =>
      simp only [decodingFailure, Failure.fault.injEq, iff_self_and]
      rintro rfl
      simp

theorem orFault_decodingFailure (path : FilePath) (fault : Fault) :
    OrFault IsLoadFailure (decodingFailure path fault) := by
  cases fault with
  | malformed | fileSystem => exact Or.inl (Or.inr rfl)
  | _ => exact Or.inr ⟨_, rfl⟩

/-- Whether the path leads anywhere is asked before the file is read. -/
theorem decodeFile_of_known {format : Format} (known : fileFormat? path = some format) :
    decodeFile storage path =
      match storage.locate path with
      | .error .refused => .error (.fault .fileSystem)
      | .error .absent => .error (.undecodable path.text (some (.missingFile path.text)))
      | .ok _ => (storage.readValue path format).mapError (decodingFailure path) := by
  rw [fileFormat?] at known
  simp only [decodeFile, known, Storage.isPresent]
  cases storage.locate path with
  | ok location => rfl
  | error cause => cases cause <;> rfl

theorem decodeFile_of_unknown (unknown : fileFormat? path = none) :
    decodeFile storage path = .error (.unsupportedExtension (path.extension?.getD "")) := by
  rw [fileFormat?] at unknown
  simp only [decodeFile, unknown]

theorem decodeFile_eq_ok_iff {content : Decoded} :
    decodeFile storage path = .ok content ↔
      ∃ format, fileFormat? path = some format ∧ storage.HasValue path format content := by
  cases known : fileFormat? path with
  | none => simp [decodeFile_of_unknown known]
  | some format =>
      simp only [decodeFile_of_known known, Option.some.injEq, exists_eq_left']
      constructor
      · intro decoded
        split at decoded
        · cases decoded
        · cases decoded
        · cases read : storage.readValue path format with
          | error cause =>
              rw [read] at decoded
              cases decoded
          | ok value =>
              rw [read] at decoded
              cases decoded
              exact Storage.readValue_eq_ok_iff.mp read
      · intro hasValue
        obtain ⟨location, located⟩ := hasValue.exists_locate
        simp only [located, Storage.readValue_eq_ok_iff.mpr hasValue]
        rfl

theorem decodeFile_eq_fault_iff :
    decodeFile storage path = .error (.fault fault) ↔
      ∃ format, fileFormat? path = some format ∧
        ((storage.locate path = .error .refused ∧ fault = .fileSystem) ∨
          storage.HasFault path format fault) := by
  cases known : fileFormat? path with
  | none => simp [decodeFile_of_unknown known]
  | some format =>
      simp only [decodeFile_of_known known, Option.some.injEq, exists_eq_left']
      constructor
      · intro failed
        split at failed
        · next refused =>
            cases failed
            exact Or.inl ⟨refused, rfl⟩
        · cases failed
        · cases read : storage.readValue path format with
          | ok value =>
              rw [read] at failed
              cases failed
          | error cause =>
              rw [read] at failed
              obtain ⟨rfl, isNotFileSystem, isNotMalformed⟩ :=
                decodingFailure_eq_fault_iff.mp (Except.error.inj failed)
              rcases Storage.readValue_eq_error_iff.mp read with
                ⟨isFileSystem, _⟩ | ⟨isMalformed, _⟩ | hasFault
              · exact absurd isFileSystem isNotFileSystem
              · exact absurd isMalformed (isNotMalformed format)
              · exact Or.inr hasFault
      · rintro (⟨refused, rfl⟩ | hasFault)
        · simp only [refused]
        · obtain ⟨location, located⟩ := hasFault.exists_locate
          have read := Storage.readValue_eq_error_iff.mpr (Or.inr (Or.inr hasFault))
          have escapes : decodingFailure path fault = .fault fault :=
            decodingFailure_eq_fault_iff.mpr ⟨rfl, hasFault.ne_fileSystem, hasFault.ne_malformed⟩
          simp only [located, read, Except.mapError, escapes]

theorem failsOnly_decodeFile (storage : Storage) (path : FilePath) :
    FailsOnly (OrFault IsLoadFailure) (decodeFile storage path) := by
  cases known : fileFormat? path with
  | none =>
      rw [decodeFile_of_unknown known]
      exact .error (Or.inl (Or.inl rfl))
  | some format =>
      rw [decodeFile_of_known known]
      split
      · exact .error (Or.inr ⟨_, rfl⟩)
      · exact .error (Or.inl (Or.inr rfl))
      · cases storage.readValue path format with
        | ok value => exact .ok value
        | error cause => exact .error (orFault_decodingFailure path cause)

/-! ## The document -/

/-- The path of the file that a document is loaded from. -/
def sourcePath (storage : Storage) (base : Option String) (source : String) : FilePath :=
  (baseDirectory storage base).join (.ofText source)

/-- A document is loaded exactly from a file that has it. -/
theorem load_eq_ok_iff {base : Option String} {source : String} {document : Document} :
    load storage base source = .ok document ↔
      IsIn storage (sourcePath storage base source) document := by
  rw [load, Outcome.bind_eq_ok_iff]
  constructor
  · rintro ⟨content, decoded, checked⟩
    obtain ⟨format, known, hasValue⟩ := decodeFile_eq_ok_iff.mp decoded
    obtain ⟨⟨entries, isMapping⟩, passed⟩ := ofData_eq_ok_iff.mp checked
    exact ⟨format, content, entries, known, hasValue, isMapping, passed⟩
  · rintro ⟨format, content, entries, known, hasValue, isMapping, passed⟩
    exact ⟨content, decodeFile_eq_ok_iff.mpr ⟨format, known, hasValue⟩,
      ofData_eq_ok_iff.mpr ⟨⟨entries, isMapping⟩, passed⟩⟩

/-- The faults of loading are exactly those that escape. -/
theorem load_eq_fault_iff {base : Option String} {source : String} :
    load storage base source = .error (.fault fault) ↔
      Escapes storage (sourcePath storage base source) fault := by
  rw [load, Outcome.bind_eq_error_iff]
  constructor
  · rintro (failed | ⟨content, decoded, failed⟩)
    · obtain ⟨format, known, ⟨refused, rfl⟩ | hasFault⟩ := decodeFile_eq_fault_iff.mp failed
      · exact .refused known refused
      · exact .unread known hasFault
    · obtain ⟨format, known, hasValue⟩ := decodeFile_eq_ok_iff.mp decoded
      obtain ⟨⟨entries, isMapping⟩, objected, rfl⟩ := ofData_eq_fault_iff.mp failed
      exact .unwritable known hasValue isMapping objected
  · intro escapes
    cases escapes with
    | refused known refused =>
        exact Or.inl (decodeFile_eq_fault_iff.mpr ⟨_, known, Or.inl ⟨refused, rfl⟩⟩)
    | unread known hasFault =>
        exact Or.inl (decodeFile_eq_fault_iff.mpr ⟨_, known, Or.inr hasFault⟩)
    | @unwritable format content entries known hasValue isMapping objected =>
        exact Or.inr ⟨content, decodeFile_eq_ok_iff.mpr ⟨format, known, hasValue⟩,
          ofData_eq_fault_iff.mpr ⟨⟨entries, isMapping⟩, objected, rfl⟩⟩

theorem failsOnly_load (storage : Storage) (base : Option String) (source : String) :
    FailsOnly (OrFault IsLoadFailure) (load storage base source) :=
  (failsOnly_decodeFile storage _).bind fun content _ => failsOnly_ofData content source

end ApiScaffold.Document

import ApiScaffold.Storage.Decoded

/-!
# What is read from files

A path leads to a file or not, the bytes of a file are a text or not, and a text has a value in
a format or not.  A file is read exactly if all three hold.  Otherwise the fault says which of
them does not, and why.
-/

namespace ApiScaffold

namespace Fault

/-- What is wrong with a scalar is wrong in a text that is in its format. -/
theorem ofScalar_ne_malformed (fault : ScalarFault) (format : Format) :
    ofScalar fault ≠ .malformed format := by
  cases fault <;> simp [ofScalar]

theorem ofScalar_ne_fileSystem (fault : ScalarFault) : ofScalar fault ≠ .fileSystem := by
  cases fault <;> simp [ofScalar]

/-- The faults of decoding are told apart. -/
theorem cases_of_mapError_ofDecoding {format : Format} {decoded : Except DecodingFault Decoded}
    {fault : Fault} (failed : decoded.mapError (ofDecoding format) = .error fault) :
    fault = .malformed format ∨ (∃ scalar, fault = .ofScalar scalar) ∨ fault = .tooDeep := by
  cases decoded with
  | ok value => cases failed
  | error cause =>
      cases failed
      cases cause with
      | malformed => exact Or.inl rfl
      | scalar scalar => exact Or.inr (Or.inl ⟨scalar, rfl⟩)
      | tooDeep => exact Or.inr (Or.inr rfl)

end Fault

/-- A text without a value is malformed, or a scalar in it has no value, or it is too deep. -/
theorem Format.cases_of_decode_eq_error {format : Format} {text : String} {fault : Fault}
    (failed : format.decode text = .error fault) :
    fault = .malformed format ∨ (∃ scalar, fault = .ofScalar scalar) ∨ fault = .tooDeep := by
  unfold decode at failed
  exact Fault.cases_of_mapError_ofDecoding failed

namespace Storage

variable {storage : Storage} {path : FilePath} {format : Format} {fault : Fault}

/-- A path leads to a file with these bytes. -/
def HasFile (storage : Storage) (path : FilePath) (content : ByteArray) : Prop :=
  ∃ location, storage.locate path = .ok location ∧ storage.node? location = some (.file content)

/-- A path leads to a file whose bytes are a text; its lines are separated by line feeds. -/
def HasText (storage : Storage) (path : FilePath) (text : String) : Prop :=
  ∃ content original, storage.HasFile path content ∧ Text.decode? content = some original ∧
    text = Text.unifyLineEnds original

/-- A path leads to a file whose text has this value. -/
def HasValue (storage : Storage) (path : FilePath) (format : Format) (value : Decoded) : Prop :=
  ∃ text, storage.HasText path text ∧ format.decode text = .ok value

/-- What is wrong with a file that is there, unless its text is malformed. -/
inductive HasFault (storage : Storage) (path : FilePath) (format : Format) : Fault → Prop
  /-- Its bytes are no text. -/
  | notUnicode {content : ByteArray} (hasFile : storage.HasFile path content)
      (isNoText : Text.decode? content = none) : HasFault storage path format .notUnicode
  /-- A scalar in its text has no value. -/
  | valueless {text : String} {scalar : ScalarFault} (hasText : storage.HasText path text)
      (failed : format.decode text = .error (.ofScalar scalar)) :
      HasFault storage path format (.ofScalar scalar)
  /-- Its collections are nested too deeply. -/
  | tooDeep {text : String} (hasText : storage.HasText path text)
      (failed : format.decode text = .error .tooDeep) : HasFault storage path format .tooDeep

theorem HasFault.ne_malformed (hasFault : storage.HasFault path format fault) (other : Format) :
    fault ≠ .malformed other := by
  cases hasFault with
  | notUnicode => simp
  | valueless => exact Fault.ofScalar_ne_malformed _ other
  | tooDeep => simp

theorem HasFault.ne_fileSystem (hasFault : storage.HasFault path format fault) :
    fault ≠ .fileSystem := by
  cases hasFault with
  | notUnicode => simp
  | valueless => exact Fault.ofScalar_ne_fileSystem _
  | tooDeep => simp

theorem HasText.exists_locate {text : String} (hasText : storage.HasText path text) :
    ∃ location, storage.locate path = .ok location := by
  obtain ⟨_, _, ⟨location, located, _⟩, _⟩ := hasText
  exact ⟨location, located⟩

theorem HasValue.exists_locate {value : Decoded} (hasValue : storage.HasValue path format value) :
    ∃ location, storage.locate path = .ok location := by
  obtain ⟨_, hasText, _⟩ := hasValue
  exact hasText.exists_locate

/-- Something is wrong with a file only where the path leads somewhere. -/
theorem HasFault.exists_locate (hasFault : storage.HasFault path format fault) :
    ∃ location, storage.locate path = .ok location := by
  cases hasFault with
  | notUnicode hasFile _ =>
      obtain ⟨location, located, _⟩ := hasFile
      exact ⟨location, located⟩
  | valueless hasText _ => exact hasText.exists_locate
  | tooDeep hasText _ => exact hasText.exists_locate

/-- Exactly the bytes of a file are read. -/
theorem readBytes_eq_ok_iff {content : ByteArray} :
    storage.readBytes path = .ok content ↔ storage.HasFile path content := by
  unfold readBytes HasFile
  cases storage.locate path with
  | error cause => simp
  | ok location =>
      cases found : storage.node? location with
      | none => simp [found]
      | some node => cases node <;> simp [found]

/-- Where there is no file, the file system refuses to read. -/
theorem readBytes_eq_error_iff :
    storage.readBytes path = .error fault ↔
      fault = .fileSystem ∧ ∀ content, ¬ storage.HasFile path content := by
  unfold readBytes HasFile
  cases storage.locate path with
  | error cause => simp [eq_comm]
  | ok location =>
      cases found : storage.node? location with
      | none => simp [found, eq_comm]
      | some node => cases node <;> simp [found, eq_comm]

theorem readText_eq_ok_iff {text : String} :
    storage.readText path = .ok text ↔ storage.HasText path text := by
  simp only [HasText, ← readBytes_eq_ok_iff]
  unfold readText
  cases storage.readBytes path with
  | error cause => simp [bind, Except.bind]
  | ok content =>
      cases decoded : Text.decode? content with
      | none => simp [bind, Except.bind, decoded]
      | some original => simp [bind, Except.bind, decoded, eq_comm]

theorem readText_eq_error_iff :
    storage.readText path = .error fault ↔
      (fault = .fileSystem ∧ ∀ content, ¬ storage.HasFile path content) ∨
        (fault = .notUnicode ∧
          ∃ content, storage.HasFile path content ∧ Text.decode? content = none) := by
  rw [← readBytes_eq_error_iff]
  simp only [← readBytes_eq_ok_iff]
  unfold readText
  cases storage.readBytes path with
  | error cause => simp [bind, Except.bind]
  | ok content =>
      cases decoded : Text.decode? content with
      | none => simp [bind, Except.bind, decoded, eq_comm]
      | some original => simp [bind, Except.bind, decoded]

/-- A value is read exactly if the file has it. -/
theorem readValue_eq_ok_iff {value : Decoded} :
    storage.readValue path format = .ok value ↔ storage.HasValue path format value := by
  simp only [HasValue, ← readText_eq_ok_iff]
  unfold readValue
  cases storage.readText path with
  | error cause => simp [bind, Except.bind]
  | ok text => simp [bind, Except.bind]

/-- No value is read exactly if there is no file, or its text is malformed, or something else is
wrong with it. -/
theorem readValue_eq_error_iff :
    storage.readValue path format = .error fault ↔
      (fault = .fileSystem ∧ ∀ content, ¬ storage.HasFile path content) ∨
        (fault = .malformed format ∧
          ∃ text, storage.HasText path text ∧ format.decode text = .error (.malformed format)) ∨
        storage.HasFault path format fault := by
  constructor
  · intro failed
    unfold readValue at failed
    cases read : storage.readText path with
    | error cause =>
        rw [read] at failed
        cases failed
        rcases readText_eq_error_iff.mp read with noFile | ⟨rfl, content, hasFile, isNoText⟩
        · exact Or.inl noFile
        · exact Or.inr (Or.inr (.notUnicode hasFile isNoText))
    | ok text =>
        rw [read] at failed
        have hasText := readText_eq_ok_iff.mp read
        have decodes : format.decode text = .error fault := failed
        right
        rcases Format.cases_of_decode_eq_error decodes with rfl | ⟨scalar, rfl⟩ | rfl
        · exact Or.inl ⟨rfl, text, hasText, decodes⟩
        · exact Or.inr (.valueless hasText decodes)
        · exact Or.inr (.tooDeep hasText decodes)
  · have ofText : ∀ {text}, storage.HasText path text →
        storage.readValue path format = format.decode text := by
      intro text hasText
      rw [readValue, readText_eq_ok_iff.mpr hasText]
      rfl
    rintro (noFile | ⟨rfl, text, hasText, decodes⟩ | hasFault)
    · rw [readValue, readText_eq_error_iff.mpr (Or.inl noFile)]
      rfl
    · rw [ofText hasText, decodes]
    · cases hasFault with
      | notUnicode hasFile isNoText =>
          rw [readValue, readText_eq_error_iff.mpr (Or.inr ⟨rfl, _, hasFile, isNoText⟩)]
          rfl
      | valueless hasText decodes => rw [ofText hasText, decodes]
      | tooDeep hasText decodes => rw [ofText hasText, decodes]

end Storage

end ApiScaffold

import ApiScaffold.Configuration.File
import ApiScaffold.Proofs.Outcome
import ApiScaffold.Proofs.Storage.Reading

/-!
# Loading configurations

A configuration comes from the first of some files that is not absent, if there is one.  A file
of which the text is malformed or the settings cannot be used is reported.  Faults escape from
asking whether a path leads anywhere, from reading the file, and from a project file whose
tools are no table.
-/

namespace ApiScaffold.Configuration

open Outcome (FailsOnly OrFault)

variable {storage : Storage} {path : FilePath} {format : Format} {fault : Fault}

/-- Whether a failure is one that loading a configuration is documented to have. -/
def IsLoadFailure (failure : Failure) : Prop :=
  failure.family? = some .configuration

/-! ## Which file counts -/

/-- Whether a path leads to nothing. -/
def isAbsent (storage : Storage) (path : FilePath) : Bool :=
  match storage.locate path with
  | .error .absent => true
  | _ => false

/-- The working directory. -/
def directory (storage : Storage) : FilePath :=
  ⟨.root, storage.workingDirectory⟩

/-- The files in the working directory that a configuration can come from, with their formats,
in the order in which they are looked for. -/
def defaultFiles (storage : Storage) : List (FilePath × Format) :=
  (fileNames.map fun name =>
    ((directory storage).child name, formatOf ((directory storage).child name))) ++
      [projectFileName].map fun name => ((directory storage).child name, .toml)

/-- The files that a configuration can come from; a file that is named is the only one. -/
def files (storage : Storage) : Option String → List (FilePath × Format)
  | none => defaultFiles storage
  | some source =>
      if source.isEmpty then defaultFiles storage
      else [(.ofText source, formatOf (.ofText source))]

/-- The first of the files that is not absent. -/
def chosenFile? (storage : Storage) (given : Option String) : Option (FilePath × Format) :=
  (files storage given).find? fun file => !isAbsent storage file.1

/-! ## What escapes -/

/-- A value that no table of tools can be looked up in, with the message about it.  Lists and
texts can hold the name of the table all the same. -/
inductive HoldsNoTable (tools : Decoded) : String → Prop
  | list {items : List Decoded} (isList : tools.items? = some items)
      (named : ∃ item ∈ items, item.form = .scalar (.text toolName)) :
      HoldsNoTable tools "list indices must be integers or slices, not str"
  | text {text : String} (isText : tools.form = .scalar (.text text))
      (named : toolName.toList <:+: text.toList) :
      HoldsNoTable tools "string indices must be integers, not 'str'"
  | scalar {scalar : Scalar} (isScalar : tools.form = .scalar scalar)
      (isNoText : ∀ text, scalar ≠ .text text) :
      HoldsNoTable tools ("argument of type '" ++ kindName scalar ++ "' is not iterable")

/-- The faults that escape when the configuration in a file is loaded. -/
inductive FileEscapes (storage : Storage) (path : FilePath) (format : Format) : Fault → Prop
  /-- The file system does not take the path. -/
  | refused (refused : storage.locate path = .error .refused) :
      FileEscapes storage path format .fileSystem
  /-- The path leads to something that is no file. -/
  | noFile {location : Location} (located : storage.locate path = .ok location)
      (noFile : ∀ content, storage.node? location ≠ some (.file content)) :
      FileEscapes storage path format .fileSystem
  /-- Something is wrong with the file, other than that its text is malformed. -/
  | unread {fault : Fault} (hasFault : storage.HasFault path format fault) :
      FileEscapes storage path format fault
  /-- The tools of a project are no table. -/
  | noTable {project tools : Decoded} {entries : List (Scalar × Decoded)} {message : String}
      (isProject : format = .toml) (hasValue : storage.HasValue path format project)
      (isTable : project.entries? = some entries)
      (found : Value.findText entries toolsName = some tools)
      (holdsNoTable : HoldsNoTable tools message) :
      FileEscapes storage path format (.wrongType message)

/-- The faults that escape when a configuration is loaded: those of the file that counts. -/
def Escapes (storage : Storage) (given : Option String) (fault : Fault) : Prop :=
  ∃ path format, chosenFile? storage given = some (path, format) ∧
    FileEscapes storage path format fault

/-! ## The table of tools -/

theorem occursIn_iff {part chars : List Char} : occursIn part chars = true ↔ part <:+: chars := by
  induction chars with
  | nil => simp [occursIn]
  | cons first rest ih =>
      rw [occursIn, Bool.or_eq_true, ih, List.isPrefixOf_iff_prefix, List.infix_cons_iff]

theorem isText_iff {text : String} {decoded : Decoded} :
    isText text decoded = true ↔ decoded.form = .scalar (.text text) := by
  unfold isText
  split
  · next value isValue => simp [isValue]
  · next isNoText => simpa using isNoText text

/-- Looking for the settings fails exactly in what holds no table. -/
theorem toolSettings?_eq_error_iff {tools : Decoded} :
    toolSettings? tools = .error fault ↔
      ∃ message, HoldsNoTable tools message ∧ fault = .wrongType message := by
  constructor
  · intro failed
    unfold toolSettings? at failed
    split at failed
    · cases failed
    · next items isList _ =>
        split at failed
        · next named =>
            cases failed
            obtain ⟨item, member, isName⟩ := List.any_eq_true.mp named
            exact ⟨_, .list isList ⟨item, member, isText_iff.mp isName⟩, rfl⟩
        · cases failed
    · next text isText _ _ =>
        split at failed
        · next named =>
            cases failed
            exact ⟨_, .text isText (occursIn_iff.mp named), rfl⟩
        · cases failed
    · next scalar isNoText isScalar _ _ =>
        cases failed
        exact ⟨_, .scalar isScalar isNoText, rfl⟩
    · cases failed
  · rintro ⟨message, holdsNoTable, rfl⟩
    cases holdsNoTable with
    | @list items isList named =>
        have isNoMapping : tools.entries? = none := by
          unfold Decoded.items? at isList
          unfold Decoded.entries?
          split at isList
          · next shape => simp [shape]
          · next shape => simp [shape]
          · cases isList
        have named : items.any (isText toolName) = true := by
          obtain ⟨item, member, isName⟩ := named
          exact List.any_eq_true.mpr ⟨item, member, isText_iff.mpr isName⟩
        simp only [toolSettings?, isNoMapping, isList, named, if_true]
    | text isText named =>
        have named := occursIn_iff.mpr named
        simp only [toolSettings?, Decoded.entries?, Decoded.items?, isText, named, if_true]
    | @scalar scalar isScalar isNoText =>
        simp only [toolSettings?, Decoded.entries?, Decoded.items?, isScalar]

/-! ## The settings -/

/-- Settings that cannot be used are reported. -/
theorem failsOnly_ofDecoded (source : String) (settings : Decoded) :
    FailsOnly IsLoadFailure (ofDecoded source settings) := by
  have failsOnly_setting : ∀ {α : Type} (name : String) (absent : α)
      (check : Decoded → SettingCheck α) (entries : List (Scalar × Decoded)),
      FailsOnly IsLoadFailure (setting source name absent check entries) := by
    intro α name absent check entries
    unfold setting
    split
    · exact .ok absent
    · next value _ =>
        cases check value with
        | ok result => exact .ok result
        | error problem => exact .error rfl
  unfold ofDecoded
  split
  · refine (failsOnly_setting _ _ _ _).bind fun target _ => ?_
    refine (failsOnly_setting _ _ _ _).bind fun models _ => ?_
    refine (failsOnly_setting _ _ _ _).bind fun routes _ => ?_
    refine (failsOnly_setting _ _ _ _).bind fun output _ => ?_
    exact .ok _
  · exact .error rfl

theorem ofDecoded_ne_fault (source : String) (settings : Decoded) (fault : Fault) :
    ofDecoded source settings ≠ .error (.fault fault) := by
  intro failed
  cases failsOnly_ofDecoded source settings _ failed

/-! ## One file -/

/-- A malformed text is reported; other faults escape. -/
theorem readingFailure_eq_fault_iff {problem : ConfigurationProblem} {cause : Fault} :
    readingFailure problem path cause = .fault fault ↔
      cause = fault ∧ ∀ format, fault ≠ .malformed format := by
  cases cause with
  | malformed format =>
      simp only [readingFailure, reduceCtorEq, false_iff]
      rintro ⟨rfl, isNotMalformed⟩
      exact isNotMalformed format rfl
  | _ =>
      simp only [readingFailure, Failure.fault.injEq, iff_self_and]
      rintro rfl
      simp

theorem orFault_readingFailure (problem : ConfigurationProblem) (path : FilePath)
    (fault : Fault) : OrFault IsLoadFailure (readingFailure problem path fault) := by
  cases fault with
  | malformed => exact Or.inl rfl
  | _ => exact Or.inr ⟨_, rfl⟩

/-- Reading a value at a path that leads somewhere lets exactly these faults escape. -/
theorem readValue_eq_fault_iff {problem : ConfigurationProblem} {location : Location}
    (located : storage.locate path = .ok location) :
    (storage.readValue path format).mapError (readingFailure problem path) =
        .error (.fault fault) ↔
      (fault = .fileSystem ∧ ∀ content, storage.node? location ≠ some (.file content)) ∨
        storage.HasFault path format fault := by
  have noFile_iff : (∀ content, ¬ storage.HasFile path content) ↔
      ∀ content, storage.node? location ≠ some (.file content) := by
    simp [Storage.HasFile, located]
  rw [← noFile_iff]
  constructor
  · intro failed
    cases read : storage.readValue path format with
    | ok value =>
        rw [read] at failed
        cases failed
    | error cause =>
        rw [read] at failed
        obtain ⟨rfl, isNotMalformed⟩ :=
          readingFailure_eq_fault_iff.mp (Except.error.inj failed)
        rcases Storage.readValue_eq_error_iff.mp read with noFile | ⟨isMalformed, _⟩ | hasFault
        · exact Or.inl noFile
        · exact absurd isMalformed (isNotMalformed format)
        · exact Or.inr hasFault
  · intro escapes
    have read : storage.readValue path format = .error fault :=
      Storage.readValue_eq_error_iff.mpr (escapes.imp_right Or.inr)
    have isNotMalformed : ∀ format, fault ≠ .malformed format := by
      rcases escapes with ⟨rfl, _⟩ | hasFault
      · simp
      · exact hasFault.ne_malformed
    rw [read, Except.mapError, readingFailure_eq_fault_iff.mpr ⟨rfl, isNotMalformed⟩]

/-- From a file that is absent nothing escapes. -/
theorem FileEscapes.isAbsent_eq_false (escapes : FileEscapes storage path format fault) :
    isAbsent storage path = false := by
  have isLocated : ∀ {location}, storage.locate path = .ok location →
      isAbsent storage path = false := by
    intro location located
    simp [isAbsent, located]
  cases escapes with
  | refused refused => simp [isAbsent, refused]
  | noFile located _ => exact isLocated located
  | unread hasFault => exact isLocated hasFault.exists_locate.choose_spec
  | noTable _ hasValue _ _ _ => exact isLocated hasValue.exists_locate.choose_spec

theorem fileEscapes_iff_of_refused (refused : storage.locate path = .error .refused) :
    FileEscapes storage path format fault ↔ fault = .fileSystem := by
  have notLocated : ¬ ∃ location, storage.locate path = .ok location := by simp [refused]
  constructor
  · intro escapes
    cases escapes with
    | refused => rfl
    | noFile => rfl
    | unread hasFault => exact absurd hasFault.exists_locate notLocated
    | noTable _ hasValue _ _ _ => exact absurd hasValue.exists_locate notLocated
  · rintro rfl
    exact .refused refused

/-- What escapes from the settings in a file is what escapes from the file. -/
theorem readSettings_eq_fault_iff :
    readSettings storage path = .error (.fault fault) ↔
      FileEscapes storage path (formatOf path) fault := by
  have isNoProject : formatOf path ≠ .toml := by
    unfold formatOf
    split <;> simp
  cases located : storage.locate path with
  | error cause =>
      cases cause with
      | refused =>
          rw [fileEscapes_iff_of_refused located]
          simp [readSettings, Storage.isPresent, located, eq_comm]
      | absent =>
          have absent : isAbsent storage path = true := by simp [isAbsent, located]
          constructor
          · simp [readSettings, Storage.isPresent, located]
          · intro escapes
            simp [escapes.isAbsent_eq_false] at absent
  | ok location =>
      have read_eq : readSettings storage path = .error (.fault fault) ↔
          (storage.readValue path (formatOf path)).mapError (readingFailure .malformedFile path) =
            .error (.fault fault) := by
        simp only [readSettings, Storage.isPresent, located]
        cases storage.readValue path (formatOf path) with
        | error cause => rfl
        | ok content =>
            simp only [Except.mapError, reduceCtorEq, iff_false]
            split <;> simp
      rw [read_eq, readValue_eq_fault_iff located]
      constructor
      · rintro (⟨rfl, noFile⟩ | hasFault)
        · exact .noFile located noFile
        · exact .unread hasFault
      · intro escapes
        cases escapes with
        | refused refused => simp [located] at refused
        | noFile other noFile =>
            cases located.symm.trans other
            exact Or.inl ⟨rfl, noFile⟩
        | unread hasFault => exact Or.inr hasFault
        | noTable isProject => exact absurd isProject isNoProject

theorem ofFile_eq_fault_iff {source : String} :
    ofFile storage path source = .error (.fault fault) ↔
      FileEscapes storage path (formatOf path) fault := by
  rw [ofFile, Outcome.bind_eq_error_iff, readSettings_eq_fault_iff]
  simp [ofDecoded_ne_fault]

/-- Without tools there are no settings. -/
theorem toolSettings?_ofValue_nil : toolSettings? (.ofValue (.mapping [])) = .ok none :=
  rfl

/-- Looking for the settings in a project fails exactly if its tools are no table. -/
theorem projectSettings_eq_error_iff {project : Decoded} :
    toolSettings? ((Value.findText (project.entries?.getD []) toolsName).getD
        (.ofValue (.mapping []))) = .error fault ↔
      ∃ entries tools message, project.entries? = some entries ∧
        Value.findText entries toolsName = some tools ∧ HoldsNoTable tools message ∧
          fault = .wrongType message := by
  cases isTable : project.entries? with
  | none => simp [Value.findText, toolSettings?_ofValue_nil]
  | some entries =>
      cases found : Value.findText entries toolsName with
      | none => simp [found, toolSettings?_ofValue_nil]
      | some tools => simp [found, toolSettings?_eq_error_iff]

/-- The settings of a project fail with a fault only if its tools are no table. -/
theorem ofProjectSettings_eq_fault_iff {source : String} {found : Except Fault (Option Decoded)} :
    (found.mapError Failure.fault >>= fun settings? =>
      match settings? with
      | some settings => ofDecoded source settings
      | none => pure default) = .error (.fault fault) ↔ found = .error fault := by
  cases found with
  | error cause => simp [Except.mapError, bind, Except.bind]
  | ok settings? =>
      cases settings? with
      | none => simp [Except.mapError, bind, Except.bind, pure, Except.pure]
      | some settings => simp [Except.mapError, bind, Except.bind, ofDecoded_ne_fault]

/-- From a project file that is there, what escapes is what escapes from the file. -/
theorem ofProject_eq_fault_iff {location : Location}
    (located : storage.locate path = .ok location) :
    ofProject storage path = .error (.fault fault) ↔ FileEscapes storage path .toml fault := by
  have read_iff : ∀ {project}, (storage.readValue path .toml).mapError
      (readingFailure .malformedProject path) = .ok project ↔
        storage.HasValue path .toml project := by
    intro project
    rw [← Storage.readValue_eq_ok_iff]
    cases storage.readValue path .toml <;> simp [Except.mapError]
  rw [ofProject, Outcome.bind_eq_error_iff, readValue_eq_fault_iff located]
  constructor
  · rintro ((⟨rfl, noFile⟩ | hasFault) | ⟨project, read, failed⟩)
    · exact .noFile located noFile
    · exact .unread hasFault
    · obtain ⟨entries, tools, message, isTable, found, holdsNoTable, rfl⟩ :=
        projectSettings_eq_error_iff.mp (ofProjectSettings_eq_fault_iff.mp failed)
      exact .noTable rfl (read_iff.mp read) isTable found holdsNoTable
  · intro escapes
    cases escapes with
    | refused refused => simp [located] at refused
    | noFile other noFile =>
        cases located.symm.trans other
        exact Or.inl (Or.inl ⟨rfl, noFile⟩)
    | unread hasFault => exact Or.inl (Or.inr hasFault)
    | noTable _ hasValue isTable found holdsNoTable =>
        refine Or.inr ⟨_, read_iff.mpr hasValue, ofProjectSettings_eq_fault_iff.mpr ?_⟩
        exact projectSettings_eq_error_iff.mpr
          ⟨_, _, _, isTable, found, holdsNoTable, rfl⟩

/-! ## The file that counts -/

/-- Looking for a file skips those that are absent and stops at the first other one. -/
theorem findFile_eq (storage : Storage) (directory : FilePath) (names : List String) :
    findFile storage directory names =
      match names.find? fun name => !isAbsent storage (directory.child name) with
      | none => .ok none
      | some name =>
          match storage.locate (directory.child name) with
          | .ok _ => .ok (some (directory.child name))
          | .error _ => .error (.fault .fileSystem) := by
  induction names with
  | nil => rfl
  | cons name rest ih =>
      rw [findFile, List.find?_cons]
      cases located : storage.locate (directory.child name) with
      | ok location => simp [Storage.isPresent, isAbsent, located]
      | error cause =>
          cases cause with
          | absent => simp [Storage.isPresent, isAbsent, located, ih]
          | refused => simp [Storage.isPresent, isAbsent, located]

/-- The project file counts if none of the configuration files is there. -/
theorem find?_defaultFiles (storage : Storage) :
    let present := fun name => !isAbsent storage ((directory storage).child name)
    (defaultFiles storage).find? (fun file => !isAbsent storage file.1) =
      ((fileNames.find? present).map fun name =>
        ((directory storage).child name, formatOf ((directory storage).child name))).or
          (([projectFileName].find? present).map fun name =>
            ((directory storage).child name, .toml)) := by
  simp only [defaultFiles, List.find?_append, List.find?_map]
  rfl

/-- A file that is not absent is gone on with, unless the file system does not take its path. -/
theorem foundFile_eq_fault_iff {next : Option FilePath → Outcome Configuration}
    (isPresent : isAbsent storage path = false)
    (continues : ∀ location, storage.locate path = .ok location →
      (next (some path) = .error (.fault fault) ↔ FileEscapes storage path format fault)) :
    ((match storage.locate path with
      | .ok _ => .ok (some path)
      | .error _ => .error (.fault .fileSystem) : Outcome (Option FilePath)) >>= next) =
        .error (.fault fault) ↔ FileEscapes storage path format fault := by
  cases located : storage.locate path with
  | ok location => exact continues location located
  | error cause =>
      cases cause with
      | absent => simp [isAbsent, located] at isPresent
      | refused =>
          rw [fileEscapes_iff_of_refused located]
          simp [bind, Except.bind, eq_comm]

theorem ofWorkingDirectory_eq_fault_iff :
    ofWorkingDirectory storage = .error (.fault fault) ↔
      ∃ path format, (defaultFiles storage).find? (fun file => !isAbsent storage file.1) =
        some (path, format) ∧ FileEscapes storage path format fault := by
  have isPresent_of_find : ∀ {names : List String} {name : String},
      (names.find? fun name => !isAbsent storage ((directory storage).child name)) = some name →
        isAbsent storage ((directory storage).child name) = false := by
    intro names name found
    simpa using List.find?_some found
  have escapes_iff : ∀ {path : FilePath} {format : Format},
      FileEscapes storage path format fault ↔
        ∃ other otherFormat, some (path, format) = some (other, otherFormat) ∧
          FileEscapes storage other otherFormat fault := by
    simp
  rw [find?_defaultFiles]
  change (findFile storage (directory storage) fileNames >>= _) = _ ↔ _
  rw [findFile_eq]
  cases first : fileNames.find? fun name => !isAbsent storage ((directory storage).child name) with
  | some name =>
      refine Iff.trans ?_ escapes_iff
      exact foundFile_eq_fault_iff (isPresent_of_find first) fun _ _ => ofFile_eq_fault_iff
  | none =>
      change (findFile storage (directory storage) [projectFileName] >>= _) = _ ↔ _
      rw [findFile_eq]
      cases second : [projectFileName].find? fun name =>
          !isAbsent storage ((directory storage).child name) with
      | some name =>
          refine Iff.trans ?_ escapes_iff
          exact foundFile_eq_fault_iff (isPresent_of_find second) fun _ => ofProject_eq_fault_iff
      | none => simp [bind, Except.bind, pure, Except.pure]

/-- The faults of loading are exactly those that escape from the file that counts. -/
theorem load_eq_fault_iff {given : Option String} :
    load storage given = .error (.fault fault) ↔ Escapes storage given fault := by
  cases given with
  | none => exact ofWorkingDirectory_eq_fault_iff
  | some source =>
      rw [load, Escapes, chosenFile?, files]
      by_cases unnamed : source.isEmpty = true
      · rw [if_pos unnamed, if_pos unnamed]
        exact ofWorkingDirectory_eq_fault_iff
      · rw [if_neg unnamed, if_neg unnamed, ofFile_eq_fault_iff]
        constructor
        · intro escapes
          exact ⟨_, _, by simp [escapes.isAbsent_eq_false], escapes⟩
        · rintro ⟨path, format, chosen, escapes⟩
          cases List.mem_singleton.mp (List.mem_of_find?_eq_some chosen)
          exact escapes

theorem failsOnly_ofFile (storage : Storage) (path : FilePath) (source : String) :
    FailsOnly (OrFault IsLoadFailure) (ofFile storage path source) := by
  refine FailsOnly.bind ?_ fun settings _ =>
    (failsOnly_ofDecoded source settings).imp fun _ => Or.inl
  unfold readSettings
  split
  · exact .error (Or.inr ⟨_, rfl⟩)
  · exact .error (Or.inl rfl)
  · split
    · exact .error (orFault_readingFailure _ path _)
    · split
      · exact .ok _
      · exact .ok _
      · exact .error (Or.inl rfl)

theorem failsOnly_ofProject (storage : Storage) (path : FilePath) :
    FailsOnly (OrFault IsLoadFailure) (ofProject storage path) := by
  refine FailsOnly.bind ?_ fun project _ => FailsOnly.bind ?_ fun settings? _ => ?_
  · cases storage.readValue path .toml with
    | ok value => exact .ok value
    | error cause => exact .error (orFault_readingFailure _ path cause)
  · cases toolSettings? ((Value.findText (project.entries?.getD []) toolsName).getD
        (.ofValue (.mapping []))) with
    | ok found => exact .ok found
    | error cause => exact .error (Or.inr ⟨cause, rfl⟩)
  · cases settings? with
    | none => exact .ok _
    | some settings => exact (failsOnly_ofDecoded path.text settings).imp fun _ => Or.inl

theorem failsOnly_findFile (storage : Storage) (directory : FilePath) (names : List String) :
    FailsOnly (OrFault IsLoadFailure) (findFile storage directory names) := by
  rw [findFile_eq]
  split
  · exact .ok none
  · split
    · exact .ok _
    · exact .error (Or.inr ⟨_, rfl⟩)

theorem failsOnly_ofWorkingDirectory (storage : Storage) :
    FailsOnly (OrFault IsLoadFailure) (ofWorkingDirectory storage) := by
  refine FailsOnly.bind (failsOnly_findFile storage _ _) fun first _ => ?_
  cases first with
  | some path => exact failsOnly_ofFile storage path path.text
  | none =>
      refine FailsOnly.bind (failsOnly_findFile storage _ _) fun second _ => ?_
      cases second with
      | some path => exact failsOnly_ofProject storage path
      | none => exact .ok _

theorem failsOnly_load (storage : Storage) (given : Option String) :
    FailsOnly (OrFault IsLoadFailure) (load storage given) := by
  cases given with
  | none => exact failsOnly_ofWorkingDirectory storage
  | some source =>
      rw [load]
      by_cases unnamed : source.isEmpty = true
      · rw [if_pos unnamed]
        exact failsOnly_ofWorkingDirectory storage
      · rw [if_neg unnamed]
        exact failsOnly_ofFile storage _ source

end ApiScaffold.Configuration

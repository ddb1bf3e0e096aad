import ApiScaffold.Proofs.Emission.Annotations
import ApiScaffold.Proofs.Emission.NamesUsed

/-!
# Classes and their fields

A class is its documentation, its settings, and one line for each field.  The line of a field is
a legal name, the annotation of the field, and a definition whose keywords are texts or `None`.

Classes import what the annotations of their fields do, and three names of their library.
-/

namespace ApiScaffold.PythonCode

variable {service : Service}

/-- The code of a field with a type. -/
structure FieldCode.MadeOf (service : Service) (field : Field) (type : TypeCode)
    (code : FieldCode) : Prop where
  spelled : typeCode service field.model = .ok type
  isName : Naming.fieldName? field.name = some code.name
  isType : code.type = (if field.mandatory then type else type.optional).expression
  plain : ∀ keyword ∈ code.keywords, keyword.2 = .none ∨ ∃ text, keyword.2 = .text text
  imports : code.imports = type.imports ++
    if code.keywords.isEmpty then [] else [("pydantic", "Field")]

theorem exists_eq_text_of_mem_textKeyword {keyword : String} {text : Option String} :
    ∀ entry ∈ textKeyword keyword text, ∃ value, entry.2 = .text value := by
  unfold textKeyword
  split
  · exact fun entry member => nomatch member
  · split
    · exact fun entry member => nomatch member
    · rw [List.forall_mem_singleton]
      exact ⟨_, rfl⟩

/-- The code of every field is made of the type of the field. -/
theorem exists_madeOf_of_fieldCode {field : Field} {code : FieldCode}
    (built : fieldCode service field = .ok code) : ∃ type, code.MadeOf service field type := by
  obtain ⟨type, spelled, more⟩ := Outcome.bind_eq_ok_iff.mp built
  obtain ⟨legal, isLegal, wrapped⟩ := Outcome.bind_eq_ok_iff.mp more
  cases wrapped
  refine ⟨type, spelled, legalName_eq_ok_iff.mp isLegal, rfl, ?_, rfl⟩
  rw [List.forall_mem_append, List.forall_mem_append]
  refine ⟨⟨?_, ?_⟩, fun entry member => Or.inr (exists_eq_text_of_mem_textKeyword entry member)⟩
  · cases field.mandatory <;> simp
  · split <;> simp

/-- The code of a class with the codes of its fields. -/
structure ClassCode.MadeOf (service : Service) (name : String) (fields : List Field)
    (codes : List FieldCode) (code : ClassCode) : Prop where
  isName : code.definition.name = name
  pairs : List.Forall₂ (fun field code => ∃ type, code.MadeOf service field type) fields codes
  distinct : (codes.map FieldCode.name).Nodup
  isBody : ∃ documentation, ∀ line, line ∈ code.definition.body →
    line = .pass ∨ line ∈ documentationLine documentation ∨
      line ∈ settingsLine (settingsOf codes) ∨ ∃ field ∈ codes, line = field.line
  hasLines : ∀ field ∈ codes, field.line ∈ code.definition.body
  imports : code.imports = codes.flatMap FieldCode.imports ++
    (if (settingsOf codes).isEmpty then [] else [("pydantic", "ConfigDict")]) ++
      [("pydantic", "BaseModel")]

/-- Every class is made of the codes of its fields, whose names differ. -/
theorem exists_madeOf_of_classCode {name : String} {fields : List Field}
    {documentation : Option String} {code : ClassCode}
    (built : classCode service name fields documentation = .ok code) :
    ∃ codes, code.MadeOf service name fields codes := by
  obtain ⟨codes, areCodes, wrapped⟩ := Outcome.bind_eq_ok_iff.mp built
  rw [fieldCodes_eq_distinctly] at areCodes
  obtain ⟨pairs, distinct, _⟩ := Outcome.distinctly_eq_ok_iff.mp areCodes
  cases wrapped
  refine ⟨codes, rfl, pairs.imp fun _ _ => exists_madeOf_of_fieldCode, distinct,
    ⟨documentation, ?_⟩, ?_, rfl⟩
  · intro line member
    split at member
    · exact Or.inl (List.mem_singleton.mp member)
    · simp only [List.mem_append, List.mem_map, or_assoc] at member
      refine Or.inr (member.imp_right (Or.imp_right ?_))
      rintro ⟨field, isField, rfl⟩
      exact ⟨field, isField, rfl⟩
  · intro field isField
    have inBody : field.line ∈ documentationLine documentation ++
        settingsLine (settingsOf codes) ++ codes.map FieldCode.line :=
      List.mem_append_right _ (List.mem_map_of_mem isField)
    split
    · next isEmpty => exact absurd inBody (List.isEmpty_iff.mp isEmpty ▸ List.not_mem_nil)
    · exact inBody

/-! ## What is imported -/

/-- What classes may import. -/
def classImports : List (String × String) :=
  typeImports ++ [("pydantic", "Field"), ("pydantic", "ConfigDict"), ("pydantic", "BaseModel")]

/-- Classes import nothing else. -/
theorem ClassCode.MadeOf.mem_classImports {name : String} {fields : List Field}
    {codes : List FieldCode} {code : ClassCode} (made : code.MadeOf service name fields codes) :
    ∀ entry ∈ code.imports, entry ∈ classImports := by
  have ofFields : ∀ field ∈ codes, ∀ entry ∈ field.imports, entry ∈ classImports := by
    intro field isField
    obtain ⟨_, _, type, madeField⟩ := Entries.exists_left_of_forall₂ made.pairs isField
    rw [madeField.imports, List.forall_mem_append]
    constructor
    · intro entry member
      exact List.mem_append_left _
        ((annotates_of_typeCode madeField.spelled).mem_typeImports entry member)
    · split
      · exact fun entry member => nomatch member
      · decide
  rw [made.imports, List.forall_mem_append, List.forall_mem_append, List.forall_mem_flatMap]
  refine ⟨⟨ofFields, ?_⟩, by decide⟩
  split
  · exact fun entry member => nomatch member
  · decide

/-- Every class imports its base. -/
theorem ClassCode.MadeOf.baseModel_mem_imports {name : String} {fields : List Field}
    {codes : List FieldCode} {code : ClassCode} (made : code.MadeOf service name fields codes) :
    ("pydantic", "BaseModel") ∈ code.imports := by
  rw [made.imports]
  exact List.mem_append_right _ (List.mem_singleton_self _)

end ApiScaffold.PythonCode

import ApiScaffold.Emission.PythonClasses
import ApiScaffold.Proofs.Naming.Shape

/-!
# Generated names stay as they are

A generated name is the name of itself.  A type name is a capital letter and then letters and
digits, or an underscore and a digit and then letters and digits; every name of this form is its
own type name.  A field name is an identifier that is no keyword, and every such name is its own
field name.  So it does no harm if a name is made legal twice.
-/

namespace ApiScaffold.Naming

/-! ## Names of types -/

/-- The form of type names. -/
inductive IsTypeName : List Char → Prop
  | capital {first : Char} {rest : List Char} (isUpper : first.isUpper = true)
      (word : ∀ char ∈ rest, isWordChar char = true) : IsTypeName (first :: rest)
  | number {digit : Char} {rest : List Char} (isDigit : digit.isDigit = true)
      (word : ∀ char ∈ rest, isWordChar char = true) : IsTypeName ('_' :: digit :: rest)

theorem isWordChar_of_isUpper {char : Char} (isUpper : char.isUpper = true) :
    isWordChar char = true :=
  Bool.or_eq_true_iff.mpr (Or.inl (Bool.or_eq_true_iff.mpr (Or.inl isUpper)))

/-- A capital letter is its own capital form. -/
theorem toUpper_of_isUpper {char : Char} (isUpper : char.isUpper = true) :
    char.toUpper = char :=
  of_isWordChar (fun char => char.isUpper = true → char.toUpper = char)
    (by decide +kernel) (isWordChar_of_isUpper isUpper) isUpper

theorem isDigit_eq_false_of_isUpper {char : Char} (isUpper : char.isUpper = true) :
    char.isDigit = false :=
  of_isWordChar (fun char => char.isUpper = true → char.isDigit = false)
    (by decide +kernel) (isWordChar_of_isUpper isUpper) isUpper

/-- The words of a name give a type name, once a digit in front is guarded. -/
theorem isTypeName_guardDigit {first : Char} {rest : List Char}
    (either : (first.isUpper || first.isDigit) = true)
    (word : ∀ char ∈ rest, isWordChar char = true) :
    IsTypeName (guardDigit (first :: rest)) := by
  rw [guardDigit]
  split
  · next isDigit => exact .number isDigit word
  · next noDigit => exact .capital ((Bool.or_eq_true_iff.mp either).resolve_right noDigit) word

theorem isTypeName_typeName (name : String) : IsTypeName (typeName name).toList := by
  rw [typeName, String.toList_ofList, typeNameChars]
  split
  · exact .capital (by decide) (List.all_eq_true.mp (by decide))
  · next chars unequal =>
      cases isChars : (words name).flatMap capitalise with
      | nil =>
          rw [isChars] at unequal
          exact absurd rfl unequal
      | cons first rest =>
          have wordChars := @isWordChar_of_mem_capitalised_words name
          rw [isChars, List.forall_mem_cons] at wordChars
          exact isTypeName_guardDigit (head?_capitalised_words isChars) wordChars.2

namespace IsTypeName

variable {chars : List Char}

/-- Type names are ASCII text. -/
theorem toNat_lt (isName : IsTypeName chars) : ∀ char ∈ chars, char.toNat < 128 := by
  cases isName with
  | capital isUpper word =>
      rw [List.forall_mem_cons]
      exact ⟨toNat_lt_of_isWordChar (isWordChar_of_isUpper isUpper),
        fun char member => toNat_lt_of_isWordChar (word char member)⟩
  | number isDigit word =>
      rw [List.forall_mem_cons, List.forall_mem_cons]
      exact ⟨by decide, toNat_lt_of_isDigit isDigit,
        fun char member => toNat_lt_of_isWordChar (word char member)⟩

/-- A type name is its own type name. -/
theorem typeName_eq {name : String} (isName : IsTypeName name.toList) : typeName name = name := by
  have base : Text.baseText name = name.toList := Text.baseText_of_ascii isName.toNat_lt
  have chars : typeNameChars name = name.toList := by
    rw [typeNameChars, words, base]
    generalize name.toList = chars at isName
    cases isName with
    | @capital first rest isUpper word =>
        have each : ∀ char ∈ first :: rest, isWordChar char = true :=
          List.forall_mem_cons.mpr ⟨isWordChar_of_isUpper isUpper, word⟩
        rw [runs_of_wordChars (List.cons_ne_nil _ _) each, List.flatMap_singleton, capitalise,
          toUpper_of_isUpper isUpper, guardDigit, isDigit_eq_false_of_isUpper isUpper]
        rfl
    | @number digit rest isDigit word =>
        have each : ∀ char ∈ digit :: rest, isWordChar char = true :=
          List.forall_mem_cons.mpr ⟨isWordChar_of_isDigit isDigit, word⟩
        rw [runs_cons_of_gap (by decide), runs_of_wordChars (List.cons_ne_nil _ _) each,
          List.flatMap_singleton, capitalise, toUpper_of_isDigit isDigit, guardDigit, isDigit]
        rfl
  rw [typeName, chars, String.ofList_toList]

end IsTypeName

/-! ## Names of fields -/

/-- The form of field names: an identifier that is no keyword. -/
structure IsFieldName (name : String) : Prop where
  identifier : isIdentifier name.toList = true
  noKeyword : name ∉ pythonKeywords

/-- A field name is its own field name. -/
theorem IsFieldName.fieldName?_eq {name : String} (isName : IsFieldName name) :
    fieldName? name = some name := by
  have identifier := isName.identifier
  have filled : name ≠ "" := by
    rintro rfl
    cases identifier
  have guarded : guardDigit name.toList = name.toList ∧
      ∀ char ∈ name.toList, isIdentifierChar char = true := by
    cases chars : name.toList with
    | nil => exact absurd (String.toList_eq_nil_iff.mp chars) filled
    | cons first rest =>
        rw [chars, isIdentifier, Bool.and_eq_true, Bool.not_eq_true', List.all_eq_true]
          at identifier
        rw [guardDigit, identifier.1]
        exact ⟨rfl, identifier.2⟩
  rw [fieldName?_of_identifierChars filled guarded.2, guarded.1, String.ofList_toList]
  exact congrArg some (if_neg isName.noKeyword)

theorem isFieldName_of_fieldName? {name legal : String} (isName : fieldName? name = some legal) :
    IsFieldName legal := by
  obtain ⟨identifier, noKeyword⟩ := isIdentifier_of_fieldName? isName
  exact ⟨identifier, noKeyword⟩

/-- Type names and field names have their forms, and every name of such a form is kept.  The only
name without a field name is the empty one. -/
theorem names_keep_their_form (name : String) :
    (IsTypeName (typeName name).toList ∧ (∀ char ∈ (typeName name).toList, char.toNat < 128) ∧
      typeName (typeName name) = typeName name) ∧
    (PythonCode.legalName name = .error (.fault (.invalidValue "Name cannot be empty")) ↔
      name = "") ∧
    (name = "" ∨ ∃ legal, PythonCode.legalName name = .ok legal ∧ IsFieldName legal ∧
      PythonCode.legalName legal = .ok legal ∧ (IsFieldName name → legal = name)) := by
  have isTypeName := isTypeName_typeName name
  refine ⟨⟨isTypeName, isTypeName.toNat_lt, isTypeName.typeName_eq⟩, ?_⟩
  have noName := fieldName?_eq_none_iff name
  cases found : fieldName? name with
  | none =>
      obtain rfl := noName.mp found
      exact ⟨iff_of_true (by rw [PythonCode.legalName, found]) rfl, Or.inl rfl⟩
  | some legal =>
      have filled : name ≠ "" := fun isEmpty => by cases found.symm.trans (noName.mpr isEmpty)
      have isLegal := isFieldName_of_fieldName? found
      refine ⟨iff_of_false (by rw [PythonCode.legalName, found]; exact nofun) filled,
        Or.inr ⟨legal, by rw [PythonCode.legalName, found], isLegal, ?_, fun isName => ?_⟩⟩
      · rw [PythonCode.legalName, isLegal.fieldName?_eq]
      · exact Option.some.inj (found.symm.trans isName.fieldName?_eq)

end ApiScaffold.Naming

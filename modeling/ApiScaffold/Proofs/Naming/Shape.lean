import ApiScaffold.Naming.PythonName
import ApiScaffold.Naming.TypeName
import ApiScaffold.Proofs.Naming.Numbered

/-!
# What generated names look like

A generated name is an identifier of ASCII.  Where it starts tells names of types from names of
handlers: the first start with a capital letter, the others with a small one, and both may start
with an underscore before a digit.  Names of fields keep the document's spelling, so they start
with any letter or with an underscore.

A name of a field is no keyword at all, and a name of a type is none that starts with a small
letter.
-/

namespace ApiScaffold.Naming

/-- A letter or an underscore, and after it letters, digits and underscores. -/
def isIdentifier : List Char → Bool
  | [] => false
  | first :: rest => !first.isDigit && (first :: rest).all isIdentifierChar

/-- A character of some kind, or an underscore before a digit. -/
def startsIn (isStart : Char → Bool) : List Char → Bool
  | [] => false
  | first :: rest => isStart first || (first = '_' && (rest.head?.map Char.isDigit).getD false)

/-- Where a name starts does not change if something is added at its end. -/
theorem startsIn_append {isStart : Char → Bool} {chars : List Char}
    (starts : startsIn isStart chars = true) (more : List Char) :
    startsIn isStart (chars ++ more) = true := by
  cases chars with
  | nil => cases starts
  | cons first rest =>
      cases rest with
      | nil =>
          rw [startsIn, Bool.or_eq_true_iff] at starts
          rw [List.singleton_append, startsIn, Bool.or_eq_true_iff]
          exact Or.inl (starts.resolve_right (by simp))
      | cons second others => exact starts

/-! ## Characters -/

theorem toNat_lt_of_isWordChar {char : Char} (isWord : isWordChar char = true) :
    char.toNat < 128 := by
  have atMost : char.val.toNat ≤ 122 := by
    rcases Bool.or_eq_true_iff.mp isWord with isAlpha | isDigit
    · rcases Bool.or_eq_true_iff.mp isAlpha with isUpper | isLower
      · have upper : char.val ≤ 'Z'.val := (of_decide_eq_true isUpper).2
        exact Nat.le_trans (UInt32.le_iff_toNat_le.mp upper) (by decide)
      · have lower : char.val ≤ 'z'.val := of_decide_eq_true (Bool.and_eq_true_iff.mp isLower).2
        exact UInt32.le_iff_toNat_le.mp lower
    · have digit : char.val ≤ '9'.val := of_decide_eq_true (Bool.and_eq_true_iff.mp isDigit).2
      exact Nat.le_trans (UInt32.le_iff_toNat_le.mp digit) (by decide)
  exact Nat.lt_of_le_of_lt atMost (by decide)

theorem toNat_lt_of_isIdentifierChar {char : Char} (isChar : isIdentifierChar char = true) :
    char.toNat < 128 := by
  rcases Bool.or_eq_true_iff.mp isChar with isWord | isUnderscore
  · exact toNat_lt_of_isWordChar isWord
  · obtain rfl := of_decide_eq_true isUnderscore
    decide

theorem isIdentifierChar_of_isWordChar {char : Char} (isWord : isWordChar char = true) :
    isIdentifierChar char = true :=
  Bool.or_eq_true_iff.mpr (Or.inl isWord)

/-- What holds of all ASCII characters can be found out by trying them. -/
theorem of_ascii (holds : Char → Prop) (tested : ∀ code < 128, holds (Char.ofNat code))
    {char : Char} (ascii : char.toNat < 128) : holds char := by
  have here := tested char.toNat ascii
  rwa [Char.ofNat_toNat] at here

/-- What holds of a word character can be found out by trying all of ASCII. -/
theorem of_isWordChar (holds : Char → Prop)
    (tested : ∀ code < 128, isWordChar (Char.ofNat code) = true → holds (Char.ofNat code))
    {char : Char} (isWord : isWordChar char = true) : holds char :=
  of_ascii (fun char => isWordChar char = true → holds char) tested
    (toNat_lt_of_isWordChar isWord) isWord

/-- A capital form of a word character is a capital letter or a digit. -/
theorem toUpper_of_isWordChar {char : Char} (isWord : isWordChar char = true) :
    isWordChar char.toUpper = true ∧ (char.toUpper.isUpper || char.toUpper.isDigit) = true :=
  of_isWordChar (fun char =>
    isWordChar char.toUpper = true ∧ (char.toUpper.isUpper || char.toUpper.isDigit) = true)
    (by decide +kernel) isWord

/-- A small form of a word character is a small letter or a digit. -/
theorem toLower_of_isWordChar {char : Char} (isWord : isWordChar char = true) :
    isWordChar char.toLower = true ∧ char.toLower.isUpper = false ∧
      (char.toLower.isLower || char.toLower.isDigit) = true :=
  of_isWordChar (fun char =>
    isWordChar char.toLower = true ∧ char.toLower.isUpper = false ∧
      (char.toLower.isLower || char.toLower.isDigit) = true)
    (by decide +kernel) isWord

/-! ## Guarded digits -/

theorem forall_mem_guardDigit {holds : Char → Prop} (underscore : holds '_') {chars : List Char}
    (each : ∀ char ∈ chars, holds char) : ∀ char ∈ guardDigit chars, holds char := by
  cases chars with
  | nil => exact each
  | cons first rest =>
      rw [guardDigit]
      split
      · rw [List.forall_mem_cons]
        exact ⟨underscore, each⟩
      · exact each

/-- Identifier characters are an identifier once a digit in front is guarded. -/
theorem isIdentifier_guardDigit {chars : List Char} (filled : chars ≠ [])
    (each : ∀ char ∈ chars, isIdentifierChar char = true) :
    isIdentifier (guardDigit chars) = true := by
  have guarded : ∀ char ∈ guardDigit chars, isIdentifierChar char = true :=
    forall_mem_guardDigit (by decide) each
  cases chars with
  | nil => exact absurd rfl filled
  | cons first rest =>
      rw [guardDigit] at guarded ⊢
      split at guarded
      · next isDigit =>
          rw [if_pos isDigit, isIdentifier, Bool.and_eq_true, List.all_eq_true]
          exact ⟨by decide, guarded⟩
      · next noDigit =>
          rw [if_neg noDigit, isIdentifier, Bool.and_eq_true, List.all_eq_true]
          exact ⟨by simpa using noDigit, guarded⟩

theorem startsIn_guardDigit {isStart : Char → Bool} {first : Char} {rest : List Char}
    (either : (isStart first || first.isDigit) = true) :
    startsIn isStart (guardDigit (first :: rest)) = true := by
  rw [guardDigit]
  split
  · next isDigit => simp [startsIn, isDigit]
  · next noDigit =>
      rw [Bool.or_eq_true_iff] at either
      rw [startsIn, either.resolve_right noDigit, Bool.true_or]

/-! ## Names of fields -/

theorem isIdentifier_identifierChars (name : String) :
    isIdentifier (identifierChars name) = true := by
  unfold identifierChars
  split
  · decide
  · next chars unequal =>
      apply isIdentifier_guardDigit
      · rintro isNil
        exact unequal (by rw [isNil]; rfl)
      · intro char member
        exact (List.mem_filter.mp member).2

/-- An identifier stays one with more of its characters at its end. -/
theorem isIdentifier_append {chars more : List Char} (identifier : isIdentifier chars = true)
    (each : ∀ char ∈ more, isIdentifierChar char = true) : isIdentifier (chars ++ more) = true := by
  cases chars with
  | nil => cases identifier
  | cons first rest =>
      simp only [isIdentifier, Bool.and_eq_true, List.all_eq_true] at identifier
      simp only [List.cons_append, isIdentifier, Bool.and_eq_true, List.all_eq_true]
      refine ⟨identifier.1, ?_⟩
      rw [← List.cons_append, List.forall_mem_append]
      exact ⟨identifier.2, each⟩

/-- The name of a field is an identifier and no keyword. -/
theorem isIdentifier_of_fieldName? {name legal : String} (isName : fieldName? name = some legal) :
    isIdentifier legal.toList = true ∧ legal ∉ pythonKeywords := by
  have identifier := isIdentifier_identifierChars name
  rw [fieldName?] at isName
  split at isName
  · cases isName
  · obtain rfl := Option.some.inj isName
    split
    · next isKeyword =>
        constructor
        · rw [String.toList_append, String.toList_ofList]
          exact isIdentifier_append identifier (by simp [isIdentifierChar])
        · have changed : ∀ keyword ∈ pythonKeywords, keyword ++ "_" ∉ pythonKeywords := by
            decide +kernel
          exact changed _ isKeyword
    · next noKeyword => exact ⟨by rwa [String.toList_ofList], noKeyword⟩

theorem isSeparator_eq_false_of_isIdentifierChar {char : Char}
    (isChar : isIdentifierChar char = true) : isSeparator char = false :=
  of_ascii (fun char => isIdentifierChar char = true → isSeparator char = false)
    (by decide +kernel) (toNat_lt_of_isIdentifierChar isChar) isChar

/-- Where there are no separators none are joined. -/
theorem joinSeparators_of_identifierChars {chars : List Char}
    (each : ∀ char ∈ chars, isIdentifierChar char = true) : joinSeparators false chars = chars := by
  induction chars with
  | nil => rfl
  | cons char rest ih =>
      rw [List.forall_mem_cons] at each
      rw [joinSeparators, isSeparator_eq_false_of_isIdentifierChar each.1, ih each.2]
      rfl

/-- A name that is made of identifier characters only has a digit in front guarded, and keywords
avoided. -/
theorem fieldName?_of_identifierChars {name : String} (filled : name ≠ "")
    (each : ∀ char ∈ name.toList, isIdentifierChar char = true) :
    fieldName? name = some
      (let identifier := String.ofList (guardDigit name.toList)
      if identifier ∈ pythonKeywords then identifier ++ "_" else identifier) := by
  have chars : identifierChars name = guardDigit name.toList := by
    have guarded : guardDigit name.toList ≠ [] := by
      have identifier := isIdentifier_guardDigit (mt String.toList_eq_nil_iff.mp filled) each
      intro isNil
      rw [isNil] at identifier
      cases identifier
    rw [identifierChars, Text.baseText_of_ascii fun char member =>
      toNat_lt_of_isIdentifierChar (each char member), joinSeparators_of_identifierChars each,
      List.filter_eq_self.mpr each]
    split
    · contradiction
    · rfl
  rw [fieldName?, if_neg (by simpa using filled), chars]

/-! ## Names of types -/

/-- The words of a name give a capital letter, or a digit, in front. -/
theorem head?_capitalised_words {name : String} {first : Char} {rest : List Char}
    (isHead : (words name).flatMap capitalise = first :: rest) :
    (first.isUpper || first.isDigit) = true := by
  cases isWords : words name with
  | nil =>
      rw [isWords] at isHead
      cases isHead
  | cons word others =>
      have inWords : word ∈ words name := by
        rw [isWords]
        exact List.mem_cons_self
      obtain ⟨filled, wordChars⟩ := ne_nil_and_wordChars_of_mem_runs _ word inWords
      cases word with
      | nil => exact absurd rfl filled
      | cons letter letters =>
          rw [isWords, List.flatMap_cons, capitalise, List.cons_append] at isHead
          obtain ⟨rfl, _⟩ := List.cons.inj isHead
          exact (toUpper_of_isWordChar (wordChars letter List.mem_cons_self)).2

theorem isWordChar_of_mem_capitalised_words {name : String} :
    ∀ char ∈ (words name).flatMap capitalise, isWordChar char = true := by
  intro char member
  obtain ⟨word, inWords, inWord⟩ := List.mem_flatMap.mp member
  obtain ⟨filled, wordChars⟩ := ne_nil_and_wordChars_of_mem_runs _ word inWords
  cases word with
  | nil => cases inWord
  | cons letter letters =>
      rw [List.forall_mem_cons] at wordChars
      rcases List.mem_cons.mp inWord with rfl | later
      · exact (toUpper_of_isWordChar wordChars.1).1
      · exact wordChars.2 char later

/-- The name of a type is an identifier that starts with a capital letter, or with an underscore
before a digit. -/
theorem isIdentifier_typeName (name : String) :
    isIdentifier (typeName name).toList = true ∧
      startsIn Char.isUpper (typeName name).toList = true := by
  rw [typeName, String.toList_ofList, typeNameChars]
  split
  · constructor <;> decide
  · next chars unequal =>
      cases isChars : (words name).flatMap capitalise with
      | nil =>
          rw [isChars] at unequal
          exact absurd rfl unequal
      | cons first rest =>
          have wordChars := @isWordChar_of_mem_capitalised_words name
          rw [isChars] at wordChars
          constructor
          · exact isIdentifier_guardDigit (List.cons_ne_nil _ _) fun char member =>
              isIdentifierChar_of_isWordChar (wordChars char member)
          · exact startsIn_guardDigit (head?_capitalised_words isChars)

/-! ## Names of handlers -/

theorem mem_flatten_intersperse {separator : Char} {parts : List (List Char)} {char : Char}
    (member : char ∈ (List.intersperse [separator] parts).flatten) :
    char = separator ∨ ∃ part ∈ parts, char ∈ part := by
  induction parts with
  | nil => cases member
  | cons part rest ih =>
      cases rest with
      | nil => exact Or.inr ⟨part, List.mem_cons_self, by simpa using member⟩
      | cons next others =>
          rw [List.intersperse_cons_cons, List.flatten_cons, List.mem_append, List.flatten_cons,
            List.singleton_append, List.mem_cons] at member
          rcases member with inPart | isSeparator | later
          · exact Or.inr ⟨part, List.mem_cons_self, inPart⟩
          · exact Or.inl isSeparator
          · rcases ih later with isSeparator | ⟨other, isPart, inOther⟩
            · exact Or.inl isSeparator
            · exact Or.inr ⟨other, List.mem_cons_of_mem part isPart, inOther⟩

/-- The parts start where the first of them does. -/
theorem exists_flatten_intersperse (separator : Char) (part : List Char)
    (rest : List (List Char)) :
    ∃ more, (List.intersperse [separator] (part :: rest)).flatten = part ++ more := by
  cases rest with
  | nil => exact ⟨[], by simp⟩
  | cons next others =>
      rw [List.intersperse_cons_cons, List.flatten_cons]
      exact ⟨_, rfl⟩

/-- A name in snake case has no capital letters. -/
theorem of_mem_snakeCaseChars {name : String} {char : Char} (member : char ∈ snakeCaseChars name) :
    isIdentifierChar char = true ∧ char.isUpper = false := by
  obtain ⟨original, inParts, rfl⟩ := List.mem_map.mp member
  rcases mem_flatten_intersperse inParts with rfl | ⟨word, isWord, inWord⟩
  · decide
  · have wordChar := (ne_nil_and_wordChars_of_mem_runs _ word isWord).2 original inWord
    obtain ⟨isSmallWord, noCapital, _⟩ := toLower_of_isWordChar wordChar
    exact ⟨isIdentifierChar_of_isWordChar isSmallWord, noCapital⟩

/-- A name in snake case starts with a small letter or a digit. -/
theorem startsIn_of_snakeCaseChars {name : String} {first : Char} {rest : List Char}
    (isChars : snakeCaseChars name = first :: rest) :
    (first.isLower || first.isDigit) = true := by
  rw [snakeCaseChars] at isChars
  cases isRuns : runs (separateWords none (Text.baseText name)) with
  | nil =>
      rw [isRuns] at isChars
      cases isChars
  | cons word words =>
      have isRun : word ∈ runs (separateWords none (Text.baseText name)) := by
        rw [isRuns]
        exact List.mem_cons_self
      obtain ⟨filled, wordChars⟩ := ne_nil_and_wordChars_of_mem_runs _ word isRun
      obtain ⟨more, isFlat⟩ := exists_flatten_intersperse '_' word words
      cases word with
      | nil => exact absurd rfl filled
      | cons letter letters =>
          rw [isRuns, isFlat, List.cons_append, List.map_cons] at isChars
          obtain ⟨rfl, _⟩ := List.cons.inj isChars
          exact (toLower_of_isWordChar (wordChars letter List.mem_cons_self)).2.2

/-- The name of a handler starts with a small letter, or with an underscore before a digit, and
has no capital letters. -/
theorem startsIn_of_fieldName?_snakeCase {name legal : String}
    (isName : fieldName? (snakeCase name) = some legal) :
    startsIn Char.isLower legal.toList = true ∧ ∀ char ∈ legal.toList, char.isUpper = false := by
  have filled : snakeCase name ≠ "" := by
    intro isEmpty
    rw [(fieldName?_eq_none_iff _).mpr isEmpty] at isName
    cases isName
  have chars : (snakeCase name).toList = snakeCaseChars name := String.toList_ofList
  have each : ∀ char ∈ (snakeCase name).toList, isIdentifierChar char = true := by
    rw [chars]
    exact fun char member => (of_mem_snakeCaseChars member).1
  have guarded : startsIn Char.isLower (guardDigit (snakeCaseChars name)) = true ∧
      ∀ char ∈ guardDigit (snakeCaseChars name), char.isUpper = false := by
    constructor
    · cases isChars : snakeCaseChars name with
      | nil =>
          rw [isChars] at chars
          exact absurd (String.toList_eq_nil_iff.mp chars) filled
      | cons first rest => exact startsIn_guardDigit (startsIn_of_snakeCaseChars isChars)
    · exact forall_mem_guardDigit (by decide) fun char member => (of_mem_snakeCaseChars member).2
  rw [fieldName?_of_identifierChars filled each, chars] at isName
  obtain rfl := Option.some.inj isName
  dsimp only
  split
  · rw [String.toList_append, String.toList_ofList]
    refine ⟨startsIn_append guarded.1 _, ?_⟩
    rw [List.forall_mem_append]
    exact ⟨guarded.2, by simp⟩
  · rwa [String.toList_ofList]

end ApiScaffold.Naming

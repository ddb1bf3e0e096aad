import ApiScaffold.Naming.RustName
import ApiScaffold.Proofs.Naming.Rewriting

/-!
# Names in Rust are legal

A name in Rust is its snake case, or `field` if there is none, with a digit in front guarded and
keywords avoided.  It can always be formed, there is nothing in it that would have to be left out,
and it is legal: an identifier of small letters, digits and underscores that is no keyword, or the
raw form of a keyword that has one.
-/

namespace ApiScaffold.Naming

/-! ## Legal names -/

/-- A small letter, a digit or an underscore. -/
def isSmallChar (char : Char) : Bool :=
  isSmallWordChar char || char = '_'

/-- A small letter or an underscore, and after it small letters, digits and underscores. -/
def isSmallIdentifier : List Char → Bool
  | [] => false
  | first :: rest => (first.isLower || first = '_') && rest.all isSmallChar

/-- The legal names: identifiers that are no keywords, and raw keywords.  The underscore alone
names nothing. -/
inductive IsRustName : String → Prop
  | plain {name : String} (identifier : isSmallIdentifier name.toList = true) (named : name ≠ "_")
      (noKeyword : name ∉ rustKeywords) : IsRustName name
  | raw {keyword : String} (isKeyword : keyword ∈ rustKeywords)
      (noPath : keyword ∉ pathKeywords) : IsRustName (rawMark ++ keyword)

/-! ## Names step by step -/

/-- The name for a snake case that is empty. -/
def orField : List Char → List Char
  | [] => "field".toList
  | chars => chars

/-- An identifier that is no keyword, made from one that may be. -/
def avoidKeyword (identifier : String) : String :=
  if identifier ∈ pathKeywords then identifier ++ "_"
  else if identifier ∈ rustKeywords then rawMark ++ identifier
  else identifier

/-- The name of a field or a function, reached step by step.  Characters that a name cannot have
are left out, and after that there has to be a first character. -/
def rewrittenRustName? (name : String) : Option String :=
  match (orField (rewrittenSnakeCase name)).filter isSmallChar with
  | [] => none
  | first :: rest =>
      some (avoidKeyword (String.ofList
        (if first.isDigit then '_' :: first :: rest else first :: rest)))

theorem rustName_eq (name : String) :
    rustName name = avoidKeyword (String.ofList (guardDigit (orField (snakeCaseChars name)))) :=
  rfl

/-- A row of words does not begin with an underscore. -/
theorem SmallWords.isSmallWordChar_head {words : List (List Char)} (small : SmallWords words)
    {first : Char} {rest : List Char} (isJoined : joinWords words = first :: rest) :
    isSmallWordChar first = true := by
  cases words with
  | nil => cases isJoined
  | cons word others =>
      obtain ⟨filled, each⟩ := small word List.mem_cons_self
      cases word with
      | nil => exact absurd rfl filled
      | cons char letters =>
          rw [joinWords_cons_char] at isJoined
          exact (List.cons.inj isJoined).1 ▸ each char List.mem_cons_self

/-- The name begins with a small letter or a digit, and has nothing in it that it cannot have. -/
theorem exists_orField_snakeCaseChars (name : String) :
    ∃ first rest, orField (snakeCaseChars name) = first :: rest ∧ isSmallWordChar first = true ∧
      ∀ char ∈ first :: rest, isSmallChar char = true := by
  have small := smallWords_snakeWords name
  cases isChars : snakeCaseChars name with
  | nil => exact ⟨'f', "ield".toList, rfl, by decide, List.all_eq_true.mp (by decide)⟩
  | cons first rest =>
      rw [snakeCaseChars_eq_joinWords] at isChars
      refine ⟨first, rest, rfl, small.isSmallWordChar_head isChars, fun char member => ?_⟩
      rw [isSmallChar, Bool.or_eq_true, decide_eq_true_eq]
      exact (small.of_mem_joinWords (isChars ▸ member)).symm

/-- Nothing is left out of a name. -/
theorem filter_orField_snakeCaseChars (name : String) :
    (orField (snakeCaseChars name)).filter isSmallChar = orField (snakeCaseChars name) := by
  obtain ⟨first, rest, isChars, _, each⟩ := exists_orField_snakeCaseChars name
  rw [isChars]
  exact List.filter_eq_self.mpr each

theorem rewrittenRustName?_eq (name : String) : rewrittenRustName? name = some (rustName name) := by
  obtain ⟨first, rest, isChars, _, _⟩ := exists_orField_snakeCaseChars name
  rw [rewrittenRustName?, rewrittenSnakeCase_eq, filter_orField_snakeCaseChars, rustName_eq,
    isChars]
  rfl

/-! ## Keywords -/

/-- A name with its digit in front guarded is an identifier. -/
theorem isSmallIdentifier_guardDigit {first : Char} {rest : List Char}
    (isFirst : isSmallWordChar first = true)
    (each : ∀ char ∈ first :: rest, isSmallChar char = true) :
    isSmallIdentifier (guardDigit (first :: rest)) = true ∧ guardDigit (first :: rest) ≠ ['_'] := by
  rw [guardDigit]
  split
  · rw [isSmallIdentifier, Bool.and_eq_true, List.all_eq_true]
    exact ⟨⟨by decide, each⟩, by simp⟩
  · next noDigit =>
      have isLower : first.isLower = true := (Bool.or_eq_true_iff.mp isFirst).resolve_right noDigit
      constructor
      · rw [isSmallIdentifier, isLower, Bool.true_or, Bool.true_and, List.all_eq_true]
        exact fun char member => each char (List.mem_cons_of_mem first member)
      · intro isUnderscore
        rw [(List.cons.inj isUnderscore).1] at isLower
        cases isLower

/-- With its keyword avoided an identifier is a legal name. -/
theorem isRustName_avoidKeyword {identifier : String}
    (isIdentifier : isSmallIdentifier identifier.toList = true) (named : identifier ≠ "_") :
    IsRustName (avoidKeyword identifier) := by
  have changed : ∀ keyword ∈ pathKeywords, isSmallIdentifier keyword.toList = true →
      isSmallIdentifier (keyword ++ "_").toList = true ∧ keyword ++ "_" ≠ "_" ∧
        keyword ++ "_" ∉ rustKeywords := by
    decide +kernel
  rw [avoidKeyword]
  split
  · next isPath =>
      obtain ⟨stays, stillNamed, noKeyword⟩ := changed identifier isPath isIdentifier
      exact .plain stays stillNamed noKeyword
  · next noPath =>
      split
      · next isKeyword => exact .raw isKeyword noPath
      · next noKeyword => exact .plain isIdentifier named noKeyword

theorem isRustName_rustName (name : String) : IsRustName (rustName name) := by
  obtain ⟨first, rest, isChars, isFirst, each⟩ := exists_orField_snakeCaseChars name
  obtain ⟨isIdentifier, notUnderscore⟩ := isSmallIdentifier_guardDigit isFirst each
  rw [rustName_eq, isChars]
  apply isRustName_avoidKeyword
  · rwa [String.toList_ofList]
  · intro isUnderscore
    apply notUnderscore
    rw [← String.toList_ofList (l := guardDigit (first :: rest)), isUnderscore]
    rfl

/-- Snake case has the words of a name with single underscores between them, keeps all its letters
and digits in small letters, and stays as it is if it is put into snake case again; rewriting a
name step by step gives it.  The name in Rust can always be formed from it, without anything being
left out, and it is legal. -/
theorem snakeCase_lossless_rustName_legal (name : String) :
    (∃ words, SmallWords words ∧ (snakeCase name).toList = joinWords words) ∧
      snakeCase (snakeCase name) = snakeCase name ∧
      (snakeCase name).toList.filter (· ≠ '_') =
        ((Text.baseText name).filter isWordChar).map Char.toLower ∧
      (snakeCase name).toList = rewrittenSnakeCase name ∧
      (orField (rewrittenSnakeCase name)).filter isSmallChar = orField (rewrittenSnakeCase name) ∧
      rewrittenRustName? name = some (rustName name) ∧ IsRustName (rustName name) := by
  have chars : (snakeCase name).toList = snakeCaseChars name := String.toList_ofList
  rw [chars, rewrittenSnakeCase_eq]
  exact ⟨⟨snakeWords name, smallWords_snakeWords name, snakeCaseChars_eq_joinWords name⟩,
    snakeCase_snakeCase name, filter_snakeCaseChars name, rfl, filter_orField_snakeCaseChars name,
    rewrittenRustName?_eq name, isRustName_rustName name⟩

end ApiScaffold.Naming

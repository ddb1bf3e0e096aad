import ApiScaffold.Proofs.Naming.Runs
import ApiScaffold.Proofs.Naming.Shape

/-!
# What snake case keeps

A name in snake case is a row of words of small letters and digits with single underscores between
them.  Every text of this form is its own snake case.  The underscores apart, the name has the
letters and digits of the document name, in their order and in small letters.
-/

namespace ApiScaffold.Naming

/-! ## Joined words -/

/-- Words with single underscores between them. -/
def joinWords (words : List (List Char)) : List Char :=
  (List.intersperse ['_'] words).flatten

@[simp]
theorem joinWords_singleton (word : List Char) : joinWords [word] = word := by
  simp [joinWords]

theorem joinWords_cons_cons (word next : List Char) (others : List (List Char)) :
    joinWords (word :: next :: others) = word ++ '_' :: joinWords (next :: others) := by
  rw [joinWords, List.intersperse_cons_cons, List.flatten_cons, List.flatten_cons,
    List.singleton_append, joinWords]

/-- A character in front belongs to the first word. -/
theorem joinWords_cons_char (char : Char) (word : List Char) (words : List (List Char)) :
    joinWords ((char :: word) :: words) = char :: joinWords (word :: words) := by
  cases words with
  | nil => rw [joinWords_singleton, joinWords_singleton]
  | cons next others => rw [joinWords_cons_cons, joinWords_cons_cons, List.cons_append]

theorem map_joinWords {change : Char → Char} (keeps : change '_' = '_')
    (words : List (List Char)) :
    (joinWords words).map change = joinWords (words.map (List.map change)) := by
  induction words with
  | nil => rfl
  | cons word rest ih =>
      cases rest with
      | nil => simp
      | cons next others =>
          rw [joinWords_cons_cons, List.map_append, List.map_cons, ih, keeps]
          exact (joinWords_cons_cons _ _ _).symm

/-- Without the underscores nothing but the words is left. -/
theorem filter_joinWords {words : List (List Char)}
    (each : ∀ word ∈ words, ∀ char ∈ word, char ≠ '_') :
    (joinWords words).filter (· ≠ '_') = words.flatten := by
  induction words with
  | nil => rfl
  | cons word rest ih =>
      rw [List.forall_mem_cons] at each
      have kept : word.filter (· ≠ '_') = word :=
        List.filter_eq_self.mpr fun char member => decide_eq_true (each.1 char member)
      cases rest with
      | nil => rw [joinWords_singleton, kept, List.flatten_singleton]
      | cons next others =>
          rw [joinWords_cons_cons, List.filter_append, kept,
            List.filter_cons_of_neg (by simp), ih each.2]
          rfl

/-! ## Words in small letters -/

/-- A small letter or a digit. -/
def isSmallWordChar (char : Char) : Bool :=
  char.isLower || char.isDigit

/-- Words that are not empty and have small letters and digits only. -/
def SmallWords (words : List (List Char)) : Prop :=
  ∀ word ∈ words, word ≠ [] ∧ ∀ char ∈ word, isSmallWordChar char = true

theorem isWordChar_of_isSmallWordChar {char : Char} (isSmall : isSmallWordChar char = true) :
    isWordChar char = true := by
  rcases Bool.or_eq_true_iff.mp isSmall with isLower | isDigit
  · exact Bool.or_eq_true_iff.mpr (Or.inl (Bool.or_eq_true_iff.mpr (Or.inr isLower)))
  · exact isWordChar_of_isDigit isDigit

/-- A small letter or a digit is no capital letter, and it is its own small form. -/
theorem toLower_of_isSmallWordChar {char : Char} (isSmall : isSmallWordChar char = true) :
    char.isUpper = false ∧ char.toLower = char :=
  of_isWordChar (fun char =>
    isSmallWordChar char = true → char.isUpper = false ∧ char.toLower = char)
    (by decide +kernel) (isWordChar_of_isSmallWordChar isSmall) isSmall

theorem ne_underscore_of_isWordChar {char : Char} (isWord : isWordChar char = true) :
    char ≠ '_' := by
  rintro rfl
  cases isWord

/-- Where there are no capitals no words are separated. -/
theorem separateWords_of_noCapitals {chars : List Char}
    (noCapitals : ∀ char ∈ chars, char.isUpper = false) (previous : Option Char) :
    separateWords previous chars = chars := by
  induction chars generalizing previous with
  | nil => rfl
  | cons char rest ih =>
      rw [List.forall_mem_cons] at noCapitals
      have starts : startsWord previous char rest.head? = false := by
        unfold startsWord
        rw [noCapitals.1, Bool.false_and]
      rw [separateWords, starts, ih noCapitals.2]
      rfl

namespace SmallWords

variable {words : List (List Char)}

/-- Joined words have small letters, digits and underscores only. -/
theorem of_mem_joinWords (small : SmallWords words) {char : Char}
    (member : char ∈ joinWords words) : char = '_' ∨ isSmallWordChar char = true := by
  rcases mem_flatten_intersperse member with isUnderscore | ⟨word, isWord, inWord⟩
  · exact Or.inl isUnderscore
  · exact Or.inr ((small word isWord).2 char inWord)

/-- Joined words are cut apart where they were joined. -/
theorem runs_joinWords (small : SmallWords words) : runs (joinWords words) = words := by
  induction words with
  | nil => rfl
  | cons word rest ih =>
      rw [SmallWords, List.forall_mem_cons] at small
      obtain ⟨⟨filled, isSmall⟩, others⟩ := small
      have each : ∀ char ∈ word, isWordChar char = true := fun char member =>
        isWordChar_of_isSmallWordChar (isSmall char member)
      cases rest with
      | nil => rw [joinWords_singleton, runs_of_wordChars filled each]
      | cons next more =>
          rw [joinWords_cons_cons, runs_append_gap filled each (by decide), ih others]

/-- Joined words are their own snake case. -/
theorem snakeCaseChars_eq (small : SmallWords words) {name : String}
    (isName : name.toList = joinWords words) : snakeCaseChars name = joinWords words := by
  have tame : ∀ char ∈ joinWords words,
      char.toNat < 128 ∧ char.isUpper = false ∧ char.toLower = char := by
    intro char member
    rcases small.of_mem_joinWords member with rfl | isSmall
    · decide
    · exact ⟨toNat_lt_of_isWordChar (isWordChar_of_isSmallWordChar isSmall),
        toLower_of_isSmallWordChar isSmall⟩
  have base : Text.baseText name = joinWords words := by
    rw [Text.baseText_of_ascii, isName]
    exact fun char member => (tame char (isName ▸ member)).1
  rw [snakeCaseChars, base,
    separateWords_of_noCapitals (fun char member => (tame char member).2.1) none,
    small.runs_joinWords]
  change (joinWords words).map Char.toLower = joinWords words
  rw [List.map_congr_left fun char member => (tame char member).2.2, List.map_id']

end SmallWords

/-! ## Names in snake case -/

/-- The words of a name in snake case. -/
def snakeWords (name : String) : List (List Char) :=
  (runs (separateWords none (Text.baseText name))).map (List.map Char.toLower)

theorem snakeCaseChars_eq_joinWords (name : String) :
    snakeCaseChars name = joinWords (snakeWords name) :=
  map_joinWords (by decide) _

theorem smallWords_snakeWords (name : String) : SmallWords (snakeWords name) := by
  rw [SmallWords, snakeWords, List.forall_mem_map]
  intro word isRun
  obtain ⟨filled, each⟩ := ne_nil_and_wordChars_of_mem_runs _ word isRun
  refine ⟨by simpa using filled, ?_⟩
  rw [List.forall_mem_map]
  exact fun char member => (toLower_of_isWordChar (each char member)).2.2

/-- A name in snake case is its own snake case. -/
theorem snakeCase_snakeCase (name : String) : snakeCase (snakeCase name) = snakeCase name := by
  have chars : (snakeCase name).toList = joinWords (snakeWords name) := by
    rw [snakeCase, String.toList_ofList, snakeCaseChars_eq_joinWords]
  rw [snakeCase, (smallWords_snakeWords name).snakeCaseChars_eq chars, ← chars,
    String.ofList_toList]

/-- Only underscores are put between letters and digits. -/
theorem filter_isWordChar_separateWords (previous : Option Char) (chars : List Char) :
    (separateWords previous chars).filter isWordChar = chars.filter isWordChar := by
  induction chars generalizing previous with
  | nil => rfl
  | cons char rest ih =>
      rw [separateWords]
      split
      · rw [List.filter_cons_of_neg (by decide), List.filter_cons, List.filter_cons, ih]
      · rw [List.filter_cons, List.filter_cons, ih]

/-- No letter and no digit of a name is lost. -/
theorem filter_snakeCaseChars (name : String) :
    (snakeCaseChars name).filter (· ≠ '_') =
      ((Text.baseText name).filter isWordChar).map Char.toLower := by
  have noUnderscore : ∀ word ∈ snakeWords name, ∀ char ∈ word, char ≠ '_' :=
    fun word isWord char member => ne_underscore_of_isWordChar
      (isWordChar_of_isSmallWordChar ((smallWords_snakeWords name word isWord).2 char member))
  rw [snakeCaseChars_eq_joinWords, filter_joinWords noUnderscore, snakeWords, ← List.map_flatten,
    flatten_runs, filter_isWordChar_separateWords]

end ApiScaffold.Naming

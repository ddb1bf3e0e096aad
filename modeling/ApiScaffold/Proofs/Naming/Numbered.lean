import ApiScaffold.Naming.TypeName
import ApiScaffold.Proofs.Naming.Runs

/-!
# Type names of numbered names

A number at the end of a name stays at the end of its type name, whatever comes before
it.  So different numbers give different type names, and none of them is the type name
without a number.
-/

namespace ApiScaffold.Naming

theorem isWordChar_of_isDigit {char : Char} (isDigit : char.isDigit = true) :
    isWordChar char = true := by
  simp [isWordChar, Char.isAlphanum, isDigit]

theorem toNat_lt_of_isDigit {char : Char} (isDigit : char.isDigit = true) :
    char.toNat < 128 := by
  simp only [Char.isDigit, Bool.and_eq_true, decide_eq_true_eq] at isDigit
  have atMost : char.val.toNat ≤ 57 := UInt32.le_iff_toNat_le.mp isDigit.2
  exact Nat.lt_of_le_of_lt atMost (by decide)

theorem toUpper_of_isDigit {char : Char} (isDigit : char.isDigit = true) :
    char.toUpper = char := by
  simp only [Char.isDigit, Bool.and_eq_true, decide_eq_true_eq] at isDigit
  have atMost : char.val.toNat ≤ 57 := UInt32.le_iff_toNat_le.mp isDigit.2
  have noLetter : ¬ (97 ≤ char.val) := by
    intro letter
    have atLeast : 97 ≤ char.val.toNat := UInt32.le_iff_toNat_le.mp letter
    omega
  exact dif_neg fun isLetter => noLetter isLetter.1

/-- Digits have no capital form. -/
theorem capitalise_digits {digits : List Char}
    (isDigit : ∀ char ∈ digits, char.isDigit = true) : capitalise digits = digits := by
  cases digits with
  | nil => rfl
  | cons digit rest => simp [capitalise, toUpper_of_isDigit (isDigit digit List.mem_cons_self)]

/-- How the words before a number differ from those without the number: the number ends the
word that is still open, or it ends the words that are complete. -/
def EndsIn (digits : List Char) (bare numbered : List Char × List (List Char)) : Prop :=
  (numbered.1 = bare.1 ++ digits ∧ numbered.2 = [] ∧ bare.2 = []) ∨
    (numbered.1 = bare.1 ∧
      numbered.2.flatMap capitalise = bare.2.flatMap capitalise ++ digits)

/-- One more character in front does not move the number. -/
theorem EndsIn.extendWords {digits : List Char} (filled : digits ≠ [])
    (isDigit : ∀ char ∈ digits, char.isDigit = true)
    {bare numbered : List Char × List (List Char)} (ends : EndsIn digits bare numbered)
    (char : Char) : EndsIn digits (extendWords char bare) (extendWords char numbered) := by
  obtain ⟨bareOpen, bareDone⟩ := bare
  obtain ⟨numberedOpen, numberedDone⟩ := numbered
  by_cases isWord : isWordChar char = true
  · rcases ends with ⟨opened, noWords, noBareWords⟩ | ⟨opened, done⟩
    · left
      simp only at opened noWords noBareWords
      simp [Naming.extendWords, isWord, opened, noWords, noBareWords]
    · right
      simp only at opened done
      simp [Naming.extendWords, isWord, opened, done]
  · right
    rcases ends with ⟨opened, noWords, noBareWords⟩ | ⟨opened, done⟩
    · simp only at opened noWords noBareWords
      subst opened noWords noBareWords
      cases bareOpen with
      | nil => simp [Naming.extendWords, isWord, filled, capitalise_digits isDigit]
      | cons first rest => simp [Naming.extendWords, isWord, capitalise]
    · simp only at opened done
      subst opened
      cases numberedOpen with
      | nil => simp [Naming.extendWords, isWord, done]
      | cons first rest => simp [Naming.extendWords, isWord, done]

/-- Digits at the end of a text end its words. -/
theorem flatMap_capitalise_runs_append (chars : List Char) {digits : List Char}
    (filled : digits ≠ []) (isDigit : ∀ char ∈ digits, char.isDigit = true) :
    (runs (chars ++ digits)).flatMap capitalise = (runs chars).flatMap capitalise ++ digits := by
  have ends : EndsIn digits (chars.foldr extendWords ([], []))
      (chars.foldr extendWords (digits, [])) := by
    induction chars with
    | nil => exact Or.inl ⟨rfl, rfl, rfl⟩
    | cons char rest ih => exact ih.extendWords filled isDigit char
  unfold runs
  rw [List.foldr_append,
    foldr_extendWords_of_wordChars fun char member => isWordChar_of_isDigit (isDigit char member),
    List.append_nil]
  generalize chars.foldr extendWords ([], []) = bare at ends ⊢
  generalize chars.foldr extendWords (digits, []) = numbered at ends ⊢
  obtain ⟨bareOpen, bareDone⟩ := bare
  obtain ⟨numberedOpen, numberedDone⟩ := numbered
  rcases ends with ⟨opened, noWords, noBareWords⟩ | ⟨opened, done⟩
  · simp only at opened noWords noBareWords
    subst opened noWords noBareWords
    cases bareOpen with
    | nil => simp [filled, capitalise_digits isDigit]
    | cons first rest => simp [capitalise]
  · simp only at opened done
    subst opened
    cases numberedOpen with
    | nil => simpa using done
    | cons first rest => simp [done]

/-- The words of a numbered name end in the number. -/
theorem flatMap_capitalise_words_append (name : String) (number : Nat) :
    (words (name ++ toString number)).flatMap capitalise =
      (words name).flatMap capitalise ++ Nat.toDigits 10 number := by
  have isDigit : ∀ char ∈ Nat.toDigits 10 number, char.isDigit = true := by
    intro char member
    exact Nat.isDigit_of_mem_toDigits (by decide) (by decide) member
  have digits : (toString number).toList = Nat.toDigits 10 number := by
    rw [Nat.toString_eq_ofList_toDigits, String.toList_ofList]
  have own : Text.baseText (toString number) = Nat.toDigits 10 number := by
    rw [Text.baseText_of_ascii, digits]
    intro char member
    exact toNat_lt_of_isDigit (isDigit char (digits ▸ member))
  have split : Text.baseText (name ++ toString number) =
      Text.baseText name ++ Nat.toDigits 10 number := by
    rw [← own]
    simp [Text.baseText, String.toList_append]
  rw [words, split]
  exact flatMap_capitalise_runs_append _ Nat.toDigits_ne_nil isDigit

/-- A number stays at the end of a type name, and the type name without a number is none
of those with one. -/
theorem exists_stem (name : String) :
    ∃ stem : List Char,
      (∀ number, typeNameChars (name ++ toString number) = stem ++ Nat.toDigits 10 number) ∧
        ∀ number, typeNameChars name ≠ stem ++ Nat.toDigits 10 number := by
  cases spelled : (words name).flatMap capitalise with
  | nil =>
      refine ⟨['_'], ?_, ?_⟩
      · intro number
        rw [typeNameChars, flatMap_capitalise_words_append, spelled]
        cases digits : Nat.toDigits 10 number with
        | nil => exact absurd digits Nat.toDigits_ne_nil
        | cons first rest =>
            have isDigit : first.isDigit = true :=
              Nat.isDigit_of_mem_toDigits (b := 10) (n := number) (by decide) (by decide)
                (by simp [digits])
            simp [guardDigit, isDigit]
      · intro number
        rw [typeNameChars, spelled]
        simp [guardDigit]
  | cons first rest =>
      refine ⟨guardDigit (first :: rest), ?_, ?_⟩
      · intro number
        rw [typeNameChars, flatMap_capitalise_words_append, spelled]
        by_cases isDigit : first.isDigit = true
        · simp [guardDigit, isDigit]
        · simp [guardDigit, isDigit]
      · intro number equal
        have own : typeNameChars name = guardDigit (first :: rest) := by
          rw [typeNameChars, spelled]
          by_cases isDigit : first.isDigit = true
          · simp [guardDigit, isDigit]
          · simp [guardDigit, isDigit]
        rw [own] at equal
        exact Nat.toDigits_ne_nil (List.self_eq_append_right.mp equal)

/-- Different numbers after a name give different type names. -/
theorem typeName_append_injective (name : String) {first second : Nat}
    (equal : typeName (name ++ toString first) = typeName (name ++ toString second)) :
    first = second := by
  obtain ⟨stem, numbered, _⟩ := exists_stem name
  have chars := String.ofList_injective equal
  rw [numbered, numbered] at chars
  have digits := List.append_cancel_left chars
  have values := congrArg (fun digits => Nat.ofDigitChars 10 digits 0) digits
  simpa using values

/-- A number after a name changes its type name. -/
theorem typeName_ne_append (name : String) (number : Nat) :
    typeName name ≠ typeName (name ++ toString number) := by
  obtain ⟨stem, numbered, without⟩ := exists_stem name
  intro equal
  have chars := String.ofList_injective equal
  rw [numbered] at chars
  exact without number chars

end ApiScaffold.Naming

import ApiScaffold.Text.BaseForm

/-!
# Words of a name

A name is read as a row of words.  A word is a longest run of ASCII letters and
digits in the base form of the name; everything else separates words.
-/

namespace ApiScaffold.Naming

/-- An ASCII letter or digit. -/
def isWordChar (char : Char) : Bool :=
  char.isAlphanum

/-- Put a character in front of the words that follow it.  The first component is
the word that is still open, the second the words that are complete. -/
def extendWords (char : Char) (state : List Char × List (List Char)) :
    List Char × List (List Char) :=
  if isWordChar char then (char :: state.1, state.2)
  else if state.1.isEmpty then state
  else ([], state.1 :: state.2)

/-- The longest runs of word characters. -/
def runs (chars : List Char) : List (List Char) :=
  let state := chars.foldr extendWords ([], [])
  if state.1.isEmpty then state.2 else state.1 :: state.2

/-- The words of a name. -/
def words (name : String) : List (List Char) :=
  runs (Text.baseText name)

/-- A digit may not come first in an identifier, so an underscore is put before it. -/
def guardDigit : List Char → List Char
  | [] => []
  | char :: rest => if char.isDigit then '_' :: char :: rest else char :: rest

theorem foldr_extendWords_wordChars (chars : List Char) :
    (∀ char ∈ (chars.foldr extendWords ([], [])).1, isWordChar char = true) ∧
      ∀ word ∈ (chars.foldr extendWords ([], [])).2,
        word ≠ [] ∧ ∀ char ∈ word, isWordChar char = true := by
  induction chars with
  | nil => simp
  | cons char rest ih =>
      obtain ⟨openChars, doneWords⟩ := ih
      rw [List.foldr_cons]
      generalize rest.foldr extendWords ([], []) = state at openChars doneWords ⊢
      unfold extendWords
      split
      · next isWord =>
          refine ⟨?_, doneWords⟩
          intro other member
          rcases List.mem_cons.mp member with equal | inOpen
          · exact equal ▸ isWord
          · exact openChars other inOpen
      · split
        · exact ⟨openChars, doneWords⟩
        · next filled =>
            refine ⟨by simp, ?_⟩
            intro word member
            rcases List.mem_cons.mp member with equal | inDone
            · subst equal
              exact ⟨by simpa using filled, openChars⟩
            · exact doneWords word inDone

/-- Words are not empty and hold word characters only. -/
theorem ne_nil_and_wordChars_of_mem_runs (chars word : List Char) (member : word ∈ runs chars) :
    word ≠ [] ∧ ∀ char ∈ word, isWordChar char = true := by
  obtain ⟨openChars, doneWords⟩ := foldr_extendWords_wordChars chars
  unfold runs at member
  simp only at member
  split at member
  · exact doneWords word member
  · next filled =>
      rcases List.mem_cons.mp member with equal | inDone
      · subst equal
        exact ⟨by simpa using filled, openChars⟩
      · exact doneWords word inDone

/-- Words keep all word characters in order. -/
theorem flatten_runs (chars : List Char) : (runs chars).flatten = chars.filter isWordChar := by
  have state : ∀ chars : List Char,
      (chars.foldr extendWords ([], [])).1 ++ (chars.foldr extendWords ([], [])).2.flatten =
        chars.filter isWordChar := by
    intro chars
    induction chars with
    | nil => rfl
    | cons char rest ih =>
        rw [List.foldr_cons]
        generalize rest.foldr extendWords ([], []) = folded at ih ⊢
        unfold extendWords
        by_cases isWord : isWordChar char = true
        · simp [isWord, ← ih]
        · by_cases empty : folded.1 = []
          · simpa [isWord, empty] using ih
          · simpa [isWord, empty] using ih
  rw [← state chars]
  unfold runs
  simp only
  split
  · next empty =>
      have nothing : (chars.foldr extendWords ([], [])).1 = [] := by simpa using empty
      rw [nothing]
      rfl
  · rfl

end ApiScaffold.Naming

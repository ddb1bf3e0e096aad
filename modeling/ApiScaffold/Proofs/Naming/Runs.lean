import ApiScaffold.Naming.Words

/-!
# Runs of word characters

A row of word characters is a run of its own.  A character between runs closes the run that comes
after it; it does not matter which character that is, nor how many of them there are.
-/

namespace ApiScaffold.Naming

/-- Word characters extend the word that is still open. -/
theorem foldr_extendWords_of_wordChars {chars : List Char}
    (each : ∀ char ∈ chars, isWordChar char = true) (state : List Char × List (List Char)) :
    chars.foldr extendWords state = (chars ++ state.1, state.2) := by
  induction chars with
  | nil => rfl
  | cons char rest ih =>
      rw [List.forall_mem_cons] at each
      rw [List.foldr_cons, ih each.2, extendWords, if_pos each.1]
      rfl

/-- The words that are complete, and the open one if it has characters. -/
def closeWord (state : List Char × List (List Char)) : List (List Char) :=
  if state.1.isEmpty then state.2 else state.1 :: state.2

theorem runs_eq_closeWord (chars : List Char) :
    runs chars = closeWord (chars.foldr extendWords ([], [])) := rfl

/-- A character between words closes the word after it. -/
theorem extendWords_of_gap {char : Char} (gap : isWordChar char = false)
    (state : List Char × List (List Char)) : extendWords char state = ([], closeWord state) := by
  obtain ⟨openChars, doneWords⟩ := state
  cases openChars <;> simp [extendWords, closeWord, gap]

/-- A character between words belongs to none of them. -/
theorem runs_cons_of_gap {char : Char} (gap : isWordChar char = false) (rest : List Char) :
    runs (char :: rest) = runs rest := by
  rw [runs_eq_closeWord, List.foldr_cons, extendWords_of_gap gap, ← runs_eq_closeWord]
  rfl

/-- Word characters before a gap are a run, if there are any. -/
theorem runs_append_gap {chars : List Char} (filled : chars ≠ [])
    (each : ∀ char ∈ chars, isWordChar char = true) {gap : Char} (isGap : isWordChar gap = false)
    (rest : List Char) : runs (chars ++ gap :: rest) = chars :: runs rest := by
  rw [runs_eq_closeWord, List.foldr_append, List.foldr_cons, extendWords_of_gap isGap,
    foldr_extendWords_of_wordChars each, closeWord, List.append_nil, if_neg (by simpa using filled),
    runs_eq_closeWord rest]

/-- Word characters are a run, if there are any. -/
theorem runs_of_wordChars {chars : List Char} (filled : chars ≠ [])
    (each : ∀ char ∈ chars, isWordChar char = true) : runs chars = [chars] := by
  rw [runs_eq_closeWord, foldr_extendWords_of_wordChars each, closeWord, List.append_nil,
    if_neg (by simpa using filled)]

end ApiScaffold.Naming

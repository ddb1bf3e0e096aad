import ApiScaffold.Text.CodePoint

/-!
# Blanks

The characters that separate words: spaces of every width, tabulators, line and
paragraph separators, and the four information separators (Unicode 14).
-/

namespace ApiScaffold.Text

/-- The blank code points. -/
def blankRanges : List (Nat × Nat) :=
  [(0x9, 0xD), (0x1C, 0x20), (0x85, 0x85), (0xA0, 0xA0), (0x1680, 0x1680),
   (0x2000, 0x200A), (0x2028, 0x2029), (0x202F, 0x202F), (0x205F, 0x205F),
   (0x3000, 0x3000)]

/-- Whether a character is a blank. -/
def isBlank (char : Char) : Bool :=
  inRanges blankRanges char.toNat

/-- The text without blanks at its end. -/
def trimEnd (chars : List Char) : List Char :=
  (chars.reverse.dropWhile isBlank).reverse

/-- Every white-space character of ASCII is a blank. -/
theorem isBlank_of_isWhitespace (char : Char) (white : char.isWhitespace = true) :
    isBlank char = true := by
  simp only [Char.isWhitespace, Bool.or_eq_true, decide_eq_true_eq] at white
  rcases white with ((white | white) | white) | white <;> subst white <;> decide

/-- What remains after `trimEnd` does not end in a blank. -/
theorem getLast?_trimEnd (chars : List Char) (last : Char)
    (found : (trimEnd chars).getLast? = some last) : isBlank last = false := by
  unfold trimEnd at found
  rw [List.getLast?_reverse] at found
  generalize chars.reverse = reversed at found
  induction reversed with
  | nil => simp at found
  | cons char rest ih =>
      by_cases blank : isBlank char = true
      · rw [List.dropWhile_cons_of_pos blank] at found
        exact ih found
      · rw [List.dropWhile_cons_of_neg blank] at found
        simp only [List.head?_cons, Option.some.injEq] at found
        subst found
        simpa using blank

end ApiScaffold.Text

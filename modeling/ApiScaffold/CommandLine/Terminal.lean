import ApiScaffold.CommandLine.ShortCode
import ApiScaffold.Text.CellWidth

/-!
# Messages on a terminal

A message is written so that it stays one row of visible characters.  Control characters
that ring or move back are left out, short codes of pictures become the pictures, and a
tabulator becomes the spaces up to the next stop, which is a multiple of eight cells.

A pair of brackets around a word is not styling and stays as it is.  Before any other
opening bracket a backslash only protects the bracket and is left out.  A single
backslash at the end is doubled.  A short code does not reach over the end of a pair of
brackets.

Generated text is written as it is, without the sequences that would control the terminal.
-/

namespace ApiScaffold.CommandLine

/-! ## Brackets -/

/-- Whether a character can follow the opening bracket of a styling tag. -/
def startsTag (char : Char) : Bool :=
  char.isLower || char = '#' || char = '/' || char = '@'

/-- Whether a character is a bracket. -/
def isBracket (char : Char) : Bool :=
  char = '[' || char = ']'

/-- The length of the styling tag in front of a text; zero without one. -/
def tagLength : List Char → Nat
  | '[' :: first :: rest =>
      let word := rest.takeWhile fun char => !isBracket char
      if startsTag first && rest[word.length]? = some ']' then word.length + 3 else 0
  | _ => 0

/-- Leave out backslashes that only protect a bracket. -/
def unprotect : List Char → List Char
  | [] => []
  | '\\' :: '[' :: rest => '[' :: unprotect rest
  | char :: rest => char :: unprotect rest

/-- The pieces of a text between the ends of styling tags: the text before a tag, the
backslashes in front of the tag, and the tag.  `plain` holds the open piece in reverse. -/
def pieces (plain : List Char) : List Char → List (List Char)
  | [] => [unprotect plain.reverse]
  | char :: rest =>
      match tagLength (char :: rest) with
      | 0 => pieces (char :: plain) rest
      | length + 1 =>
          let slashes := plain.takeWhile fun char => char = '\\'
          unprotect (plain.drop slashes.length).reverse :: slashes ::
            (char :: rest.take length) :: pieces [] (rest.drop length)
termination_by chars => chars.length
decreasing_by all_goals simp only [List.length_cons, List.length_drop]; omega

/-- Double a single backslash at the end. -/
def doubleLastBackslash (chars : List Char) : List Char :=
  match chars.reverse with
  | ['\\'] => ['\\', '\\']
  | '\\' :: before :: _ => if before = '\\' then chars else chars ++ ['\\']
  | _ => chars

/-! ## Tabulators -/

/-- Whether a control character is left out. -/
def isDropped (char : Char) : Bool :=
  [0x07, 0x08, 0x0B, 0x0C, 0x0D].contains char.toNat

/-- The distance between two tabulator stops. -/
def tabStop : Nat := 8

/-- The first stop at or behind a column. -/
def nextStop (column : Nat) : Nat :=
  (column + (tabStop - 1)) / tabStop * tabStop

/-- Replace tabulators by spaces.  A tabulator fills at least one cell.  `part` holds in
reverse what follows the last stop, which is at `column`. -/
def expandTabs (column : Nat) (part : List Char) : List Char → List Char
  | [] => part.reverse
  | '\t' :: rest =>
      let shown := part.reverse ++ [' ']
      let reached := column + Text.cellWidth shown
      let stop := nextStop reached
      shown ++ List.replicate (stop - reached) ' ' ++ expandTabs stop [] rest
  | '\n' :: rest => part.reverse ++ '\n' :: expandTabs 0 [] rest
  | char :: rest => expandTabs column (char :: part) rest

/-- A message as it appears behind a label. -/
def terminalText (label message : String) : String :=
  let drawn := (pieces [] (doubleLastBackslash message.toList)).flatMap drawPictures
  let shown := label.toList ++ drawn.filter fun char => !isDropped char
  String.ofList (expandTabs 0 [] shown)

/-! ## Control sequences -/

/-- Whether a character can stand between the bracket and the letter of a control
sequence. -/
def isParameter (char : Char) : Bool :=
  char.isDigit || char = ';' || char = '?'

/-- The length of what follows the escape character of a control sequence: a bracket,
parameters and a letter.  Zero for what is no control sequence. -/
def controlLength : List Char → Nat
  | '[' :: rest =>
      let parameters := rest.takeWhile isParameter
      if (rest[parameters.length]?).any Char.isAlpha then parameters.length + 2 else 0
  | _ => 0

/-- The text without control sequences; the first `skipped` characters belong to one. -/
def withoutControlFrom (skipped : Nat) : List Char → List Char
  | [] => []
  | char :: rest =>
      match skipped with
      | left + 1 => withoutControlFrom left rest
      | 0 =>
          let length := if char = '\x1b' then controlLength rest else 0
          if length = 0 then char :: withoutControlFrom 0 rest
          else withoutControlFrom length rest

/-- The text without the sequences that control a terminal. -/
def withoutControlSequences (text : String) : String :=
  if text.toList.contains '\x1b' then String.ofList (withoutControlFrom 0 text.toList)
  else text

/-! ## What is left -/

/-- A text without escape characters has no control sequences. -/
theorem withoutControlFrom_eq_self (chars : List Char) (plain : '\x1b' ∉ chars) :
    withoutControlFrom 0 chars = chars := by
  induction chars with
  | nil => rfl
  | cons char rest ih =>
      simp only [List.mem_cons, not_or] at plain
      simp [withoutControlFrom, Ne.symm plain.1, ih plain.2]

theorem le_nextStop (column : Nat) : column ≤ nextStop column := by
  unfold nextStop tabStop
  omega

/-- A stop is a multiple of the distance between two stops. -/
theorem nextStop_mod (column : Nat) : nextStop column % tabStop = 0 := by
  unfold nextStop
  exact Nat.mul_mod_left _ _

/-- No tabulators are left. -/
theorem tab_not_mem_expandTabs (column : Nat) (part chars : List Char)
    (noTab : '\t' ∉ part) : '\t' ∉ expandTabs column part chars := by
  fun_induction expandTabs column part chars with
  | case1 => simpa using noTab
  | case2 column part rest shown reached stop ih => simp [shown, noTab, ih]
  | case3 column part rest ih => simp [noTab, ih]
  | case4 column part char rest notTab _ ih =>
      refine ih ?_
      simp only [List.mem_cons, not_or]
      exact ⟨fun equal => notTab equal.symm, noTab⟩

end ApiScaffold.CommandLine

import ApiScaffold.Data.Fault

/-!
# A place in a YAML text

A `Cursor` is the rest of a text together with the number of characters before it
and the line and column at which it starts.  Characters are looked at by their
distance; the end of the text is `none`.  The size of the whole text comes along:
it bounds the rounds of every loop that reads at least one character a round.
-/

namespace ApiScaffold.Yaml

/-- The rest of a text and where it starts. -/
structure Cursor where
  rest : List Char
  index : Nat
  line : Nat
  column : Nat
  /-- The number of characters of the whole text. -/
  size : Nat

/-- The result of reading something at a cursor. -/
abbrev Scan (α : Type) := Except DecodingFault α

/-- The text is not YAML. -/
def malformed {α : Type} : Scan α :=
  .error .malformed

/-- The mark that may stand at the start of a text. -/
def byteOrderMark : Char := Char.ofNat 0xFEFF

/-- Whether a character ends a line. -/
def isBreak (char : Char) : Bool :=
  char = '\n' || char = '\r' || char.toNat = 0x85 || char.toNat = 0x2028 || char.toNat = 0x2029

/-- The end of the text or the end of a line. -/
def endsLine : Option Char → Bool
  | none => true
  | some char => isBreak char

/-- The end of the text, the end of a line, or a space. -/
def endsWord : Option Char → Bool
  | none => true
  | some char => char = ' ' || isBreak char

/-- The end of the text, the end of a line, a space or a tabulator. -/
def endsToken : Option Char → Bool
  | none => true
  | some char => char = ' ' || char = '\t' || isBreak char

/-- A letter, a digit, a dash or an underscore of ASCII. -/
def isNameChar (char : Char) : Bool :=
  char.isAlphanum || char = '-' || char = '_'

namespace Cursor

/-- The start of a text. -/
def ofText (text : String) : Cursor :=
  ⟨text.toList, 0, 0, 0, text.length⟩

/-- The character at a distance. -/
def peek (cursor : Cursor) (distance : Nat) : Option Char :=
  cursor.rest[distance]?

/-- Go over one character. -/
def next (cursor : Cursor) : Cursor :=
  match cursor.rest with
  | [] => cursor
  | char :: rest =>
      let broken := isBreak char && !(char = '\r' && rest.head? = some '\n')
      if broken then
        { cursor with
          rest := rest, index := cursor.index + 1, line := cursor.line + 1, column := 0 }
      else if char = byteOrderMark then
        { cursor with rest := rest, index := cursor.index + 1 }
      else
        { cursor with rest := rest, index := cursor.index + 1, column := cursor.column + 1 }

/-- A number of rounds that no loop over the rest of the text exceeds. -/
def rounds (cursor : Cursor) : Nat :=
  cursor.size + 1

/-- Go over a number of characters. -/
def forward (cursor : Cursor) : Nat → Cursor
  | 0 => cursor
  | count + 1 => cursor.next.forward count

/-- Read the longest row of characters that pass a test. -/
def takeWhile (cursor : Cursor) (test : Char → Bool) : List Char × Cursor :=
  let taken := cursor.rest.takeWhile test
  (taken, cursor.forward taken.length)

/-- Skip spaces. -/
def skipSpaces (cursor : Cursor) : Cursor :=
  (cursor.takeWhile fun char => char = ' ').2

/-- Skip the rest of the line if it is a comment. -/
def skipComment (cursor : Cursor) : Cursor :=
  if cursor.peek 0 = some '#' then (cursor.takeWhile fun char => !isBreak char).2 else cursor

/-- Read the end of a line.  Line ends of every kind become line feeds, except for
the line and paragraph separators, which stay. -/
def lineBreak? (cursor : Cursor) : Option (Char × Cursor) :=
  match cursor.rest with
  | '\r' :: '\n' :: _ => some ('\n', cursor.forward 2)
  | char :: _ =>
      if char.toNat = 0x2028 ∨ char.toNat = 0x2029 then some (char, cursor.next)
      else if isBreak char then some ('\n', cursor.next)
      else none
  | [] => none

/-- Whether a mark of three characters stands here as a word of its own. -/
def startsMark (cursor : Cursor) (char : Char) : Bool :=
  cursor.peek 0 = some char && cursor.peek 1 = some char && cursor.peek 2 = some char &&
    endsToken (cursor.peek 3)

/-- Whether the text is cut between two documents here. -/
def startsDocumentMark (cursor : Cursor) : Bool :=
  cursor.startsMark '-' || cursor.startsMark '.'

/-- Finish a line on which only a comment may follow. -/
def finishLine (cursor : Cursor) : Scan Cursor :=
  let cursor := cursor.skipSpaces.skipComment
  if endsLine (cursor.peek 0) then
    match cursor.lineBreak? with
    | some (_, after) => .ok after
    | none => .ok cursor
  else malformed

/-- Going over a character leaves less text, unless none is left. -/
theorem length_rest_next (cursor : Cursor) :
    cursor.next.rest.length = cursor.rest.length - 1 := by
  unfold next
  split
  · next empty => simp [empty]
  · next char rest shape =>
      dsimp only
      rw [shape]
      split
      · rfl
      · split <;> rfl

end Cursor

end ApiScaffold.Yaml

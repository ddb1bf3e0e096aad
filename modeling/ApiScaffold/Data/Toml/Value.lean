import ApiScaffold.Data.Toml.Lexeme
import ApiScaffold.Data.Toml.Table

/-!
# The value of a TOML text

A text is a sequence of statements, each on lines of its own: declarations of
tables and entries of the table that was declared last.  Values are read by
recursive descent; every step takes a character, so the number of characters
bounds the depth.  Arrays and inline tables can only be nested up to a limit.
-/

namespace ApiScaffold.Toml

/-- Go over blanks, line feeds and comments between the items of an array. -/
def skipGap : Nat → List Char → Except DecodingFault (List Char)
  | 0, chars => .ok chars
  | rounds + 1, chars =>
      match chars.dropWhile fun char => isSpace char || char = '\n' with
      | '#' :: rest => do
          let rest ← skipComment ('#' :: rest)
          skipGap rounds rest
      | rest => .ok rest

/-- Go over blanks, line feeds and comments between the items of an array. -/
def skipItemGap (chars : List Char) : Except DecodingFault (List Char) :=
  skipGap (chars.length + 1) chars

/-- Go over an equals sign and the blanks around it. -/
def skipEquals (chars : List Char) : Except DecodingFault (List Char) :=
  match chars with
  | '=' :: rest => .ok (skipSpaces rest)
  | _ => malformed

/-- The room for nested arrays and tables. -/
def nestingRoom : Nat := 979

/-- The room that an array takes. -/
def arrayRoom : Nat := 2

/-- The room that an inline table takes. -/
def tableRoom : Nat := 3

/-- The room that is left inside a collection. -/
def roomInside (room taken : Nat) : Except DecodingFault Nat :=
  if room < taken then .error .tooDeep else .ok (room - taken)

mutual

/-- Read a value; `room` is left for nested collections. -/
def readValue (room : Nat) : Nat → List Char → Except DecodingFault (Value × List Char)
  | 0, _ => malformed
  | depth + 1, chars =>
      match chars with
      | '[' :: rest => do
          let room ← roomInside room arrayRoom
          let rest ← skipItemGap rest
          match rest with
          | ']' :: rest => pure (.list [], rest)
          | rest => readItems room [] depth rest
      | '\x7b' :: rest => do
          let room ← roomInside room tableRoom
          match skipSpaces rest with
          | '\x7d' :: rest => pure (.mapping [], rest)
          | rest => readInlineEntries room [] [] depth rest
      | _ => readScalar chars
termination_by structural depth => depth

/-- Read the items of an array; the items so far are in reverse. -/
def readItems (room : Nat) (items : List Value) :
    Nat → List Char → Except DecodingFault (Value × List Char)
  | 0, _ => malformed
  | depth + 1, chars => do
      let (item, rest) ← readValue room depth chars
      let rest ← skipItemGap rest
      match rest with
      | ']' :: rest => pure (.list (item :: items).reverse, rest)
      | ',' :: rest =>
          let rest ← skipItemGap rest
          match rest with
          | ']' :: rest => pure (.list (item :: items).reverse, rest)
          | rest => readItems room (item :: items) depth rest
      | _ => malformed
termination_by structural depth => depth

/-- Read the entries of an inline table. -/
def readInlineEntries (room : Nat) (table : Table) (frozen : List (List String)) :
    Nat → List Char → Except DecodingFault (Value × List Char)
  | 0, _ => malformed
  | depth + 1, chars => do
      let (key, rest) ← readKey chars
      let rest ← skipEquals rest
      let (value, rest) ← readValue room depth rest
      if Tables.isFrozen frozen key then malformed
      else do
        let table ← addAtPath false key value table
        match skipSpaces rest with
        | '\x7d' :: rest => pure (.mapping table, rest)
        | ',' :: rest =>
            let frozen := if Tables.isInline value then key :: frozen else frozen
            readInlineEntries room table frozen depth (skipSpaces rest)
        | _ => malformed
termination_by structural depth => depth

end

/-- The end of a statement: only a comment may follow on its line. -/
def endLine (chars : List Char) : Except DecodingFault (List Char) := do
  match ← skipComment (skipSpaces chars) with
  | [] => pure []
  | '\n' :: rest => pure rest
  | _ => malformed

/-- Read one statement. -/
def readStatement (tables : Tables) (chars : List Char) :
    Except DecodingFault (Tables × List Char) :=
  match chars with
  | '[' :: '[' :: rest => do
      let (path, rest) ← readKey (skipSpaces rest)
      let tables ← tables.endSection.declareArrayTable path
      match rest with
      | ']' :: ']' :: rest => pure (tables, rest)
      | _ => malformed
  | '[' :: rest => do
      let (path, rest) ← readKey (skipSpaces rest)
      let tables ← tables.endSection.declareTable path
      match rest with
      | ']' :: rest => pure (tables, rest)
      | _ => malformed
  | '#' :: _ => .ok (tables, chars)
  | _ => do
      let (key, rest) ← readKey chars
      let rest ← skipEquals rest
      let (value, rest) ← readValue nestingRoom (2 * rest.length + 2) rest
      let tables ← tables.write key value
      pure (tables, rest)

/-- Read statements up to the end of the text.  Every round takes a line. -/
def readStatements (tables : Tables) : Nat → List Char → Except DecodingFault Tables
  | 0, _ => malformed
  | rounds + 1, chars =>
      match skipSpaces chars with
      | [] => .ok tables
      | '\n' :: rest => readStatements tables rounds rest
      | chars => do
          let (tables, rest) ← readStatement tables chars
          let rest ← endLine rest
          readStatements tables rounds rest

/-- A carriage return before a line feed does not count. -/
def joinLineEnds : List Char → List Char
  | '\r' :: '\n' :: rest => '\n' :: joinLineEnds rest
  | char :: rest => char :: joinLineEnds rest
  | [] => []

/-- Read a TOML document. -/
def read (text : String) : Except DecodingFault Value := do
  let chars := joinLineEnds text.toList
  let tables ← readStatements .empty (chars.length + 1) chars
  pure (.mapping tables.root)

end ApiScaffold.Toml

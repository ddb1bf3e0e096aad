import ApiScaffold.Data.Json
import ApiScaffold.Data.Yaml.Cursor

/-!
# The scalars of a YAML text

Plain, quoted and block scalars, each read from a cursor at its first character
into its text and the cursor behind it.  Line ends inside a scalar are folded: a
single one becomes a space, further ones stay.

The loops are bounded by the length of the rest of the text; each round reads at
least one character.
-/

namespace ApiScaffold.Yaml

/-- Line ends, with the blanks before each, inside a quoted scalar.  A scalar must
not run over the cut between two documents. -/
def quotedBreaks (cursor : Cursor) (breaks : List Char) : Nat → Scan (List Char × Cursor)
  | 0 => .ok (breaks.reverse, cursor)
  | rounds + 1 =>
      if cursor.startsDocumentMark then malformed
      else
        let cursor := (cursor.takeWhile fun char => char = ' ' || char = '\t').2
        match cursor.lineBreak? with
        | some (char, after) => quotedBreaks after (char :: breaks) rounds
        | none => .ok (breaks.reverse, cursor)

/-- Blanks and line ends between two words of a quoted scalar. -/
def quotedSpaces (cursor : Cursor) : Scan (List Char × Cursor) := do
  let (blanks, cursor) := cursor.takeWhile fun char => char = ' ' || char = '\t'
  match cursor.peek 0, cursor.lineBreak? with
  | none, _ => malformed
  | some _, none => pure (blanks, cursor)
  | some _, some (first, after) =>
      let (breaks, cursor) ← quotedBreaks after [] after.rounds
      if first != '\n' then pure (first :: breaks, cursor)
      else if breaks.isEmpty then pure ([' '], cursor)
      else pure (breaks, cursor)

/-- The characters that end a row of plain characters inside quotes. -/
def endsQuotedRow (char : Char) : Bool :=
  char = '\'' || char = '"' || char = '\\' || char = ' ' || char = '\t' || isBreak char

/-- The character of an escape by a single letter. -/
def escapedChar? (char : Char) : Option Char :=
  match char with
  | '0' => some (Char.ofNat 0)
  | 'a' => some (Char.ofNat 7)
  | 'b' => some (Char.ofNat 8)
  | 't' | '\t' => some '\t'
  | 'n' => some '\n'
  | 'v' => some (Char.ofNat 11)
  | 'f' => some (Char.ofNat 12)
  | 'r' => some '\r'
  | 'e' => some (Char.ofNat 27)
  | ' ' => some ' '
  | '"' => some '"'
  | '\\' => some '\\'
  | '/' => some '/'
  | 'N' => some (Char.ofNat 0x85)
  | '_' => some (Char.ofNat 0xA0)
  | 'L' => some (Char.ofNat 0x2028)
  | 'P' => some (Char.ofNat 0x2029)
  | _ => none

/-- The number of digits of an escape by code. -/
def codeWidth? (char : Char) : Option Nat :=
  match char with
  | 'x' => some 2
  | 'u' => some 4
  | 'U' => some 8
  | _ => none

/-- The value of hexadecimal digits. -/
def hexNumber? (chars : List Char) : Option Nat :=
  chars.foldl (fun value? char => do
    let value ← value?
    let digit ← Json.hexValue? char
    pure (16 * value + digit)) (some 0)

/-- An escape, from behind its backslash. -/
def escapeSequence (cursor : Cursor) : Scan (List Char × Cursor) :=
  match cursor.peek 0 with
  | none => malformed
  | some char =>
      match escapedChar? char, codeWidth? char with
      | some meant, _ => .ok ([meant], cursor.next)
      | none, some width =>
          let digits := cursor.next.rest.take width
          match hexNumber? digits with
          | none => malformed
          | some code =>
              if digits.length < width then malformed
              else if 0x7FFFFFFF < code then .error (.scalar .wideCodePoint)
              else if 0x10FFFF < code then .error (.scalar .badCodePoint)
              else .ok ((Text.CodePoint.ofNat code).spelling, cursor.next.forward width)
      | none, none =>
          match cursor.lineBreak? with
          | some (_, after) => do
              let (breaks, cursor) ← quotedBreaks after [] after.rounds
              pure (breaks, cursor)
          | none => malformed

/-- The characters of a quoted scalar up to the next blank or the closing quote. -/
def quotedWords (double : Bool) (cursor : Cursor) (words : List Char) :
    Nat → Scan (List Char × Cursor)
  | 0 => .ok (words, cursor)
  | rounds + 1 => do
      let (row, cursor) := cursor.takeWhile fun char => !endsQuotedRow char
      let words := words ++ row
      match cursor.peek 0 with
      | some '\'' =>
          if double then quotedWords double cursor.next (words ++ ['\'']) rounds
          else if cursor.peek 1 = some '\'' then
            quotedWords double (cursor.forward 2) (words ++ ['\'']) rounds
          else pure (words, cursor)
      | some '"' =>
          if double then pure (words, cursor)
          else quotedWords double cursor.next (words ++ ['"']) rounds
      | some '\\' =>
          if double then
            let (meant, after) ← escapeSequence cursor.next
            quotedWords double after (words ++ meant) rounds
          else quotedWords double cursor.next (words ++ ['\\']) rounds
      | _ => pure (words, cursor)

/-- The words of a quoted scalar and what stands between them. -/
def quotedBody (double : Bool) (cursor : Cursor) (text : List Char) :
    Nat → Scan (List Char × Cursor)
  | 0 => malformed
  | rounds + 1 => do
      let (words, cursor) ← quotedWords double cursor [] cursor.rounds
      let text := text ++ words
      if cursor.peek 0 = some (if double then '"' else '\'') then pure (text, cursor.next)
      else
        let (spaces, cursor) ← quotedSpaces cursor
        quotedBody double cursor (text ++ spaces) rounds

/-- A quoted scalar, from its opening quote. -/
def quotedScalar (cursor : Cursor) : Scan (List Char × Cursor) :=
  quotedBody (cursor.peek 0 = some '"') cursor.next [] cursor.rounds

/-- What happens to the line ends at the end of a block scalar. -/
inductive Chomping where
  /-- One line end stays. -/
  | clip
  /-- None stays. -/
  | strip
  /-- All stay. -/
  | keep
  deriving DecidableEq

/-- The header of a block scalar: how to chomp it, and how far it is indented. -/
def blockHeader (cursor : Cursor) : Scan (Chomping × Option Nat × Cursor) := do
  let chompingOf (char? : Option Char) : Option Chomping :=
    match char? with
    | some '+' => some .keep
    | some '-' => some .strip
    | _ => none
  let indentOf (char? : Option Char) : Option Nat :=
    match char? with
    | some char => if char.isDigit then some (char.toNat - 48) else none
    | none => none
  let (chomping, increment, cursor) :=
    match chompingOf (cursor.peek 0), indentOf (cursor.peek 0) with
    | some chomping, _ =>
        match indentOf (cursor.peek 1) with
        | some increment => (chomping, some increment, cursor.forward 2)
        | none => (chomping, none, cursor.next)
    | none, some increment =>
        match chompingOf (cursor.peek 1) with
        | some chomping => (chomping, some increment, cursor.forward 2)
        | none => (.clip, some increment, cursor.next)
    | none, none => (.clip, none, cursor)
  if increment = some 0 then malformed
  else if !endsWord (cursor.peek 0) then malformed
  else
    let cursor ← cursor.finishLine
    pure (chomping, increment, cursor)

/-- The line ends before the first line of a block scalar, and the widest
indentation among them. -/
def leadingBreaks (cursor : Cursor) (breaks : List Char) (widest : Nat) :
    Nat → List Char × Nat × Cursor
  | 0 => (breaks.reverse, widest, cursor)
  | rounds + 1 =>
      match cursor.lineBreak? with
      | some (char, after) => leadingBreaks after (char :: breaks) widest rounds
      | none =>
          if cursor.peek 0 = some ' ' then
            let after := cursor.next
            leadingBreaks after breaks (max widest after.column) rounds
          else (breaks.reverse, widest, cursor)

/-- Skip spaces up to a column. -/
def skipIndent (cursor : Cursor) (indent : Nat) : Cursor :=
  let spaces := (cursor.rest.takeWhile fun char => char = ' ').length
  cursor.forward (min spaces (indent - cursor.column))

/-- The line ends between two lines of a block scalar. -/
def blockBreaks (cursor : Cursor) (indent : Nat) (breaks : List Char) :
    Nat → List Char × Cursor
  | 0 => (breaks.reverse, cursor)
  | rounds + 1 =>
      let cursor := skipIndent cursor indent
      match cursor.lineBreak? with
      | some (char, after) => blockBreaks after indent (char :: breaks) rounds
      | none => (breaks.reverse, cursor)

/-- A space or a tabulator. -/
def isBlankChar : Option Char → Bool
  | some ' ' | some '\t' => true
  | _ => false

/-- The lines of a block scalar.  `breaks` are the line ends before the next line. -/
def blockLines (folded : Bool) (chomping : Chomping) (indent : Nat) (cursor : Cursor)
    (text breaks : List Char) : Nat → List Char × Cursor
  | 0 => (text, cursor)
  | rounds + 1 =>
      if cursor.column != indent || (cursor.peek 0).isNone then
        (text ++ (if chomping = .keep then breaks else []), cursor)
      else
        let flush := !isBlankChar (cursor.peek 0)
        let (line, cursor) := cursor.takeWhile fun char => !isBreak char
        let text := text ++ breaks ++ line
        let (lineEnd, cursor) :=
          match cursor.lineBreak? with
          | some (char, after) => ([char], after)
          | none => ([], cursor)
        let (breaks, cursor) := blockBreaks cursor indent [] cursor.rounds
        if cursor.column = indent && (cursor.peek 0).isSome then
          let joint :=
            if folded && lineEnd = ['\n'] && flush && !isBlankChar (cursor.peek 0) then
              if breaks.isEmpty then [' '] else []
            else lineEnd
          blockLines folded chomping indent cursor (text ++ joint) breaks rounds
        else
          (text ++ (if chomping = .strip then [] else lineEnd) ++
            (if chomping = .keep then breaks else []), cursor)

/-- A block scalar, from its indicator.  `parent` is the indentation around it. -/
def blockScalar (parent : Int) (cursor : Cursor) : Scan (List Char × Cursor) := do
  let folded := cursor.peek 0 = some '>'
  let (chomping, increment, cursor) ← blockHeader cursor.next
  let least := (max (parent + 1) 1).toNat
  let rounds := cursor.rounds
  let (indent, breaks, cursor) :=
    match increment with
    | none =>
        let (breaks, widest, cursor) := leadingBreaks cursor [] 0 rounds
        (max least widest, breaks, cursor)
    | some increment =>
        let indent := least + increment - 1
        let (breaks, cursor) := blockBreaks cursor indent [] rounds
        (indent, breaks, cursor)
  pure (blockLines folded chomping indent cursor [] breaks rounds)

/-- The characters that delimit flow collections. -/
def isFlowIndicator (char : Char) : Bool :=
  char = ',' || char = '[' || char = ']' || char = '\x7b' || char = '\x7d'

/-- The number of characters up to the end of a row of a plain scalar. -/
def plainRow (inFlow : Bool) : List Char → Nat
  | [] => 0
  | char :: rest =>
      let ended :=
        endsToken (some char) ||
          (char = ':' &&
            (endsToken rest.head? || (inFlow && (rest.head?.map isFlowIndicator).getD false))) ||
          (inFlow && (isFlowIndicator char || char = '?'))
      if ended then 0 else plainRow inFlow rest + 1

/-- Further line ends inside a plain scalar; `none` at the cut between documents. -/
def plainBreaks (cursor : Cursor) (breaks : List Char) : Nat → Option (List Char) × Cursor
  | 0 => (some breaks.reverse, cursor)
  | rounds + 1 =>
      if cursor.peek 0 = some ' ' then plainBreaks cursor.next breaks rounds
      else
        match cursor.lineBreak? with
        | some (char, after) =>
            if after.startsDocumentMark then (none, after)
            else plainBreaks after (char :: breaks) rounds
        | none => (some breaks.reverse, cursor)

/-- What stands between two rows of a plain scalar, and whether a line ended there. -/
def plainSpaces (cursor : Cursor) : List Char × Bool × Cursor :=
  let (spaces, cursor) := cursor.takeWhile fun char => char = ' '
  match cursor.lineBreak? with
  | none => (spaces, false, cursor)
  | some (first, after) =>
      if after.startsDocumentMark then ([], true, after)
      else
        match plainBreaks after [] after.rounds with
        | (none, cursor) => ([], true, cursor)
        | (some breaks, cursor) =>
            if first != '\n' then (first :: breaks, true, cursor)
            else if breaks.isEmpty then ([' '], true, cursor)
            else (breaks, true, cursor)

/-- The rows of a plain scalar.  The flag says whether a line ended behind the last
row that was read. -/
def plainRows (inFlow : Bool) (indent : Int) (cursor : Cursor) (text spaces : List Char)
    (lineEnded : Bool) : Nat → List Char × Bool × Cursor
  | 0 => (text, lineEnded, cursor)
  | rounds + 1 =>
      if cursor.peek 0 = some '#' then (text, lineEnded, cursor)
      else
        let length := plainRow inFlow cursor.rest
        if length = 0 then (text, lineEnded, cursor)
        else
          let text := text ++ spaces ++ cursor.rest.take length
          let (spaces, lineEnded, cursor) := plainSpaces (cursor.forward length)
          if spaces.isEmpty || cursor.peek 0 = some '#' ||
              (!inFlow && decide ((cursor.column : Int) < indent)) then
            (text, lineEnded, cursor)
          else plainRows inFlow indent cursor text spaces lineEnded rounds

/-- A plain scalar, and whether a line ended behind it. -/
def plainScalar (inFlow : Bool) (parent : Int) (cursor : Cursor) : List Char × Bool × Cursor :=
  plainRows inFlow (parent + 1) cursor [] [] false cursor.rounds

end ApiScaffold.Yaml

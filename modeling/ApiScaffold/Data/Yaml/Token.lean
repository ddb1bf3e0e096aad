import ApiScaffold.Data.Yaml.Scalar

/-!
# The tokens of a YAML text

Block structure is given by indentation.  The scanner keeps the columns of the
open block collections and writes explicit tokens where one starts or ends.

A key needs no mark in front of it; that something was a key is only known when
the colon behind it is met.  The scanner therefore remembers where a key may have
started, and inserts its token there afterwards.  Such a key must stand on one line
and be at most 1024 characters long.

A text that stops making sense still has tokens before that place, and what is wrong with
them counts first.
-/

namespace ApiScaffold.Yaml

/-- A line of instructions before a document. -/
inductive Directive where
  /-- The version of the format; only the number before the dot counts. -/
  | version (major : Nat)
  /-- A shorthand for the beginning of tags. -/
  | tag (handle expansion : String)
  | other
  deriving DecidableEq

/-- How a scalar is written. -/
inductive ScalarStyle where
  | plain
  /-- In quotes or as a block. -/
  | quoted
  deriving DecidableEq

/-- A token. -/
inductive Token where
  | directive (directive : Directive)
  | documentStart
  | documentEnd
  | streamEnd
  | blockSequenceStart
  | blockMappingStart
  | blockEnd
  | flowSequenceStart
  | flowSequenceEnd
  | flowMappingStart
  | flowMappingEnd
  | blockEntry
  | flowEntry
  | key
  | value
  | anchored (name : String)
  | reference (name : String)
  | tag (handle : Option String) (rest : String)
  | scalar (text : String) (style : ScalarStyle)
  deriving DecidableEq, Inhabited

/-- A place at which a key may have started. -/
structure PossibleKey where
  /-- The depth of flow collections there. -/
  level : Nat
  /-- The number of tokens before it. -/
  position : Nat
  /-- Whether nothing but a key can stand there. -/
  required : Bool
  index : Nat
  line : Nat
  column : Nat

/-- The state of the scanner. -/
structure Scanner where
  cursor : Cursor
  tokens : Array Token
  /-- The depth of open flow collections. -/
  level : Nat
  /-- The columns of the open block collections, the innermost first. -/
  indents : List Int
  /-- Whether a key may start here. -/
  keyAllowed : Bool
  possibleKeys : List PossibleKey
  finished : Bool

namespace Scanner

/-- The scanner at the start of a text. -/
def ofText (text : String) : Scanner :=
  ⟨.ofText text, #[], 0, [], true, [], false⟩

/-- The column of the innermost block collection. -/
def indent (scanner : Scanner) : Int :=
  scanner.indents.headD (-1)

/-- The column of the cursor. -/
def column (scanner : Scanner) : Int :=
  scanner.cursor.column

/-- Write a token. -/
def emit (scanner : Scanner) (token : Token) : Scanner :=
  { scanner with tokens := scanner.tokens.push token }

/-- Go over characters. -/
def forward (scanner : Scanner) (count : Nat) : Scanner :=
  { scanner with cursor := scanner.cursor.forward count }

/-- Whether a place cannot have started a key any more. -/
def isStale (scanner : Scanner) (key : PossibleKey) : Bool :=
  key.line != scanner.cursor.line || decide (1024 < scanner.cursor.index - key.index)

/-- Forget the places that cannot have started a key any more. -/
def dropStaleKeys (scanner : Scanner) : Scan Scanner :=
  if scanner.possibleKeys.any fun key => scanner.isStale key && key.required then malformed
  else
    .ok { scanner with
      possibleKeys := scanner.possibleKeys.filter fun key => !scanner.isStale key }

/-- Forget the place at the current level. -/
def dropKey (scanner : Scanner) : Scan Scanner :=
  if scanner.possibleKeys.any fun key => key.level = scanner.level && key.required then malformed
  else
    .ok { scanner with
      possibleKeys := scanner.possibleKeys.filter fun key => key.level != scanner.level }

/-- Remember that a key may start here. -/
def noteKey (scanner : Scanner) : Scan Scanner :=
  if scanner.keyAllowed then do
    let scanner ← scanner.dropKey
    let cursor := scanner.cursor
    let required := scanner.level = 0 && scanner.indent = scanner.column
    let key : PossibleKey :=
      ⟨scanner.level, scanner.tokens.size, required, cursor.index, cursor.line, cursor.column⟩
    pure { scanner with possibleKeys := key :: scanner.possibleKeys }
  else .ok scanner

/-- End the block collections to the right of a column. -/
def unwind (scanner : Scanner) (column : Int) : Scanner :=
  if scanner.level = 0 then
    let ended := scanner.indents.takeWhile fun indent => decide (column < indent)
    { scanner with
      indents := scanner.indents.drop ended.length
      tokens := scanner.tokens ++ Array.replicate ended.length Token.blockEnd }
  else scanner

/-- Start a block collection at a column, unless one is open there; the token goes
to a position. -/
def startBlock (scanner : Scanner) (column : Int) (token : Token) (position : Nat) : Scanner :=
  if scanner.level = 0 ∧ scanner.indent < column then
    { scanner with
      indents := column :: scanner.indents
      tokens := scanner.tokens.insertIdxIfInBounds position token }
  else scanner

/-- Go to the next token: over spaces, comments and line ends. -/
def skipToToken (scanner : Scanner) : Nat → Scanner
  | 0 => scanner
  | rounds + 1 =>
      let cursor := scanner.cursor
      let cursor :=
        if cursor.index = 0 ∧ cursor.peek 0 = some byteOrderMark then cursor.next else cursor
      let cursor := cursor.skipSpaces.skipComment
      match cursor.lineBreak? with
      | some (_, after) =>
          let keyAllowed := scanner.keyAllowed || scanner.level = 0
          skipToToken { scanner with cursor := after, keyAllowed := keyAllowed } rounds
      | none => { scanner with cursor := cursor }

/-- The end of the text. -/
def fetchStreamEnd (scanner : Scanner) : Scan Scanner := do
  let scanner ← (scanner.unwind (-1)).dropKey
  pure { (scanner.emit .streamEnd) with
    keyAllowed := false, possibleKeys := [], finished := true }

/-- A decimal number. -/
def scanNumber (cursor : Cursor) : Scan (Nat × Cursor) :=
  let (digits, cursor) := cursor.takeWhile Char.isDigit
  if digits.isEmpty then malformed
  else if Text.integerDigitLimit < digits.length then
    .error (.scalar (.integerTooLong digits.length))
  else .ok (Json.digitsValue digits, cursor)

/-- The value of a percent-encoded row of bytes. -/
def scanEscapedBytes (cursor : Cursor) (bytes : List UInt8) : Nat → Scan (List Char × Cursor)
  | 0 => malformed
  | rounds + 1 =>
      if cursor.peek 0 = some '%' then
        let digits := cursor.next.rest.take 2
        match hexNumber? digits, decide (digits.length = 2) with
        | some byte, true =>
            scanEscapedBytes (cursor.forward 3) (UInt8.ofNat byte :: bytes) rounds
        | _, _ => malformed
      else
        match Text.decode? (ByteArray.mk bytes.reverse.toArray) with
        | some text => .ok (text.toList, cursor)
        | none => malformed

/-- The characters of the rest of a tag, percent signs apart. -/
def isTagChar (char : Char) : Bool :=
  char.isAlphanum || "-;/?:@&=+$,_.!~*'()[]".toList.contains char

/-- The rest of a tag. -/
def scanTagRest (cursor : Cursor) (text : List Char) : Nat → Scan (String × Cursor)
  | 0 => malformed
  | rounds + 1 => do
      let (row, cursor) := cursor.takeWhile isTagChar
      let text := text ++ row
      if cursor.peek 0 = some '%' then
        let (decoded, cursor) ← scanEscapedBytes cursor [] cursor.rounds
        scanTagRest cursor (text ++ decoded) rounds
      else if text.isEmpty then malformed
      else pure (String.ofList text, cursor)

/-- The handle of a tag: a name between exclamation marks, or a single one. -/
def scanTagHandle (cursor : Cursor) : Scan (String × Cursor) :=
  if cursor.peek 0 != some '!' then malformed
  else if cursor.peek 1 = some ' ' then .ok ("!", cursor.next)
  else
    let (name, after) := cursor.next.takeWhile isNameChar
    if after.peek 0 = some '!' then
      .ok (String.ofList ('!' :: name ++ ['!']), after.next)
    else malformed

/-- The tag of a node. -/
def scanTag (cursor : Cursor) : Scan (Token × Cursor) := do
  let rounds := cursor.rounds
  let (token, cursor) ←
    if cursor.peek 1 = some '<' then do
      let (rest, cursor) ← scanTagRest (cursor.forward 2) [] rounds
      if cursor.peek 0 = some '>' then pure (Token.tag none rest, cursor.next) else malformed
    else if endsToken (cursor.peek 1) then pure (Token.tag none "!", cursor.next)
    else do
      let word := cursor.next.rest.takeWhile fun char => !(char = ' ' || isBreak char)
      let (handle, cursor) ←
        if word.contains '!' then scanTagHandle cursor else pure ("!", cursor.next)
      let (rest, cursor) ← scanTagRest cursor [] rounds
      pure (Token.tag (some handle) rest, cursor)
  if endsWord (cursor.peek 0) then pure (token, cursor) else malformed

/-- The name of an anchor or of a reference to one. -/
def scanAnchorName (cursor : Cursor) : Scan (String × Cursor) :=
  let (name, cursor) := cursor.next.takeWhile isNameChar
  let ended :=
    endsToken (cursor.peek 0) ||
      ((cursor.peek 0).map fun char => "?:,]\x7d%@\x60".toList.contains char).getD false
  if name.isEmpty || !ended then malformed else .ok (String.ofList name, cursor)

/-- The version of the format. -/
def scanVersion (cursor : Cursor) : Scan (Directive × Cursor) := do
  let (major, cursor) ← scanNumber cursor.skipSpaces
  if cursor.peek 0 != some '.' then malformed
  else
    let (_, cursor) ← scanNumber cursor.next
    if endsWord (cursor.peek 0) then pure (.version major, cursor) else malformed

/-- A shorthand for tags. -/
def scanShorthand (cursor : Cursor) : Scan (Directive × Cursor) := do
  let (handle, cursor) ← scanTagHandle cursor.skipSpaces
  if cursor.peek 0 != some ' ' then malformed
  else
    let cursor := cursor.skipSpaces
    let (expansion, cursor) ← scanTagRest cursor [] cursor.rounds
    if endsWord (cursor.peek 0) then pure (.tag handle expansion, cursor) else malformed

/-- A line of instructions. -/
def scanDirective (cursor : Cursor) : Scan (Directive × Cursor) := do
  let (name, cursor) := cursor.next.takeWhile isNameChar
  if name.isEmpty || !endsWord (cursor.peek 0) then malformed
  else
    let (directive, cursor) ←
      match String.ofList name with
      | "YAML" => scanVersion cursor
      | "TAG" => scanShorthand cursor
      | _ => pure (.other, (cursor.takeWhile fun char => !isBreak char).2)
    let cursor ← cursor.finishLine
    pure (directive, cursor)

/-- Instructions end all block collections. -/
def fetchDirective (scanner : Scanner) : Scan Scanner := do
  let scanner ← (scanner.unwind (-1)).dropKey
  let (directive, cursor) ← scanDirective scanner.cursor
  pure { (scanner.emit (.directive directive)) with cursor := cursor, keyAllowed := false }

/-- The mark at the start or the end of a document. -/
def fetchDocumentMark (scanner : Scanner) (token : Token) : Scan Scanner := do
  let scanner ← (scanner.unwind (-1)).dropKey
  pure { ((scanner.forward 3).emit token) with keyAllowed := false }

/-- The start of a flow collection, which may be a key. -/
def fetchFlowStart (scanner : Scanner) (token : Token) : Scan Scanner := do
  let scanner ← scanner.noteKey
  pure { ((scanner.forward 1).emit token) with level := scanner.level + 1, keyAllowed := true }

/-- The end of a flow collection.  In a text that closes more collections than it
opens the level stays at zero; the nodes of such a text are refused later. -/
def fetchFlowEnd (scanner : Scanner) (token : Token) : Scan Scanner := do
  let scanner ← scanner.dropKey
  pure { ((scanner.forward 1).emit token) with level := scanner.level - 1, keyAllowed := false }

/-- A comma between the entries of a flow collection. -/
def fetchFlowEntry (scanner : Scanner) : Scan Scanner := do
  let scanner ← { scanner with keyAllowed := true }.dropKey
  pure ((scanner.forward 1).emit .flowEntry)

/-- A dash in front of the entry of a block sequence. -/
def fetchBlockEntry (scanner : Scanner) : Scan Scanner := do
  if scanner.level = 0 && !scanner.keyAllowed then malformed
  else
    let scanner := scanner.startBlock scanner.column .blockSequenceStart scanner.tokens.size
    let scanner ← { scanner with keyAllowed := true }.dropKey
    pure ((scanner.forward 1).emit .blockEntry)

/-- A question mark in front of a key. -/
def fetchKey (scanner : Scanner) : Scan Scanner := do
  if scanner.level = 0 && !scanner.keyAllowed then malformed
  else
    let scanner := scanner.startBlock scanner.column .blockMappingStart scanner.tokens.size
    let scanner ← { scanner with keyAllowed := scanner.level = 0 }.dropKey
    pure ((scanner.forward 1).emit .key)

/-- A colon in front of a value: what stood before it on the line was a key. -/
def fetchValue (scanner : Scanner) : Scan Scanner := do
  match scanner.possibleKeys.find? fun key => key.level = scanner.level with
  | some key =>
      let others := scanner.possibleKeys.filter fun other => other.level != scanner.level
      let tokens := scanner.tokens.insertIdxIfInBounds key.position .key
      let scanner := { scanner with possibleKeys := others, tokens := tokens, keyAllowed := false }
      let scanner := scanner.startBlock key.column .blockMappingStart key.position
      pure ((scanner.forward 1).emit .value)
  | none =>
      if scanner.level = 0 && !scanner.keyAllowed then malformed
      else
        let scanner := scanner.startBlock scanner.column .blockMappingStart scanner.tokens.size
        let scanner ← { scanner with keyAllowed := scanner.level = 0 }.dropKey
        pure ((scanner.forward 1).emit .value)

/-- A token that may be a key and is read by a function of its own. -/
def fetchKeyLike (scanner : Scanner) (scan : Cursor → Scan (Token × Cursor)) : Scan Scanner := do
  let scanner ← scanner.noteKey
  let (token, cursor) ← scan scanner.cursor
  pure { (scanner.emit token) with cursor := cursor, keyAllowed := false }

/-- A block scalar. -/
def fetchBlockScalar (scanner : Scanner) : Scan Scanner := do
  let scanner ← { scanner with keyAllowed := true }.dropKey
  let (text, cursor) ← blockScalar scanner.indent scanner.cursor
  pure { (scanner.emit (.scalar (String.ofList text) .quoted)) with cursor := cursor }

/-- A quoted scalar. -/
def scanQuoted (cursor : Cursor) : Scan (Token × Cursor) := do
  let (text, cursor) ← quotedScalar cursor
  pure (.scalar (String.ofList text) .quoted, cursor)

/-- A plain scalar.  A key may start behind it if a line ended there. -/
def fetchPlain (scanner : Scanner) : Scan Scanner := do
  let scanner ← scanner.noteKey
  let (text, lineEnded, cursor) := plainScalar (scanner.level != 0) scanner.indent scanner.cursor
  pure { (scanner.emit (.scalar (String.ofList text) .plain)) with
    cursor := cursor, keyAllowed := lineEnded }

/-- Whether a plain scalar may start at the cursor. -/
def startsPlain (scanner : Scanner) : Bool :=
  match scanner.cursor.peek 0 with
  | none => false
  | some char =>
      let indicator := "-?:,[]\x7b\x7d#&*!|>'\"%@\x60".toList.contains char
      (!endsToken (some char) && !indicator) ||
        (!endsToken (scanner.cursor.peek 1) &&
          (char = '-' || (scanner.level = 0 && (char = '?' || char = ':'))))

/-- Read one token, or a token and those that its place implies. -/
def fetch (scanner : Scanner) : Scan Scanner := do
  let scanner := scanner.skipToToken scanner.cursor.rounds
  let scanner ← scanner.dropStaleKeys
  let scanner := scanner.unwind scanner.column
  let cursor := scanner.cursor
  let inFlow := scanner.level != 0
  let apart := inFlow || endsToken (cursor.peek 1)
  match cursor.peek 0 with
  | none => scanner.fetchStreamEnd
  | some char =>
      if char = '%' && cursor.column = 0 then scanner.fetchDirective
      else if cursor.column = 0 && cursor.startsMark '-' then
        scanner.fetchDocumentMark .documentStart
      else if cursor.column = 0 && cursor.startsMark '.' then
        scanner.fetchDocumentMark .documentEnd
      else if char = '[' then scanner.fetchFlowStart .flowSequenceStart
      else if char = '\x7b' then scanner.fetchFlowStart .flowMappingStart
      else if char = ']' then scanner.fetchFlowEnd .flowSequenceEnd
      else if char = '\x7d' then scanner.fetchFlowEnd .flowMappingEnd
      else if char = ',' then scanner.fetchFlowEntry
      else if char = '-' && endsToken (cursor.peek 1) then scanner.fetchBlockEntry
      else if char = '?' && apart then scanner.fetchKey
      else if char = ':' && apart then scanner.fetchValue
      else if char = '*' then
        scanner.fetchKeyLike fun cursor => do
          let (name, cursor) ← scanAnchorName cursor
          pure (.reference name, cursor)
      else if char = '&' then
        scanner.fetchKeyLike fun cursor => do
          let (name, cursor) ← scanAnchorName cursor
          pure (.anchored name, cursor)
      else if char = '!' then scanner.fetchKeyLike scanTag
      else if (char = '|' || char = '>') && !inFlow then scanner.fetchBlockScalar
      else if char = '\'' || char = '"' then scanner.fetchKeyLike scanQuoted
      else if scanner.startsPlain then scanner.fetchPlain
      else malformed

/-- The number of tokens that nothing can be put in front of any more. -/
def settledCount (scanner : Scanner) : Nat :=
  let waiting := scanner.possibleKeys.filter fun key => !scanner.isStale key
  waiting.foldl (fun count key => min count key.position) scanner.tokens.size

end Scanner

/-- The characters that may stand in a text. -/
def isAllowed (char : Char) : Bool :=
  let code := char.toNat
  code = 9 || code = 10 || code = 13 || (32 ≤ code && code ≤ 126) || code = 0x85 ||
    (0xA0 ≤ code && code != 0xFFFE && code != 0xFFFF)

/-- The tokens of a text up to its end, or up to the place where no token can be read. -/
structure TokenRow where
  tokens : List Token
  /-- Why there is no token behind the last one. -/
  fault : Option DecodingFault

/-- Read tokens up to the end of the text.  When no further token can be read, those
remain that a later one could not change. -/
def Scanner.run (scanner : Scanner) : Nat → TokenRow
  | 0 => ⟨[], some .malformed⟩
  | rounds + 1 =>
      if scanner.finished then ⟨scanner.tokens.toList, none⟩
      else
        match scanner.fetch with
        | .ok next => next.run rounds
        | .error fault => ⟨scanner.tokens.toList.take scanner.settledCount, some fault⟩

/-- The tokens of a text.  Every round of the scanner but the last goes over a
character. -/
def Token.scan (text : String) : TokenRow :=
  if text.toList.all isAllowed then (Scanner.ofText text).run (text.length + 2)
  else ⟨[], some .malformed⟩

end ApiScaffold.Yaml

import ApiScaffold.Data.Json

/-!
# The lexemes of TOML

Strings, keys, numbers and dates.  A reader takes the characters from which on it
reads and returns what it read together with the characters behind it.
-/

namespace ApiScaffold.Toml

/-- What a reader returns: a result and the characters behind it. -/
abbrev Read (α : Type) := Except DecodingFault (α × List Char)

/-- The text is not TOML. -/
def malformed {α : Type} : Except DecodingFault α :=
  .error .malformed

/-- Blanks within a line. -/
def isSpace (char : Char) : Bool :=
  char = ' ' || char = '\t'

/-- The characters behind blanks. -/
def skipSpaces (chars : List Char) : List Char :=
  chars.dropWhile isSpace

/-- Control characters that may not be written as they are. -/
def isControl (char : Char) : Bool :=
  (char.toNat < 32 && char != '\t') || char.toNat = 127

/-- Control characters that may not be written in a text of several lines. -/
def isBlockControl (char : Char) : Bool :=
  isControl char && char != '\n'

/-- Go over a comment up to the end of its line. -/
def skipComment : List Char → Except DecodingFault (List Char)
  | '#' :: rest =>
      let comment := rest.takeWhile fun char => char != '\n'
      if comment.any isControl then malformed
      else .ok (rest.dropWhile fun char => char != '\n')
  | chars => .ok chars

/-- A character of a bare key. -/
def isBareKeyChar (char : Char) : Bool :=
  char.isAlphanum || char = '-' || char = '_'

/-- The code point that is written in hexadecimal digits; half of a surrogate pair must not
be. -/
def readCode (width : Nat) (chars : List Char) : Read Text.CodePoint :=
  match (chars.take width).mapM Json.hexValue? with
  | none => malformed
  | some digits =>
      let code := digits.foldl (fun value digit => 16 * value + digit) 0
      if digits.length = width ∧ (code < 0xD800 ∨ (0xDFFF < code ∧ code < 0x110000)) then
        .ok (.ofNat code, chars.drop width)
      else malformed

/-- The character of an escape by a single letter. -/
def escaped? (char : Char) : Option Char :=
  match char with
  | 'b' => some (Char.ofNat 8)
  | 't' => some '\t'
  | 'n' => some '\n'
  | 'f' => some (Char.ofNat 12)
  | 'r' => some '\r'
  | '"' => some '"'
  | '\\' => some '\\'
  | _ => none

/-- The characters behind a backslash at the end of a line: the blanks and line feeds
that follow are left out. -/
def skipLineEnd (chars : List Char) : Except DecodingFault (List Char) :=
  match skipSpaces chars with
  | [] => .ok []
  | '\n' :: rest => .ok (rest.dropWhile fun char => isSpace char || char = '\n')
  | _ => malformed

/-- The characters of a code point that was read, in reverse. -/
def spelled (point : Read Text.CodePoint) : Read (List Char) :=
  point.map fun (point, rest) => (point.spelling.reverse, rest)

/-- What is written behind a backslash: the characters that it stands for, in reverse. -/
def readEscape (block : Bool) : List Char → Except DecodingFault (List Char × List Char)
  | [] => malformed
  | char :: rest =>
      if block && (isSpace char || char = '\n') then do
        pure ([], ← skipLineEnd (char :: rest))
      else if char = 'u' then spelled (readCode 4 rest)
      else if char = 'U' then spelled (readCode 8 rest)
      else
        match escaped? char with
        | some meant => .ok ([meant], rest)
        | none => malformed

/-- Read a string up to its double quotes.  The text so far is in reverse; `rounds`
bounds the characters. -/
def readBasic (block : Bool) (text : List Char) :
    Nat → List Char → Except DecodingFault (List Char × List Char)
  | 0, _ | _, [] => malformed
  | rounds + 1, char :: rest =>
      if char = '"' then
        if !block then .ok (text.reverse, rest)
        else
          match rest with
          | '"' :: '"' :: rest => .ok (text.reverse, rest)
          | _ => readBasic block ('"' :: text) rounds rest
      else if char = '\\' then do
        let (meant, rest) ← readEscape block rest
        readBasic block (meant ++ text) rounds rest
      else if isControl char && !(block && char = '\n') then malformed
      else readBasic block (char :: text) rounds rest

/-- Read a literal string of one line up to its quote. -/
def readLiteral (chars : List Char) : Read (List Char) :=
  let text := chars.takeWhile fun char => char != '\''
  match chars.dropWhile fun char => char != '\'' with
  | [] => malformed
  | _ :: rest => if text.any isControl then malformed else .ok (text, rest)

/-- Read a literal string of several lines up to its quotes. -/
def readLiteralBlock (text : List Char) : List Char → Read (List Char)
  | [] => malformed
  | '\'' :: '\'' :: '\'' :: rest => .ok (text.reverse, rest)
  | char :: rest => if isBlockControl char then malformed else readLiteralBlock (char :: text) rest

/-- Up to two quotes may stand right before the quotes that end a block. -/
def takeExtraQuotes (quote : Char) (text : List Char) : List Char → List Char × List Char
  | first :: second :: rest =>
      if first = quote then
        if second = quote then (text ++ [quote, quote], rest) else (text ++ [quote], second :: rest)
      else (text, first :: second :: rest)
  | [first] => if first = quote then (text ++ [quote], []) else (text, [first])
  | [] => (text, [])

/-- A line feed right behind the opening quotes of a block does not count. -/
def skipFirstLineFeed : List Char → List Char
  | '\n' :: rest => rest
  | chars => chars

/-- Read a string of any kind. -/
def readString? (chars : List Char) : Option (Read String) :=
  let finish := fun (result : Read (List Char)) =>
    result.map fun (text, rest) => (String.ofList text, rest)
  match chars with
  | '"' :: '"' :: '"' :: rest =>
      let block := readBasic true [] rest.length (skipFirstLineFeed rest)
      some (finish (block.map fun (text, rest) => takeExtraQuotes '"' text rest))
  | '\'' :: '\'' :: '\'' :: rest =>
      let block := readLiteralBlock [] (skipFirstLineFeed rest)
      some (finish (block.map fun (text, rest) => takeExtraQuotes '\'' text rest))
  | '"' :: rest => some (finish (readBasic false [] rest.length rest))
  | '\'' :: rest => some (finish (readLiteral rest))
  | _ => none

/-- Read one part of a key. -/
def readKeyPart : List Char → Read String
  | [] => malformed
  | char :: rest =>
      if isBareKeyChar char then
        .ok (String.ofList ((char :: rest).takeWhile isBareKeyChar),
          (char :: rest).dropWhile isBareKeyChar)
      else if char = '\'' then (readLiteral rest).map fun (text, rest) => (String.ofList text, rest)
      else if char = '"' then
        (readBasic false [] rest.length rest).map fun (text, rest) => (String.ofList text, rest)
      else malformed

/-- Read the parts of a key behind its first. -/
def readKeyRest (parts : List String) :
    Nat → List Char → Except DecodingFault (List String × List Char)
  | 0, _ => malformed
  | rounds + 1, chars =>
      match skipSpaces chars with
      | '.' :: rest => do
          let (part, rest) ← readKeyPart (skipSpaces rest)
          readKeyRest (parts ++ [part]) rounds rest
      | rest => .ok (parts, rest)

/-- Read a key: its parts are separated by dots. -/
def readKey (chars : List Char) : Except DecodingFault (List String × List Char) := do
  let (part, rest) ← readKeyPart chars
  readKeyRest [part] (rest.length + 1) rest

/-- The digits at the front, where single underscores may separate two digits.  The
result leaves out the underscores. -/
def takeDigits (isDigit : Char → Bool) : List Char → List Char × List Char
  | [] => ([], [])
  | '_' :: char :: rest =>
      if isDigit char then
        let (digits, rest) := takeDigits isDigit rest
        (char :: digits, rest)
      else ([], '_' :: char :: rest)
  | char :: rest =>
      if isDigit char then
        let (digits, rest) := takeDigits isDigit rest
        (char :: digits, rest)
      else ([], char :: rest)

/-- Digits that start with a digit and not with an underscore. -/
def splitNumber (isDigit : Char → Bool) (chars : List Char) : List Char × List Char :=
  match chars with
  | '_' :: _ => ([], chars)
  | _ => takeDigits isDigit chars

/-- The base that a letter behind a zero names. -/
def baseOf? : Char → Option Nat
  | 'x' => some 16
  | 'o' => some 8
  | 'b' => some 2
  | _ => none

/-- Whether a character is a digit of a base. -/
def isBaseDigit (base : Nat) (char : Char) : Bool :=
  match Json.hexValue? char with
  | some value => value < base
  | none => false

/-- An integer with a letter for its base. -/
def readBased? : List Char → Option (Value × List Char)
  | '0' :: mark :: rest => do
      let base ← baseOf? mark
      let (digits, rest) := splitNumber (isBaseDigit base) rest
      if digits.isEmpty then none
      else
        let value := digits.foldl (fun value char => base * value + (Json.hexValue? char).getD 0) 0
        some (.scalar (.int value), rest)
  | _ => none

/-- The fraction at the front: a point and digits. -/
def takeFraction : List Char → List Char × List Char
  | '.' :: rest =>
      let (digits, after) := splitNumber Char.isDigit rest
      if digits.isEmpty then ([], '.' :: rest) else (digits, after)
  | chars => ([], chars)

/-- The exponent at the front, if there is one. -/
def takeExponent? : List Char → Option (Int × List Char)
  | mark :: rest =>
      if mark = 'e' || mark = 'E' then
        let (negative, digits) :=
          match rest with
          | '-' :: digits => (true, digits)
          | '+' :: digits => (false, digits)
          | digits => (false, digits)
        let (digits, after) := splitNumber Char.isDigit digits
        if digits.isEmpty then none
        else
          let value : Int := Json.digitsValue digits
          some (if negative then -value else value, after)
      else none
  | [] => none

/-- A decimal number without its sign. -/
def readDecimal? (negative : Bool) (chars : List Char) :
    Option (Except DecodingFault Value × List Char) :=
  let (whole, rest) :=
    match chars with
    | '0' :: rest => (['0'], rest)
    | _ => splitNumber Char.isDigit chars
  if whole.isEmpty then none
  else
    let (fraction, rest) := takeFraction rest
    match takeExponent? rest with
    | some (exponent, rest) =>
        some (.ok (.scalar (.float
          (.ofDecimal negative (Json.digitsValue (whole ++ fraction))
            (exponent - fraction.length)))), rest)
    | none =>
        if fraction.isEmpty then
          let value : Int := Json.digitsValue whole
          if Text.integerDigitLimit < whole.length then
            some (.error (.scalar (.integerTooLong whole.length)), rest)
          else some (.ok (.scalar (.int (if negative then -value else value))), rest)
        else
          some (.ok (.scalar (.float
            (.ofDecimal negative (Json.digitsValue (whole ++ fraction)) (-fraction.length)))), rest)

/-- Infinities and "not a number", without a sign. -/
def readWord? (negative : Bool) : List Char → Option (Value × List Char)
  | 'i' :: 'n' :: 'f' :: rest => some (.scalar (.float (.infinite negative)), rest)
  | 'n' :: 'a' :: 'n' :: rest => some (.scalar (.float .nan), rest)
  | _ => none

/-- Read a number. -/
def readNumber (chars : List Char) : Read Value :=
  match readBased? chars with
  | some result => .ok result
  | none =>
      let (negative, unsigned) :=
        match chars with
        | '-' :: rest => (true, rest)
        | '+' :: rest => (false, rest)
        | rest => (false, rest)
      match readDecimal? negative unsigned with
      | some (value, rest) => value.map fun value => (value, rest)
      | none =>
          match readWord? negative unsigned with
          | some result => .ok result
          | none => malformed

/-- The number that exactly two digits write. -/
def twoDigits? (tens units : Char) : Option Nat :=
  if tens.isDigit && units.isDigit then some (Json.digitsValue [tens, units]) else none

/-- A time of day with two digits for each part and an optional fraction. -/
def readClock? : List Char → Option (ClockTime × List Char)
  | h₁ :: h₂ :: ':' :: m₁ :: m₂ :: ':' :: s₁ :: s₂ :: rest => do
      let hour ← twoDigits? h₁ h₂
      let minute ← twoDigits? m₁ m₂
      let second ← twoDigits? s₁ s₂
      let (fraction, rest) :=
        match rest with
        | '.' :: after =>
            let (digits, remaining) := Json.splitDigits after
            if digits.isEmpty then ([], '.' :: after) else (digits, remaining)
        | rest => ([], rest)
      let microseconds :=
        Json.digitsValue (fraction.take 6 ++ List.replicate (6 - fraction.length) '0')
      match ClockTime.make hour minute second microseconds with
      | .ok time => some (time, rest)
      | .error _ => none
  | _ => none

/-- The offset from universal time behind a time of day, in minutes. -/
def takeOffset : List Char → Option Int × List Char
  | 'Z' :: rest | 'z' :: rest => (some 0, rest)
  | sign :: h₁ :: h₂ :: ':' :: m₁ :: m₂ :: rest =>
      let chars := sign :: h₁ :: h₂ :: ':' :: m₁ :: m₂ :: rest
      match twoDigits? h₁ h₂, twoDigits? m₁ m₂ with
      | some hours, some minutes =>
          if (sign = '+' || sign = '-') && hours < 24 && minutes < 60 then
            let offset : Int := (hours * 60 + minutes : Nat)
            (some (if sign = '-' then -offset else offset), rest)
          else (none, chars)
      | _, _ => (none, chars)
  | chars => (none, chars)

/-- A date, with a time of day and an offset if they follow.  The outer result says
whether the text looks like a date. -/
def readDate? : List Char → Option (Read Scalar)
  | y₁ :: y₂ :: y₃ :: y₄ :: '-' :: m₁ :: m₂ :: '-' :: d₁ :: d₂ :: rest => do
      let month ← twoDigits? m₁ m₂
      let day ← twoDigits? d₁ d₂
      let year := Json.digitsValue [y₁, y₂, y₃, y₄]
      if [y₁, y₂, y₃, y₄].all Char.isDigit && 1 ≤ month && month ≤ 12 && 1 ≤ day && day ≤ 31 then
        match CalendarDate.make year month day with
        | .error _ => some malformed
        | .ok date =>
            match rest with
            | mark :: after =>
                if mark = 'T' || mark = 't' || mark = ' ' then
                  match readClock? after with
                  | some (time, after) =>
                      let (offset, after) := takeOffset after
                      some (.ok (.moment ⟨date, time, offset⟩, after))
                  | none => some (.ok (.date date, rest))
                else some (.ok (.date date, rest))
            | [] => some (.ok (.date date, rest))
      else none
  | _ => none

/-- Read a value without parts. -/
def readScalar (chars : List Char) : Read Value :=
  match readString? chars with
  | some result => result.map fun (text, rest) => (.ofText text, rest)
  | none =>
      match chars with
      | 't' :: 'r' :: 'u' :: 'e' :: rest => .ok (.scalar (.bool true), rest)
      | 'f' :: 'a' :: 'l' :: 's' :: 'e' :: rest => .ok (.scalar (.bool false), rest)
      | _ =>
          match readDate? chars with
          | some result => result.map fun (date, rest) => (.scalar date, rest)
          | none =>
              match readClock? chars with
              | some (time, rest) => .ok (.scalar (.time time), rest)
              | none => readNumber chars

end ApiScaffold.Toml

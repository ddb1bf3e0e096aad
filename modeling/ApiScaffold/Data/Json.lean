import ApiScaffold.Data.Fault
import ApiScaffold.Data.Value
import ApiScaffold.Text.Digit

/-!
# Reading JSON

The reader takes the text character by character.  Its state holds the containers
that are open, the innermost first, what may come next, and the lexeme it is in
the middle of; `step` says how one character changes it.  Reading is therefore a
fold over the text.

Beyond the standard, the number words `NaN`, `Infinity` and `-Infinity` are
accepted.  A key that occurs again in an object keeps its place and takes the
later value.  Half of a surrogate pair may be written alone.  Containers can only be
nested up to a limit.
-/

namespace ApiScaffold.Json

/-- A container that is not closed yet. -/
inductive Container where
  /-- A list with its items so far, the newest first. -/
  | list (items : List Value)
  /-- An object with its entries so far and the key that waits for its value. -/
  | object (entries : List (Scalar × Value)) (key : Scalar)

/-- What may come next. -/
inductive Expected where
  | value
  /-- A value, or the end of a list that was just opened. -/
  | firstItem
  | key
  /-- A key, or the end of an object that was just opened. -/
  | firstKey
  | colon
  /-- A comma or the end of the container. -/
  | separator
  /-- The document is complete. -/
  | nothing (document : Value)

/-- The lexeme that the reader is in the middle of. -/
inductive Lexeme where
  /-- None: the reader is between lexemes. -/
  | none
  /-- A number or a word, in reverse. -/
  | atom (chars : List Char)
  /-- A string: its characters in reverse, and the code of a leading half of a surrogate
  pair that may still find the other. -/
  | string (chars : List Char) (half : Option Nat)
  /-- A string after a backslash. -/
  | escape (chars : List Char) (half : Option Nat)
  /-- A string inside an escape by code: digits to come, and their value so far. -/
  | code (chars : List Char) (half : Option Nat) (digits value : Nat)

/-- The state of the reader. -/
structure Reader where
  /-- The open containers, the innermost first. -/
  containers : List Container
  expected : Expected
  lexeme : Lexeme

/-- The state before the first character. -/
def Reader.start : Reader :=
  ⟨[], .value, .none⟩

/-- The result of a step of the reader. -/
abbrev Step := Except DecodingFault Reader

/-- The text is not JSON. -/
def malformed : Step :=
  .error .malformed

/-- Take a complete value. -/
def Reader.takeValue (reader : Reader) (value : Value) : Step :=
  match reader.expected with
  | .value | .firstItem =>
      match reader.containers with
      | [] => .ok ⟨[], .nothing value, .none⟩
      | .list items :: outer => .ok ⟨.list (value :: items) :: outer, .separator, .none⟩
      | .object entries key :: outer =>
          .ok ⟨.object (Value.putEntry entries key value) key :: outer, .separator, .none⟩
  | _ => malformed

/-- Take a complete string, as a key or as a value. -/
def Reader.takeString (reader : Reader) (text : Scalar) : Step :=
  match reader.expected, reader.containers with
  | .key, .object entries _ :: outer | .firstKey, .object entries _ :: outer =>
      .ok ⟨.object entries text :: outer, .colon, .none⟩
  | _, _ => reader.takeValue (.scalar text)

/-- Close the innermost container and take it as a value. -/
def Reader.close (reader : Reader) (bracket : Char) : Step :=
  match bracket, reader.containers, reader.expected with
  | ']', .list items :: outer, .firstItem | ']', .list items :: outer, .separator =>
      Reader.takeValue ⟨outer, .value, .none⟩ (.list items.reverse)
  | '\x7d', .object entries _ :: outer, .firstKey
  | '\x7d', .object entries _ :: outer, .separator =>
      Reader.takeValue ⟨outer, .value, .none⟩ (.mapping entries)
  | _, _, _ => malformed

/-- The most containers that can be nested. -/
def nestingLimit : Nat := 985

/-- Open a container where a value may stand. -/
def Reader.openContainer (reader : Reader) (container : Container) (expected : Expected) : Step :=
  match reader.expected with
  | .value | .firstItem =>
      if nestingLimit ≤ reader.containers.length then .error .tooDeep
      else .ok ⟨container :: reader.containers, expected, .none⟩
  | _ => malformed

/-- Begin a number or a word where a value may stand. -/
def Reader.openAtom (reader : Reader) (char : Char) : Step :=
  match reader.expected with
  | .value | .firstItem => .ok { reader with lexeme := .atom [char] }
  | _ => malformed

/-- A comma: another item or another entry follows. -/
def Reader.takeComma (reader : Reader) : Step :=
  match reader.expected, reader.containers with
  | .separator, .list _ :: _ => .ok { reader with expected := .value, lexeme := .none }
  | .separator, .object _ _ :: _ => .ok { reader with expected := .key, lexeme := .none }
  | _, _ => malformed

/-- The characters of numbers and words. -/
def isAtomChar (char : Char) : Bool :=
  char.isAlphanum || char = '+' || char = '-' || char = '.'

/-- A character between lexemes. -/
def Reader.between (reader : Reader) (char : Char) : Step :=
  if char = ' ' || char = '\t' || char = '\n' || char = '\r' then
    .ok { reader with lexeme := .none }
  else if char = '"' then .ok { reader with lexeme := .string [] none }
  else if isAtomChar char then reader.openAtom char
  else if char = '[' then reader.openContainer (.list []) .firstItem
  else if char = '\x7b' then reader.openContainer (.object [] (.text "")) .firstKey
  else if char = ']' || char = '\x7d' then reader.close char
  else if char = ',' then reader.takeComma
  else if char = ':' then
    match reader.expected with
    | .colon => .ok { reader with expected := .value, lexeme := .none }
    | _ => malformed
  else malformed

/-- The value of decimal digits. -/
def digitsValue (digits : List Char) : Nat :=
  digits.foldl (fun value char => 10 * value + (char.toNat - 48)) 0

/-- Split digits off the front. -/
def splitDigits (chars : List Char) : List Char × List Char :=
  (chars.takeWhile Char.isDigit, chars.dropWhile Char.isDigit)

/-- The fraction at the front: a point and digits. -/
def takeFraction? : List Char → Option (List Char × List Char)
  | '.' :: rest =>
      let (digits, rest) := splitDigits rest
      if digits.isEmpty then none else some (digits, rest)
  | _ => none

/-- The exponent at the front: a mark, an optional sign, digits. -/
def takeExponent? : List Char → Option (Int × List Char)
  | mark :: rest =>
      if mark = 'e' || mark = 'E' then
        let (negative, digits) :=
          match rest with
          | '-' :: digits => (true, digits)
          | '+' :: digits => (false, digits)
          | digits => (false, digits)
        let (digits, rest) := splitDigits digits
        if digits.isEmpty then none
        else
          let value : Int := digitsValue digits
          some (if negative then -value else value, rest)
      else none
  | [] => none

/-- The longest number at the front of some characters, without its sign, and what is
behind it.  A number that starts with zero has no further digits in front of its point. -/
def readNumber (negative : Bool) (chars : List Char) :
    Except DecodingFault (Value × List Char) :=
  let (whole, rest) :=
    match chars with
    | '0' :: rest => (['0'], rest)
    | _ => splitDigits chars
  if whole.isEmpty then .error .malformed
  else
    match takeFraction? rest, takeExponent? rest with
    | none, none =>
        if Text.integerDigitLimit < whole.length then
          .error (.scalar (.integerTooLong whole.length))
        else
          let value : Int := digitsValue whole
          .ok (.scalar (.int (if negative then -value else value)), rest)
    | some (fraction, rest), _ =>
        let (exponent, rest) := (takeExponent? rest).getD (0, rest)
        .ok (.scalar (.float
          (.ofDecimal negative (digitsValue (whole ++ fraction)) (exponent - fraction.length))),
          rest)
    | none, some (exponent, rest) =>
        .ok (.scalar (.float (.ofDecimal negative (digitsValue whole) exponent)), rest)

/-- The value of a number without its sign; nothing can stand behind it. -/
def numberValue (negative : Bool) (chars : List Char) : Except DecodingFault Value := do
  match ← readNumber negative chars with
  | (value, []) => pure value
  | _ => .error .malformed

/-- The value of a number or a word. -/
def atomValue (chars : List Char) : Except DecodingFault Value :=
  match String.ofList chars, chars with
  | "null", _ => .ok (.scalar .null)
  | "true", _ => .ok (.scalar (.bool true))
  | "false", _ => .ok (.scalar (.bool false))
  | "NaN", _ => .ok (.scalar (.float .nan))
  | "Infinity", _ => .ok (.scalar (.float (.infinite false)))
  | "-Infinity", _ => .ok (.scalar (.float (.infinite true)))
  | _, '-' :: digits => numberValue true digits
  | _, digits => numberValue false digits

/-- Add the code point with a number to a string. -/
def addCode (chars : List Char) (code : Nat) : List Char :=
  (Text.CodePoint.ofNat code).spelling.reverse ++ chars

/-- The characters of a string, where a pending half of a pair stands alone. -/
def settle (chars : List Char) (half : Option Nat) : List Char :=
  match half with
  | none => chars
  | some code => addCode chars code

/-- The character of an escape by a single letter. -/
def escaped? (char : Char) : Option Char :=
  match char with
  | '"' => some '"'
  | '\\' => some '\\'
  | '/' => some '/'
  | 'b' => some (Char.ofNat 8)
  | 'f' => some (Char.ofNat 12)
  | 'n' => some '\n'
  | 'r' => some '\r'
  | 't' => some '\t'
  | _ => none

/-- The value of a hexadecimal digit. -/
def hexValue? (char : Char) : Option Nat :=
  if char.isDigit then some (char.toNat - 48)
  else if 'a' ≤ char ∧ char ≤ 'f' then some (char.toNat - 87)
  else if 'A' ≤ char ∧ char ≤ 'F' then some (char.toNat - 55)
  else none

/-- Add an escaped code unit to a string; two halves of a pair make one character. -/
def addUnit (chars : List Char) (half : Option Nat) (unit : Nat) : Lexeme :=
  if 0xDC00 ≤ unit ∧ unit ≤ 0xDFFF then
    match half with
    | some high =>
        .string (addCode chars (0x10000 + (high - 0xD800) * 0x400 + (unit - 0xDC00))) none
    | none => .string (addCode chars unit) none
  else if 0xD800 ≤ unit ∧ unit ≤ 0xDBFF then .string (settle chars half) (some unit)
  else .string (addCode (settle chars half) unit) none

/-- How one character changes the state. -/
def Reader.step (reader : Reader) (char : Char) : Step :=
  match reader.lexeme with
  | .none => reader.between char
  | .atom chars =>
      if isAtomChar char then .ok { reader with lexeme := .atom (char :: chars) }
      else do
        let value ← atomValue chars.reverse
        let next ← reader.takeValue value
        next.between char
  | .string chars half =>
      if char = '"' then reader.takeString (.text (String.ofList (settle chars half).reverse))
      else if char = '\\' then .ok { reader with lexeme := .escape chars half }
      else if char.toNat < 0x20 then malformed
      else .ok { reader with lexeme := .string (char :: settle chars half) none }
  | .escape chars half =>
      if char = 'u' then .ok { reader with lexeme := .code chars half 4 0 }
      else
        match escaped? char with
        | some meant =>
            .ok { reader with lexeme := .string (meant :: settle chars half) none }
        | none => malformed
  | .code chars half digits value =>
      match hexValue? char with
      | none => malformed
      | some digit =>
          let value := 16 * value + digit
          if digits ≤ 1 then .ok { reader with lexeme := addUnit chars half value }
          else .ok { reader with lexeme := .code chars half (digits - 1) value }

/-- The document, if the text ended where it may end. -/
def Reader.finish (reader : Reader) : Except DecodingFault Value := do
  let reader ←
    match reader.lexeme with
    | .atom chars => do
        let value ← atomValue chars.reverse
        reader.takeValue value
    | _ => pure reader
  match reader.expected, reader.lexeme with
  | .nothing document, .none => .ok document
  | _, _ => .error .malformed

/-- Read a JSON document. -/
def read (text : String) : Except DecodingFault Value := do
  let reader ← text.toList.foldlM Reader.step Reader.start
  reader.finish

end ApiScaffold.Json

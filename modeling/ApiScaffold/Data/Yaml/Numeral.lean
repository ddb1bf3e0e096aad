import ApiScaffold.Data.Yaml.Tag
import ApiScaffold.Text.LetterCase

/-!
# The values of YAML numbers

Underscores inside a number do not count.  An integer that starts with zero is
octal unless a letter says otherwise, and a colon separates parts in base sixty.
-/

namespace ApiScaffold.Yaml

/-- The result of reading a scalar. -/
abbrev Reading (α : Type) := Except ScalarFault α

/-- The characters that count in a number. -/
def countedChars (text : String) : List Char :=
  text.toList.filter fun char => char != '_'

/-- Split the sign off a number; there has to be a character. -/
def splitSign : List Char → Reading (Bool × List Char)
  | [] => .error .emptyNumber
  | '-' :: rest => .ok (true, rest)
  | '+' :: rest => .ok (false, rest)
  | chars => .ok (false, chars)

/-- The text without blanks around it. -/
def withoutMargin (chars : List Char) : List Char :=
  ((chars.dropWhile Text.isNumberMargin).reverse.dropWhile Text.isNumberMargin).reverse

/-- The value of one digit in a base. -/
def baseDigit? (base : Nat) (char : Char) : Option Nat :=
  match (Text.digitValue? char).or (Json.hexValue? char) with
  | some digit => if digit < base then some digit else none
  | none => none

/-- The value of digits in a base. -/
def baseDigits? (base : Nat) (digits : List Char) : Option Nat :=
  digits.foldl (fun value? char => do
    let value ← value?
    let digit ← baseDigit? base char
    pure (base * value + digit)) (some 0)

/-- Digits without the letter that names their base. -/
def withoutBaseMark (base : Nat) : List Char → List Char
  | '0' :: mark :: rest =>
      if (base = 2 ∧ (mark = 'b' ∨ mark = 'B')) ∨ (base = 8 ∧ (mark = 'o' ∨ mark = 'O')) ∨
          (base = 16 ∧ (mark = 'x' ∨ mark = 'X')) then
        rest
      else '0' :: mark :: rest
  | chars => chars

/-- Read an integer in base 2, 8 or 16. -/
def readInBase (base : Nat) (chars : List Char) : Reading Int :=
  let (negative, digits) :=
    match withoutMargin chars with
    | '-' :: rest => (true, rest)
    | '+' :: rest => (false, rest)
    | rest => (false, rest)
  match withoutBaseMark base digits with
  | [] => .error (.badInteger base (String.ofList chars))
  | digits =>
      match baseDigits? base digits with
      | some value => .ok (if negative then -(value : Int) else value)
      | none => .error (.badInteger base (String.ofList chars))

/-- Read a decimal integer. -/
def readDecimal (chars : List Char) : Reading Int :=
  let digits := (withoutSign (withoutMargin chars)).length
  match Text.readInteger? (String.ofList chars) with
  | some value => .ok value
  | none =>
      if Text.integerDigitLimit < digits &&
          (withoutSign (withoutMargin chars)).all (fun char => (Text.digitValue? char).isSome) then
        .error (.integerTooLong digits)
      else .error (.badInteger 10 (String.ofList chars))

/-- The value of an integer. -/
def integerValue (text : String) : Reading Int := do
  let (negative, chars) ← splitSign (countedChars text)
  let value ←
    match chars with
    | ['0'] => pure 0
    | '0' :: 'b' :: rest => readInBase 2 rest
    | '0' :: 'x' :: rest => readInBase 16 rest
    | '0' :: _ => readInBase 8 chars
    | [] => throw .emptyNumber
    | _ =>
        if chars.contains ':' then do
          let parts ← (splitColons chars).mapM readDecimal
          pure (parts.foldl (fun value part => 60 * value + part) 0)
        else readDecimal chars
  pure (if negative then -value else value)

/-- Split decimal digits of any script off the front. -/
def spanDigits (chars : List Char) : List Nat × List Char :=
  ((chars.takeWhile fun char => (Text.digitValue? char).isSome).filterMap Text.digitValue?,
    chars.dropWhile fun char => (Text.digitValue? char).isSome)

/-- The value of a list of decimal digits. -/
def decimalValue (digits : List Nat) : Nat :=
  digits.foldl (fun value digit => 10 * value + digit) 0

/-- The exponent behind the digits of a number. -/
def fractionExponent? : List Char → Option Int
  | [] => some 0
  | mark :: rest =>
      if mark = 'e' ∨ mark = 'E' then
        let negative := rest.head? = some '-'
        match spanDigits (withoutSign rest) with
        | ([], _) | (_, _ :: _) => none
        | (digits, []) =>
            let value : Int := decimalValue digits
            some (if negative then -value else value)
      else none

/-- Read a number without its sign. -/
def readUnsigned? (negative : Bool) (chars : List Char) : Option Binary64 :=
  let word := String.ofList chars
  if word = "inf" || word = "infinity" then some (.infinite negative)
  else if word = "nan" then some .nan
  else
    let (whole, rest) := spanDigits chars
    let (fraction, rest) :=
      match rest with
      | '.' :: rest => spanDigits rest
      | rest => ([], rest)
    if whole.isEmpty && fraction.isEmpty then none
    else
      (fractionExponent? rest).map fun exponent =>
        .ofDecimal negative (decimalValue (whole ++ fraction)) (exponent - fraction.length)

/-- Read a number in the general notation. -/
def readNumber (chars : List Char) : Reading Binary64 :=
  let number? :=
    match withoutMargin chars with
    | '-' :: rest => readUnsigned? true rest
    | rest => readUnsigned? false (withoutSign rest)
  match number? with
  | some number => .ok number
  | none => .error (.badNumber (String.ofList chars))

/-- The sum of parts in base sixty, the last part first.  The weight of every part has to
be in the range of fractions. -/
def sixtiesSum (sum : Binary64) (weight : Nat) : List Binary64 → Reading Binary64
  | [] => .ok sum
  | part :: rest =>
      match Binary64.ofNat weight with
      | .infinite _ => .error .wideWeight
      | factor => sixtiesSum (sum.add (part.mul factor)) (60 * weight) rest

/-- The characters of a fraction that count, in lower case. -/
def fractionChars (text : String) : List Char :=
  (Text.lowerText (String.ofList (countedChars text))).toList

/-- The value of a fraction. -/
def fractionValue (text : String) : Reading Binary64 := do
  let (negative, chars) ← splitSign (fractionChars text)
  let value ←
    match String.ofList chars with
    | ".inf" => pure (.infinite false)
    | ".nan" => pure .nan
    | _ =>
        if chars.contains ':' then do
          let parts ← (splitColons chars).mapM readNumber
          sixtiesSum (Binary64.ofNat 0) 1 parts.reverse
        else readNumber chars
  pure (if negative then value.neg else value)

/-- Whether the text of a fraction is the word for "not a number". -/
def isNanWord (text : String) : Bool :=
  String.ofList (withoutSign (fractionChars text)) = ".nan"

end ApiScaffold.Yaml

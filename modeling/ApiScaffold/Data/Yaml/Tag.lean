import ApiScaffold.Data.Json

/-!
# The tags of YAML 1.1 and the texts that imply them

A plain scalar is recognised by its text: words for truth values and the null
value, integers in four bases and in sixties, fractions with a decimal point,
infinities, and dates.  `impliedTag` finds the tag; the shapes of numbers and dates
are the grammars of the format.
-/

namespace ApiScaffold.Yaml

/-- The beginning of all tags of the format. -/
def tagFamily : String := "tag:yaml.org,2002:"

def nullTag : String := tagFamily ++ "null"
def booleanTag : String := tagFamily ++ "bool"
def integerTag : String := tagFamily ++ "int"
def fractionTag : String := tagFamily ++ "float"
def bytesTag : String := tagFamily ++ "binary"
def timestampTag : String := tagFamily ++ "timestamp"
def orderedMapTag : String := tagFamily ++ "omap"
def pairsTag : String := tagFamily ++ "pairs"
def setTag : String := tagFamily ++ "set"
def textTag : String := tagFamily ++ "str"
def sequenceTag : String := tagFamily ++ "seq"
def mappingTag : String := tagFamily ++ "map"
def mergeTag : String := tagFamily ++ "merge"
def valueTag : String := tagFamily ++ "value"

/-- The words for truth values, in the spellings that are recognised. -/
def booleanWords : List String :=
  ["yes", "Yes", "YES", "no", "No", "NO", "true", "True", "TRUE", "false", "False", "FALSE",
   "on", "On", "ON", "off", "Off", "OFF"]

/-- The words for the null value. -/
def nullWords : List String :=
  ["", "~", "null", "Null", "NULL"]

/-- A text without a sign at its front. -/
def withoutSign : List Char → List Char
  | '-' :: rest | '+' :: rest => rest
  | chars => chars

/-- A decimal digit or an underscore. -/
def isDigitOrGap (char : Char) : Bool :=
  char.isDigit || char = '_'

/-- Digits and underscores that start with a digit. -/
def startsWithDigit : List Char → Bool
  | [] => false
  | char :: _ => char.isDigit

/-- Split at colons. -/
def splitColons (chars : List Char) : List (List Char) :=
  chars.foldr (fun char parts =>
    match parts with
    | [] => [[char]]
    | part :: rest => if char = ':' then [] :: part :: rest else (char :: part) :: rest) [[]]

/-- One or two digits below sixty. -/
def isSixtieth (part : List Char) : Bool :=
  match part with
  | [unit] => unit.isDigit
  | [ten, unit] => '0' ≤ ten && ten ≤ '5' && unit.isDigit
  | _ => false

/-- The shape of an integer. -/
def isInteger (text : List Char) : Bool :=
  match withoutSign text with
  | '0' :: 'b' :: rest =>
      !rest.isEmpty && rest.all fun char => char = '0' || char = '1' || char = '_'
  | '0' :: 'x' :: rest =>
      !rest.isEmpty && rest.all fun char => char = '_' || (Json.hexValue? char).isSome
  | ['0'] => true
  | '0' :: rest => rest.all fun char => ('0' ≤ char && char ≤ '7') || char = '_'
  | chars =>
      startsWithDigit chars &&
        match splitColons chars with
        | [] => false
        | first :: rest => first.all isDigitOrGap && rest.all isSixtieth

/-- The shape of an exponent: a mark, a sign, and digits; or nothing. -/
def isSignedExponent : List Char → Bool
  | [] => true
  | mark :: sign :: digits =>
      (mark = 'e' || mark = 'E') && (sign = '-' || sign = '+') && !digits.isEmpty &&
        digits.all Char.isDigit
  | _ => false

/-- Digits, a point, more digits, and an exponent. -/
def isPlainFraction (chars : List Char) : Bool :=
  startsWithDigit chars &&
    match chars.dropWhile isDigitOrGap with
    | '.' :: rest => isSignedExponent (rest.dropWhile isDigitOrGap)
    | _ => false

/-- A number in sixties with a point behind its last part. -/
def isSixtiesFraction (chars : List Char) : Bool :=
  startsWithDigit chars &&
    match splitColons (chars.takeWhile fun char => char != '.'),
        chars.dropWhile fun char => char != '.' with
    | first :: second :: parts, '.' :: rest =>
        first.all isDigitOrGap && (second :: parts).all isSixtieth && rest.all isDigitOrGap
    | _, _ => false

/-- The shape of a fraction. -/
def isFraction (text : List Char) : Bool :=
  isPlainFraction (withoutSign text) || isSixtiesFraction (withoutSign text) ||
    ([".inf", ".Inf", ".INF"].contains (String.ofList (withoutSign text))) ||
    ([".nan", ".NaN", ".NAN"].contains (String.ofList text)) ||
    match text with
    | '.' :: rest => startsWithDigit rest && isSignedExponent (rest.dropWhile isDigitOrGap)
    | _ => false

/-- The digits of a timestamp, part by part, as they are written. -/
structure TimestampParts where
  year : List Char
  month : List Char
  day : List Char
  /-- Hour, minute, second, and the digits behind the point. -/
  clock : Option (List Char × List Char × List Char × List Char)
  /-- The sign of the offset, its hours and minutes; universal time has no sign. -/
  zone : Option (Option Char × List Char × List Char)

/-- The offset at the end of a timestamp. -/
def zoneParts? : List Char → Option (Option (Option Char × List Char × List Char))
  | [] => some none
  | chars =>
      match chars.dropWhile fun char => char = ' ' || char = '\t' with
      | ['Z'] => some (some (none, [], []))
      | sign :: rest =>
          if sign = '-' || sign = '+' then
            let (hours, rest) := Json.splitDigits rest
            if hours.length = 1 || hours.length = 2 then
              match rest with
              | [] => some (some (some sign, hours, []))
              | ':' :: minutes =>
                  if minutes.length = 2 && minutes.all Char.isDigit then
                    some (some (some sign, hours, minutes))
                  else none
              | _ => none
            else none
          else none
      | [] => none

/-- The time of day and the offset of a timestamp. -/
def clockParts? (chars : List Char) :
    Option ((List Char × List Char × List Char × List Char) ×
      Option (Option Char × List Char × List Char)) :=
  let (hour, rest) := Json.splitDigits chars
  if hour.length = 1 || hour.length = 2 then
    match rest with
    | ':' :: m₁ :: m₂ :: ':' :: s₁ :: s₂ :: rest =>
        if [m₁, m₂, s₁, s₂].all Char.isDigit then
          let (fraction, rest) :=
            match rest with
            | '.' :: rest => Json.splitDigits rest
            | rest => ([], rest)
          (zoneParts? rest).map fun zone => ((hour, [m₁, m₂], [s₁, s₂], fraction), zone)
        else none
    | _ => none
  else none

/-- Take a timestamp apart. -/
def timestampParts? (chars : List Char) : Option TimestampParts :=
  let (year, rest) := Json.splitDigits chars
  match rest with
  | '-' :: rest =>
      let (month, rest) := Json.splitDigits rest
      match rest with
      | '-' :: rest =>
          let (day, rest) := Json.splitDigits rest
          let short := fun digits : List Char => digits.length = 1 || digits.length = 2
          if year.length = 4 && short month && short day then
            match rest with
            | [] => some ⟨year, month, day, none, none⟩
            | mark :: after =>
                let clock? :=
                  if mark = 'T' || mark = 't' then clockParts? after
                  else if mark = ' ' || mark = '\t' then
                    clockParts? (after.dropWhile fun char => char = ' ' || char = '\t')
                  else none
                clock?.map fun parts => ⟨year, month, day, some parts.1, parts.2⟩
          else none
      | _ => none
  | _ => none

/-- The shape of a timestamp.  A date on its own has two digits for month and day. -/
def isTimestamp (chars : List Char) : Bool :=
  match timestampParts? chars with
  | none => false
  | some parts => parts.clock.isSome || (parts.month.length = 2 && parts.day.length = 2)

/-- A text without a single line feed at its end. -/
def withoutLineFeed (chars : List Char) : List Char :=
  if chars.length != 1 && chars.getLast? = some '\n' then chars.dropLast else chars

/-- The tag that the text of a plain scalar implies. -/
def impliedTag (text : String) : String :=
  let chars := withoutLineFeed text.toList
  let word := String.ofList chars
  if booleanWords.contains word then booleanTag
  else if isFraction chars then fractionTag
  else if isInteger chars then integerTag
  else if word = "<<" then mergeTag
  else if nullWords.contains word then nullTag
  else if isTimestamp chars then timestampTag
  else if word = "=" then valueTag
  else textTag

end ApiScaffold.Yaml

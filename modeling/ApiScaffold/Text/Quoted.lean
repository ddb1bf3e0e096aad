import ApiScaffold.Text.CodePoint
import ApiScaffold.Text.Printable

/-!
# Quoted text

Text is quoted so that it can be read back: a backslash, the closing quote and
every code point that cannot be shown are written as escapes.  Single quotes are
preferred; double quotes are used for text that holds a single quote and no
double quote.

Documentation blocks use triple quotes instead.  They keep line feeds and
tabulators as they are, and avoid escapes by the choice of the quotes.
-/

namespace ApiScaffold.Text

/-- A hexadecimal digit in lower case. -/
def hexDigit (value : Nat) : Char :=
  if value < 10 then Char.ofNat (48 + value) else Char.ofNat (87 + value)

/-- The last `width` hexadecimal digits of a number. -/
def hexDigits : Nat → Nat → List Char
  | 0, _ => []
  | width + 1, value => hexDigits width (value / 16) ++ [hexDigit (value % 16)]

/-- The escape of a code point by its number. -/
def codeEscape (code : Nat) : List Char :=
  if code ≤ 0xFF then '\\' :: 'x' :: hexDigits 2 code
  else if code ≤ 0xFFFF then '\\' :: 'u' :: hexDigits 4 code
  else '\\' :: 'U' :: hexDigits 8 code

/-- A backslash and all that cannot be shown as escapes. -/
def escapeChar (char : Char) : List Char :=
  if char = '\\' then ['\\', '\\']
  else if char = '\n' then ['\\', 'n']
  else if char = '\t' then ['\\', 't']
  else if char = '\r' then ['\\', 'r']
  else if isPrintable char then [char]
  else codeEscape char.toNat

/-- A code point; halves of surrogate pairs cannot be shown. -/
def escapePoint : CodePoint → List Char
  | .character char => escapeChar char
  | .half number => codeEscape (CodePoint.half number).toNat

/-- The quote for a text. -/
def quoteFor (chars : List Char) : Char :=
  if chars.contains '\'' && !chars.contains '"' then '"' else '\''

/-- The text between the quotes. -/
def quotedBody (quote : Char) (points : List CodePoint) : List Char :=
  points.flatMap fun point => if point = .character quote then ['\\', quote] else escapePoint point

/-- A text in quotes. -/
def quoted (text : String) : String :=
  let quote := quoteFor text.toList
  String.ofList (quote :: quotedBody quote (codePoints text) ++ [quote])

/-- The escape of a byte outside the printable ASCII characters. -/
def escapeByte (quote : Char) (byte : UInt8) : List Char :=
  let char := Char.ofNat byte.toNat
  if char = quote then ['\\', char]
  else if byte.toNat < 128 then escapeChar char
  else '\\' :: 'x' :: hexDigits 2 byte.toNat

/-- Bytes in quotes, marked by a leading `b`. -/
def quotedBytes (bytes : List UInt8) : String :=
  let quote := quoteFor (bytes.map fun byte => Char.ofNat byte.toNat)
  String.ofList ('b' :: quote :: bytes.flatMap (escapeByte quote) ++ [quote])

/-- The body of a documentation block: line feeds and tabulators stay. -/
def blockBody (points : List CodePoint) : List Char :=
  points.flatMap fun point =>
    match point with
    | .character '\n' => ['\n']
    | .character '\t' => ['\t']
    | _ => escapePoint point

/-- Whether three quotes in a row occur in a text. -/
def holdsTriple (quote : Char) : List Char → Bool
  | first :: second :: third :: rest =>
      (first = quote && second = quote && third = quote) ||
        holdsTriple quote (second :: third :: rest)
  | _ => false

/-- Put a body between three quotes on each side. -/
def tripled (quote : Char) (body : List Char) : String :=
  String.ofList ([quote, quote, quote] ++ body ++ [quote, quote, quote])

/-- A body whose last character is the quote itself has that quote escaped. -/
def escapeLastQuote (quote : Char) (body : List Char) : List Char :=
  if body.getLast? = some quote then body.dropLast ++ ['\\', quote] else body

/-- A documentation block.  Of the two kinds of triple quotes the double ones come
first; a kind that occurs in the text is out, and a kind that does not end the
text goes before one that does.  If both are out, the text is written like quoted
text, with the quote that quoted text would use. -/
def documentationBlock (text : String) : String :=
  let body := blockBody (codePoints text)
  let double := '"'
  let single := '\''
  match holdsTriple double body, holdsTriple single body with
  | true, true =>
      let quote := quoteFor text.toList
      tripled quote (quotedBody quote (codePoints text))
  | true, false => tripled single (escapeLastQuote single body)
  | false, true => tripled double (escapeLastQuote double body)
  | false, false =>
      if body.getLast? = some double then tripled single body
      else tripled double body

example : quoted "it's" = "\"it's\"" := by
  decide +kernel

/-- The text with escapes for halves of surrogate pairs. -/
def escapeHalves (text : String) : String :=
  replaceHalves (fun number => codeEscape (CodePoint.half number).toNat) text

example : documentationBlock "say \"hi\"" = "'''say \"hi\"'''" := by
  decide +kernel

end ApiScaffold.Text

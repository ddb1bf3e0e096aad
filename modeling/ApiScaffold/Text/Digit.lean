import ApiScaffold.Text.Blank

/-!
# Decimal digits and the integers they write

Every script with decimal digits of its own has ten of them in a row, from zero
to nine (Unicode 14).  `digitValue?` reads one digit of any script, and
`readInteger?` reads an integer: blanks around it do not count, a sign may come
first, and single underscores may separate digits.
-/

namespace ApiScaffold.Text

/-- The zero of every script that has decimal digits. -/
def zeroDigits : List Nat :=
  [0x30, 0x660, 0x6F0, 0x7C0, 0x966, 0x9E6, 0xA66, 0xAE6, 0xB66, 0xBE6, 0xC66, 0xCE6, 0xD66,
   0xDE6, 0xE50, 0xED0, 0xF20, 0x1040, 0x1090, 0x17E0, 0x1810, 0x1946, 0x19D0, 0x1A80, 0x1A90,
   0x1B50, 0x1BB0, 0x1C40, 0x1C50, 0xA620, 0xA8D0, 0xA900, 0xA9D0, 0xA9F0, 0xAA50, 0xABF0, 0xFF10,
   0x104A0, 0x10D30, 0x11066, 0x110F0, 0x11136, 0x111D0, 0x112F0, 0x11450, 0x114D0, 0x11650,
   0x116C0, 0x11730, 0x118E0, 0x11950, 0x11C50, 0x11D50, 0x11DA0, 0x16A60, 0x16AC0, 0x16B50,
   0x1D7CE, 0x1D7D8, 0x1D7E2, 0x1D7EC, 0x1D7F6, 0x1E140, 0x1E2F0, 0x1E950, 0x1FBF0]

/-- The value of a decimal digit of any script. -/
def digitValue? (char : Char) : Option Nat :=
  let code := char.toNat
  (zeroDigits.find? fun first => decide (first ≤ code ∧ code ≤ first + 9)).map fun first =>
    code - first

/-- The most digits a decimal integer may be written with. -/
def integerDigitLimit : Nat := 4300

/-- Read digits from the left onto a value.  An underscore may stand between two
digits, so it must be followed by one. -/
def readDigits (value count : Nat) : List Char → Option (Nat × Nat)
  | [] => some (value, count)
  | '_' :: char :: rest =>
      match digitValue? char with
      | some digit => readDigits (10 * value + digit) (count + 1) rest
      | none => none
  | char :: rest =>
      match digitValue? char with
      | some digit => readDigits (10 * value + digit) (count + 1) rest
      | none => none

/-- Read the digits of a natural number; at least one has to be there, and not
more than the limit. -/
def readNatural? : List Char → Option Nat
  | [] => none
  | char :: rest =>
      match digitValue? char with
      | none => none
      | some digit =>
          match readDigits digit 1 rest with
          | some (value, count) => if count ≤ integerDigitLimit then some value else none
          | none => none

/-- The blanks that may surround a number: the information separators of ASCII
are not among them. -/
def isNumberMargin (char : Char) : Bool :=
  isBlank char && !inRanges [(0x1C, 0x1F)] char.toNat

/-- Read a decimal integer. -/
def readInteger? (text : String) : Option Int :=
  match ((text.toList.dropWhile isNumberMargin).reverse.dropWhile isNumberMargin).reverse with
  | '-' :: digits => (readNatural? digits).map fun value => -(value : Int)
  | '+' :: digits => (readNatural? digits).map fun value => (value : Int)
  | digits => (readNatural? digits).map fun value => (value : Int)

end ApiScaffold.Text

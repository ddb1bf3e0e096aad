import ApiScaffold.Number.Binary64

/-!
# The shortest decimal that reads back

Many decimals round to the same binary number.  `Binary64.shortest` takes one
with the fewest digits; of two with equally many digits it takes the nearer one.

For one, two, … seventeen digits the two neighbours of the number on the grid of
decimals with that many digits are tried.  All comparisons are exact: the numbers
that round to `mantissa * 2 ^ exponent` form an interval, whose ends are counted
in quarters of `2 ^ exponent` and belong to it when the mantissa is even.
-/

namespace ApiScaffold

namespace Binary64

/-- The exponent of the power of ten at or below a positive ratio. -/
def floorLog10 (numerator denominator : Nat) : Int :=
  if denominator ≤ numerator then (decimalLength (numerator / denominator) : Int) - 1
  else
    let ceiling := (denominator + numerator - 1) / numerator
    Int.negOfNat (decimalLength (ceiling - 1))

/-- The ratio multiplied by a power of ten. -/
def scaleByTen (numerator denominator : Nat) (exponent : Int) : Nat × Nat :=
  if 0 ≤ exponent then (numerator * Nat.pow 10 exponent.toNat, denominator)
  else (numerator, denominator * Nat.pow 10 (-exponent).toNat)

/-- The decimal with the given number of digits that rounds to the number, if one
of the number's two neighbours on that grid does. -/
def decimalWith? (mantissa : Nat) (exponent : Int) (digits : Nat) : Option (Nat × Int) :=
  let quarter := scaleRatio 1 4 exponent
  let numerator := 4 * mantissa * quarter.1
  let denominator := quarter.2
  let scale : Int := (digits : Int) - 1 - floorLog10 numerator denominator
  let scaled := scaleByTen numerator denominator scale
  let unit := scaleByTen quarter.1 quarter.2 scale
  let below := scaled.1 / scaled.2
  let downward := if mantissa = Nat.pow 2 (precision - 1) ∧ minExponent < exponent then 1 else 2
  let lowest := (4 * mantissa - downward) * unit.1
  let highest := (4 * mantissa + 2) * unit.1
  let inside := fun candidate : Nat =>
    let position := candidate * unit.2
    if mantissa % 2 = 0 then decide (lowest ≤ position ∧ position ≤ highest)
    else decide (lowest < position ∧ position < highest)
  let twiceOver := 2 * (scaled.1 % scaled.2)
  match inside below, inside (below + 1) with
  | true, true =>
      if twiceOver < scaled.2 ∨ (twiceOver = scaled.2 ∧ below % 2 = 0) then some (below, -scale)
      else some (below + 1, -scale)
  | true, false => some (below, -scale)
  | false, true => some (below + 1, -scale)
  | false, false => none

/-- Try grids with more and more digits. -/
def searchShortest (mantissa : Nat) (exponent : Int) (digits : Nat) : Nat → Nat × Int
  | 0 => (0, 0)
  | tries + 1 =>
      match decimalWith? mantissa exponent digits with
      | some decimal => decimal
      | none => searchShortest mantissa exponent (digits + 1) tries

/-- The shortest decimal of a positive number, as digits and a power of ten. -/
def shortest (mantissa : Nat) (exponent : Int) : Nat × Int :=
  searchShortest mantissa exponent 1 17

/-- Where positional notation ends: the decimal point may stand at most this far
to the right of the first digit. -/
def widestPoint : Int := 16

/-- … and must stand to the right of this position. -/
def narrowestPoint : Int := -4

/-- The exponent part: a sign and at least two digits. -/
def exponentText (exponent : Int) : List Char :=
  let digits := Nat.toDigits 10 exponent.natAbs
  'e' :: (if exponent < 0 then '-' else '+') ::
    (if digits.length < 2 then '0' :: digits else digits)

/-- Write digits whose decimal point stands `point` places after the first one's
left edge. -/
def decimalText (digits : List Char) (point : Int) : List Char :=
  if narrowestPoint < point ∧ point ≤ widestPoint then
    if point ≤ 0 then '0' :: '.' :: List.replicate (-point).toNat '0' ++ digits
    else
      let whole := digits.take point.toNat
      let padding := List.replicate (point.toNat - whole.length) '0'
      let fraction := digits.drop point.toNat
      whole ++ padding ++ '.' :: (if fraction.isEmpty then ['0'] else fraction)
  else
    match digits with
    | [] => []
    | [digit] => digit :: exponentText (point - 1)
    | digit :: rest => digit :: '.' :: rest ++ exponentText (point - 1)

/-- Leave out the zeros at the end. -/
def stripZeros (digits : List Char) : List Char :=
  (digits.reverse.dropWhile fun digit => digit == '0').reverse

/-- The text of a number: the shortest decimal that reads back. -/
def text : Binary64 → String
  | .nan => "nan"
  | .infinite negative => if negative then "-inf" else "inf"
  | .finite negative mantissa exponent =>
      let body :=
        if mantissa = 0 then ['0', '.', '0']
        else
          let (value, power) := shortest mantissa exponent
          let digits := Nat.toDigits 10 value
          decimalText (stripZeros digits) ((digits.length : Int) + power)
      String.ofList (if negative then '-' :: body else body)

example : (ofDecimal false 1 (-5)).text = "1e-05" ∧ (ofDecimal false 310 (-2)).text = "3.1" := by
  decide +kernel

example : (ofDecimal true 0 0).text = "-0.0" ∧ (ofDecimal false 1 16).text = "1e+16" := by
  decide +kernel

end Binary64

end ApiScaffold

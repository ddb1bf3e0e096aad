/-!
# Binary floating-point numbers of 64 bits

A finite number is a signed mantissa times a power of two.  Every operation
computes the exact result first and rounds it once, to the nearest number, a tie
going to the even mantissa.  All arithmetic is done on natural numbers.
-/

namespace ApiScaffold

/-- A number of 64 bits, with both zeros, both infinities, and "not a number". -/
inductive Binary64 where
  /-- The number `± mantissa * 2 ^ exponent`. -/
  | finite (negative : Bool) (mantissa : Nat) (exponent : Int)
  /-- An infinity. -/
  | infinite (negative : Bool)
  /-- Not a number. -/
  | nan
  deriving DecidableEq, Repr, Inhabited

namespace Binary64

/-- The number of mantissa bits. -/
def precision : Nat := 53

/-- The exponent of the smallest numbers. -/
def minExponent : Int := -1074

/-- The exponent of the largest numbers. -/
def maxExponent : Int := 971

/-- Divide and round to the nearest integer, a tie going to the even one. -/
def divideToNearest (numerator denominator : Nat) : Nat :=
  let quotient := numerator / denominator
  let twice := 2 * (numerator % denominator)
  if twice < denominator then quotient
  else if denominator < twice then quotient + 1
  else quotient + quotient % 2

/-- The ratio multiplied by a power of two, as numerator and denominator. -/
def scaleRatio (numerator denominator : Nat) (exponent : Int) : Nat × Nat :=
  if 0 ≤ exponent then (numerator * Nat.pow 2 exponent.toNat, denominator)
  else (numerator, denominator * Nat.pow 2 (-exponent).toNat)

/-- The exponent of the power of two at or below a positive ratio. -/
def floorLog2 (numerator denominator : Nat) : Int :=
  let guess : Int := (numerator.log2 : Int) - (denominator.log2 : Int)
  let scaled := scaleRatio 1 1 guess
  if denominator * scaled.1 ≤ numerator * scaled.2 then guess else guess - 1

/-- The number nearest to a ratio. -/
def ofRatio (negative : Bool) (numerator denominator : Nat) : Binary64 :=
  if numerator = 0 ∨ denominator = 0 then .finite negative 0 minExponent
  else
    let exponent := max (floorLog2 numerator denominator - (precision - 1 : Nat)) minExponent
    let scaled := scaleRatio numerator denominator (-exponent)
    let mantissa := divideToNearest scaled.1 scaled.2
    let (mantissa, exponent) :=
      if mantissa = Nat.pow 2 precision then (Nat.pow 2 (precision - 1), exponent + 1)
      else (mantissa, exponent)
    if maxExponent < exponent then .infinite negative
    else .finite negative mantissa exponent

/-- The number of decimal digits of a natural number. -/
def decimalLength (value : Nat) : Nat :=
  (Nat.toDigits 10 value).length

/-- The number nearest to `± digits * 10 ^ exponent`.  Exponents far outside the
range of the type are decided without computing the power. -/
def ofDecimal (negative : Bool) (digits : Nat) (exponent : Int) : Binary64 :=
  let magnitude := (decimalLength digits : Int) + exponent
  if digits = 0 ∨ magnitude < -330 then .finite negative 0 minExponent
  else if 310 < magnitude then .infinite negative
  else if 0 ≤ exponent then ofRatio negative (digits * Nat.pow 10 exponent.toNat) 1
  else ofRatio negative digits (Nat.pow 10 (-exponent).toNat)

/-- The number nearest to a natural number. -/
def ofNat (value : Nat) : Binary64 :=
  ofRatio false value 1

/-- The sign and the absolute value of a finite number as a ratio. -/
def toRatio? : Binary64 → Option (Bool × Nat × Nat)
  | .finite negative mantissa exponent => some (negative, scaleRatio mantissa 1 exponent)
  | _ => none

/-- The integer that a number equals, if there is one. -/
def toInt? (number : Binary64) : Option Int :=
  match number.toRatio? with
  | some (negative, numerator, denominator) =>
      if numerator % denominator = 0 then
        let value : Int := (numerator / denominator : Nat)
        some (if negative then -value else value)
      else none
  | none => none

/-- Change the sign. -/
def neg : Binary64 → Binary64
  | .finite negative mantissa exponent => .finite (!negative) mantissa exponent
  | .infinite negative => .infinite (!negative)
  | .nan => .nan

/-- The number nearest to the product of two numbers.  An infinity times zero is not a
number. -/
def mul : Binary64 → Binary64 → Binary64
  | .nan, _ | _, .nan => .nan
  | .infinite negative, .infinite negative' => .infinite (negative != negative')
  | .infinite negative, .finite negative' mantissa _
  | .finite negative mantissa _, .infinite negative' =>
      if mantissa = 0 then .nan else .infinite (negative != negative')
  | .finite negative mantissa exponent, .finite negative' mantissa' exponent' =>
      let (numerator, denominator) := scaleRatio (mantissa * mantissa') 1 (exponent + exponent')
      ofRatio (negative != negative') numerator denominator

/-- The number nearest to the sum of two numbers.  Two different infinities have none. -/
def add : Binary64 → Binary64 → Binary64
  | .nan, _ | _, .nan => .nan
  | .infinite negative, .infinite negative' =>
      if negative = negative' then .infinite negative else .nan
  | .infinite negative, .finite _ _ _ | .finite _ _ _, .infinite negative => .infinite negative
  | .finite negative mantissa exponent, .finite negative' mantissa' exponent' =>
      let (numerator, denominator) := scaleRatio mantissa 1 exponent
      let (numerator', denominator') := scaleRatio mantissa' 1 exponent'
      let left : Int := (numerator * denominator' : Nat)
      let right : Int := (numerator' * denominator : Nat)
      let sum := (if negative then -left else left) + (if negative' then -right else right)
      ofRatio (decide (sum < 0) || (negative && negative')) sum.natAbs (denominator * denominator')

/-- Rounding to the nearest integer errs by at most one half. -/
theorem divideToNearest_spec (numerator : Nat) {denominator : Nat}
    (positive : 0 < denominator) :
    2 * numerator ≤ (2 * divideToNearest numerator denominator + 1) * denominator ∧
      2 * divideToNearest numerator denominator * denominator ≤
        2 * numerator + denominator := by
  have division := Nat.div_add_mod numerator denominator
  have small := Nat.mod_lt numerator positive
  have parity : numerator / denominator % 2 = 0 ∨ numerator / denominator % 2 = 1 := by omega
  unfold divideToNearest
  generalize numerator / denominator = quotient at *
  generalize numerator % denominator = remainder at *
  have expand : denominator * quotient = quotient * denominator := Nat.mul_comm _ _
  simp only
  split
  · constructor <;> grind
  · split
    · constructor <;> grind
    · rcases parity with even | odd
      · simp only [even]
        constructor <;> grind
      · simp only [odd]
        constructor <;> grind

end Binary64

end ApiScaffold

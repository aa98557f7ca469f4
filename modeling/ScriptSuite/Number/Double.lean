/-!
Non-negative binary64 numbers by their bits, with exact rounding. A finite double is `significand · 2 ^ exponent`;
`ofRatio` rounds a quotient of naturals to the nearest double, a tie going to the even significand.
-/
set_option autoImplicit false

namespace ScriptSuite.Number

structure Double where
  bits : UInt64
deriving DecidableEq, Repr, Inhabited

namespace Double

def zero : Double := ⟨0⟩

def infinity : Double := ⟨0x7FF0000000000000⟩

def isInfinite (value : Double) : Bool :=
  value == infinity

def biasedExponent (value : Double) : Nat :=
  value.bits.toNat / Nat.pow 2 52 % Nat.pow 2 11

def fraction (value : Double) : Nat :=
  value.bits.toNat % Nat.pow 2 52

def significand (value : Double) : Nat :=
  if value.biasedExponent = 0 then value.fraction else value.fraction + Nat.pow 2 52

def exponent (value : Double) : Int :=
  if value.biasedExponent = 0 then -1074 else (value.biasedExponent : Int) - 1075

def ratio (value : Double) : Nat × Nat :=
  if 0 ≤ value.exponent then (value.significand * Nat.pow 2 value.exponent.toNat, 1)
  else (value.significand, Nat.pow 2 (-value.exponent).toNat)

def divRoundEven (numerator denominator : Nat) : Nat :=
  let quotient := numerator / denominator
  let twice := 2 * (numerator % denominator)
  if twice < denominator then quotient
  else if denominator < twice then quotient + 1
  else if quotient % 2 = 0 then quotient
  else quotient + 1

def rescale (numerator denominator : Nat) (exponent : Int) : Nat × Nat :=
  if 0 ≤ exponent then (numerator, denominator * Nat.pow 2 exponent.toNat)
  else (numerator * Nat.pow 2 (-exponent).toNat, denominator)

def scaleOf (numerator denominator : Nat) : Int :=
  let guess : Int := (numerator.log2 : Int) - denominator.log2 - 52
  let scaled := rescale numerator denominator guess
  max (-1074) (if scaled.1 / scaled.2 < Nat.pow 2 52 then guess - 1 else guess)

-- The double nearest to a quotient; infinity from the halfway point above the largest finite double on.
def ofRatio (numerator denominator : Nat) : Double :=
  if numerator = 0 then zero
  else
    let scale := scaleOf numerator denominator
    let scaled := rescale numerator denominator scale
    let bits := (scale + 1074).toNat * Nat.pow 2 52 + divRoundEven scaled.1 scaled.2
    if bits < infinity.bits.toNat then ⟨UInt64.ofNat bits⟩ else infinity

def ofScientific (coefficient : Nat) (power : Int) : Double :=
  if coefficient = 0 then zero
  else if 310 < power then infinity
  else if power + (coefficient.log2 / 3 + 1 : Nat) < -330 then zero
  else if 0 ≤ power then ofRatio (coefficient * Nat.pow 10 power.toNat) 1
  else ofRatio coefficient (Nat.pow 10 (-power).toNat)

def pushDigit (radix : Nat) (value : Double) (digit : Nat) : Double :=
  if value.isInfinite then infinity
  else
    let (numerator, denominator) := value.ratio
    ofRatio (numerator * radix + digit * denominator) denominator

def ofDigits (radix : Nat) (digits : List Nat) : Double :=
  digits.foldl (pushDigit radix) zero

end Double

end ScriptSuite.Number

import ScriptSuite.Text.Letter
import ScriptSuite.Number.Double

set_option autoImplicit false

namespace ScriptSuite.Number

open Text

structure DecimalParts where
  whole : List Char
  fraction : List Char
  exponentSign : Int
  exponent : List Char
deriving DecidableEq, Repr

namespace DecimalParts

def coefficient (parts : DecimalParts) : Nat :=
  natOfDigits 10 (parts.whole ++ parts.fraction)

def power (parts : DecimalParts) : Int :=
  parts.exponentSign * natOfDigits 10 parts.exponent - parts.fraction.length

def value (parts : DecimalParts) : Double :=
  Double.ofScientific parts.coefficient parts.power

end DecimalParts

def readExponent? (text : List Char) : Option (Int × List Char) :=
  let (sign, digits) :=
    match text with
    | '+' :: rest => ((1 : Int), rest)
    | '-' :: rest => (-1, rest)
    | rest => (1, rest)
  if digits.isEmpty || !digits.all isAsciiDigit then none else some (sign, digits)

def DecimalParts.ofText? (text : List Char) : Option DecimalParts :=
  let (whole, afterWhole) := text.span isAsciiDigit
  let (fraction, rest) :=
    match afterWhole with
    | '.' :: tail => tail.span isAsciiDigit
    | tail => ([], tail)
  if whole.isEmpty && fraction.isEmpty then none
  else
    match rest with
    | [] => some ⟨whole, fraction, 1, []⟩
    | mark :: tail =>
        if mark = 'e' || mark = 'E' then
          (readExponent? tail).map fun (sign, digits) => ⟨whole, fraction, sign, digits⟩
        else none

def Double.ofText? (text : List Char) : Option Double :=
  (DecimalParts.ofText? text).map DecimalParts.value

structure Digits where
  coefficient : Nat
  power : Int
deriving DecidableEq, Repr

structure RoundingInterval where
  low : Nat
  mid : Nat
  high : Nat
  unit : Nat
  closed : Bool

def Double.interval (value : Double) : RoundingInterval :=
  let (numerator, denominator) := value.ratio
  let step := numerator / value.significand
  let below := if value.fraction = 0 && 1 < value.biasedExponent then step else 2 * step
  { low := 4 * numerator - below
    mid := 4 * numerator
    high := 4 * numerator + 2 * step
    unit := 4 * denominator
    closed := value.significand % 2 == 0 }

def RoundingInterval.contains (interval : RoundingInterval) (numerator denominator : Nat) : Bool :=
  let scaled := numerator * interval.unit
  let low := interval.low * denominator
  let high := interval.high * denominator
  if interval.closed then low ≤ scaled && scaled ≤ high else low < scaled && scaled < high

def RoundingInterval.onGrid? (interval : RoundingInterval) (power : Int) : Option Nat :=
  let (grid, parts) : Nat × Nat := if 0 ≤ power then (Nat.pow 10 power.toNat, 1) else (1, Nat.pow 10 (-power).toNat)
  let floor := interval.mid * parts / (interval.unit * grid)
  let remainder := interval.mid * parts % (interval.unit * grid)
  let lower := interval.contains (floor * grid) parts
  let upper := interval.contains ((floor + 1) * grid) parts
  if lower && (!upper || 2 * remainder < interval.unit * grid) then some floor
  else if upper then some (floor + 1)
  else none

def RoundingInterval.shortestFrom (interval : RoundingInterval) : Nat → Int → Digits
  | 0, power => ⟨interval.mid / interval.unit, power⟩
  | steps + 1, power =>
      match interval.onGrid? power with
      | some coefficient => ⟨coefficient, power⟩
      | none => interval.shortestFrom steps (power - 1)

-- The fewest digits that read back as the positive finite `value`: the coarsest decimal grid with a point that
-- rounds to it. The search starts above the leading digit, and 17 digits always suffice.
def Double.shortest (value : Double) : Digits :=
  let (numerator, denominator) := value.ratio
  let magnitude : Int := (((numerator.log2 : Int) - denominator.log2) * 30103).fdiv 100000
  value.interval.shortestFrom 24 (magnitude + 2)

def Digits.toText (digits : Digits) : String :=
  let text := (Nat.toDigits 10 digits.coefficient)
  if 0 ≤ digits.power then String.ofList (text ++ List.replicate digits.power.toNat '0')
  else
    let places := (-digits.power).toNat
    let padded := List.replicate (places + 1 - text.length) '0' ++ text
    let cut := padded.length - places
    String.ofList (padded.take cut ++ '.' :: padded.drop cut)

def Double.toText (value : Double) : String :=
  if value = Double.zero then "0"
  else if value.isInfinite then "inf"
  else value.shortest.toText

end ScriptSuite.Number

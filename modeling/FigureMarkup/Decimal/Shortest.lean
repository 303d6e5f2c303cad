import FigureMarkup.Decimal.Binary

/-!
# Shortest decimals

The decimal text of a double has the fewest digits that read back as the same double, and of
the decimals with so many digits it is the one nearest to the double. The search runs in exact
arithmetic: for one digit, two digits and so on it tries the two neighbours of the double among
the decimals with so many digits.
-/

namespace FigureMarkup.Decimal

/-- A positive decimal: a whole number times ten to an exponent. -/
structure Digits where
  value : Nat
  exponent : Int
deriving DecidableEq, Repr, Inhabited

inductive Tie where
  | toEven
  | away
deriving DecidableEq, Repr

/-- The number of decimal digits of a whole number. Zero has none. -/
def digitCount (n : Nat) : Nat := if n = 0 then 0 else (Nat.toDigits 10 n).length

/-- The number of digits before the point of a positive fraction. It is negative or zero where
the fraction is below one: there it counts the zeros between the point and the first digit. -/
def wholeDigits (numerator denominator : Nat) : Int :=
  if denominator ≤ numerator then
    digitCount (numerator / denominator)
  else
    1 - digitCount ((denominator + numerator - 1) / numerator - 1)

/-- The numbers that read back as one double: those between two ends, on a scale of quarter
units in the last place. The ends themselves belong to it if the significand is even. -/
structure RoundingInterval where
  low : Nat
  middle : Nat
  high : Nat
  /-- Whether the ends read back as the double. -/
  closed : Bool

/-- The interval of a significand. Below a power of two the neighbour is only half as far. -/
def RoundingInterval.of (significand : Nat) (exponent : Int) : RoundingInterval :=
  let nearBelow := significand == leadingBit && leastExponent < exponent
  ⟨4 * significand - (if nearBelow then 1 else 2), 4 * significand, 4 * significand + 2,
    significand % 2 == 0⟩

/-- Decide whether a decimal reads back as the double. The decimal is a multiple of `step`, and
the interval a multiple of `unit`. -/
def RoundingInterval.holds (interval : RoundingInterval) (unit step candidate : Nat) : Bool :=
  let scaled := candidate * step
  if interval.closed then
    interval.low * unit ≤ scaled && scaled ≤ interval.high * unit
  else
    interval.low * unit < scaled && scaled < interval.high * unit

/-- Choose between a decimal below the double and the next one, both of which read back. -/
def nearer (tie : Tie) (middle step below : Nat) : Nat :=
  let gapBelow := middle - below * step
  let gapAbove := (below + 1) * step - middle
  if gapBelow < gapAbove then below
  else if gapAbove < gapBelow then below + 1
  else match tie with
    | .toEven => if below % 2 = 0 then below else below + 1
    | .away => below + 1

/-- The best decimal with its last digit at a power of ten, if one there reads back. -/
def decimalAt? (tie : Tie) (significand : Nat) (exponent : Int) (place : Int) : Option Nat :=
  let interval := RoundingInterval.of significand exponent
  let unit := positivePower 2 (exponent - 2) * positivePower 10 (-place)
  let step := positivePower 2 (2 - exponent) * positivePower 10 place
  let middle := interval.middle * unit
  let below := middle / step
  match interval.holds unit step below, interval.holds unit step (below + 1) with
  | true, true => some (nearer tie middle step below)
  | true, false => some below
  | false, true => some (below + 1)
  | false, false => none

/-- Drop the zeros at the end of a decimal, as many as `places` at most. -/
def Digits.trimZeros : Nat → Digits → Digits
  | 0, digits => digits
  | places + 1, digits =>
      if digits.value % 10 = 0 then
        trimZeros places ⟨digits.value / 10, digits.exponent + 1⟩
      else
        digits

def mostDigits : Nat := 17

def shortest (tie : Tie) (significand : Nat) (exponent : Int) : Digits :=
  let whole := wholeDigits (significand * positivePower 2 exponent) (positivePower 2 (-exponent))
  let found := (List.range mostDigits).findSome? fun count =>
    let place := whole - (count + 1 : Nat)
    (decimalAt? tie significand exponent place).map fun value => Digits.mk value place
  Digits.trimZeros mostDigits (found.getD ⟨significand, exponent⟩)

end FigureMarkup.Decimal

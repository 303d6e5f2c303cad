import FigureMarkup.Decimal.Shortest

/-!
# Writing numbers

A style fixes how the shortest decimal of a double is laid out: where the notation without
exponent ends, how whole numbers end, and the words for what is no number. Next to it stands the
notation with a fixed number of places, which rounds the exact value.
-/

namespace FigureMarkup.Decimal

structure Style where
  /-- Which of two equally near decimals is written. -/
  tie : Tie
  /-- Decide from the power of ten of the first digit whether no exponent is written. -/
  isPositional : Int → Bool
  /-- What follows a whole number that is written without exponent. -/
  wholeEnding : String
  infinity : String
  nan : String

def digitText (n : Nat) : List Char := Nat.toDigits 10 n

/-- Write digits without exponent, the first of which stands `whole` places before the point. -/
def positional (style : Style) (digits : List Char) (whole : Int) : String :=
  if whole ≤ 0 then
    "0." ++ String.ofList (List.replicate (-whole).toNat '0' ++ digits)
  else if (digits.length : Int) ≤ whole then
    String.ofList (digits ++ List.replicate (whole.toNat - digits.length) '0') ++
      style.wholeEnding
  else
    String.ofList (digits.take whole.toNat) ++ "." ++ String.ofList (digits.drop whole.toNat)

/-- Write digits with the point after the first one and with an exponent. -/
def scientific (digits : List Char) (exponent : Int) : String :=
  let fraction := digits.drop 1
  String.ofList (digits.take 1) ++
    (if fraction.isEmpty then "" else "." ++ String.ofList fraction) ++
    (if exponent < 0 then "e-" else "e+") ++ toString exponent.natAbs

def Style.renderMagnitude (style : Style) : Magnitude → String
  | .nan => style.nan
  | .infinite => style.infinity
  | .finite significand exponent =>
      if significand = 0 then
        "0" ++ style.wholeEnding
      else
        let decimal := shortest style.tie significand exponent
        let digits := digitText decimal.value
        let whole := decimal.exponent + digits.length
        if style.isPositional (whole - 1) then positional style digits whole
        else scientific digits (whole - 1)

/-- Put a minus before the text of a number. What is no number has no sign. -/
def signed (x : Binary) (text : String) : String :=
  if x.negative && x.magnitude != .nan then "-" ++ text else text

/-- Write a double in a style. Zero keeps its sign. -/
def Style.render (style : Style) (x : Float) : String :=
  let x := Binary.ofFloat x
  signed x (style.renderMagnitude x.magnitude)

/-- Divide and round to the nearest whole number, a half to the even neighbour. -/
def roundDiv (numerator denominator : Nat) : Nat :=
  let quotient := numerator / denominator
  let twice := 2 * (numerator % denominator)
  if twice < denominator || (twice == denominator && quotient % 2 == 0) then quotient
  else quotient + 1

/-- Write a number without its sign, with a fixed number of places after the point. -/
def Style.fixedMagnitude (style : Style) (places : Nat) : Magnitude → String
  | .nan => style.nan
  | .infinite => style.infinity
  | .finite significand exponent =>
      let scaled := roundDiv (significand * positivePower 2 exponent * positivePower 10 places)
        (positivePower 2 (-exponent))
      let digits := digitText scaled
      let padded := List.replicate (places + 1 - digits.length) '0' ++ digits
      let whole := padded.length - places
      String.ofList (padded.take whole) ++
        (if places = 0 then "" else "." ++ String.ofList (padded.drop whole))

/-- Write a double with a fixed number of places after the point. A number that rounds to zero
keeps its sign. -/
def Style.fixed (style : Style) (places : Nat) (x : Float) : String :=
  let x := Binary.ofFloat x
  signed x (style.fixedMagnitude places x.magnitude)

end FigureMarkup.Decimal

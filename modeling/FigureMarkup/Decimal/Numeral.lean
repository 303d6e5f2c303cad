/-!
# Reading numbers

A numeral is what the text of a number says, before it is rounded to any kind of number: digits
with a power of ten, infinity, or no number.
-/

namespace FigureMarkup.Decimal

inductive Numeral where
  | nan
  | infinity (negative : Bool)
  /-- The digits, read as one whole number, times ten to the exponent. -/
  | finite (negative : Bool) (digits : Nat) (exponent : Int)
deriving DecidableEq, Repr

def digitsValue (digits : List Char) : Nat :=
  digits.foldl (fun value c => 10 * value + (c.toNat - '0'.toNat)) 0

/-- Take the sign off a text. It is a minus if the answer is `true`. -/
def takeSign : List Char → Bool × List Char
  | '-' :: rest => (true, rest)
  | '+' :: rest => (false, rest)
  | text => (false, text)

/-- Read an exponent, or nothing at the end of the text. -/
def readExponent? : List Char → Option Int
  | [] => some 0
  | c :: rest =>
      if c = 'e' || c = 'E' then
        let (negative, digits) := takeSign rest
        if !digits.isEmpty && digits.all Char.isDigit then
          some (if negative then -(digitsValue digits : Int) else digitsValue digits)
        else
          none
      else
        none

/-- Read digits with at most one point, and an exponent. -/
def readDecimal? (negative : Bool) (text : List Char) : Option Numeral :=
  let whole := text.takeWhile Char.isDigit
  let afterWhole := text.dropWhile Char.isDigit
  let (fraction, rest) :=
    match afterWhole with
    | '.' :: afterPoint => (afterPoint.takeWhile Char.isDigit, afterPoint.dropWhile Char.isDigit)
    | _ => ([], afterWhole)
  if whole.isEmpty && fraction.isEmpty then
    none
  else
    (readExponent? rest).map fun exponent =>
      .finite negative (digitsValue (whole ++ fraction)) (exponent - fraction.length)

/-- Read a number: an optional sign, and then digits with at most one point and an optional
exponent, or one of the words `inf`, `infinity` and `nan` in any case. Nothing may stand around
it. -/
def Numeral.read? (text : List Char) : Option Numeral :=
  let (negative, rest) := takeSign text
  let word := String.ofList (rest.map Char.toLower)
  if word = "inf" || word = "infinity" then some (.infinity negative)
  else if word = "nan" then some .nan
  else readDecimal? negative rest

/-- The double nearest to a numeral. Numerals far beyond the range of doubles go to infinity or
zero outright. -/
def Numeral.toFloat : Numeral → Float
  | .nan => 0.0 / 0.0
  | .infinity negative => if negative then -1.0 / 0.0 else 1.0 / 0.0
  | .finite negative digits exponent =>
      let leading := exponent + (Nat.toDigits 10 digits).length
      let size : Float :=
        if digits = 0 || leading < -400 then 0.0
        else if 400 < leading then 1.0 / 0.0
        else Float.ofScientific digits (exponent < 0) exponent.natAbs
      if negative then -size else size

end FigureMarkup.Decimal

import FigureMarkup.Decimal.Numeral

/-!
# Numbers of the plane

Coordinates are numbers of a type that the geometry leaves open. Doubles are the type that
programs use; the same definitions over an exact type say what the geometry means. Comparisons
follow the type, so that with doubles nothing compares with what is no number.
-/

namespace FigureMarkup

open Decimal

/-- A type of numbers for coordinates, lengths and angles. -/
class Scalar (α : Type) extends
    Add α, Sub α, Mul α, Div α, Neg α, LT α, LE α, BEq α, OfScientific α where
  decideLt : DecidableLT α
  decideLe : DecidableLE α
  abs : α → α
  sqrt : α → α
  sin : α → α
  cos : α → α
  /-- The polar angle of a point, in radians, from its second coordinate and its first. -/
  atan2 : α → α → α
  tau : α
  toDegrees : α → α
  /-- The number that a numeral says, if it is finite. -/
  ofNumeral? : Numeral → Option α

namespace Scalar

instance {α : Type} [Scalar α] : DecidableLT α := decideLt

instance {α : Type} [Scalar α] : DecidableLE α := decideLe

variable {α : Type} [Scalar α]

/-- The smaller of two numbers, or the first if neither is. What is no number gives way to the
other one. -/
def min (a b : α) : α := if b < a then b else if a == a then a else b

/-- The larger of two numbers, or the first if neither is. What is no number gives way to the
other one. -/
def max (a b : α) : α := if a < b then b else if a == a then a else b

/-- The number nearest to another one between two ends. What is no number stays so. -/
def clamp (x low high : α) : α :=
  let raised := if x < low then low else x
  if high < raised then high else raised

/-- Decide whether a number lies between two ends or is one of them. -/
def isBetween (low high x : α) : Bool := low ≤ x && x ≤ high

/-- Read a finite number. Nothing may stand around it. -/
def read? (text : List Char) : Option α := (Numeral.read? text).bind ofNumeral?

end Scalar

/-- The doubles, with the rounding that their operations have. -/
instance : Scalar Float where
  decideLt := inferInstance
  decideLe := inferInstance
  abs := Float.abs
  sqrt := Float.sqrt
  sin := Float.sin
  cos := Float.cos
  atan2 := Float.atan2
  tau := 6.283185307179586
  toDegrees radians := radians * 57.29577951308232
  ofNumeral? numeral :=
    let x := numeral.toFloat
    if x.isFinite then some x else none

end FigureMarkup

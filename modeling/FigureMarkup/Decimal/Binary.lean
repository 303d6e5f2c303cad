/-!
# Binary numbers

A double is a sign with a magnitude, and a finite magnitude is a natural number times a power of
two. Everything that is said about the decimal text of a double is said of this form, in exact
arithmetic.
-/

namespace FigureMarkup.Decimal

inductive Magnitude where
  | nan
  | infinite
  /-- The significand times two to the exponent. -/
  | finite (significand : Nat) (exponent : Int)
deriving DecidableEq, Repr

structure Binary where
  negative : Bool
  magnitude : Magnitude
deriving DecidableEq, Repr

def fractionBits : Nat := 52

def leadingBit : Nat := 1 <<< fractionBits

def leastExponent : Int := -1074

def Binary.ofBits (bits : Nat) : Binary :=
  let fraction := bits % leadingBit
  let biased : Nat := bits / leadingBit % 2048
  let negative := bits.testBit 63
  if biased = 2047 then
    ⟨negative, if fraction = 0 then .infinite else .nan⟩
  else if biased = 0 then
    ⟨negative, .finite fraction leastExponent⟩
  else
    ⟨negative, .finite (leadingBit + fraction) (leastExponent + (biased : Int) - 1)⟩

def Binary.ofFloat (x : Float) : Binary := .ofBits x.toBits.toNat

/-- Ten, or another base, to a power that counts only if it is positive. -/
def positivePower (base : Nat) (exponent : Int) : Nat := base.pow exponent.toNat

end FigureMarkup.Decimal

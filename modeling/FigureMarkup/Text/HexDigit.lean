/-!
# Digits to base sixteen

The digits beyond nine are letters. Both cases are read, and the lower one is written.
-/

namespace FigureMarkup.Text

/-- The value of a digit to base sixteen, in either case. -/
def hexValue? (c : Char) : Option Nat :=
  if c.isDigit then some (c.toNat - '0'.toNat)
  else if 'a' ≤ c && c ≤ 'f' then some (c.toNat - 'a'.toNat + 10)
  else if 'A' ≤ c && c ≤ 'F' then some (c.toNat - 'A'.toNat + 10)
  else none

/-- The last digit of a number to base sixteen, in lower case. -/
def hexDigit (n : Nat) : Char := Nat.digitChar (n % 16)

theorem hexValue?_hexDigit (n : Nat) : hexValue? (hexDigit n) = some (n % 16) := by
  have reads : ∀ digit < 16, hexValue? (Nat.digitChar digit) = some digit := by decide
  exact reads (n % 16) (Nat.mod_lt n (by decide))

end FigureMarkup.Text

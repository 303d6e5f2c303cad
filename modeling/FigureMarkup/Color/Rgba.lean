import FigureMarkup.Text.HexDigit

/-!
# Colors

A color is given by its red, green and blue channels and its opacity. It is written with one to
four pairs of digits to base sixteen, a pair for each channel in turn.
-/

namespace FigureMarkup

/-- A color. Each channel lies between zero and one. -/
structure Rgba where
  red : Float
  green : Float
  blue : Float
  alpha : Float
deriving Repr

namespace Rgba

open Text

/-- The value of a pair of digits. A plus sign may stand in place of the first one. -/
def pairValue? (first second : Char) : Option Nat :=
  if first = '+' then
    hexValue? second
  else
    match hexValue? first, hexValue? second with
    | some high, some low => some (16 * high + low)
    | _, _ => none

/-- The values of all pairs of a text, if it consists of pairs. -/
def pairValues? : List Char → Option (List Nat)
  | [] => some []
  | [_] => none
  | first :: second :: rest =>
      match pairValue? first second, pairValues? rest with
      | some value, some values => some (value :: values)
      | _, _ => none

def channel (byte : Nat) : Float := Float.ofNat byte / 255.0

/-- The color whose channels are given in turn. A missing channel is zero, and a missing opacity
is full. -/
def ofChannels (bytes : List Nat) : Rgba :=
  let part (i default : Nat) : Float := channel (bytes.getD i default)
  ⟨part 0 0, part 1 0, part 2 0, part 3 255⟩

/-- Read a color: one to four pairs of digits, perhaps after a number sign. -/
def read? (text : String) : Option Rgba :=
  let digits :=
    match text.toList with
    | '#' :: rest => rest
    | digits => digits
  match pairValues? digits with
  | some bytes => if 1 ≤ bytes.length && bytes.length ≤ 4 then some (ofChannels bytes) else none
  | none => none

end Rgba

end FigureMarkup

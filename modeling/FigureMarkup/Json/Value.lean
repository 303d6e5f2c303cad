import FigureMarkup.Decimal.Layout
import FigureMarkup.Text.HexDigit

/-!
# JSON values and their text

A JSON value is written either without any space or over several lines, in which members are
indented by two spaces. Numbers are doubles; one that is not finite is written as `null`.
-/

namespace FigureMarkup

open Decimal Text

/-- A JSON value. The members of an object stand in the order in which they are written. -/
inductive Json where
  | null
  | bool (value : Bool)
  | number (value : Float)
  | string (value : String)
  | array (items : List Json)
  | object (members : List (String × Json))

namespace Json

/-- Numbers carry a point or an exponent, and no exponent from a hundred-thousandth up to ten to
the sixteenth. -/
def numberStyle : Style where
  tie := .toEven
  isPositional power := -5 ≤ power && power < 16
  wholeEnding := ".0"
  infinity := "null"
  nan := "null"

/-- Write a number, or `null` if it is not finite. -/
def numberText (x : Float) : String := if x.isFinite then numberStyle.render x else "null"

/-- Write a character inside a string. The quote, the backslash and control characters are
escaped. -/
def escapeChar (c : Char) : List Char :=
  if c = '"' then ['\\', '"']
  else if c = '\\' then ['\\', '\\']
  else if c = '\x08' then ['\\', 'b']
  else if c = '\x0c' then ['\\', 'f']
  else if c = '\n' then ['\\', 'n']
  else if c = '\r' then ['\\', 'r']
  else if c = '\t' then ['\\', 't']
  else if c.toNat < 0x20 then ['\\', 'u', '0', '0', hexDigit (c.toNat / 16), hexDigit c.toNat]
  else [c]

def quote (text : String) : String :=
  String.ofList ('"' :: (text.toList.flatMap escapeChar ++ ['"']))

/-- Write parts between two brackets, parted by commas. -/
def enclose (opening : String) (parts : List String) (closing : String) : String :=
  opening ++ ",".intercalate parts ++ closing

mutual

def compact : Json → String
  | .null => "null"
  | .bool value => if value then "true" else "false"
  | .number value => numberText value
  | .string value => quote value
  | .array items => enclose "[" (compactItems items) "]"
  | .object members => enclose "\x7b" (compactMembers members) "\x7d"

def compactItems : List Json → List String
  | [] => []
  | item :: rest => item.compact :: compactItems rest

def compactMembers : List (String × Json) → List String
  | [] => []
  | (name, value) :: rest => (quote name ++ ":" ++ value.compact) :: compactMembers rest

end

def newLine (depth : Nat) : String := "\n" ++ String.ofList (List.replicate (2 * depth) ' ')

/-- Write parts on lines of their own between two brackets. Without parts the brackets stand
together. -/
def stack (depth : Nat) (opening : String) (parts : List String) (closing : String) : String :=
  if parts.isEmpty then
    opening ++ closing
  else
    opening ++ newLine (depth + 1) ++ ("," ++ newLine (depth + 1)).intercalate parts ++
      newLine depth ++ closing

mutual

/-- Write a value over several lines, the first of which is already indented. -/
def prettyAt (depth : Nat) : Json → String
  | .null => "null"
  | .bool value => if value then "true" else "false"
  | .number value => numberText value
  | .string value => quote value
  | .array items => stack depth "[" (prettyItems (depth + 1) items) "]"
  | .object members => stack depth "\x7b" (prettyMembers (depth + 1) members) "\x7d"

def prettyItems (depth : Nat) : List Json → List String
  | [] => []
  | item :: rest => item.prettyAt depth :: prettyItems depth rest

def prettyMembers (depth : Nat) : List (String × Json) → List String
  | [] => []
  | (name, value) :: rest =>
      (quote name ++ ": " ++ value.prettyAt depth) :: prettyMembers depth rest

end

def pretty (value : Json) : String := value.prettyAt 0

/-- The value that is missing, or the given one. -/
def ofOption {β : Type} (encode : β → Json) : Option β → Json
  | none => .null
  | some value => encode value

end Json

end FigureMarkup

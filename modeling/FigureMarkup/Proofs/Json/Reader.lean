import FigureMarkup.Decimal.Numeral
import FigureMarkup.Json.Value

/-!
# Reading JSON text

Any JSON text is read here, also what is never written: blanks between tokens, every escape of a
string, and surrogate pairs. Reading has two machines. The scanner takes one character after the
other and puts out tokens, and the reader takes one token after the other and keeps a stack of the
arrays and objects that are not closed yet. Nothing but JSON is accepted.
-/

namespace FigureMarkup.Json

open Decimal Text

/-! ## Scanning -/

inductive Token where
  | beginArray
  | endArray
  | beginObject
  | endObject
  | comma
  | colon
  /-- A literal name or a number. -/
  | word (text : List Char)
  /-- The characters that a string stands for. -/
  | string (text : List Char)
deriving DecidableEq, Repr

def mark? : Char → Option Token
  | '[' => some .beginArray
  | ']' => some .endArray
  | '\x7b' => some .beginObject
  | '\x7d' => some .endObject
  | ',' => some .comma
  | ':' => some .colon
  | _ => none

/-- Decide whether a character is part of a word. -/
def isPlain (c : Char) : Bool := c.isAlphanum || c == '-' || c == '+' || c == '.'

/-- Decide whether a character may stand between tokens. -/
def isGap (c : Char) : Bool := c == ' ' || c == '\n' || c == '\r' || c == '\t'

/-- The character that an escape stands for, if it is one letter or mark. -/
def unescape? : Char → Option Char
  | '"' => some '"'
  | '\\' => some '\\'
  | '/' => some '/'
  | 'b' => some '\x08'
  | 'f' => some '\x0c'
  | 'n' => some '\n'
  | 'r' => some '\r'
  | 't' => some '\t'
  | _ => none

/-- Where the scanner stands. Inside a string it knows the text so far, and the first half of a
surrogate pair if one came last. -/
inductive Scan where
  | between
  | word (text : List Char)
  | string (text : List Char) (half : Option Nat)
  /-- After a backslash. -/
  | escape (text : List Char) (half : Option Nat)
  /-- Inside an escape by number, of which some digits are still to come. -/
  | code (text : List Char) (half : Option Nat) (left : Nat) (value : Nat)
deriving DecidableEq, Repr

namespace Scan

/-- A character outside of words and strings. -/
def start? (c : Char) : Option (List Token × Scan) :=
  if c = '"' then some ([], .string [] none)
  else if isPlain c then some ([], .word [c])
  else if isGap c then some ([], .between)
  else (mark? c).map fun mark => ([mark], .between)

/-- Take up a code unit in a string. The halves of a surrogate pair only stand together. -/
def addUnit? (text : List Char) (half : Option Nat) (unit : Nat) : Option Scan :=
  let isFirst := 0xD800 ≤ unit && unit < 0xDC00
  let isSecond := 0xDC00 ≤ unit && unit < 0xE000
  match half with
  | none =>
      if isFirst then some (.string text (some unit))
      else if isSecond then none
      else some (.string (text ++ [Char.ofNat unit]) none)
  | some first =>
      if isSecond then
        let place := 0x10000 + 0x400 * (first - 0xD800) + (unit - 0xDC00)
        some (.string (text ++ [Char.ofNat place]) none)
      else
        none

/-- Take one character. -/
def next? : Scan → Char → Option (List Token × Scan)
  | .between, c => start? c
  | .word text, c =>
      if isPlain c then some ([], .word (text ++ [c]))
      else (start? c).map fun (tokens, state) => (.word text :: tokens, state)
  | .string text none, c =>
      if c = '"' then some ([.string text], .between)
      else if c = '\\' then some ([], .escape text none)
      else if c.toNat < 0x20 then none
      else some ([], .string (text ++ [c]) none)
  | .string text (some half), c => if c = '\\' then some ([], .escape text (some half)) else none
  | .escape text half, c =>
      if c = 'u' then some ([], .code text half 3 0)
      else if half.isSome then none
      else (unescape? c).map fun c => ([], .string (text ++ [c]) none)
  | .code text half left value, c => do
      let value := 16 * value + (← hexValue? c)
      match left with
      | 0 => (addUnit? text half value).map fun state => ([], state)
      | left + 1 => some ([], .code text half left value)

/-- The last token, where text may end. -/
def finish? : Scan → Option (List Token)
  | .between => some []
  | .word text => some [.word text]
  | _ => none

end Scan

/-- The tokens of text that goes on after what was scanned. -/
def scan? : Scan → List Char → Option (List Token)
  | state, [] => state.finish?
  | state, c :: rest =>
      (state.next? c).bind fun (tokens, state) =>
        (scan? state rest).map fun more => tokens ++ more

/-! ## Words -/

/-- Decide whether digits are a whole number: a zero alone, or digits that start with no zero. -/
def isWhole (digits : List Char) : Bool :=
  digits = ['0'] || (!digits.isEmpty && digits.head? != some '0')

/-- Decide whether text may follow a whole number: perhaps a point and digits, and perhaps an
exponent. -/
def isEnding : List Char → Bool
  | '.' :: rest =>
      !(rest.takeWhile Char.isDigit).isEmpty &&
        (readExponent? (rest.dropWhile Char.isDigit)).isSome
  | text => (readExponent? text).isSome

def isUnsigned (text : List Char) : Bool :=
  isWhole (text.takeWhile Char.isDigit) && isEnding (text.dropWhile Char.isDigit)

def withoutMinus : List Char → List Char
  | '-' :: rest => rest
  | text => text

def isNumber (text : List Char) : Bool := isUnsigned (withoutMinus text)

def readNumber? (text : List Char) : Option Float :=
  if isNumber text then (Numeral.read? text).map Numeral.toFloat else none

def readWord? (text : List Char) : Option Json :=
  if text = "null".toList then some .null
  else if text = "true".toList then some (.bool true)
  else if text = "false".toList then some (.bool false)
  else (readNumber? text).map .number

/-! ## Values -/

/-- An array or object that is not closed yet, with what it holds so far. -/
inductive Frame where
  | array (items : List Json)
  /-- The value of one more member, which already has its name, is still to come. -/
  | object (members : List (String × Json)) (name : String)

/-- Where the reader stands between two tokens. The frames are those around the place, the
innermost one first. -/
inductive Reading where
  | needsValue (frames : List Frame)
  /-- After the bracket that opens an array, which may close again. -/
  | opensArray (frames : List Frame)
  /-- After the brace that opens an object, which may close again. -/
  | opensObject (frames : List Frame)
  | needsName (members : List (String × Json)) (frames : List Frame)
  | needsColon (members : List (String × Json)) (name : String) (frames : List Frame)
  /-- After a value, which may belong to a frame. -/
  | after (value : Json) (frames : List Frame)

namespace Reading

def nextInValue? (frames : List Frame) : Token → Option Reading
  | .beginArray => some (.opensArray frames)
  | .beginObject => some (.opensObject frames)
  | .word text => (readWord? text).map fun value => .after value frames
  | .string text => some (.after (.string (String.ofList text)) frames)
  | _ => none

def nextInName? (members : List (String × Json)) (frames : List Frame) : Token → Option Reading
  | .string text => some (.needsColon members (String.ofList text) frames)
  | _ => none

def nextAfter? (value : Json) : List Frame → Token → Option Reading
  | .array items :: frames, .comma => some (.needsValue (.array (items ++ [value]) :: frames))
  | .array items :: frames, .endArray => some (.after (.array (items ++ [value])) frames)
  | .object members name :: frames, .comma =>
      some (.needsName (members ++ [(name, value)]) frames)
  | .object members name :: frames, .endObject =>
      some (.after (.object (members ++ [(name, value)])) frames)
  | _, _ => none

/-- Take one token. -/
def next? : Reading → Token → Option Reading
  | .needsValue frames, token => nextInValue? frames token
  | .opensArray frames, token =>
      if token = .endArray then some (.after (.array []) frames)
      else nextInValue? (.array [] :: frames) token
  | .opensObject frames, token =>
      if token = .endObject then some (.after (.object []) frames)
      else nextInName? [] frames token
  | .needsName members frames, token => nextInName? members frames token
  | .needsColon members name frames, token =>
      if token = .colon then some (.needsValue (.object members name :: frames)) else none
  | .after value frames, token => nextAfter? value frames token

/-- The value, where text may end. -/
def finish? : Reading → Option Json
  | .after value [] => some value
  | _ => none

/-- Go on through text that starts between two tokens. -/
def through (reading : Reading) (text : List Char) : Option Reading :=
  (scan? .between text).bind fun tokens => tokens.foldlM next? reading

end Reading

/-- Read JSON text. -/
def read? (text : String) : Option Json :=
  ((Reading.needsValue []).through text.toList).bind Reading.finish?

end FigureMarkup.Json

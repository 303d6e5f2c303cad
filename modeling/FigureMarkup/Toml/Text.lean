import FigureMarkup.Text.HexDigit
import FigureMarkup.Toml.Value

/-!
# Lexical parts of TOML

The parts that TOML values and keys consist of: blanks, line ends and comments, strings of all
four kinds, keys, numbers, and dates and times. Each reader takes the characters that follow and
gives what it read with what follows that, or nothing if the text is not TOML.
-/

namespace FigureMarkup.Toml

open Text

abbrev Reader (β : Type) := List Char → Option (β × List Char)

def isSpace (c : Char) : Bool := c = ' ' || c = '\t'

def skipSpace (text : List Char) : List Char := text.dropWhile isSpace

def lineEnd? : List Char → Option (List Char)
  | '\n' :: rest => some rest
  | '\r' :: '\n' :: rest => some rest
  | _ => none

/-- Decide whether a character is allowed in comments, and in strings apart from the signs that
matter there: every one but control characters, of which the tabulator is allowed. -/
def isPrintable (c : Char) : Bool := c = '\t' || (0x20 ≤ c.toNat && c.toNat ≠ 0x7F)

/-- Skip a comment, if one starts here, up to the end of its line. -/
def skipComment : List Char → List Char
  | '#' :: rest => rest.dropWhile isPrintable
  | text => text

/-- Skip what may stand after a complete line: blanks, a comment, and the line end. -/
def finishLine? (text : List Char) : Option (List Char) :=
  match skipComment (skipSpace text) with
  | [] => some []
  | rest => lineEnd? rest

/-- Skip blanks, line ends and comments, as many as the limit says. -/
def skipLines : Nat → List Char → List Char
  | 0, text => text
  | limit + 1, text =>
      let rest := skipSpace text
      match lineEnd? (skipComment rest) with
      | some next => skipLines limit next
      | none => rest

/-- Skip all blanks, line ends and comments within an array. -/
def skipGap (text : List Char) : List Char := skipLines (text.length + 1) text

/-- Read digits to some base, with single underscores between them. -/
def digitGroups (isDigit : Char → Bool) : Reader (List Char)
  | [] => none
  | c :: rest =>
      if isDigit c then go [c] rest else none
where
  go (digits : List Char) : List Char → Option (List Char × List Char)
    | '_' :: c :: rest => if isDigit c then go (c :: digits) rest else none
    | ['_'] => none
    | c :: rest => if isDigit c then go (c :: digits) rest else some (digits.reverse, c :: rest)
    | [] => some (digits.reverse, [])

/-! ## Strings -/

def escapedChar? : Char → Option Char
  | 'b' => some '\x08'
  | 't' => some '\t'
  | 'n' => some '\n'
  | 'f' => some '\x0c'
  | 'r' => some '\r'
  | '"' => some '"'
  | '\\' => some '\\'
  | _ => none

/-- Read a character by its code point, which has a fixed number of digits to base sixteen. -/
def codePoint (count : Nat) : Reader Char := fun text =>
  let digits := (text.take count).filterMap hexValue?
  let code := digits.foldl (fun code digit => 16 * code + digit) 0
  if digits.length = count && code.isValidChar then some (Char.ofNat code, text.drop count)
  else none

def escape : Reader Char
  | 'u' :: rest => codePoint 4 rest
  | 'U' :: rest => codePoint 8 rest
  | c :: rest => (escapedChar? c).map (·, rest)
  | [] => none

/-- Read the rest of a string in single quotation marks, in which nothing is escaped. -/
def literalRest (text : List Char) : Option (String × List Char) :=
  match text.span (fun c => isPrintable c && c != '\'') with
  | (content, '\'' :: rest) => some (String.ofList content, rest)
  | _ => none

/-- Read the rest of a string in double quotation marks, after some characters that stand last
first. The limit is the length of the text. -/
def basicRest : Nat → List Char → Reader String
  | 0, _, _ => none
  | limit + 1, content, text =>
      match text with
      | '"' :: rest => some (String.ofList content.reverse, rest)
      | '\\' :: rest =>
          (escape rest).bind fun (c, rest) => basicRest limit (c :: content) rest
      | c :: rest => if isPrintable c then basicRest limit (c :: content) rest else none
      | [] => none

def skipBlankLines : List Char → List Char
  | [] => []
  | '\r' :: '\n' :: rest => skipBlankLines rest
  | c :: rest => if isSpace c || c = '\n' then skipBlankLines rest else c :: rest

/-- Skip a backslash that ends a line, with all blanks and line ends after it. -/
def skipContinuation? (text : List Char) : Option (List Char) :=
  (lineEnd? (skipSpace text)).map skipBlankLines

/-- Read the rest of a string over several lines between tripled quotation marks. Up to two
marks before the closing ones belong to the string. -/
def multilineRest (mark : Char) (escapes : Bool) : Nat → List Char → Reader String
  | 0, _, _ => none
  | limit + 1, content, text =>
      match text with
      | [] => none
      | c :: rest =>
          if c = mark then
            let marks := (text.takeWhile (· = mark)).length
            if marks < 3 then
              multilineRest mark escapes limit (mark :: content) rest
            else
              let inner := Nat.min (marks - 3) 2
              some (String.ofList (content.reverse ++ List.replicate inner mark),
                text.drop (inner + 3))
          else if c = '\\' && escapes then
            match skipContinuation? rest with
            | some rest => multilineRest mark escapes limit content rest
            | none =>
                (escape rest).bind fun (c, rest) =>
                  multilineRest mark escapes limit (c :: content) rest
          else
            match lineEnd? text with
            | some rest => multilineRest mark escapes limit ('\n' :: content) rest
            | none =>
                if isPrintable c then multilineRest mark escapes limit (c :: content) rest
                else none

/-- Read the rest of a string over several lines. A line end right at its start is dropped. -/
def multiline (mark : Char) (escapes : Bool) : Reader String := fun text =>
  multilineRest mark escapes (text.length + 1) [] ((lineEnd? text).getD text)

def lineString : Reader String
  | '"' :: rest => basicRest (rest.length + 1) [] rest
  | '\'' :: rest => literalRest rest
  | _ => none

def string : Reader String
  | '"' :: '"' :: '"' :: rest => multiline '"' true rest
  | '\'' :: '\'' :: '\'' :: rest => multiline '\'' false rest
  | text => lineString text

/-! ## Keys -/

/-- Decide whether a character belongs to a key without quotation marks. -/
def isKeyChar (c : Char) : Bool := c.isAlphanum || c = '_' || c = '-'

def simpleKey : Reader String := fun text =>
  match text with
  | '"' :: _ | '\'' :: _ => lineString text
  | _ =>
      match text.span isKeyChar with
      | ([], _) => none
      | (key, rest) => some (String.ofList key, rest)

/-- Read keys that are parted by points, as many as the limit says at most. -/
def dottedKey : Nat → Reader (List String)
  | 0, _ => none
  | limit + 1, text =>
      (simpleKey (skipSpace text)).bind fun (key, rest) =>
        match skipSpace rest with
        | '.' :: rest => (dottedKey limit rest).map fun (keys, rest) => (key :: keys, rest)
        | rest => some ([key], rest)

def mostParts : Nat := 79

/-- Read a key with the blanks around it. There is always a last part. -/
def key : Reader (List String × String) := fun text =>
  (dottedKey mostParts text).bind fun (keys, rest) =>
    keys.getLast?.map fun last => ((keys.dropLast, last), rest)

/-! ## Numbers -/

def baseValue (base : Nat) (digits : List Char) : Nat :=
  digits.foldl (fun value c => base * value + (hexValue? c).getD 0) 0

def word? (value : Int) : Option Value :=
  if Int64.minValue.toInt ≤ value && value ≤ Int64.maxValue.toInt then some (.integer value)
  else none

/-- Read a whole number to a base other than ten, after the letter that names the base. -/
def basedInteger (base : Nat) (isDigit : Char → Bool) : Reader Value := fun text =>
  (digitGroups isDigit text).bind fun (digits, rest) =>
    (word? (baseValue base digits)).map (·, rest)

/-- Read the digits of a decimal number before the point, which start with a zero only if they
are one. -/
def wholePart : Reader (List Char)
  | '0' :: rest => some (['0'], rest)
  | text => digitGroups Char.isDigit text

/-- Read an exponent, if there is one, as text that a numeral may hold. -/
def exponentPart : Reader (List Char)
  | c :: rest =>
      if c = 'e' || c = 'E' then
        let (sign, rest) :=
          match rest with
          | '+' :: rest => (['+'], rest)
          | '-' :: rest => (['-'], rest)
          | _ => ([], rest)
        (digitGroups Char.isDigit rest).map fun (digits, rest) => ('e' :: sign ++ digits, rest)
      else
        some ([], c :: rest)
  | [] => some ([], [])

/-- Read a point and the digits after it, if there is one. -/
def fractionPart : Reader (List Char)
  | '.' :: rest =>
      (digitGroups Char.isDigit rest).map fun (digits, rest) => ('.' :: digits, rest)
  | text => some ([], text)

/-- Accept a numeral that does not exceed the range of doubles upwards. -/
def float? (text : List Char) : Option Value :=
  (Decimal.Numeral.read? text).bind fun numeral =>
    if numeral.toFloat == 1.0 / 0.0 then none else some (.float numeral)

def decimal (sign : List Char) : Reader Value
  | 'i' :: 'n' :: 'f' :: rest => some (.float (.infinity (sign == ['-'])), rest)
  | 'n' :: 'a' :: 'n' :: rest => some (.float .nan, rest)
  | text => do
      let (whole, afterWhole) ← wholePart text
      let (fraction, afterFraction) ← fractionPart afterWhole
      let (exponent, rest) ← exponentPart afterFraction
      if fraction.isEmpty && exponent.isEmpty then
        let size : Int := Decimal.digitsValue whole
        let value ← word? (if sign == ['-'] then -size else size)
        return (value, rest)
      else
        let value ← float? (sign ++ whole ++ fraction ++ exponent)
        return (value, rest)

def number : Reader Value
  | '+' :: rest => decimal ['+'] rest
  | '-' :: rest => decimal ['-'] rest
  | '0' :: 'x' :: rest => basedInteger 16 (fun c => (hexValue? c).isSome) rest
  | '0' :: 'o' :: rest => basedInteger 8 (fun c => '0' ≤ c && c ≤ '7') rest
  | '0' :: 'b' :: rest => basedInteger 2 (fun c => c = '0' || c = '1') rest
  | text => decimal [] text

/-! ## Dates and times -/

/-- Read a number with a fixed count of digits between two ends. -/
def fixedNumber (count low high : Nat) : Reader Nat := fun text =>
  let digits := text.take count
  let value := Decimal.digitsValue digits
  if digits.length = count && digits.all Char.isDigit && low ≤ value && value ≤ high then
    some (value, text.drop count)
  else
    none

def sign (expected : Char) : Reader Unit
  | c :: rest => if c = expected then some ((), rest) else none
  | [] => none

def daysIn (year month : Nat) : Nat :=
  if month = 2 then
    if year % 4 = 0 && (year % 100 ≠ 0 || year % 400 = 0) then 29 else 28
  else if month = 4 || month = 6 || month = 9 || month = 11 then 30
  else 31

def date : Reader Unit := fun text => do
  let (year, rest) ← fixedNumber 4 0 9999 text
  let ((), rest) ← sign '-' rest
  let (month, rest) ← fixedNumber 2 1 12 rest
  let ((), rest) ← sign '-' rest
  let (_, rest) ← fixedNumber 2 1 (daysIn year month) rest
  return ((), rest)

/-- Read a time of day, perhaps with fractions of its last second. -/
def time : Reader Unit := fun text => do
  let (_, rest) ← fixedNumber 2 0 23 text
  let ((), rest) ← sign ':' rest
  let (_, rest) ← fixedNumber 2 0 59 rest
  let ((), rest) ← sign ':' rest
  let (_, rest) ← fixedNumber 2 0 60 rest
  match rest with
  | '.' :: c :: rest =>
      if c.isDigit then return ((), rest.dropWhile Char.isDigit) else none
  | ['.'] => none
  | _ => return ((), rest)

/-- Read the distance of a clock from universal time, if it is given. -/
def offset : Reader Unit := fun text =>
  match text with
  | 'Z' :: rest | 'z' :: rest => some ((), rest)
  | '+' :: rest | '-' :: rest => do
      let (_, rest) ← fixedNumber 2 0 23 rest
      let ((), rest) ← sign ':' rest
      let (_, rest) ← fixedNumber 2 0 59 rest
      return ((), rest)
  | _ => some ((), text)

/-- Decide whether a text starts like a date or a time: with digits and the sign after them. -/
def startsMoment (text : List Char) : Bool :=
  let starts (count : Nat) (after : Char) : Bool :=
    (text.take count).all Char.isDigit && text[count]? == some after
  starts 4 '-' || starts 2 ':'

/-- Read a date and the time after it, if there is one. -/
def dateAndTime : Reader Unit := fun text => do
  let ((), rest) ← date text
  match rest with
  | c :: next =>
      if c = 'T' || c = 't' || c = ' ' then
        if (fixedNumber 2 0 23 next).isSome && next[2]? == some ':' then
          let ((), rest) ← time next
          offset rest
        else
          return ((), rest)
      else
        return ((), rest)
  | [] => return ((), [])

/-- Read a date, a time, or both. -/
def moment : Reader Value := fun text =>
  let read := if text[2]? == some ':' then time else dateAndTime
  (read text).map fun ((), rest) =>
    (.moment (String.ofList (text.take (text.length - rest.length))), rest)

end FigureMarkup.Toml

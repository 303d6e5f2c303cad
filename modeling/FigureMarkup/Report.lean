import FigureMarkup.Construction.Error
import FigureMarkup.Markup.Declaration
import FigureMarkup.Text.Blank

/-!
# Reports of errors

A report shows an error to readers at a terminal: the message, the line of the document on which
the error is, marks below the place of the error, and perhaps a note. Columns and offsets count
characters, which are bytes as long as documents consist of ASCII characters.
-/

namespace FigureMarkup.Report

open Construction Markup Text

/-! ## Lines of a document -/

def endsLine (c : Char) : Bool :=
  c == '\n' || c == '\r' || c == '\x0b' || c == '\x0c' || c.toNat == 0x85 || c.toNat == 0x2028 ||
    c.toNat == 0x2029

structure Line where
  number : Nat
  start : Nat
  text : List Char
deriving DecidableEq, Repr

/-- Cut a document into lines, collecting one in `text` with its last character first. A carriage
return and a line feed end a line together. The end of the document ends no further line. -/
def linesFrom (number start : Nat) (text : List Char) : List Char → List Line
  | [] => if text.isEmpty && number != 1 then [] else [⟨number, start, text.reverse⟩]
  | '\r' :: '\n' :: rest =>
      ⟨number, start, ('\n' :: '\r' :: text).reverse⟩ ::
        linesFrom (number + 1) (start + text.length + 2) [] rest
  | c :: rest =>
      if endsLine c then
        ⟨number, start, (c :: text).reverse⟩ ::
          linesFrom (number + 1) (start + text.length + 1) [] rest
      else
        linesFrom number start (c :: text) rest

def lineAt (source : String) (offset : Nat) : Line :=
  (((linesFrom 1 0 [] source.toList).takeWhile (·.start ≤ offset)).getLast?).getD ⟨1, 0, []⟩

/-! ## Colors of the terminal -/

def colored (color text : String) : String := "\x1b[" ++ color ++ "m" ++ text ++ "\x1b[0m"

def marked (text : String) : String := colored "31" text

def framed (text : String) : String := colored "38;5;246" text

def margin (text : String) : String := colored "38;5;240" text

def plain (text : String) : String := colored "38;5;249" text

def noted (text : String) : String := colored "38;5;115" text

/-! ## Parts of a report -/

def blanks (count : Nat) : String := String.ofList (List.replicate count ' ')

/-- The columns on one line from the first one of an error up to its end. -/
structure Columns where
  start : Nat
  stop : Nat

namespace Columns

def holds (columns : Columns) (k : Nat) : Bool := columns.start ≤ k && k < columns.stop

def middle (columns : Columns) : Nat := (columns.start + columns.stop) / 2

/-- Write the line of an error, with the error in its color. -/
def showText (columns : Columns) (text : List Char) : String :=
  "".intercalate ((trimRight text).mapIdx fun k c =>
    if columns.holds k then marked (String.singleton c) else plain (String.singleton c))

def mark (columns : Columns) (k : Nat) : String :=
  if columns.holds k then marked (if k = columns.middle then "┬" else "─")
  else if k = columns.middle then marked "│"
  else " "

def lead (columns : Columns) (k : Nat) : String :=
  if k < columns.middle then " " else marked (if k = columns.middle then "╰" else "─")

/-- Write one sign for each column up to the second one after the error. -/
def row (columns : Columns) (sign : Nat → String) : String :=
  "".intercalate ((List.range (columns.stop + 2)).map sign)

end Columns

def lines (filename message : String) (line : Line) (columns : Columns) (note : Option String) :
    List String :=
  let number := toString line.number
  let indent := blanks (number.length + 2)
  let side := " " ++ margin (blanks (number.length + 1) ++ "│") ++ " "
  let place := filename ++ ":" ++ number ++ ":" ++ toString (columns.start + 1)
  let noteLines :=
    match note with
    | none => []
    | some note => [side, side ++ noted "Note" ++ ": " ++ note]
  [marked "Error:" ++ " " ++ message,
    indent ++ framed "╭" ++ framed "─" ++ framed "[" ++ place ++ framed "]",
    indent ++ framed "│",
    " " ++ framed (number ++ " │") ++ " " ++ columns.showText line.text,
    side ++ columns.row columns.mark,
    side ++ columns.row columns.lead ++ " " ++ message] ++
    noteLines ++
    [framed (String.ofList (List.replicate (number.length + 2) '─') ++ "╯")]

/-- Report an error at a place in a document. A place that stops before it starts cannot be
shown. -/
def show? (source filename : String) (span : Span) (message : String) (note : Option String) :
    Option String :=
  if span.stop < span.start then
    none
  else
    let line := lineAt source span.start
    let columns : Columns := ⟨span.start - line.start, span.stop - line.start⟩
    some ("".intercalate ((lines filename message line columns note).map (· ++ "\n")))

def parseNote (error : ParseError) : Option String :=
  match error with
  | .brackets _ => some "write \\[ or \\] for a literal bracket"
  | .grammar _ =>
      if error.expected.isEmpty then none
      else some ("expected: " ++ ", ".intercalate error.expected)

def ofParseError? (source filename : String) (error : ParseError) : Option String :=
  show? source filename error.span error.message (parseNote error)

def ofError? (source filename : String) (error : Construction.Error) : Option String :=
  show? source filename error.span error.message (Construction.Error.advice error.fault)

end FigureMarkup.Report

import FigureMarkup.Text.Span

/-!
# Bracketed units of a document

A document is prose with units in square brackets. A backslash takes the meaning from the
character after it, so that an escaped bracket is prose; every other bracket must alternate
between opening a unit and closing it.
-/

namespace FigureMarkup.Markup

open Text

structure Bracketed where
  /-- The text between the brackets, with its escapes. -/
  content : String
  /-- The place of the whole unit, brackets included. -/
  span : Span
  line : Nat
deriving DecidableEq, Repr

/-- The byte offset in the document at which the content starts. -/
def Bracketed.contentOffset (bracketed : Bracketed) : Nat := bracketed.span.start + 1

inductive BracketFault where
  /-- A unit opens inside the unit that opened on the given line. -/
  | nested (openedOn : Nat)
  | unopened
  | unclosed
deriving DecidableEq, Repr

def BracketFault.message : BracketFault → String
  | .nested openedOn => "'[' inside the unit opened on line " ++ toString openedOn
  | .unopened => "']' without '['"
  | .unclosed => "'[' is never closed"

/-- A bracket without partner, and where it stands. -/
structure BracketError where
  fault : BracketFault
  span : Span
  line : Nat
deriving DecidableEq, Repr

def BracketError.at (fault : BracketFault) (place : Cursor) : BracketError :=
  ⟨fault, ⟨place.offset, place.offset + 1⟩, place.line⟩

structure Opening where
  place : Cursor
  /-- The content read so far, last character first. -/
  content : List Char

def Opening.push (opening : Opening) (c : Char) : Opening :=
  { opening with content := c :: opening.content }

def Opening.close (opening : Opening) (place : Cursor) : Bracketed :=
  ⟨String.ofList opening.content.reverse, ⟨opening.place.offset, place.offset + 1⟩,
    opening.place.line⟩

/-- Find the units in the rest of a document, given the unit that is open, if one is, and the
place reached. A backslash at the very end is prose. -/
def bracketedFrom (opening : Option Opening) (here : Cursor) :
    List Char → Except BracketError (List Bracketed)
  | [] =>
      match opening with
      | none => .ok []
      | some opening => .error (.at .unclosed opening.place)
  | '\\' :: c :: rest =>
      bracketedFrom (opening.map fun opening => (opening.push '\\').push c)
        ((here.past '\\').past c) rest
  | '[' :: rest =>
      match opening with
      | none => bracketedFrom (some ⟨here, []⟩) (here.past '[') rest
      | some opening => .error (.at (.nested opening.place.line) here)
  | ']' :: rest =>
      match opening with
      | none => .error (.at .unopened here)
      | some opening => (bracketedFrom none (here.past ']') rest).map (opening.close here :: ·)
  | c :: rest => bracketedFrom (opening.map (·.push c)) (here.past c) rest

/-- Find the bracketed units of a document in order, or the first bracket without partner. -/
def Bracketed.find (document : String) : Except BracketError (List Bracketed) :=
  bracketedFrom none .start document.toList

end FigureMarkup.Markup

import FigureMarkup.Markup.Bracketed
import FigureMarkup.Markup.Token
import FigureMarkup.Text.LowerCase

/-!
# Declarations

A unit declares something: it starts with a word, the kind of the declaration, and goes on with
items. An item is a keyword with its value, or a bare word or string. A bare item in the first
place is the name of the declaration, and later ones are flags. This module reads declarations
from units, and whole documents.
-/

namespace FigureMarkup.Markup

open Text

structure Declaration where
  kind : String
  name : Option String
  line : Nat
  span : Span
  /-- The value of each keyword, with the keyword in lower case. No keyword stands twice. -/
  arguments : List (String × String)
  /-- The bare items after the name, in order. -/
  flags : List String
deriving DecidableEq, Repr

namespace Declaration

def empty (kind : String) (line : Nat) (span : Span) : Declaration :=
  ⟨lower kind, none, line, span, [], []⟩

/-- Give a keyword a value. An earlier value of the keyword is forgotten. -/
def withArgument (declaration : Declaration) (key value : String) : Declaration :=
  let key := lower key
  { declaration with
    arguments := declaration.arguments.filter (·.1 != key) ++ [(key, value)] }

/-- The value of a keyword, which is written in lower case. -/
def argument? (declaration : Declaration) (key : String) : Option String :=
  declaration.arguments.lookup key

def withoutArgument (declaration : Declaration) (key : String) : Declaration :=
  { declaration with arguments := declaration.arguments.filter (·.1 != key) }

/-- Decide whether a flag was given, in any case of its ASCII letters. -/
def hasFlag (declaration : Declaration) (flag : String) : Bool :=
  declaration.flags.any (eqIgnoringAsciiCase · flag)

end Declaration

inductive Item where
  | keyword (key value : String)
  | bare (text : String)
deriving DecidableEq, Repr

/-- The ways in which the content of a unit can fail to be a declaration. -/
inductive SyntaxFault where
  | unrecognized (text : String)
  /-- A token stands where none of its kind may. After complete items the unit could also have
  ended. -/
  | unexpected (token : Token) (mayEnd : Bool)
  | unexpectedEnd
deriving DecidableEq, Repr

def SyntaxFault.message : SyntaxFault → String
  | .unrecognized text => "unrecognized input '" ++ text ++ "'"
  | .unexpected token _ => "unexpected " ++ token.describe
  | .unexpectedEnd => "unexpected end of markup"

def SyntaxFault.expected : SyntaxFault → List String
  | .unexpected _ true => ["end of markup"]
  | _ => []

/-- A fault in a unit, and where it is. -/
structure SyntaxError where
  fault : SyntaxFault
  span : Span
  line : Nat
deriving DecidableEq, Repr

inductive ParseError where
  | brackets (error : BracketError)
  | grammar (error : SyntaxError)
deriving DecidableEq, Repr

namespace ParseError

def span : ParseError → Span
  | .brackets error => error.span
  | .grammar error => error.span

def line : ParseError → Nat
  | .brackets error => error.line
  | .grammar error => error.line

def expected : ParseError → List String
  | .brackets _ => []
  | .grammar error => error.fault.expected

/-- Say what is wrong, and on which line. -/
def message : ParseError → String
  | .brackets error =>
      "mismatched brackets on line " ++ toString error.line ++ ": " ++ error.fault.message
  | .grammar error =>
      "syntax error on line " ++ toString error.line ++ ": " ++ error.fault.message

end ParseError

abbrev PlacedToken := Token × Span

/-- A token that cannot stand where it does, with its place, or the end of the content where a
token is missing. -/
abbrev Misplaced := SyntaxFault × Option Span

def items : List PlacedToken → Except Misplaced (List Item)
  | [] => .ok []
  | (.word key, _) :: (.equals, _) :: rest =>
      match rest with
      | [] => .error (.unexpectedEnd, none)
      | (.equals, span) :: _ => .error (.unexpected .equals false, some span)
      | (.word value, _) :: rest | (.quoted value, _) :: rest =>
          (items rest).map (.keyword key value :: ·)
  | (.word text, _) :: rest => (items rest).map (.bare text :: ·)
  | (.quoted text, _) :: rest => (items rest).map (.bare text :: ·)
  | (.equals, span) :: _ => .error (.unexpected .equals true, some span)

def kindAndItems : List PlacedToken → Except Misplaced (String × List Item)
  | [] => .error (.unexpectedEnd, none)
  | (.word kind, _) :: rest => (items rest).map (kind, ·)
  | (token, span) :: _ => .error (.unexpected token false, some span)

/-- The name that the first item gives, if it is bare. -/
def positionalName : List Item → Option String
  | .bare text :: _ => some text
  | _ => none

/-- The bare items after the first item. -/
def laterFlags (items : List Item) : List String :=
  items.tail.filterMap fun
    | .bare text => some text
    | .keyword _ _ => none

namespace Declaration

/-- Record what one item says, if it is a keyword. -/
def addKeyword (declaration : Declaration) : Item → Declaration
  | .keyword key value => declaration.withArgument key value
  | .bare _ => declaration

/-- Build a declaration from its kind and its items. The keyword `name` counts more than a name
in the first place, and does not remain among the arguments. -/
def ofItems (kind : String) (items : List Item) (line : Nat) (span : Span) : Declaration :=
  let spoken := items.foldl addKeyword (empty kind line span)
  { spoken.withoutArgument "name" with
    name := spoken.argument? "name" <|> positionalName items
    flags := laterFlags items }

/-- The place of a token that is missing at the end of content of some size. It starts where the
content ends and stops where the last token does, which is earlier if separators follow it. -/
def missingPlace (tokens : List PlacedToken) (size : Nat) : Span :=
  ⟨size, (tokens.getLast?.map (·.2.stop)).getD size⟩

/-- Read the declaration in a unit. Characters that form no token are all reported, and then
nothing else is; otherwise there is one error at most. -/
def ofBracketed (bracketed : Bracketed) : Except (List ParseError) Declaration :=
  let offset := bracketed.contentOffset
  let error (fault : SyntaxFault) (span : Span) : ParseError :=
    .grammar ⟨fault, span.shift offset, bracketed.line⟩
  let lexemes := lex bracketed.content
  let unrecognized := lexemes.filterMap fun lexeme =>
    match lexeme.token with
    | some _ => none
    | none => some (error (.unrecognized (String.ofList lexeme.text)) lexeme.span)
  if unrecognized.isEmpty then
    let tokens := lexemes.filterMap fun lexeme => lexeme.token.map (·, lexeme.span)
    match kindAndItems tokens with
    | .ok (kind, items) => .ok (ofItems kind items bracketed.line bracketed.span)
    | .error (fault, span) =>
        let missing := missingPlace tokens (byteLength bracketed.content.toList)
        .error [error fault (span.getD missing)]
  else
    .error unrecognized

/-- Read units one by one, in order. Reading goes on after an error, so that all errors are
reported together. -/
def ofUnits : List Bracketed → Except (List ParseError) (List Declaration)
  | [] => .ok []
  | bracketed :: rest =>
      match ofBracketed bracketed, ofUnits rest with
      | .ok declaration, .ok declarations => .ok (declaration :: declarations)
      | .ok _, .error errors => .error errors
      | .error errors, .ok _ => .error errors
      | .error errors, .error more => .error (errors ++ more)

/-- Read all declarations of a document, in order. -/
def parse (document : String) : Except (List ParseError) (List Declaration) :=
  match Bracketed.find document with
  | .error error => .error [.brackets error]
  | .ok units => ofUnits units

end Declaration

end FigureMarkup.Markup

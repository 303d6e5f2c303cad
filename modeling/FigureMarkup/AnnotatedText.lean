import FigureMarkup.Construction.Kind
import FigureMarkup.Markup.Declaration
import FigureMarkup.Text.Blank
import FigureMarkup.Text.Replace

/-!
# Annotated text

In the annotated text of a document, each unit gives way to a reference to the entity that it
declares, or to nothing. The prose between the units stays, without the backslashes before its
brackets, and the steps of the animation divide the text into numbered sections.
-/

namespace FigureMarkup.AnnotatedText

open Construction Markup Text

inductive Piece where
  | prose (text : List Char)
  | step
  | reference (target label : String)
deriving DecidableEq, Repr

/-! ## References -/

def polygonNoun : Nat → String
  | 3 => "Triangle"
  | 5 => "Pentagon"
  | 6 => "Hexagon"
  | 8 => "Octagon"
  | _ => "Polygon"

/-- The number of vertices that a declaration gives: points between commas, or the letters of the
name. -/
def vertexCount (declaration : Declaration) : Nat :=
  match declaration.argument? "points" with
  | some points => ((split ',' points.toList).filter fun point => !point.all isBlank).length
  | none => (declaration.name.getD "").length

def standardLabel (declaration : Declaration) : String :=
  let noun :=
    match DeclarationKind.ofName? declaration.kind with
    | some .polygon | some .triangle => polygonNoun (vertexCount declaration)
    | some .center => "point"
    | _ => declaration.kind
  noun ++ " " ++ declaration.name.getD ""

/-- The reference to what a declaration declares. Without the identifier of an entity it refers to
the kind and the name of the declaration. -/
def reference (declaration : Declaration) (target : Option String) : Piece :=
  .reference (target.getD (declaration.kind ++ "_" ++ declaration.name.getD ""))
    ((declaration.argument? "text").getD (standardLabel declaration))

def replacement (declaration : Declaration) (target : Option String) : Option Piece :=
  match DeclarationKind.ofName? declaration.kind with
  | some .loc | some .clear | some .definitions => none
  | some .step => some .step
  | _ => if declaration.hasFlag "hidden" then none else some (reference declaration target)

/-! ## Places -/

/-- Widen a span to its whole line with the line end, if nothing else but blanks stands on that
line. On the last line the line end before it is taken instead. -/
def ownLine? (source : List Char) (span : Span) : Option Span := do
  let before ← takeBytes span.start source
  let after ← dropBytes span.stop source
  let lead := (before.reverse.takeWhile (· != '\n'))
  let rest := after.takeWhile (· != '\n')
  if lead.all isBlank && rest.all isBlank then
    let lineStart := span.start - byteLength lead
    let lineEnd := span.stop + byteLength rest
    if lineEnd < byteLength source then return ⟨lineStart, lineEnd + 1⟩
    else return ⟨lineStart - 1, lineEnd⟩
  else
    return span

/-- The stretch of a document that gives way to what takes the place of a unit. A unit that places
a point takes its line along, as far as that is not taken already. -/
def vacated? (source : List Char) (cursor : Nat) (declaration : Declaration) : Option Span :=
  if DeclarationKind.ofName? declaration.kind = some .loc then
    (ownLine? source declaration.span).map fun span => ⟨max span.start cursor, span.stop⟩
  else
    some declaration.span

/-! ## Whole texts -/

/-- The parts of the annotated text after a place. A declaration whose unit starts before that
place or ends beyond the document is left out. There are no parts if a place lies within a
character. -/
def piecesFrom? (source : List Char) (cursor : Nat) :
    List Declaration → List (Option String) → Option (List Piece)
  | [], _ => (dropBytes cursor source).map fun rest => [.prose rest]
  | declaration :: declarations, targets =>
      let span := declaration.span
      if span.start < cursor || byteLength source < span.stop then
        piecesFrom? source cursor declarations targets.tail
      else do
        let span ← vacated? source cursor declaration
        let prose ← slice source ⟨cursor, span.start⟩
        let pieces ← piecesFrom? source span.stop declarations targets.tail
        return .prose prose :: ((replacement declaration targets.head?.join).toList ++ pieces)

def unescapeBrackets (text : List Char) : List Char :=
  replacePair '\\' ']' [']'] (replacePair '\\' '[' ['['] text)

/-- Write parts of the annotated text, in a section with some number. -/
def render (number : Nat) : List Piece → String
  | [] => ""
  | .prose text :: pieces => String.ofList (unescapeBrackets text) ++ render number pieces
  | .step :: pieces =>
      "</div><div id='step_" ++ toString (number + 1) ++ "'>" ++ render (number + 1) pieces
  | .reference target label :: pieces =>
      "<span name='text_" ++ escapeXml target ++ "' class='GeoElement'>" ++ escapeXml label ++
        "</span>" ++ render number pieces

/-- Annotate a document, given the identifiers of the entities that its declarations are about.
There is no annotated text if the place of a declaration lies within a character. -/
def annotate? (source : String) (declarations : List Declaration)
    (targets : List (Option String)) : Option String :=
  (piecesFrom? source.toList 0 declarations targets).map fun pieces =>
    "<div id='step_0'>" ++ render 0 pieces ++ "</div>"

end FigureMarkup.AnnotatedText

import FigureMarkup.Construction.Kind
import FigureMarkup.Figure.Entity
import FigureMarkup.Markup.Declaration

/-!
# Errors of construction

The reasons for which a declaration cannot be applied to a figure, and how they are told. An error
names the line of its declaration, and it may give advice.
-/

namespace FigureMarkup.Construction

open Figure Markup Text

inductive Malformation where
  | missingName
  | lineName (name : String)
  | lineHalfGiven
  | lineDegenerate
  | lineTaken (name : String)
  | triangleSize
  | polygonSize
  | polygonDegenerate
  | polygonTaken (name : String)
  | missingCircle
  | angleName (name : String)
  | angleHalfGiven
  | angleDegenerate
  | angleTaken (name : String)
  | noShape (reference : String) (kind : EntityKind)
deriving DecidableEq, Repr

def Malformation.message : Malformation → String
  | .missingName => "missing name"
  | .lineName name =>
      "a line joins exactly two points, '" ++ name ++ "' names " ++ toString name.length
  | .lineHalfGiven => "p1 and p2 must be given together"
  | .lineDegenerate => "a line needs two distinct endpoints"
  | .lineTaken name => "line " ++ name ++ " already joins other points"
  | .triangleSize => "a triangle has exactly three vertices"
  | .polygonSize => "a polygon needs at least three vertices"
  | .polygonDegenerate => "polygon vertices must be distinct"
  | .polygonTaken name => "polygon " ++ name ++ " already has other vertices"
  | .missingCircle => "missing circle=<name>"
  | .angleName name => "an angle is named by three points, got '" ++ name ++ "'"
  | .angleHalfGiven => "p1, p2 and p3 must be given together"
  | .angleDegenerate => "an angle needs three distinct points"
  | .angleTaken name => "angle " ++ name ++ " already has other points"
  | .noShape reference kind =>
      "'" ++ reference ++ "' is a " ++ kind.name ++
        ", points can only lie on lines, circles and polygons"

inductive Fault where
  | unknownKind
  | undefined (name : String)
  /-- A reference finds several entities, which are given by their identifiers. -/
  | ambiguous (name : String) (found : List String)
  | invalidNumber (field value : String)
  | invalidColor (value : String)
  | malformed (malformation : Malformation)
deriving DecidableEq, Repr

structure Error where
  fault : Fault
  /-- The kind of the declaration, as it was written, in lower case. -/
  kind : String
  line : Nat
  span : Span
deriving DecidableEq, Repr

namespace Error

def inDeclaration (fault : Fault) (declaration : Declaration) : Error :=
  ⟨fault, declaration.kind, declaration.line, declaration.span⟩

/-- Say what is wrong, and on which line. -/
def message (error : Error) : String :=
  let onLine := " on line " ++ toString error.line
  match error.fault with
  | .unknownKind => "unknown declaration type '" ++ error.kind ++ "'" ++ onLine
  | .undefined name => "undefined object '" ++ name ++ "'" ++ onLine
  | .ambiguous name found =>
      "ambiguous reference '" ++ name ++ "'" ++ onLine ++ ": matches " ++ ", ".intercalate found
  | .invalidNumber field value => "invalid " ++ field ++ " '" ++ value ++ "'" ++ onLine
  | .invalidColor value => "invalid color '" ++ value ++ "'" ++ onLine
  | .malformed malformation =>
      "malformed " ++ error.kind ++ " declaration" ++ onLine ++ ": " ++ malformation.message

/-- The reference that an identifier answers to: its kind, a space, and its name. -/
def qualified (id : String) : String :=
  match id.toList.span (· != '_') with
  | (kind, '_' :: name) => String.ofList (kind ++ ' ' :: name)
  | _ => id

/-- Say how the declaration can be mended, where that is known. -/
def advice : Fault → Option String
  | .unknownKind =>
      some ("known types: " ++ ", ".intercalate (DeclarationKind.all.map DeclarationKind.name))
  | .ambiguous name found =>
      some ("qualify the reference, e.g. \"" ++ ((found.head?.map qualified).getD name) ++ "\"")
  | _ => none

end Error

end FigureMarkup.Construction

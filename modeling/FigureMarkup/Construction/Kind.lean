import FigureMarkup.Text.LowerCase

/-!
# Kinds of declarations

Most declarations enter an entity in the figure. The others move a point, mark the steps of an
animation, or refer to the figure as a whole.
-/

namespace FigureMarkup.Construction

inductive DeclarationKind where
  | point
  | line
  | circle
  | polygon
  | triangle
  | center
  | angle
  | loc
  | step
  /-- The end of a step after which nothing is shown. -/
  | clear
  | definitions
deriving DecidableEq, Repr

namespace DeclarationKind

/-- All kinds, in the order in which they are listed to readers. -/
def all : List DeclarationKind :=
  [.point, .line, .circle, .polygon, .triangle, .center, .angle, .loc, .step, .clear,
    .definitions]

def name : DeclarationKind → String
  | .point => "point"
  | .line => "line"
  | .circle => "circle"
  | .polygon => "polygon"
  | .triangle => "triangle"
  | .center => "center"
  | .angle => "angle"
  | .loc => "loc"
  | .step => "step"
  | .clear => "clear"
  | .definitions => "definitions"

/-- The kind that a word means, in any case of its ASCII letters. -/
def ofName? (word : String) : Option DeclarationKind :=
  all.find? (·.name == Text.lowerAscii word)

end DeclarationKind

end FigureMarkup.Construction

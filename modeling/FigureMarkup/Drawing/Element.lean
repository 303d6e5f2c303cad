import FigureMarkup.Decimal.Layout
import FigureMarkup.Drawing.Settings
import FigureMarkup.Plane.Vec
import FigureMarkup.Text.Replace

/-!
# Drawings and their text

A drawing consists of elements, which are drawn one over another, and of styles for their classes.
It is written as an SVG document. Places have two digits after the point; all other numbers have
the digits they need.
-/

namespace FigureMarkup.Drawing

open Decimal Plane Text

inductive Element (α : Type) where
  | line (id : Option String) (a b : Vec α) (color : String)
  | circle (id : Option String) (center : Vec α) (radius : α) (color : String)
  | polygon (id : Option String) (vertices : List (Vec α)) (color : String)
  /-- A counter-clockwise arc between two points, which may be the large one. -/
  | arc (id : Option String) (start stop : Vec α) (radius : α) (large : Bool) (color : String)
  | point (id : Option String) (position : Vec α) (color : String)
  | label (text : String) (position : Vec α)

/-- The identifier of an element, if it has one. -/
def Element.id? {α : Type} : Element α → Option String
  | .line id _ _ _ => id
  | .circle id _ _ _ => id
  | .polygon id _ _ => id
  | .arc id _ _ _ _ _ => id
  | .point id _ _ => id
  | .label _ _ => none

/-- Numbers have neither an exponent nor a point without digits after it. -/
def numberStyle : Style where
  tie := .away
  isPositional _ := true
  wholeEnding := ""
  infinity := "inf"
  nan := "NaN"

def number (x : Float) : String := numberStyle.render x

def coordinate (x : Float) : String := numberStyle.fixed 2 x

def attr (name value : String) : String := " " ++ name ++ "=\"" ++ value ++ "\""

/-- Write the identifier of an element, if it has one. -/
def idAttribute : Option String → String
  | none => ""
  | some id => attr "id" (escapeXml id)

def pointAttributes (xName yName : String) (p : Vec Float) : String :=
  attr xName (coordinate p.x) ++ attr yName (coordinate p.y)

def emptyElement (name : String) (attributes : List String) : String :=
  "<" ++ name ++ "".intercalate attributes ++ "/>"

def vertex (p : Vec Float) : String := coordinate p.x ++ "," ++ coordinate p.y

/-- Write the path of a counter-clockwise arc. As the second axis points downwards, its sweep is
the negative one. -/
def arcPath (start stop : Vec Float) (radius : Float) (large : Bool) : String :=
  " ".intercalate
    ["M" ++ coordinate start.x, coordinate start.y, "A" ++ coordinate radius, coordinate radius,
      "0", if large then "1" else "0", "0", coordinate stop.x, coordinate stop.y]

namespace Settings

def shapeClass (settings : Settings Float) (name : String) : String :=
  attr "class" (settings.classStem ++ "shape " ++ settings.classStem ++ name)

def plainClass (settings : Settings Float) (name : String) : String :=
  attr "class" (settings.classStem ++ name)

def stroke (settings : Settings Float) (color : String) : String :=
  attr "stroke" color ++ attr "stroke-width" (number settings.strokeWidth)

def lineEnd (settings : Settings Float) : String := if settings.pretty then "\n" else ""

def indentation (settings : Settings Float) : String := if settings.pretty then "  " else ""

end Settings

def Element.render (settings : Settings Float) : Element Float → String
  | .line id a b color =>
      emptyElement "line" [idAttribute id, settings.shapeClass "line",
        pointAttributes "x1" "y1" a, pointAttributes "x2" "y2" b, settings.stroke color]
  | .circle id center radius color =>
      emptyElement "circle" [idAttribute id, settings.shapeClass "circle",
        pointAttributes "cx" "cy" center, attr "r" (coordinate radius),
        settings.stroke color]
  | .polygon id vertices color =>
      emptyElement "polygon" [idAttribute id, settings.shapeClass "polygon",
        attr "points" (" ".intercalate (vertices.map vertex)), attr "fill" color,
        settings.stroke color]
  | .arc id start stop radius large color =>
      emptyElement "path" [idAttribute id, settings.shapeClass "angle",
        attr "d" (arcPath start stop radius large), settings.stroke color]
  | .point id position color =>
      emptyElement "circle" [idAttribute id, settings.plainClass "point",
        pointAttributes "cx" "cy" position, attr "r" (number settings.pointRadius),
        attr "fill" color]
  | .label text position =>
      "<text" ++ settings.plainClass "label" ++ pointAttributes "x" "y" position ++ ">" ++
        escapeXml text ++ "</text>"

def standardStyle (classStem : String) : String :=
  let rule (name body : String) : String := "." ++ classStem ++ name ++ " \x7b " ++ body ++ " \x7d"
  " ".intercalate
    [rule "shape" "fill: none;", rule "polygon" "fill-opacity: 0.15;",
      rule "point" "stroke: #333; stroke-width: 1;",
      rule "label" "font: 12px sans-serif; fill: #333;"]

end FigureMarkup.Drawing

namespace FigureMarkup

open Drawing

structure Drawing (α : Type) where
  settings : Drawing.Settings α
  styles : List String
  /-- The elements, from the lowest to the topmost. -/
  elements : List (Drawing.Element α)

namespace Drawing

/-- Write the style rules of a drawing, if it has any. -/
def renderStyles (drawing : Drawing Float) : String :=
  let lineEnd := drawing.settings.lineEnd
  if drawing.styles.isEmpty then
    ""
  else
    "  <style>" ++ lineEnd ++ "".intercalate (drawing.styles.map ("    " ++ · ++ lineEnd)) ++
      "  </style>" ++ lineEnd

def render (drawing : Drawing Float) : String :=
  let settings := drawing.settings
  let extent := number settings.extent
  let lines := drawing.elements.map fun element =>
    settings.indentation ++ element.render settings ++ settings.lineEnd
  "<svg" ++ attr "xmlns" "http://www.w3.org/2000/svg" ++
    attr "viewBox" ("0 0 " ++ extent ++ " " ++ extent) ++ attr "width" extent ++
    attr "height" extent ++ ">" ++ settings.lineEnd ++ drawing.renderStyles ++
    "".intercalate lines ++ "</svg>"

end Drawing

end FigureMarkup

import FigureMarkup.Color.Rgba
import FigureMarkup.Plane.Shape
import FigureMarkup.Text.LowerCase

/-!
# Entities of a figure

A figure consists of points, lines, circles, polygons and angles. Only points have coordinates;
all other entities refer to their points by number, and a reference that is still open is `none`.
-/

namespace FigureMarkup.Figure

open Plane

inductive EntityKind where
  | point
  | line
  | circle
  | polygon
  | angle
deriving DecidableEq, Repr

namespace EntityKind

/-- All kinds, in the order in which entities are listed. -/
def all : List EntityKind := [.point, .line, .circle, .polygon, .angle]

def name : EntityKind → String
  | .point => "point"
  | .line => "line"
  | .circle => "circle"
  | .polygon => "polygon"
  | .angle => "angle"

def title : EntityKind → String
  | .point => "Point"
  | .line => "Line"
  | .circle => "Circle"
  | .polygon => "Polygon"
  | .angle => "Angle"

/-- The kind that a word means, in any case of its ASCII letters. A triangle is a polygon. -/
def ofName? (word : String) : Option EntityKind :=
  let word := Text.lowerAscii word
  if word = "point" then some .point
  else if word = "line" then some .line
  else if word = "circle" then some .circle
  else if word = "polygon" || word = "triangle" then some .polygon
  else if word = "angle" then some .angle
  else none

end EntityKind

structure PointId where
  index : Nat
deriving DecidableEq, Repr

structure LineId where
  index : Nat
deriving DecidableEq, Repr

structure CircleId where
  index : Nat
deriving DecidableEq, Repr

structure PolygonId where
  index : Nat
deriving DecidableEq, Repr

structure AngleId where
  index : Nat
deriving DecidableEq, Repr

inductive ShapeRef where
  | line (id : LineId)
  | circle (id : CircleId)
  | polygon (id : PolygonId)
deriving DecidableEq, Repr

namespace ShapeRef

def isLine : ShapeRef → Bool
  | .line _ => true
  | _ => false

def isCircle : ShapeRef → Bool
  | .circle _ => true
  | _ => false

end ShapeRef

inductive EntityRef where
  | point (id : PointId)
  | line (id : LineId)
  | circle (id : CircleId)
  | polygon (id : PolygonId)
  | angle (id : AngleId)
deriving DecidableEq, Repr

def ShapeRef.entity : ShapeRef → EntityRef
  | .line id => .line id
  | .circle id => .circle id
  | .polygon id => .polygon id

namespace EntityRef

def ofIndex : EntityKind → Nat → EntityRef
  | .point, i => .point ⟨i⟩
  | .line, i => .line ⟨i⟩
  | .circle, i => .circle ⟨i⟩
  | .polygon, i => .polygon ⟨i⟩
  | .angle, i => .angle ⟨i⟩

def kind : EntityRef → EntityKind
  | .point _ => .point
  | .line _ => .line
  | .circle _ => .circle
  | .polygon _ => .polygon
  | .angle _ => .angle

def index : EntityRef → Nat
  | .point id => id.index
  | .line id => id.index
  | .circle id => id.index
  | .polygon id => id.index
  | .angle id => id.index

/-- The shape that an entity is, unless it is a point or an angle. -/
def shape? : EntityRef → Option ShapeRef
  | .line id => some (.line id)
  | .circle id => some (.circle id)
  | .polygon id => some (.polygon id)
  | .point _ | .angle _ => none

@[simp]
theorem ofIndex_kind_index (entity : EntityRef) : ofIndex entity.kind entity.index = entity := by
  cases entity <;> rfl

@[simp]
theorem kind_ofIndex (kind : EntityKind) (i : Nat) : (ofIndex kind i).kind = kind := by
  cases kind <;> rfl

@[simp]
theorem index_ofIndex (kind : EntityKind) (i : Nat) : (ofIndex kind i).index = i := by
  cases kind <;> rfl

@[simp]
theorem shape?_entity (shape : ShapeRef) : shape.entity.shape? = some shape := by
  cases shape <;> rfl

end EntityRef

/-- A point, which has no coordinates until it is placed. -/
structure Point (α : Type) where
  name : String
  x : Option α
  y : Option α
  /-- The shapes that the point must lie on. -/
  constraints : List ShapeRef
  /-- Those constraints that were asked for and do not just follow from a shape. -/
  liesOn : List ShapeRef
  /-- Whether the point may be placed anywhere. -/
  random : Bool
  color : Rgba

namespace Point

variable {α : Type}

def new (name : String) (color : Rgba) : Point α := ⟨name, none, none, [], [], false, color⟩

/-- The place of a point, if both coordinates are known. -/
def position (point : Point α) : Option (Vec α) :=
  match point.x, point.y with
  | some x, some y => some ⟨x, y⟩
  | _, _ => none

def isPlaced (point : Point α) : Bool := point.position.isSome

def place (point : Point α) (position : Vec α) : Point α :=
  { point with x := some position.x, y := some position.y }

/-- Add a shape at the end of a list that does not hold it yet. -/
def addShape (shapes : List ShapeRef) (shape : ShapeRef) : List ShapeRef :=
  if shapes.contains shape then shapes else shapes ++ [shape]

/-- Let a point lie on a shape, as the shape demands. -/
def addConstraint (shape : ShapeRef) (point : Point α) : Point α :=
  { point with constraints := addShape point.constraints shape }

/-- Let a point lie on a shape, as was asked for. -/
def addLiesOn (shape : ShapeRef) (point : Point α) : Point α :=
  { point.addConstraint shape with liesOn := addShape point.liesOn shape }

end Point

/-- Decide whether two lists have the same members, in any order and number. -/
def sameMembers {β : Type} [BEq β] (first second : List β) : Bool :=
  first.all second.contains && second.all first.contains

/-- A line, which is the segment between two points. -/
structure Line where
  name : String
  p1 : Option PointId
  p2 : Option PointId
  color : Rgba

namespace Line

def new (name : String) (color : Rgba) : Line := ⟨name, none, none, color⟩

/-- Both endpoints, once they are known. -/
def endpoints? (line : Line) : Option (PointId × PointId) :=
  match line.p1, line.p2 with
  | some a, some b => some (a, b)
  | _, _ => none

def endpoints (line : Line) : List PointId := line.p1.toList ++ line.p2.toList

/-- Decide whether a line joins two points, in either order. -/
def joins (line : Line) (a b : Option PointId) : Bool :=
  (line.p1 == a && line.p2 == b) || (line.p1 == b && line.p2 == a)

def sameAs (first second : Line) : Bool := first.joins second.p1 second.p2

end Line

/-- A radius, given as a number or as the distance between two points. -/
inductive Radius (α : Type) where
  | literal (value : α)
  | between (a b : PointId)

/-- A circle, given by its center and radius or by three points of its boundary. -/
structure Circle (α : Type) where
  name : String
  p1 : Option PointId
  p2 : Option PointId
  p3 : Option PointId
  center : Option PointId
  radius : Option (Radius α)
  color : Rgba

namespace Circle

variable {α : Type}

def new (name : String) (color : Rgba) : Circle α := ⟨name, none, none, none, none, none, color⟩

def boundary (circle : Circle α) : List PointId :=
  circle.p1.toList ++ circle.p2.toList ++ circle.p3.toList

def sameAs (first second : Circle α) : Bool :=
  sameMembers [first.p1, first.p2, first.p3] [second.p1, second.p2, second.p3]

end Circle

/-- A polygon, closed by an edge from its last vertex to its first. -/
structure Polygon where
  name : String
  /-- The vertices, in the order in which they are joined. -/
  vertices : List PointId
  /-- What the polygon is called in place of its name. -/
  label : Option String
  color : Rgba

namespace Polygon

def new (name : String) (color : Rgba) : Polygon := ⟨name, [], none, color⟩

/-- Decide whether two polygons have the same vertices, in any order. -/
def sameAs (first second : Polygon) : Bool := sameMembers first.vertices second.vertices

end Polygon

/-- An angle between the rays from its vertex through two points. -/
structure Angle (α : Type) where
  name : String
  /-- The point on the arm where the sweep starts. -/
  p1 : Option PointId
  vertex : Option PointId
  /-- The point on the arm where the sweep ends. -/
  p3 : Option PointId
  /-- Whether the angle is the one beyond half a turn. -/
  big : Bool
  /-- The counter-clockwise sweep in degrees, once it is measured. -/
  degrees : Option α
  /-- The places of start, vertex and end when the sweep was measured. -/
  measured : Option (Vec α × Vec α × Vec α)
  color : Rgba

namespace Angle

variable {α : Type}

def new (name : String) (color : Rgba) : Angle α :=
  ⟨name, none, none, none, false, none, none, color⟩

/-- Decide whether two angles have the same vertex and the same arms, in either order. -/
def sameAs (first second : Angle α) : Bool :=
  first.vertex == second.vertex && sameMembers [first.p1, first.p3] [second.p1, second.p3]

end Angle

end FigureMarkup.Figure

import FigureMarkup.Figure.Registry

/-!
# Measuring a figure

Once the points of an entity are placed, it has a length, a radius, a shape or a sweep. Until then
there is nothing to measure.
-/

namespace FigureMarkup.Figure

open Plane

variable {α : Type} [Scalar α]

namespace Registry

def distance? (registry : Registry α) (a b : PointId) : Option α := do
  let a ← registry.position a
  let b ← registry.position b
  return a.distance b

def length? (registry : Registry α) (line : Line) : Option α := do
  let (a, b) ← line.endpoints?
  registry.distance? a b

def radius? (registry : Registry α) : Radius α → Option α
  | .literal value => some value
  | .between a b => registry.distance? a b

/-- The radius of a circle: the one it was given, or the distance of its center from the first of
its boundary points that is placed. -/
def circleRadius? (registry : Registry α) (circle : Circle α) : Option α :=
  match circle.radius.bind registry.radius? with
  | some radius => some radius
  | none => do
      let center ← circle.center.bind registry.position
      let boundary ← circle.boundary.findSome? registry.position
      return center.distance boundary

def lineShape? (registry : Registry α) (line : Line) : Option (Shape α) := do
  let (a, b) ← line.endpoints?
  let a ← registry.position a
  let b ← registry.position b
  return .segment a b

/-- The shape of a circle: about its center if it has one, or through its boundary points. -/
def circleShape? (registry : Registry α) (circle : Circle α) : Option (Shape α) :=
  match circle.center with
  | some center => do
      let center ← registry.position center
      let radius ← registry.circleRadius? circle
      return .circle center radius
  | none => do
      let a ← circle.p1.bind registry.position
      let b ← circle.p2.bind registry.position
      let c ← circle.p3.bind registry.position
      circumcircle a b c defaultTolerance

/-- The places of some points, if all have one. -/
def positions? (registry : Registry α) : List PointId → Option (List (Vec α))
  | [] => some []
  | id :: ids => do
      let position ← registry.position id
      let positions ← registry.positions? ids
      return position :: positions

/-- The boundary of a polygon, which has at least three vertices. -/
def polygonShape? (registry : Registry α) (polygon : Polygon) : Option (Shape α) :=
  if polygon.vertices.length < 3 then none
  else (registry.positions? polygon.vertices).map .polygon

def shape? (registry : Registry α) : ShapeRef → Option (Shape α)
  | .line id => (registry.line? id).bind registry.lineShape?
  | .circle id => (registry.circle? id).bind registry.circleShape?
  | .polygon id => (registry.polygon? id).bind registry.polygonShape?

/-- The curves of those shapes that have one, in order. -/
def shapes (registry : Registry α) (refs : List ShapeRef) : List (Shape α) :=
  refs.filterMap registry.shape?

omit [Scalar α] in
/-- The points that a shape is made of: endpoints, boundary points or vertices. -/
def definingPoints (registry : Registry α) : ShapeRef → List PointId
  | .line id => ((registry.line? id).map Line.endpoints).getD []
  | .circle id => ((registry.circle? id).map Circle.boundary).getD []
  | .polygon id => ((registry.polygon? id).map Polygon.vertices).getD []

omit [Scalar α] in
/-- Decide whether a shape is made of a point, among others. -/
def defines (registry : Registry α) (point : PointId) (shape : ShapeRef) : Bool :=
  (registry.definingPoints shape).contains point

end Registry

/-- Decide whether a sweep was measured with its points at the given places. -/
def Angle.isMeasuredAt (angle : Angle α) (a vertex c : Vec α) : Bool :=
  match angle.measured with
  | some (a', vertex', c') => a' == a && vertex' == vertex && c' == c
  | none => false

/-- Measure an angle whose arms go through two places. The arms are exchanged where that makes
the sweep the one that the angle means. -/
def Angle.measureAt (angle : Angle α) (a vertex c : Vec α) : Angle α :=
  if angle.isMeasuredAt a vertex c then
    angle
  else
    let sweep := signedAngle a vertex c
    let kept (degrees : α) : Angle α :=
      { angle with degrees := some degrees, measured := some (a, vertex, c) }
    let exchanged (degrees : α) : Angle α :=
      { angle with
        p1 := angle.p3
        p3 := angle.p1
        degrees := some degrees
        measured := some (c, vertex, a) }
    match angle.big, decide (sweep < 0.0) with
    | false, false => kept sweep
    | false, true => exchanged (-sweep)
    | true, false => exchanged (360.0 - sweep)
    | true, true => kept (360.0 + sweep)

def Registry.measure? (registry : Registry α) (angle : Angle α) : Option (Angle α) := do
  let a ← angle.p1.bind registry.position
  let vertex ← angle.vertex.bind registry.position
  let c ← angle.p3.bind registry.position
  return angle.measureAt a vertex c

end FigureMarkup.Figure

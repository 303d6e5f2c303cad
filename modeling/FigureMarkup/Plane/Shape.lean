import FigureMarkup.Plane.Vec
import FigureMarkup.Random.Source

/-!
# Shapes

A shape is a curve that a point can lie on: a closed segment, a circle, or the boundary of a
polygon. Membership allows for a tolerance, and points can be drawn from a shape at random.
-/

namespace FigureMarkup.Plane

inductive Shape (α : Type) where
  | segment (a b : Vec α)
  | circle (center : Vec α) (radius : α)
  | polygon (vertices : List (Vec α))
deriving DecidableEq, Repr, BEq

/-- Pair each member of a list with the next one, and the last with the first. A list with fewer
than two members has no pairs. -/
def cyclicPairs {β : Type} : List β → List (β × β)
  | first :: second :: rest => (first :: second :: rest).zip (second :: rest ++ [first])
  | _ => []

variable {α : Type} [Scalar α]

/-- The distance of a point from the nearest point of a segment. -/
def distanceToSegment (p a b : Vec α) : α :=
  let d := b - a
  let squared := d.dot d
  if squared == 0.0 then
    p.distance a
  else
    let t := Scalar.clamp ((p - a).dot d / squared) 0.0 1.0
    p.distance (a + d * t)

/-- Decide whether a point lies on a segment within a tolerance. -/
def onSegment (p a b : Vec α) (tolerance : α) : Bool := distanceToSegment p a b ≤ tolerance

/-- Decide whether a point lies on a circle within a tolerance. -/
def onCircle (p center : Vec α) (radius tolerance : α) : Bool :=
  Scalar.abs (p.distance center - radius) ≤ tolerance

/-- The circle through three points, unless they lie on a line within a tolerance. -/
def circumcircle (a b c : Vec α) (tolerance : α) : Option (Shape α) :=
  let d : α := 2.0 * (a.x * (b.y - c.y) + b.x * (c.y - a.y) + c.x * (a.y - b.y))
  if Scalar.abs d ≤ tolerance then
    none
  else
    let a2 := a.dot a
    let b2 := b.dot b
    let c2 := c.dot c
    let center : Vec α :=
      ⟨(a2 * (b.y - c.y) + b2 * (c.y - a.y) + c2 * (a.y - b.y)) / d,
        (a2 * (c.x - b.x) + b2 * (a.x - c.x) + c2 * (b.x - a.x)) / d⟩
    some (.circle center (center.distance a))

namespace Shape

/-- The ends of the edges of a polygon. A segment and a circle have none. -/
def edges : Shape α → List (Vec α × Vec α)
  | .polygon vertices => cyclicPairs vertices
  | _ => []

def contains (shape : Shape α) (p : Vec α) (tolerance : α) : Bool :=
  match shape with
  | .segment a b => onSegment p a b tolerance
  | .circle center radius => onCircle p center radius tolerance
  | .polygon _ => shape.edges.any fun (a, b) => onSegment p a b tolerance

end Shape

variable {σ : Type} [Random.Source σ α]

/-- Draw a point of a segment. The parameter stays away from both ends by a padding, of which at
most 0.49 counts. -/
def randomOnSegment (a b : Vec α) (padding : α) (source : σ) : Vec α × σ :=
  let padding := Scalar.clamp padding 0.0 0.49
  let (t, source) :=
    if 0.0 < padding then Random.Source.below padding (1.0 - padding) source
    else Random.Source.fraction source
  (a.lerp b t, source)

def randomOnCircle (center : Vec α) (radius : α) (source : σ) : Vec α × σ :=
  let (theta, source) := Random.Source.below 0.0 Scalar.tau source
  (center + Vec.mk (Scalar.cos theta) (Scalar.sin theta) * radius, source)

/-- Draw a point of a shape. A polygon draws one of its edges first; without edges it gives its
only vertex, or the origin. -/
def Shape.randomPoint (shape : Shape α) (padding : α) (source : σ) : Vec α × σ :=
  match shape with
  | .segment a b => randomOnSegment a b padding source
  | .circle center radius => randomOnCircle center radius source
  | .polygon vertices =>
      match Random.choose shape.edges source with
      | (some (a, b), source) => randomOnSegment a b padding source
      | (none, source) => (vertices.headD .zero, source)

end FigureMarkup.Plane

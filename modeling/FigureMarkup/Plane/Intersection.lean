import FigureMarkup.Plane.Shape

/-!
# Intersections

The common points of two shapes, and of a list of shapes. A tolerance decides what counts as
parallel, as touching and as one point. Segments that overlap meet in the middle of their
overlap, and circles about one center do not meet.
-/

namespace FigureMarkup.Plane

variable {α : Type} [Scalar α]

def keepDistinct (tolerance : α) (kept : List (Vec α)) : List (Vec α) → List (Vec α)
  | [] => []
  | p :: rest =>
      if kept.any (·.isNear p tolerance) then keepDistinct tolerance kept rest
      else p :: keepDistinct tolerance (p :: kept) rest

/-- Leave out each point that is near an earlier one that is not left out. -/
def distinct (tolerance : α) (points : List (Vec α)) : List (Vec α) :=
  keepDistinct tolerance [] points

/-- Where two parallel segments of which the first is not degenerate meet. An end of the first
segment wins over an equal end of the second, which may be a zero with the other sign. -/
def parallelSegments (a₁ b₁ a₂ b₂ : Vec α) (tolerance : α) : List (Vec α) :=
  let d := b₁ - a₁
  let squared := d.dot d
  let offset := a₂ - a₁
  if tolerance * Scalar.sqrt squared < Scalar.abs (offset.cross d) then
    []
  else
    let t₀ := offset.dot d / squared
    let t₁ := (b₂ - a₁).dot d / squared
    let low := Scalar.max 0.0 (Scalar.min t₀ t₁)
    let high := Scalar.min 1.0 (Scalar.max t₀ t₁)
    if high + tolerance < low then [] else [a₁.lerp b₁ ((low + high) / 2.0)]

/-- Where two segments meet. A segment shorter than the tolerance counts as its first end. -/
def segmentSegment (a₁ b₁ a₂ b₂ : Vec α) (tolerance : α) : List (Vec α) :=
  let d₁ := b₁ - a₁
  let d₂ := b₂ - a₂
  let squared₁ := d₁.dot d₁
  let squared₂ := d₂.dot d₂
  if squared₁ ≤ tolerance * tolerance then
    if onSegment a₁ a₂ b₂ tolerance then [a₁] else []
  else if squared₂ ≤ tolerance * tolerance then
    if onSegment a₂ a₁ b₁ tolerance then [a₂] else []
  else
    let denominator := d₁.cross d₂
    let offset := a₂ - a₁
    if Scalar.abs denominator ≤ tolerance * Scalar.sqrt (squared₁ * squared₂) then
      parallelSegments a₁ b₁ a₂ b₂ tolerance
    else
      let t := offset.cross d₂ / denominator
      let u := offset.cross d₁ / denominator
      let inside := Scalar.isBetween (-tolerance) (1.0 + tolerance)
      if inside t && inside u then [a₁ + d₁ * t] else []

def segmentCircle (a b center : Vec α) (radius tolerance : α) : List (Vec α) :=
  let d := b - a
  let f := a - center
  let qa := d.dot d
  if qa ≤ tolerance * tolerance then
    if onCircle a center radius tolerance then [a] else []
  else
    let qb := 2.0 * f.dot d
    let qc := f.dot f - radius * radius
    let discriminant := qb * qb - 4.0 * qa * qc
    if discriminant < 0.0 && discriminant < -tolerance * qa then
      []
    else
      let root := Scalar.sqrt (if discriminant < 0.0 then 0.0 else discriminant)
      let parameters := [(-qb - root) / (2.0 * qa), (-qb + root) / (2.0 * qa)]
      (parameters.filter (Scalar.isBetween (-tolerance) (1.0 + tolerance))).map (a + d * ·)

def circleCircle (c₁ : Vec α) (r₁ : α) (c₂ : Vec α) (r₂ : α) (tolerance : α) :
    List (Vec α) :=
  let delta := c₂ - c₁
  let dist := delta.length
  if dist ≤ tolerance then
    []
  else if r₁ + r₂ + tolerance < dist || dist < Scalar.abs (r₁ - r₂) - tolerance then
    []
  else
    let along := (r₁ * r₁ - r₂ * r₂ + dist * dist) / (2.0 * dist)
    let h := Scalar.sqrt (Scalar.max (r₁ * r₁ - along * along) 0.0)
    let middle := c₁ + delta * (along / dist)
    if h ≤ tolerance then
      [middle]
    else
      let offset := delta.perp * (h / dist)
      [middle + offset, middle - offset]

namespace Shape

/-- Where two shapes meet, neither of which is a polygon. -/
def meetSmooth (first second : Shape α) (tolerance : α) : List (Vec α) :=
  match first, second with
  | .segment a₁ b₁, .segment a₂ b₂ => distinct tolerance (segmentSegment a₁ b₁ a₂ b₂ tolerance)
  | .segment a b, .circle center radius | .circle center radius, .segment a b =>
      distinct tolerance (segmentCircle a b center radius tolerance)
  | .circle c₁ r₁, .circle c₂ r₂ => distinct tolerance (circleCircle c₁ r₁ c₂ r₂ tolerance)
  | .polygon _, _ | _, .polygon _ => []

/-- Where two shapes meet, the first of which is no polygon. -/
def meetEdges (first second : Shape α) (tolerance : α) : List (Vec α) :=
  match second with
  | .polygon _ =>
      distinct tolerance (second.edges.flatMap fun (a, b) =>
        meetSmooth first (.segment a b) tolerance)
  | _ => meetSmooth first second tolerance

def intersect (first second : Shape α) (tolerance : α) : List (Vec α) :=
  match first with
  | .polygon _ =>
      distinct tolerance (first.edges.flatMap fun (a, b) =>
        meetEdges (.segment a b) second tolerance)
  | _ => meetEdges first second tolerance

end Shape

/-- The common points of all shapes of a list: those of the first two that lie on the others.
The others allow for the errors of computed points. Fewer than two shapes have none. -/
def intersectAll (shapes : List (Shape α)) (tolerance : α) : List (Vec α) :=
  match shapes with
  | first :: second :: rest =>
      let slack := Scalar.max tolerance defaultTolerance * 1e3
      (first.intersect second tolerance).filter fun p => rest.all (·.contains p slack)
  | _ => []

end FigureMarkup.Plane

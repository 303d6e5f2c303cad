import FigureMarkup.Figure.Measure
import FigureMarkup.Plane.Intersection
import FigureMarkup.Placement.Settings

/-!
# Positions of single points

Where a point may be put, given the points that are placed already. A point that nothing constrains
goes anywhere, a point of one shape anywhere on it, and a point of several shapes where these meet.
When no point can be put somewhere in this way, weaker rules apply, which are tried in turn.
-/

namespace FigureMarkup.Placement

open Figure Plane

variable {σ α : Type} [Scalar α] [Random.Source σ α]

/-- A position for a point and the source to go on with, if the point can be put somewhere. A
point that cannot be put anywhere draws no numbers. -/
abbrev Choice (σ α : Type) := Except PlacementError (Option (Vec α × σ))

abbrev Rule (σ α : Type) := Settings α → Registry α → PointId → σ → Choice σ α

def constraintsOf {α : Type} (registry : Registry α) (id : PointId) : List ShapeRef :=
  ((registry.point? id).map Point.constraints).getD []

def liesOnOf {α : Type} (registry : Registry α) (id : PointId) : List ShapeRef :=
  ((registry.point? id).map Point.liesOn).getD []

def anywhere (settings : Settings α) (source : σ) : Choice σ α :=
  let bound := Scalar.abs settings.bound
  match Random.Source.between? (-bound) bound source with
  | none => .error .unboundedSquare
  | some (x, source) =>
      match Random.Source.between? (-bound) bound source with
      | none => .error .unboundedSquare
      | some (y, source) => .ok (some (⟨x, y⟩, source))

def on (settings : Settings α) (shape : Shape α) (source : σ) : Choice σ α :=
  .ok (some (shape.randomPoint settings.padding source))

def whereAllMeet (settings : Settings α) (shapes : List (Shape α)) (source : σ) : Choice σ α :=
  match Random.choose (intersectAll shapes settings.tolerance) source with
  | (some position, source) => .ok (some (position, source))
  | (none, _) => .ok none

def byConstraints : Rule σ α := fun settings registry id source =>
  match constraintsOf registry id with
  | [] => anywhere settings source
  | [constraint] =>
      match registry.shape? constraint with
      | some shape => on settings shape source
      | none => .ok none
  | constraints =>
      let shapes := registry.shapes constraints
      if shapes.length < 2 then .ok none else whereAllMeet settings shapes source

/-- Choose a position on those shapes that the point was asked to lie on, as far as these are
known. -/
def byRequest : Rule σ α := fun settings registry id source =>
  match registry.shapes (liesOnOf registry id) with
  | [] => .ok none
  | [shape] => on settings shape source
  | shapes => whereAllMeet settings shapes source

/-- Choose a position on the only circle that is known among the constraints. -/
def byCircle : Rule σ α := fun settings registry id source =>
  match registry.shapes ((constraintsOf registry id).filter ShapeRef.isCircle) with
  | [circle] => on settings circle source
  | _ => .ok none

/-- Choose any position for a point that is itself part of all its constraints. -/
def byDefinition : Rule σ α := fun settings registry id source =>
  if (constraintsOf registry id).all (registry.defines id) then anywhere settings source
  else .ok none

def byLines : Rule σ α := fun settings registry id source =>
  if (constraintsOf registry id).all ShapeRef.isLine then anywhere settings source else .ok none

/-- The weaker rules, in the order in which they are tried. -/
def weakerRules : List (Rule σ α) := [byRequest, byCircle, byDefinition, byLines]

end FigureMarkup.Placement

import FigureMarkup.Scalar

/-!
# Vectors of the plane

Points and displacements are pairs of coordinates. The angle between two rays is measured from
the polar angles of both, and lies between half a turn one way and half a turn the other.
-/

namespace FigureMarkup.Plane

structure Vec (α : Type) where
  x : α
  y : α
deriving DecidableEq, Repr, BEq

namespace Vec

variable {α : Type} [Scalar α]

instance : Add (Vec α) := ⟨fun a b => ⟨a.x + b.x, a.y + b.y⟩⟩

instance : Sub (Vec α) := ⟨fun a b => ⟨a.x - b.x, a.y - b.y⟩⟩

instance : HMul (Vec α) α (Vec α) := ⟨fun a factor => ⟨a.x * factor, a.y * factor⟩⟩

def zero : Vec α := ⟨0.0, 0.0⟩

def dot (a b : Vec α) : α := a.x * b.x + a.y * b.y

def cross (a b : Vec α) : α := a.x * b.y - a.y * b.x

def length (a : Vec α) : α := Scalar.sqrt (a.dot a)

def distance (a b : Vec α) : α := (b - a).length

def perp (a : Vec α) : Vec α := ⟨-a.y, a.x⟩

/-- The point at a parameter of the line from one point, at zero, to another, at one. -/
def lerp (a b : Vec α) (t : α) : Vec α := a + (b - a) * t

def angle (a : Vec α) : α := Scalar.atan2 a.y a.x

/-- Decide whether two points are no further apart than a tolerance. -/
def isNear (a b : Vec α) (tolerance : α) : Bool := a.distance b ≤ tolerance

end Vec

/-- The distance up to which points count as one, where nobody chooses another. -/
def defaultTolerance {α : Type} [Scalar α] : α := 1e-9

/-- The angle at a vertex, in degrees, from the ray through one point to the ray through another.
It is positive counter-clockwise, and the difference of the polar angles is moved by a whole turn
where it leaves the half-open range from minus half a turn to half a turn. -/
def signedAngle {α : Type} [Scalar α] (first vertex last : Vec α) : α :=
  let start := Scalar.toDegrees (first - vertex).angle
  let stop := Scalar.toDegrees (last - vertex).angle
  let degrees := stop - start
  if 180.0 < degrees then degrees - 360.0
  else if degrees ≤ -180.0 then degrees + 360.0
  else degrees

end FigureMarkup.Plane

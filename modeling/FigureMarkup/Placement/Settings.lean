import FigureMarkup.Plane.Vec

/-!
# Settings of placement

How far free points may lie from the origin, how exactly shapes meet, and how far random points
stay from the ends of segments; and the ways in which placement can fail.
-/

namespace FigureMarkup.Placement

/-- What placement depends on apart from the figure and the source of random numbers. -/
structure Settings (α : Type) where
  /-- Free points have coordinates of at most this size. -/
  bound : α
  tolerance : α
  /-- The parameter by which points of a segment stay away from its ends. -/
  padding : α

def Settings.standard {α : Type} [Scalar α] : Settings α := ⟨1.0, Plane.defaultTolerance, 0.2⟩

inductive PlacementError where
  /-- Some points, given by their names, are left without a place. -/
  | underconstrained (points : List String)
  /-- No number can be drawn up to the bound of free points. -/
  | unboundedSquare
deriving DecidableEq, Repr

def PlacementError.message : PlacementError → String
  | .underconstrained points =>
      "underconstrained system: cannot place " ++ ", ".intercalate points
  | .unboundedSquare => "free points cannot be placed within the bound"

end FigureMarkup.Placement

import FigureMarkup.Drawing.Settings
import FigureMarkup.Plane.Shape
import FigureMarkup.Scene.Basic

/-!
# Viewports

A viewport maps the plane of a scene onto a drawing. It keeps shapes, turns the second axis
downwards, and brings the placed points and the circles of the scene into a square. The side of
the square is the larger of width and height, and the other one is centered.
-/

namespace FigureMarkup.Drawing

open Plane

variable {α : Type} [Scalar α]

/-- The circle of a scene: about its center if that is placed and the radius known, or else
through its boundary points. -/
def circleOf? (scene : Scene α) : EntityData α → Option (Vec α × α)
  | .circle p1 p2 p3 center radius =>
      match center.bind scene.position?, radius with
      | some center, some radius => some (center, radius)
      | _, _ => do
          let a ← p1.bind scene.position?
          let b ← p2.bind scene.position?
          let c ← p3.bind scene.position?
          match circumcircle a b c defaultTolerance with
          | some (.circle center radius) => return (center, radius)
          | _ => none
  | _ => none

/-- The least and the greatest of some numbers. Each is missing until a number sets it. -/
structure Range (α : Type) where
  low : Option α
  high : Option α

namespace Range

def empty : Range α := ⟨none, none⟩

/-- The smaller of two numbers, the first of which may be missing. -/
def lower : Option α → α → Option α
  | none, x => if x == x then some x else none
  | some low, x => some (Scalar.min low x)

/-- The larger of two numbers, the first of which may be missing. -/
def upper : Option α → α → Option α
  | none, x => if x == x then some x else none
  | some high, x => some (Scalar.max high x)

/-- Widen a range to all that is no further from a number than some distance. -/
def widen (range : Range α) (x distance : α) : Range α :=
  ⟨lower range.low (x - distance), upper range.high (x + distance)⟩

end Range

structure Box (α : Type) where
  x : Range α
  y : Range α

namespace Box

def widen (box : Box α) (center : Vec α) (radius : α) : Box α :=
  ⟨box.x.widen center.x radius, box.y.widen center.y radius⟩

/-- Widen a box to what an entity occupies: a placed point or a circle. -/
def widenTo (scene : Scene α) (box : Box α) (data : EntityData α) : Box α :=
  match data.position? with
  | some position => box.widen position 0.0
  | none =>
      match circleOf? scene data with
      | some (center, radius) => box.widen center radius
      | none => box

def of (scene : Scene α) : Box α :=
  scene.entities.foldl (fun box entity => box.widenTo scene entity.data) ⟨.empty, .empty⟩

end Box

structure Viewport (α : Type) where
  /-- The corner of the square with the smallest coordinates. -/
  corner : Vec α
  /-- The second coordinate of the upper side. -/
  top : α
  /-- The length that a unit has in the drawing. -/
  scale : α
  padding : α

namespace Viewport

/-- Show a rectangle, given by two corners, in the middle of the drawing. -/
def ofCorners (settings : Settings α) (low high : Vec α) : Viewport α :=
  let width := high.x - low.x
  let height := high.y - low.y
  let side := Scalar.max (Scalar.max width height) defaultTolerance
  let corner : Vec α := ⟨low.x - (side - width) / 2.0, low.y - (side - height) / 2.0⟩
  ⟨corner, corner.y + side, settings.size / side, settings.padding⟩

def isFinite (x : α) : Bool := x - x == x - x

/-- Show a box in the middle of the drawing. An end that is missing lies at infinity. If the first
coordinate has no least value, the square about the origin is shown. -/
def ofBox (settings : Settings α) (box : Box α) : Viewport α :=
  match box.x.low with
  | some x =>
      if isFinite x then
        let infinity : α := 1.0 / 0.0
        ofCorners settings ⟨x, box.y.low.getD infinity⟩
          ⟨box.x.high.getD (-infinity), box.y.high.getD (-infinity)⟩
      else
        ofCorners settings ⟨-1.0, -1.0⟩ ⟨1.0, 1.0⟩
  | none => ofCorners settings ⟨-1.0, -1.0⟩ ⟨1.0, 1.0⟩

def fit (settings : Settings α) (scene : Scene α) : Viewport α := ofBox settings (.of scene)

def place (viewport : Viewport α) (p : Vec α) : Vec α :=
  ⟨viewport.padding + (p.x - viewport.corner.x) * viewport.scale,
    viewport.padding + (viewport.top - p.y) * viewport.scale⟩

end Viewport

end FigureMarkup.Drawing

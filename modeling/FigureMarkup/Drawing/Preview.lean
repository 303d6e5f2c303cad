import FigureMarkup.Drawing.Element
import FigureMarkup.Drawing.Viewport

/-!
# Drawings of scenes

The drawing of a scene shows everything whose points are placed: first the polygons, then circles,
lines and the arcs of angles, and at last the points with their names. Within each of these groups
the order is that of the identifiers.
-/

namespace FigureMarkup.Drawing

open Plane

def byteOf (channel : Float) : UInt8 := (Scalar.clamp channel 0.0 1.0 * 255.0).round.toUInt8

/-- Write a color. Channels beyond their range count as the nearest end of it. -/
def cssColor (color : Rgba) : String :=
  let channels := [color.red, color.green, color.blue].map fun channel =>
    toString (byteOf channel).toNat
  "rgba(" ++ ",".intercalate (channels ++ [number (Scalar.clamp color.alpha 0.0 1.0)]) ++ ")"

variable {α : Type} [Scalar α]

def placeOf? (viewport : Viewport α) (scene : Scene α) (id : String) : Option (Vec α) :=
  (scene.position? id).map viewport.place

def polygonElement? (viewport : Viewport α) (scene : Scene α) (entity : SceneEntity α) :
    Option (Element α) :=
  match entity.data with
  | .polygon points _ =>
      (points.mapM (placeOf? viewport scene)).map fun vertices =>
        .polygon (some entity.id) vertices (cssColor entity.color)
  | _ => none

def arcRadius (settings : Settings α) : α := Scalar.max (settings.size / 16.0) 4.0

/-- The point of the ray from a vertex through another point at some distance. -/
def onRay (vertex through : Vec α) (distance : α) : Vec α :=
  let d := through - vertex
  vertex + d * (distance / Scalar.max d.length defaultTolerance)

/-- Draw a circle that has a place, a line with placed endpoints, or the arc of an angle that is
measured. -/
def strokeElement? (settings : Settings α) (viewport : Viewport α) (scene : Scene α)
    (entity : SceneEntity α) : Option (Element α) :=
  let place (id : Option String) := id.bind (placeOf? viewport scene)
  match entity.data with
  | .circle _ _ _ _ _ => do
      let (center, radius) ← circleOf? scene entity.data
      return .circle (some entity.id) (viewport.place center) (radius * viewport.scale)
        (cssColor entity.color)
  | .line p1 p2 => do
      let a ← place p1
      let b ← place p2
      return .line (some entity.id) a b (cssColor entity.color)
  | .angle p1 vertex p3 (some degrees) _ => do
      let a ← place p1
      let vertex ← place vertex
      let c ← place p3
      let radius := arcRadius settings
      return .arc (some entity.id) (onRay vertex a radius) (onRay vertex c radius) radius
        (decide (180.0 < degrees)) (cssColor entity.color)
  | _ => none

def pointName (id : String) : String :=
  match id.toList with
  | 'p' :: 'o' :: 'i' :: 'n' :: 't' :: '_' :: name => String.ofList name
  | _ => id

/-- Draw a point that is placed, and its name beside it if labels are wanted. -/
def pointElements (settings : Settings α) (viewport : Viewport α) (entity : SceneEntity α) :
    List (Element α) :=
  match entity.data.position? with
  | none => []
  | some position =>
      let p := viewport.place position
      let dot := .point (some entity.id) p (cssColor entity.color)
      if settings.labels then [dot, .label (pointName entity.id) (p + Vec.mk 6.0 (-6.0))]
      else [dot]

def elementsOf (settings : Settings α) (scene : Scene α) : List (Element α) :=
  let viewport := Viewport.fit settings scene
  scene.entities.filterMap (polygonElement? viewport scene) ++
    scene.entities.filterMap (strokeElement? settings viewport scene) ++
    scene.entities.flatMap (pointElements settings viewport)

def ofScene (settings : Settings α) (scene : Scene α) : Drawing α :=
  ⟨settings, [standardStyle settings.classStem], elementsOf settings scene⟩

end FigureMarkup.Drawing

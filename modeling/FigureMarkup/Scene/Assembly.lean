import FigureMarkup.Figure.Measure
import FigureMarkup.Scene.Basic

/-!
# Scenes of figures

The scene of a registry has one entity for each entity of the registry. Nothing is computed but
the radii of circles.
-/

namespace FigureMarkup.Scene

open Figure

variable {α : Type}

def pointId (registry : Registry α) (point : Option PointId) : Option String :=
  point.map fun id => registry.sceneId (.point id)

def pointData (point : Point α) : EntityData α := .point point.x point.y

def lineData (registry : Registry α) (line : Line) : EntityData α :=
  .line (pointId registry line.p1) (pointId registry line.p2)

def circleData [Scalar α] (registry : Registry α) (circle : Circle α) : EntityData α :=
  .circle (pointId registry circle.p1) (pointId registry circle.p2) (pointId registry circle.p3)
    (pointId registry circle.center) (registry.circleRadius? circle)

def polygonData (registry : Registry α) (polygon : Polygon) : EntityData α :=
  .polygon (polygon.vertices.map fun id => registry.sceneId (.point id)) polygon.label

def angleData (registry : Registry α) (angle : Angle α) : EntityData α :=
  .angle (pointId registry angle.p1) (pointId registry angle.vertex) (pointId registry angle.p3)
    angle.degrees angle.big

def data? [Scalar α] (registry : Registry α) : EntityRef → Option (EntityData α)
  | .point id => (registry.point? id).map pointData
  | .line id => (registry.line? id).map (lineData registry)
  | .circle id => (registry.circle? id).map (circleData registry)
  | .polygon id => (registry.polygon? id).map (polygonData registry)
  | .angle id => (registry.angle? id).map (angleData registry)

def entity? [Scalar α] (registry : Registry α) (entity : EntityRef) : Option (SceneEntity α) := do
  let color ← registry.color entity
  let data ← data? registry entity
  return ⟨registry.sceneId entity, color, data⟩

def assemble [Scalar α] (registry : Registry α) (animations : List (List String))
    (text : String) : Scene α :=
  ofEntities (registry.entities.filterMap (entity? registry)) animations text

end FigureMarkup.Scene

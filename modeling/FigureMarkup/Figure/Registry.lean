import FigureMarkup.Color.Palette
import FigureMarkup.Figure.Entity

/-!
# Registries

A registry holds all entities of a figure. Names are compared in lower case and within a kind, so
that a point and a line may have one name. Entering a name finds the entity or creates it, and no
entity is ever removed.
-/

namespace FigureMarkup.Figure

open Plane

structure Registry (α : Type) where
  points : Array (Point α)
  lines : Array Line
  circles : Array (Circle α)
  polygons : Array Polygon
  angles : Array (Angle α)
  /-- The number of each entity under its kind and its name in lower case. -/
  names : List ((EntityKind × String) × Nat)
  colors : ColorCycle

namespace Registry

variable {α : Type}

def empty (palette : Palette) : Registry α := ⟨#[], #[], #[], #[], #[], [], .start palette⟩

/-! ## Entities by number -/

def point? (registry : Registry α) (id : PointId) : Option (Point α) := registry.points[id.index]?

def line? (registry : Registry α) (id : LineId) : Option Line := registry.lines[id.index]?

def circle? (registry : Registry α) (id : CircleId) : Option (Circle α) :=
  registry.circles[id.index]?

def polygon? (registry : Registry α) (id : PolygonId) : Option Polygon :=
  registry.polygons[id.index]?

def angle? (registry : Registry α) (id : AngleId) : Option (Angle α) := registry.angles[id.index]?

/-- The place of a point, if it has one. -/
def position (registry : Registry α) (id : PointId) : Option (Vec α) :=
  (registry.point? id).bind Point.position

def modifyPoint (registry : Registry α) (id : PointId) (change : Point α → Point α) :
    Registry α :=
  { registry with points := registry.points.modify id.index change }

def placePoint (registry : Registry α) (id : PointId) (position : Vec α) : Registry α :=
  registry.modifyPoint id (·.place position)

def modifyLine (registry : Registry α) (id : LineId) (change : Line → Line) : Registry α :=
  { registry with lines := registry.lines.modify id.index change }

def modifyCircle (registry : Registry α) (id : CircleId) (change : Circle α → Circle α) :
    Registry α :=
  { registry with circles := registry.circles.modify id.index change }

def modifyPolygon (registry : Registry α) (id : PolygonId) (change : Polygon → Polygon) :
    Registry α :=
  { registry with polygons := registry.polygons.modify id.index change }

def modifyAngle (registry : Registry α) (id : AngleId) (change : Angle α → Angle α) :
    Registry α :=
  { registry with angles := registry.angles.modify id.index change }

/-- The number of all points, in order. -/
def pointIds (registry : Registry α) : List PointId :=
  (List.range registry.points.size).map PointId.mk

def count (registry : Registry α) : EntityKind → Nat
  | .point => registry.points.size
  | .line => registry.lines.size
  | .circle => registry.circles.size
  | .polygon => registry.polygons.size
  | .angle => registry.angles.size

def size (registry : Registry α) : Nat :=
  EntityKind.all.foldl (fun total kind => total + registry.count kind) 0

/-- All entities, kind by kind and in the order in which they were created. -/
def entities (registry : Registry α) : List EntityRef :=
  EntityKind.all.flatMap fun kind =>
    (List.range (registry.count kind)).map (EntityRef.ofIndex kind)

/-! ## Entities by name -/

def index? (registry : Registry α) (kind : EntityKind) (name : String) : Option Nat :=
  registry.names.lookup (kind, Text.lower name)

def find? (registry : Registry α) (kind : EntityKind) (name : String) : Option EntityRef :=
  (registry.index? kind name).map (EntityRef.ofIndex kind)

def findAll (registry : Registry α) (name : String) : List EntityRef :=
  EntityKind.all.filterMap (registry.find? · name)

def note (registry : Registry α) (kind : EntityKind) (name : String) (index : Nat) : Registry α :=
  { registry with names := ((kind, Text.lower name), index) :: registry.names }

def advanceColors (registry : Registry α) : Registry α :=
  { registry with colors := registry.colors.advance }

def addPoint (registry : Registry α) (name : String) : Registry α :=
  { registry with points := registry.points.push (.new name registry.colors.palette.point) }.note
    .point name registry.points.size

def addLine (registry : Registry α) (name : String) : Registry α :=
  { registry.advanceColors with
    lines := registry.lines.push (.new name registry.colors.color) }.note
      .line name registry.lines.size

def addCircle (registry : Registry α) (name : String) : Registry α :=
  { registry with circles := registry.circles.push (.new name registry.colors.palette.circle) }.note
    .circle name registry.circles.size

def addPolygon (registry : Registry α) (name : String) : Registry α :=
  { registry.advanceColors with
    polygons := registry.polygons.push (.new name registry.colors.color) }.note
      .polygon name registry.polygons.size

def addAngle (registry : Registry α) (name : String) : Registry α :=
  { registry.advanceColors with
    angles := registry.angles.push (.new name registry.colors.color) }.note
      .angle name registry.angles.size

def add (registry : Registry α) : EntityKind → String → Registry α
  | .point, name => registry.addPoint name
  | .line, name => registry.addLine name
  | .circle, name => registry.addCircle name
  | .polygon, name => registry.addPolygon name
  | .angle, name => registry.addAngle name

/-- Find the number of the entity with a name, or create the entity. The answer tells also whether
it was created. -/
def enter (registry : Registry α) (kind : EntityKind) (name : String) :
    (Nat × Bool) × Registry α :=
  match registry.index? kind name with
  | some index => ((index, false), registry)
  | none => ((registry.count kind, true), registry.add kind name)

def enterPoint (registry : Registry α) (name : String) : PointId × Registry α :=
  let ((index, _), registry) := registry.enter .point name
  (⟨index⟩, registry)

/-- Find or create the points with names, in order. -/
def enterPoints (registry : Registry α) : List String → List PointId × Registry α
  | [] => ([], registry)
  | name :: names =>
      let (id, registry) := registry.enterPoint name
      let (ids, registry) := registry.enterPoints names
      (id :: ids, registry)

/-! ## Entities by their points -/

/-- The first line that joins two points. -/
def findLine? (registry : Registry α) (a b : PointId) : Option LineId :=
  (registry.lines.findIdx? (·.joins (some a) (some b))).map LineId.mk

/-- The first polygon with some vertices, in any order. -/
def findPolygon? (registry : Registry α) (vertices : List PointId) : Option PolygonId :=
  (registry.polygons.findIdx? (sameMembers ·.vertices vertices)).map PolygonId.mk

/-- The first angle with a vertex and two arms, in either order. -/
def findAngle? (registry : Registry α) (p1 vertex p3 : PointId) : Option AngleId :=
  let holds (angle : Angle α) : Bool :=
    angle.vertex == some vertex && sameMembers [angle.p1, angle.p3] [some p1, some p3]
  (registry.angles.findIdx? holds).map AngleId.mk

/-! ## What all entities have -/

def name (registry : Registry α) : EntityRef → Option String
  | .point id => (registry.point? id).map (·.name)
  | .line id => (registry.line? id).map (·.name)
  | .circle id => (registry.circle? id).map (·.name)
  | .polygon id => (registry.polygon? id).map (·.name)
  | .angle id => (registry.angle? id).map (·.name)

/-- The identifier of an entity in scenes: its kind and its name. -/
def sceneId (registry : Registry α) (entity : EntityRef) : String :=
  entity.kind.name ++ "_" ++ (registry.name entity).getD ""

def color (registry : Registry α) : EntityRef → Option Rgba
  | .point id => (registry.point? id).map (·.color)
  | .line id => (registry.line? id).map (·.color)
  | .circle id => (registry.circle? id).map (·.color)
  | .polygon id => (registry.polygon? id).map (·.color)
  | .angle id => (registry.angle? id).map (·.color)

def setColor (registry : Registry α) (color : Rgba) : EntityRef → Registry α
  | .point id => registry.modifyPoint id ({ · with color })
  | .line id => registry.modifyLine id ({ · with color })
  | .circle id => registry.modifyCircle id ({ · with color })
  | .polygon id => registry.modifyPolygon id ({ · with color })
  | .angle id => registry.modifyAngle id ({ · with color })

end Registry

end FigureMarkup.Figure

import FigureMarkup.Construction.Error
import FigureMarkup.Figure.Registry
import FigureMarkup.Text.Blank

/-!
# References to shapes

A reference names a shape that a point lies on. It gives the kind and the name, or the name alone
if that says enough. Lines and polygons are found by the letters of their points too, in any
order.
-/

namespace FigureMarkup.Construction

open Figure Text

/-- The letters of a name, each of which labels a point. -/
def labels (name : String) : List String := name.toList.map String.singleton

variable {α : Type}

/-- The points that the letters of a name label, if all of them exist. -/
def labelledPoints? (registry : Registry α) (name : String) : Option (List PointId) :=
  (labels name).mapM fun label => (registry.index? .point label).map PointId.mk

def findByPoints? (registry : Registry α) : EntityKind → List PointId → Option EntityRef
  | .line, [a, b] => (registry.findLine? a b).map .line
  | .polygon, vertices =>
      if 3 ≤ vertices.length then (registry.findPolygon? vertices).map .polygon else none
  | _, _ => none

/-- Find the entity of a kind with a name, or else with the points that the letters label. -/
def lookup? (registry : Registry α) (kind : EntityKind) (name : String) : Option EntityRef :=
  match registry.find? kind name with
  | some entity => some entity
  | none => (labelledPoints? registry name).bind (findByPoints? registry kind)

/-- The shapes that a name alone may mean: those that have it, or else the line and the polygon
with the points that its letters label. -/
def candidates (registry : Registry α) (name : String) : List ShapeRef :=
  let named := (registry.findAll name).filterMap EntityRef.shape?
  if named.isEmpty then
    ([EntityKind.line, .polygon].filterMap (lookup? registry · name)).filterMap EntityRef.shape?
  else
    named

def qualifiedShape (registry : Registry α) (reference kind name : String) :
    Except Fault ShapeRef :=
  match EntityKind.ofName? kind with
  | none => .error (.undefined reference)
  | some kind =>
      match lookup? registry kind name with
      | none => .error (.undefined reference)
      | some entity =>
          match entity.shape? with
          | none => .error (.malformed (.noShape reference kind))
          | some shape => .ok shape

def bareShape (registry : Registry α) (reference name : String) : Except Fault ShapeRef :=
  match candidates registry name with
  | [] => .error (.undefined reference)
  | [shape] => .ok shape
  | shapes => .error (.ambiguous name (shapes.map fun shape => registry.sceneId shape.entity))

def referredShape (registry : Registry α) (reference : String) : Except Fault ShapeRef :=
  match (words reference.toList).map String.ofList with
  | [kind, name] => qualifiedShape registry reference kind name
  | [name] => bareShape registry reference name
  | _ => .error (.undefined reference)

end FigureMarkup.Construction

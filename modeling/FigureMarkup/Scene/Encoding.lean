import FigureMarkup.Json.Value
import FigureMarkup.Scene.Basic

/-!
# Scenes as JSON

A scene is written as a JSON object with the members `geometry`, `animations` and `text`. The
first one holds the entities under their identifiers, in order. What is missing is `null`, except
that a polygon without label has no member for it.
-/

namespace FigureMarkup

def Json.ofId : Option String → Json := Json.ofOption .string

def Json.ofNumber : Option Float → Json := Json.ofOption .number

def Json.ofTexts (texts : List String) : Json := .array (texts.map .string)

def Rgba.json (color : Rgba) : Json :=
  .array [.number color.red, .number color.green, .number color.blue, .number color.alpha]

def EntityData.members : EntityData Float → List (String × Json)
  | .point x y => [("x", .ofNumber x), ("y", .ofNumber y)]
  | .line p1 p2 => [("p1", .ofId p1), ("p2", .ofId p2)]
  | .circle p1 p2 p3 center radius =>
      [("p1", .ofId p1), ("p2", .ofId p2), ("p3", .ofId p3), ("center", .ofId center),
        ("radius", .ofNumber radius)]
  | .polygon points label =>
      ("points", .ofTexts points) :: label.toList.map fun label => ("label", .string label)
  | .angle p1 vertex p3 degrees big =>
      [("p1", .ofId p1), ("p2", .ofId vertex), ("p3", .ofId p3), ("degrees", .ofNumber degrees),
        ("big", .bool big)]

def SceneEntity.json (entity : SceneEntity Float) : Json :=
  .object [("type", .string entity.data.kind.title), ("id", .string entity.id),
    ("color", entity.color.json), ("data", .object entity.data.members)]

namespace Scene

def json (scene : Scene Float) : Json :=
  .object
    [("geometry", .object (scene.entities.map fun entity => (entity.id, entity.json))),
      ("animations", .array (scene.animations.map .ofTexts)), ("text", .string scene.text)]

def compact (scene : Scene Float) : String := scene.json.compact

def pretty (scene : Scene Float) : String := scene.json.pretty

end Scene

end FigureMarkup

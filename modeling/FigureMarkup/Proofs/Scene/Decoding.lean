import FigureMarkup.Proofs.Json.RoundTrip
import FigureMarkup.Scene.Encoding

/-!
# Scenes read from JSON

A scene can be read from its JSON. Entities, steps and text come back as they are, each entity under
its identifier. A number comes back as its digits are read, and one that is not finite is missing
afterwards.
-/

namespace FigureMarkup

open Decimal Figure

namespace Json

/-! ## Values -/

def member? (json : Json) (name : String) : Option Json :=
  match json with
  | .object members => members.lookup name
  | _ => none

def members? : Json → Option (List (String × Json))
  | .object members => some members
  | _ => none

def items? : Json → Option (List Json)
  | .array items => some items
  | _ => none

def text? : Json → Option String
  | .string text => some text
  | _ => none

def bool? : Json → Option Bool
  | .bool value => some value
  | _ => none

def texts? (json : Json) : Option (List String) := json.items?.bind (·.mapM text?)

/-- Read an identifier that may be missing. -/
def id? : Json → Option (Option String)
  | .null => some none
  | .string id => some (some id)
  | _ => none

/-- Read a number that may be missing. -/
def number? : Json → Option (Option Float)
  | .null => some none
  | .number x => some (some x)
  | _ => none

/-- What JSON text keeps of a number. -/
def kept? (x : Float) : Option Float := if x.isFinite then some (readBackNumber x) else none

theorem readBack_number (x : Float) : readBack (.number x) = .ofNumber (kept? x) := by
  rw [readBack, kept?]
  split <;> rfl

theorem readBack_ofNumber (x : Option Float) : (ofNumber x).readBack = ofNumber (x.bind kept?) := by
  cases x with
  | none => rfl
  | some x => exact readBack_number x

theorem readBack_ofId (id : Option String) : (ofId id).readBack = ofId id := by
  cases id <;> rfl

theorem readBack_string (text : String) : readBack (.string text) = .string text := by
  rw [readBack]

theorem readBackItems_eq (items : List Json) : readBackItems items = items.map readBack := by
  induction items with
  | nil => rfl
  | cons item items ih => rw [readBackItems, ih, List.map_cons]

theorem readBackMembers_eq (members : List (String × Json)) :
    readBackMembers members = members.map fun (name, value) => (name, value.readBack) := by
  induction members with
  | nil => rfl
  | cons member members ih => rw [readBackMembers, ih, List.map_cons]

theorem readBack_ofTexts (texts : List String) : (ofTexts texts).readBack = ofTexts texts := by
  rw [ofTexts, readBack, readBackItems_eq, List.map_map]
  rfl

@[simp] theorem number?_ofNumber (x : Option Float) : (ofNumber x).number? = some x := by
  cases x <;> rfl

@[simp] theorem id?_ofId (id : Option String) : (ofId id).id? = some id := by
  cases id <;> rfl

/-- Items that are all read as what they were written from. -/
theorem mapM_map_of_reads {β δ γ : Type} (write : β → δ) (read : δ → Option γ) {kept : β → γ}
    (reads : ∀ value, read (write value) = some (kept value)) (values : List β) :
    (values.map write).mapM read = some (values.map kept) := by
  have each : read ∘ write = fun value => pure (kept value) := funext reads
  rw [List.mapM_map, each, List.mapM_pure]
  rfl

@[simp] theorem texts?_ofTexts (texts : List String) : (ofTexts texts).texts? = some texts := by
  have read := mapM_map_of_reads .string text? (fun _ => rfl) texts
  rwa [List.map_id'] at read

end Json

/-! ## Entities -/

namespace Rgba

/-- A color as JSON text keeps it. What is missing is no number. -/
def kept (color : Rgba) : Rgba :=
  let channel (x : Float) := (Json.kept? x).getD (Numeral.toFloat .nan)
  ⟨channel color.red, channel color.green, channel color.blue, channel color.alpha⟩

def ofJson? (json : Json) : Option Rgba := do
  let [red, green, blue, alpha] ← (← json.items?).mapM Json.number? | none
  let channel (x : Option Float) := x.getD (Numeral.toFloat .nan)
  return ⟨channel red, channel green, channel blue, channel alpha⟩

theorem ofJson?_readBack (color : Rgba) : ofJson? color.json.readBack = some color.kept := by
  rw [json, Json.readBack, Json.readBackItems_eq]
  simp [ofJson?, kept, Json.readBack_number, Json.items?]

end Rgba

namespace EntityData

/-- Data as JSON text keeps it. -/
def kept : EntityData Float → EntityData Float
  | .point x y => .point (x.bind Json.kept?) (y.bind Json.kept?)
  | .line p1 p2 => .line p1 p2
  | .circle p1 p2 p3 center radius => .circle p1 p2 p3 center (radius.bind Json.kept?)
  | .polygon points label => .polygon points label
  | .angle p1 vertex p3 degrees big => .angle p1 vertex p3 (degrees.bind Json.kept?) big

def ofJson? (kind : EntityKind) (json : Json) : Option (EntityData Float) :=
  let id (name : String) := (json.member? name).bind Json.id?
  let number (name : String) := (json.member? name).bind Json.number?
  match kind with
  | .point => return .point (← number "x") (← number "y")
  | .line => return .line (← id "p1") (← id "p2")
  | .circle =>
      return .circle (← id "p1") (← id "p2") (← id "p3") (← id "center") (← number "radius")
  | .polygon => do
      let points ← (← json.member? "points").texts?
      return .polygon points ((json.member? "label").bind Json.text?)
  | .angle => do
      let big ← (← json.member? "big").bool?
      return .angle (← id "p1") (← id "p2") (← id "p3") (← number "degrees") big

theorem ofJson?_readBack (data : EntityData Float) :
    ofJson? data.kind (Json.object data.members).readBack = some data.kept := by
  rw [Json.readBack, Json.readBackMembers_eq]
  cases data with
  | polygon points label =>
      cases label <;>
        simp [ofJson?, kind, kept, members, Json.member?, List.lookup, Json.readBack_ofTexts,
          Json.readBack_string, Json.text?]
  | point x y =>
      simp [ofJson?, kind, kept, members, Json.member?, List.lookup, Json.readBack_ofNumber]
  | line p1 p2 =>
      simp [ofJson?, kind, kept, members, Json.member?, List.lookup, Json.readBack_ofId]
  | circle p1 p2 p3 center radius =>
      simp [ofJson?, kind, kept, members, Json.member?, List.lookup, Json.readBack_ofNumber,
        Json.readBack_ofId]
  | angle p1 vertex p3 degrees big =>
      simp [ofJson?, kind, kept, members, Json.member?, List.lookup, Json.readBack_ofNumber,
        Json.readBack_ofId, Json.readBack, Json.bool?]

end EntityData

namespace SceneEntity

def kept (entity : SceneEntity Float) : SceneEntity Float :=
  ⟨entity.id, entity.color.kept, entity.data.kept⟩

def ofJson? (json : Json) : Option (SceneEntity Float) := do
  let title ← (← json.member? "type").text?
  let kind ← EntityKind.all.find? (·.title = title)
  let id ← (← json.member? "id").text?
  let color ← Rgba.ofJson? (← json.member? "color")
  let data ← EntityData.ofJson? kind (← json.member? "data")
  return ⟨id, color, data⟩

theorem ofJson?_readBack (entity : SceneEntity Float) :
    ofJson? entity.json.readBack = some entity.kept := by
  have kind : EntityKind.all.find? (·.title = entity.data.kind.title) = some entity.data.kind := by
    cases entity.data.kind <;> decide
  rw [json, Json.readBack, Json.readBackMembers_eq]
  simp [ofJson?, Json.member?, List.lookup, Json.text?, kind, Json.readBack_string,
    Rgba.ofJson?_readBack, EntityData.ofJson?_readBack, kept]

end SceneEntity

/-! ## Scenes -/

namespace Scene

/-- A scene as JSON text keeps it. -/
def kept (scene : Scene Float) : Scene Float where
  entities := scene.entities.map SceneEntity.kept
  animations := scene.animations
  text := scene.text
  ordered := List.pairwise_map.2 scene.ordered

/-- Read a scene, in which each entity has to stand under its identifier and in its place. -/
def ofJson? (json : Json) : Option (Scene Float) := do
  let entities ← (← (← json.member? "geometry").members?).mapM fun (id, value) =>
    (SceneEntity.ofJson? value).filter (·.id = id)
  let animations ← (← (← json.member? "animations").items?).mapM Json.texts?
  let text ← (← json.member? "text").text?
  if ordered : SceneEntity.Ordered entities then some ⟨entities, animations, text, ordered⟩
  else none

theorem readBack_json (scene : Scene Float) : scene.json.readBack = .object
    [("geometry", .object (scene.entities.map fun entity => (entity.id, entity.json.readBack))),
      ("animations", .array (scene.animations.map .ofTexts)), ("text", .string scene.text)] := by
  have animations : (scene.animations.map Json.ofTexts).map Json.readBack =
      scene.animations.map Json.ofTexts := by
    rw [List.map_map]
    exact List.map_congr_left fun texts _ => Json.readBack_ofTexts texts
  simp [json, Json.readBack, Json.readBackMembers_eq, Json.readBackItems_eq, animations]

/-- Nothing but numbers changes when a scene is written and read. -/
theorem ofJson?_readBack (scene : Scene Float) : ofJson? scene.json.readBack = some scene.kept := by
  have stands (entity : SceneEntity Float) :
      (SceneEntity.ofJson? entity.json.readBack).filter (·.id = entity.id) =
        some entity.kept := by
    simp [SceneEntity.ofJson?_readBack, SceneEntity.kept]
  have entities := Json.mapM_map_of_reads
    (fun entity : SceneEntity Float => (entity.id, entity.json.readBack))
    (fun (id, value) => (SceneEntity.ofJson? value).filter (·.id = id)) stands scene.entities
  have animations := Json.mapM_map_of_reads Json.ofTexts Json.texts? Json.texts?_ofTexts
    scene.animations
  rw [List.map_id'] at animations
  have inOrder : SceneEntity.Ordered (scene.entities.map SceneEntity.kept) := scene.kept.ordered
  rw [readBack_json]
  simp [ofJson?, Json.member?, List.lookup, Json.members?, Json.items?, Json.text?, entities,
    animations, inOrder, kept]

end Scene

end FigureMarkup

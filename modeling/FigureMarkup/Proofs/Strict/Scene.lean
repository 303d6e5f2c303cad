import FigureMarkup.Drawing.Preview
import FigureMarkup.Proofs.Scene.Depiction
import FigureMarkup.Proofs.Strict.Figure
import FigureMarkup.Proofs.Strict.Random

/-!
# Strict scenes

A scene is read off a figure: every entity is looked up, and so are the points that it refers to.
A drawing of the scene writes colors, whose channels are clamped between zero and one. In strict
form what is looked up has to be held. The scene of a well-formed figure always has a result, and
so has its drawing.
-/

namespace FigureMarkup.Strict

open Figure Plane Construction

variable {α : Type} [Scalar α]

/-! ## Scenes -/

section Entries

omit [Scalar α]

/-- The identifier of a point that may be missing from an entity. -/
def pointId (registry : Registry α) : Option PointId → Option (Option String)
  | some id => (sceneId registry (.point id)).map some
  | none => some none

theorem pointId_eq {registry : Registry α} {point : Option PointId}
    (held : ∀ id, point = some id → registry.Holds (.point id)) :
    pointId registry point = some (Scene.pointId registry point) := by
  cases point with
  | none => rfl
  | some id => rw [pointId, sceneId, withHeld_eq (held id rfl)]; rfl

end Entries

/-- The data of an entity and of the points that it refers to, all of which are looked up. -/
def data (registry : Registry α) : EntityRef → Option (EntityData α)
  | .point id => (registry.point? id).map Scene.pointData
  | .line id => do
      let line ← registry.line? id
      return .line (← pointId registry line.p1) (← pointId registry line.p2)
  | .circle id => do
      let circle ← registry.circle? id
      return .circle (← pointId registry circle.p1) (← pointId registry circle.p2)
        (← pointId registry circle.p3) (← pointId registry circle.center)
        (← circleRadius registry circle)
  | .polygon id => do
      let polygon ← registry.polygon? id
      let vertices ← polygon.vertices.mapM fun vertex => sceneId registry (.point vertex)
      return .polygon vertices polygon.label
  | .angle id => do
      let angle ← registry.angle? id
      return .angle (← pointId registry angle.p1) (← pointId registry angle.vertex)
        (← pointId registry angle.p3) angle.degrees angle.big

def entity (registry : Registry α) (entity : EntityRef) : Option (SceneEntity α) := do
  let id ← sceneId registry entity
  let color ← registry.color entity
  let data ← data registry entity
  return ⟨id, color, data⟩

def assemble (registry : Registry α) (animations : List (List String)) (text : String) :
    Option (Scene α) := do
  let entities ← registry.entities.mapM (entity registry)
  return .ofEntities entities animations text

variable {registry : Registry α}

theorem data_eq (formed : WellFormed registry) (entity : EntityRef) :
    data registry entity = Scene.data? registry entity := by
  cases entity with
  | point id => rfl
  | line id =>
      rw [data, Scene.data?]
      cases stored : registry.line? id with
      | none => rfl
      | some line =>
          obtain ⟨a, b, first, second, -, heldA, heldB⟩ := formed.lines id line stored
          have one : pointId registry line.p1 = some (Scene.pointId registry line.p1) :=
            pointId_eq (by simpa [first] using heldA)
          have two : pointId registry line.p2 = some (Scene.pointId registry line.p2) :=
            pointId_eq (by simpa [second] using heldB)
          simp [one, two, Scene.lineData]
  | circle id =>
      rw [data, Scene.data?]
      cases stored : registry.circle? id with
      | none => rfl
      | some circle =>
          have sound := formed.circles id circle stored
          obtain ⟨heldA, heldB, heldC⟩ := held_of_boundary sound
          simp [pointId_eq heldA, pointId_eq heldB, pointId_eq heldC, pointId_eq sound.center,
            circleRadius_eq sound, Scene.circleData]
  | polygon id =>
      rw [data, Scene.data?]
      cases stored : registry.polygon? id with
      | none => rfl
      | some polygon =>
          have sound := formed.polygons id polygon stored
          have ids : polygon.vertices.mapM (fun vertex => sceneId registry (.point vertex)) =
              some (polygon.vertices.map fun vertex => registry.sceneId (.point vertex)) :=
            mapM_eq fun vertex member => withHeld_eq (sound.held vertex member) _
          simp [ids, Scene.polygonData]
  | angle id =>
      rw [data, Scene.data?]
      cases stored : registry.angle? id with
      | none => rfl
      | some angle =>
          obtain ⟨p1, vertex, p3, first, middle, last, -, held⟩ := formed.angles id angle stored
          have known (point : PointId) (member : point ∈ [p1, vertex, p3]) :
              pointId registry (some point) = some (Scene.pointId registry (some point)) :=
            pointId_eq fun id same => Option.some.inj same ▸ held point member
          simp [first, middle, last, known, Scene.angleData]

theorem entity_eq (formed : WellFormed registry) {entity : EntityRef}
    (held : registry.Holds entity) :
    Strict.entity registry entity = Scene.entity? registry entity := by
  rw [Strict.entity, sceneId, withHeld_eq held, data_eq formed, Scene.entity?]
  rfl

/-- If all members of a list have results, collecting them is the same as leaving out none. -/
theorem mapM_eq_filterMap {β γ : Type} {read : β → Option γ} {items : List β}
    (reads : ∀ item ∈ items, ∃ result, read item = some result) :
    items.mapM read = some (items.filterMap read) := by
  induction items with
  | nil => rfl
  | cons item items ih =>
      obtain ⟨⟨result, here⟩, others⟩ := List.forall_mem_cons.1 reads
      rw [List.mapM_cons, here, ih others, List.filterMap_cons_some here]
      rfl

/-- The scene of a well-formed registry always has a result, and it is the usual one. -/
theorem assemble_eq (formed : WellFormed registry) (animations : List (List String))
    (text : String) :
    assemble registry animations text = some (.assemble registry animations text) := by
  have reads (entity : EntityRef) (member : entity ∈ registry.entities) :
      Strict.entity registry entity = Scene.entity? registry entity :=
    entity_eq formed (mem_entities.1 member)
  have shown : registry.entities.mapM (Strict.entity registry) =
      some (registry.entities.filterMap (Scene.entity? registry)) := by
    rw [← List.filterMap_congr reads]
    refine mapM_eq_filterMap fun entity member => ?_
    rw [reads entity member]
    exact Scene.exists_entity? (mem_entities.1 member)
  rw [assemble, shown]
  rfl

/-! ## Drawings -/

def byteOf (channel : Float) : Option UInt8 := do
  let clamped ← clamp channel 0.0 1.0
  return (clamped * 255.0).round.toUInt8

def cssColor (color : Rgba) : Option String := do
  let channels ← [color.red, color.green, color.blue].mapM byteOf
  let alpha ← clamp color.alpha 0.0 1.0
  let texts := channels.map fun channel => toString channel.toNat
  return "rgba(" ++ ",".intercalate (texts ++ [Drawing.number alpha]) ++ ")"

/-- Draw a scene, for which the color of every entity is written. -/
def drawing (settings : Drawing.Settings α) (scene : Scene α) : Option (Drawing α) :=
  (scene.entities.mapM fun entity => cssColor entity.color).map fun _ => .ofScene settings scene

theorem clamp_unit (x : Float) : clamp x 0.0 1.0 = some (Scalar.clamp x 0.0 1.0) :=
  if_pos (by decide +kernel)

theorem cssColor_eq (color : Rgba) : cssColor color = some (Drawing.cssColor color) := by
  simp [cssColor, byteOf, clamp_unit, Drawing.cssColor, Drawing.byteOf]

theorem drawing_eq (settings : Drawing.Settings α) (scene : Scene α) :
    drawing settings scene = some (.ofScene settings scene) := by
  rw [drawing, mapM_eq fun entity _ => cssColor_eq entity.color]
  rfl

end FigureMarkup.Strict

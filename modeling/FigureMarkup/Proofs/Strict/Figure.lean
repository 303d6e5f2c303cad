import FigureMarkup.Proofs.Construction.WellFormed
import FigureMarkup.Proofs.Strict.Color

/-!
# Strict operations on figures

Some operations on a figure have no result for some arguments: no entity has the number that is
looked up, a name that is entered leads to an entity of another kind, or the next color is taken
from a cycle without colors. The operations of a registry go on in these cases all the same. Here
they are repeated in a strict form that gives `none` instead. In a well-formed registry, and for
entities that it holds, the strict form always has a result, and it is the usual one.
-/

namespace FigureMarkup.Strict

open Figure Plane Construction

variable {α : Type}

/-! ## Entities by number -/

/-- What is read or made with an entity, which the registry has to hold. -/
def withHeld {β : Type} (registry : Registry α) (entity : EntityRef) (result : β) : Option β :=
  if registry.Holds entity then some result else none

theorem withHeld_eq {β : Type} {registry : Registry α} {entity : EntityRef}
    (held : registry.Holds entity) (result : β) : withHeld registry entity result = some result :=
  if_pos held

def position (registry : Registry α) (id : PointId) : Option (Option (Vec α)) :=
  withHeld registry (.point id) (registry.position id)

def definingPoints (registry : Registry α) (shape : ShapeRef) : Option (List PointId) :=
  withHeld registry shape.entity (registry.definingPoints shape)

def sceneId (registry : Registry α) (entity : EntityRef) : Option String :=
  withHeld registry entity (registry.sceneId entity)

/-! ## Entities by name -/

/-- Add an entity. Points and circles do not take a color from the cycle. -/
def add (registry : Registry α) (kind : EntityKind) (name : String) : Option (Registry α) :=
  match kind with
  | .point | .circle => some (registry.add kind name)
  | .line | .polygon | .angle =>
      (nextColor registry.colors).map fun _ => registry.add kind name

theorem add_eq (registry : Registry α) (kind : EntityKind) (name : String) :
    add registry kind name = some (registry.add kind name) := by
  cases kind <;> simp [add, nextColor_eq]

/-- Enter a name, and tell which entity has it now and whether this was created. -/
def enterEntity (registry : Registry α) (kind : EntityKind) (name : String) :
    Option (EntityRef × Bool × Registry α) :=
  match registry.index? kind name with
  | some index => some (.ofIndex kind index, false, registry)
  | none =>
      (add registry kind name).map fun later =>
        (.ofIndex kind (registry.count kind), true, later)

/-- Enter a name, under which an entity of the kind has to be found. -/
def enter (registry : Registry α) (kind : EntityKind) (name : String) :
    Option ((Nat × Bool) × Registry α) :=
  match enterEntity registry kind name with
  | none => none
  | some (entity, created, later) =>
      if entity.kind = kind then some ((entity.index, created), later) else none

theorem enter_eq (registry : Registry α) (kind : EntityKind) (name : String) :
    enter registry kind name = some (registry.enter kind name) := by
  rcases registry.enter_eq kind name with ⟨index, known, found⟩ | ⟨fresh, created⟩
  · simp [enter, enterEntity, known, found]
  · simp [enter, enterEntity, fresh, created, add_eq]

def enterPoint (registry : Registry α) (name : String) : Option (PointId × Registry α) :=
  (enter registry .point name).map fun ((index, _), later) => (⟨index⟩, later)

theorem enterPoint_eq (registry : Registry α) (name : String) :
    enterPoint registry name = some (registry.enterPoint name) := by
  rw [enterPoint, enter_eq]
  rfl

def enterPoints (registry : Registry α) : List String → Option (List PointId × Registry α)
  | [] => some ([], registry)
  | name :: names => do
      let (id, registry) ← enterPoint registry name
      let (ids, registry) ← enterPoints registry names
      return (id :: ids, registry)

theorem enterPoints_eq (registry : Registry α) (names : List String) :
    enterPoints registry names = some (registry.enterPoints names) := by
  induction names generalizing registry with
  | nil => rfl
  | cons name names ih => simp [enterPoints, enterPoint_eq, ih, Registry.enterPoints]

/-! ## Measures -/

/-- The place of a point that may be missing from an entity. -/
def optionalPosition (registry : Registry α) : Option PointId → Option (Option (Vec α))
  | some id => position registry id
  | none => some none

theorem position_eq {registry : Registry α} {id : PointId} (held : registry.Holds (.point id)) :
    position registry id = some (registry.position id) :=
  withHeld_eq held _

theorem optionalPosition_eq {registry : Registry α} {point : Option PointId}
    (held : ∀ id, point = some id → registry.Holds (.point id)) :
    optionalPosition registry point = some (point.bind registry.position) := by
  cases point with
  | none => rfl
  | some id => exact position_eq (held id rfl)

theorem positions_eq {registry : Registry α} {ids : List PointId}
    (held : ∀ id ∈ ids, registry.Holds (.point id)) :
    ids.mapM (position registry) = some (ids.map registry.position) :=
  mapM_eq fun id member => position_eq (held id member)

/-- Places that are looked up all together are all known if each of them is. -/
theorem mapM_id_positions (registry : Registry α) (ids : List PointId) :
    (ids.map registry.position).mapM id = registry.positions? ids := by
  induction ids with
  | nil => rfl
  | cons first ids ih =>
      rw [List.map_cons, List.mapM_cons, ih]
      rfl

section Measures

variable [Scalar α]

def distance (registry : Registry α) (a b : PointId) : Option (Option α) := do
  let a ← position registry a
  let b ← position registry b
  return do
    let a ← a
    let b ← b
    return a.distance b

def givenRadius (registry : Registry α) : Option (Radius α) → Option (Option α)
  | none => some none
  | some (.literal value) => some (some value)
  | some (.between a b) => distance registry a b

def circleRadius (registry : Registry α) (circle : Circle α) : Option (Option α) := do
  match ← givenRadius registry circle.radius with
  | some radius => return some radius
  | none => do
      let center ← optionalPosition registry circle.center
      let boundary ← circle.boundary.mapM (position registry)
      return do
        let center ← center
        let boundary ← boundary.findSome? id
        return center.distance boundary

def lineShape (registry : Registry α) (line : Line) : Option (Option (Shape α)) :=
  match line.endpoints? with
  | none => some none
  | some (a, b) => do
      let a ← position registry a
      let b ← position registry b
      return do
        let a ← a
        let b ← b
        return .segment a b

def circleShape (registry : Registry α) (circle : Circle α) : Option (Option (Shape α)) :=
  match circle.center with
  | some center => do
      let center ← position registry center
      let radius ← circleRadius registry circle
      return do
        let center ← center
        let radius ← radius
        return .circle center radius
  | none => do
      let a ← optionalPosition registry circle.p1
      let b ← optionalPosition registry circle.p2
      let c ← optionalPosition registry circle.p3
      return do
        let a ← a
        let b ← b
        let c ← c
        circumcircle a b c defaultTolerance

def polygonShape (registry : Registry α) (polygon : Polygon) : Option (Option (Shape α)) :=
  if polygon.vertices.length < 3 then
    some none
  else do
    let positions ← polygon.vertices.mapM (position registry)
    return (positions.mapM id).map .polygon

def shape (registry : Registry α) : ShapeRef → Option (Option (Shape α))
  | .line id => (registry.line? id).bind (lineShape registry)
  | .circle id => (registry.circle? id).bind (circleShape registry)
  | .polygon id => (registry.polygon? id).bind (polygonShape registry)

def shapes (registry : Registry α) (refs : List ShapeRef) : Option (List (Shape α)) :=
  (refs.mapM (shape registry)).map (List.filterMap id)

/-! ### Measures of sound entities -/

variable {registry : Registry α}

theorem distance_eq {a b : PointId} (heldA : registry.Holds (.point a))
    (heldB : registry.Holds (.point b)) :
    distance registry a b = some (registry.distance? a b) := by
  simp [distance, position_eq heldA, position_eq heldB, Registry.distance?]

theorem givenRadius_eq {circle : Circle α} (sound : CircleSound registry circle) :
    givenRadius registry circle.radius = some (circle.radius.bind registry.radius?) := by
  cases given : circle.radius with
  | none => rfl
  | some radius =>
      cases radius with
      | literal value => rfl
      | between a b =>
          obtain ⟨heldA, heldB⟩ := sound.radius a b given
          exact distance_eq heldA heldB

theorem circleRadius_eq {circle : Circle α} (sound : CircleSound registry circle) :
    circleRadius registry circle = some (registry.circleRadius? circle) := by
  rw [circleRadius, givenRadius_eq sound, Registry.circleRadius?]
  cases circle.radius.bind registry.radius? with
  | some radius => rfl
  | none =>
      have searched : (circle.boundary.map registry.position).findSome? id =
          circle.boundary.findSome? registry.position := by
        rw [List.findSome?_map]
        rfl
      simp [optionalPosition_eq sound.center, positions_eq sound.boundary, searched]

omit [Scalar α] in
theorem lineShape_eq {line : Line} (sound : LineSound registry line) :
    lineShape registry line = some (registry.lineShape? line) := by
  obtain ⟨a, b, first, second, -, heldA, heldB⟩ := sound
  simp [lineShape, Registry.lineShape?, Line.endpoints?, first, second, position_eq heldA,
    position_eq heldB]

omit [Scalar α] in
/-- Each boundary point that a circle has is held. -/
theorem held_of_boundary {circle : Circle α} (sound : CircleSound registry circle) :
    (∀ id, circle.p1 = some id → registry.Holds (.point id)) ∧
      (∀ id, circle.p2 = some id → registry.Holds (.point id)) ∧
      ∀ id, circle.p3 = some id → registry.Holds (.point id) := by
  refine ⟨fun id known => ?_, fun id known => ?_, fun id known => ?_⟩
  · exact sound.boundary id (by simp [Circle.boundary, known])
  · exact sound.boundary id (by simp [Circle.boundary, known])
  · exact sound.boundary id (by simp [Circle.boundary, known])

theorem circleShape_eq {circle : Circle α} (sound : CircleSound registry circle) :
    circleShape registry circle = some (registry.circleShape? circle) := by
  obtain ⟨heldA, heldB, heldC⟩ := held_of_boundary sound
  cases centered : circle.center with
  | some center =>
      have here := position_eq (sound.center center centered)
      simp [circleShape, Registry.circleShape?, centered, here, circleRadius_eq sound]
  | none =>
      simp [circleShape, Registry.circleShape?, centered, optionalPosition_eq heldA,
        optionalPosition_eq heldB, optionalPosition_eq heldC]

omit [Scalar α] in
theorem polygonShape_eq {polygon : Polygon} (sound : PolygonSound registry polygon) :
    polygonShape registry polygon = some (registry.polygonShape? polygon) := by
  unfold polygonShape Registry.polygonShape?
  split
  · rfl
  · rw [positions_eq sound.held, Option.bind_eq_bind, Option.bind_some, mapM_id_positions]
    rfl

theorem shape_eq (formed : WellFormed registry) {ref : ShapeRef}
    (held : registry.Holds ref.entity) : shape registry ref = some (registry.shape? ref) := by
  cases ref with
  | line id =>
      obtain ⟨line, stored⟩ := Registry.holds_line_iff.1 held
      simp [shape, Registry.shape?, stored, lineShape_eq (formed.lines id line stored)]
  | circle id =>
      obtain ⟨circle, stored⟩ := Registry.holds_circle_iff.1 held
      simp [shape, Registry.shape?, stored, circleShape_eq (formed.circles id circle stored)]
  | polygon id =>
      obtain ⟨polygon, stored⟩ := Registry.holds_polygon_iff.1 held
      simp [shape, Registry.shape?, stored, polygonShape_eq (formed.polygons id polygon stored)]

theorem shapes_eq (formed : WellFormed registry) {refs : List ShapeRef}
    (held : ∀ ref ∈ refs, registry.Holds ref.entity) :
    shapes registry refs = some (registry.shapes refs) := by
  rw [shapes, mapM_eq fun ref member => shape_eq formed (held ref member), Option.map_some,
    List.filterMap_map]
  rfl

end Measures

end FigureMarkup.Strict

import FigureMarkup.Proofs.Construction.Interpreting
import FigureMarkup.Proofs.Scene.Depiction
import Mathlib.Data.List.ReduceOption

/-!
# Integrity of scenes

Once all points of a well-formed registry are placed and its angles measured, nothing in its scene
leads nowhere. Every reference to a point finds one that is placed, every angle has a sweep, and
the animation shows only entities of the scene, none of them twice in one step.
-/

namespace FigureMarkup

open Figure Plane Construction

variable {α : Type}

/-- The identifiers of the points that an entity refers to. -/
def EntityData.references : EntityData α → List String
  | .point _ _ => []
  | .line p1 p2 => [p1, p2].reduceOption
  | .circle p1 p2 p3 center _ => [p1, p2, p3, center].reduceOption
  | .polygon points _ => points
  | .angle p1 vertex p3 _ _ => [p1, vertex, p3].reduceOption

namespace Scene

/-- An identifier is that of a point whose two coordinates are known. -/
def Places (scene : Scene α) (id : String) : Prop :=
  ∃ entry x y, scene.find? id = some entry ∧ entry.data = .point (some x) (some y)

/-- Identifiers in a scene lead to entities, those of points to points that are placed, and angles
are measured. -/
structure Intact (scene : Scene α) : Prop where
  references : ∀ entry ∈ scene.entities, ∀ id ∈ entry.data.references, scene.Places id
  measured : ∀ entry ∈ scene.entities, ∀ p1 vertex p3 degrees big,
    entry.data = .angle p1 vertex p3 degrees big → degrees.isSome = true
  shown : ∀ group ∈ scene.animations, group.Nodup ∧
    ∀ id ∈ group, ∃ entry, scene.find? id = some entry

theorem places_iff {scene : Scene α} {id : String} :
    scene.Places id ↔ ∃ position, scene.position? id = some position := by
  constructor
  · rintro ⟨entry, x, y, found, point⟩
    exact ⟨⟨x, y⟩, by simp [Scene.position?, found, point, EntityData.position?]⟩
  · rintro ⟨⟨x, y⟩, here⟩
    obtain ⟨entry, found, point⟩ := Option.bind_eq_some_iff.1 here
    refine ⟨entry, x, y, found, ?_⟩
    unfold EntityData.position? at point
    split at point <;> cases point
    assumption

variable [Scalar α] {registry : Registry α} {scene : Scene α}

omit [Scalar α] in
theorem mem_pointId (points : List (Option PointId)) {id : String}
    (member : id ∈ (points.map (pointId registry)).reduceOption) :
    ∃ point, some point ∈ points ∧ registry.sceneId (.point point) = id := by
  obtain ⟨reference, known, same⟩ := List.mem_map.1 (List.reduceOption_mem_iff.1 member)
  obtain ⟨point, rfl, named⟩ := Option.map_eq_some_iff.1 same
  exact ⟨point, known, named⟩

/-- Entities of a well-formed registry refer to points of it. -/
theorem references_of_data? (formed : WellFormed registry) {entity : EntityRef}
    {data : EntityData α} (shown : data? registry entity = some data) {id : String}
    (member : id ∈ data.references) :
    ∃ point, registry.Holds (.point point) ∧ registry.sceneId (.point point) = id := by
  cases entity with
  | point point =>
      obtain ⟨_, -, rfl⟩ := Option.map_eq_some_iff.1 shown
      cases member
  | line line =>
      obtain ⟨stored, known, rfl⟩ := Option.map_eq_some_iff.1 shown
      obtain ⟨a, b, first, second, -, heldA, heldB⟩ := formed.lines line stored known
      obtain ⟨point, among, same⟩ := mem_pointId [stored.p1, stored.p2] member
      have either : point = a ∨ point = b := by simpa [first, second] using among
      rcases either with rfl | rfl
      · exact ⟨point, heldA, same⟩
      · exact ⟨point, heldB, same⟩
  | circle circle =>
      obtain ⟨stored, known, rfl⟩ := Option.map_eq_some_iff.1 shown
      have sound := formed.circles circle stored known
      obtain ⟨point, among, same⟩ :=
        mem_pointId [stored.p1, stored.p2, stored.p3, stored.center] member
      refine ⟨point, ?_, same⟩
      by_cases centered : stored.center = some point
      · exact sound.center point centered
      · refine sound.boundary point ?_
        simpa [Circle.boundary, eq_comm, or_assoc, centered] using among
  | polygon polygon =>
      obtain ⟨stored, known, rfl⟩ := Option.map_eq_some_iff.1 shown
      obtain ⟨point, among, same⟩ := List.mem_map.1 member
      exact ⟨point, (formed.polygons polygon stored known).held point among, same⟩
  | angle angle =>
      obtain ⟨stored, known, rfl⟩ := Option.map_eq_some_iff.1 shown
      obtain ⟨p1, vertex, p3, first, middle, last, -, held⟩ := formed.angles angle stored known
      obtain ⟨point, among, same⟩ :=
        mem_pointId [stored.p1, stored.vertex, stored.p3] member
      refine ⟨point, held point ?_, same⟩
      simpa [first, middle, last] using among

/-- The scene of a well-formed registry is intact if all points are placed, all angles measured,
and the animation shows entities, none of them twice in one step. -/
theorem Depicts.intact (depicts : scene.Depicts registry) (formed : WellFormed registry)
    (placed : registry.FullyPlaced) (measured : registry.FullyMeasured)
    (shown : ∀ group ∈ scene.animations, group.Nodup ∧ ∀ id ∈ group, Names registry id) :
    scene.Intact := by
  refine ⟨fun entry member id reference => ?_, fun entry member p1 vertex p3 degrees big same => ?_,
    fun group member => ⟨(shown group member).1, fun id known => ?_⟩⟩
  · obtain ⟨entity, -, shown⟩ := depicts.entity entry member
    obtain ⟨-, -, data⟩ := entity?_eq_some_iff.1 shown
    obtain ⟨point, held, rfl⟩ := references_of_data? formed data reference
    obtain ⟨position, here⟩ := placed point held
    exact places_iff.2 ⟨position, (depicts.position? held).trans here⟩
  · obtain ⟨entity, -, shown⟩ := depicts.entity entry member
    obtain ⟨-, -, data⟩ := entity?_eq_some_iff.1 shown
    rw [same] at data
    cases entity with
    | angle id =>
        obtain ⟨angle, stored, known⟩ := Option.map_eq_some_iff.1 data
        cases known
        exact measured id angle stored
    | point id | line id | circle id | polygon id =>
        obtain ⟨_, -, other⟩ := Option.map_eq_some_iff.1 data
        cases other
  · obtain ⟨entity, held, rfl⟩ := (shown group member).2 id known
    obtain ⟨entry, found, -⟩ := depicts.entry entity held
    exact ⟨entry, found⟩

end Scene

end FigureMarkup

import FigureMarkup.Proofs.Construction.WellFormed
import FigureMarkup.Proofs.Scene.Entries
import FigureMarkup.Scene.Assembly

/-!
# What scenes depict

Identifiers tell the entities of a registry apart, since no two of a kind have the same name. So the
scene of a registry has exactly one entry for each entity, and positions in the scene are those of
the registry.
-/

namespace FigureMarkup

open Figure Plane Construction

variable {α : Type}

/-! ## Identifiers -/

/-- The kind and the name of an entity can be read off its identifier. -/
theorem kind_name_inj {first second : EntityKind} {name spelling : String}
    (same : first.name ++ "_" ++ name = second.name ++ "_" ++ spelling) :
    first = second ∧ name = spelling := by
  have letters : first.name.toList ++ '_' :: name.toList =
      second.name.toList ++ '_' :: spelling.toList := by
    simpa using congrArg String.toList same
  cases first <;> cases second <;> simp [EntityKind.name] at letters <;>
    exact ⟨rfl, String.toList_inj.1 letters⟩

theorem eq_of_sceneId_eq {registry : Registry α} (indexed : Indexed registry)
    {first second : EntityRef} (held : registry.Holds first) (alsoHeld : registry.Holds second)
    (same : registry.sceneId first = registry.sceneId second) : first = second := by
  obtain ⟨name, named⟩ := Registry.holds_iff_name.1 held
  obtain ⟨spelling, alsoNamed⟩ := Registry.holds_iff_name.1 alsoHeld
  rw [Registry.sceneId, Registry.sceneId, named, alsoNamed] at same
  obtain ⟨kind, spelled⟩ := kind_name_inj same
  have found := indexed.found named
  rw [kind, show name = spelling from spelled, indexed.found alsoNamed, Option.some.injEq] at found
  rw [← EntityRef.ofIndex_kind_index first, ← EntityRef.ofIndex_kind_index second, kind, found]

/-! ## Entities in order -/

theorem mem_entities {registry : Registry α} {entity : EntityRef} :
    entity ∈ registry.entities ↔ registry.Holds entity := by
  have listed (kind : EntityKind) : kind ∈ EntityKind.all := by cases kind <;> decide
  simp only [Registry.entities, List.mem_flatMap, List.mem_map, List.mem_range, listed, true_and]
  constructor
  · rintro ⟨kind, index, below, rfl⟩
    cases kind <;> exact below
  · exact fun held => ⟨entity.kind, entity.index, held, entity.ofIndex_kind_index⟩

theorem nodup_entities (registry : Registry α) : registry.entities.Nodup := by
  refine List.nodup_flatMap.2 ⟨fun kind _ => ?_, ?_⟩
  · refine (List.nodup_range).map fun first second same => ?_
    cases kind <;> simpa [EntityRef.ofIndex] using same
  · have distinct : EntityKind.all.Nodup := by decide
    refine distinct.imp fun {first second} apart entity member other => apart ?_
    obtain ⟨index, -, rfl⟩ := List.mem_map.1 member
    obtain ⟨_, -, same⟩ := List.mem_map.1 other
    have kinds := congrArg EntityRef.kind same
    cases first <;> cases second <;> first | rfl | cases kinds

theorem length_entities (registry : Registry α) : registry.entities.length = registry.size := by
  simp [Registry.entities, Registry.size, EntityKind.all, Nat.add_assoc]

namespace Scene

variable [Scalar α] {registry : Registry α}

/-! ## Entries -/

theorem entity?_eq_some_iff {entity : EntityRef} {entry : SceneEntity α} :
    entity? registry entity = some entry ↔ entry.id = registry.sceneId entity ∧
      registry.color entity = some entry.color ∧ data? registry entity = some entry.data := by
  simp only [entity?, Option.bind_eq_bind, Option.bind_eq_some_iff, Option.pure_def]
  constructor
  · rintro ⟨color, known, data, shown, same⟩
    cases same
    exact ⟨rfl, known, shown⟩
  · rintro ⟨same, known, shown⟩
    exact ⟨_, known, _, shown, by rw [← same]⟩

theorem exists_entity? {entity : EntityRef} (held : registry.Holds entity) :
    ∃ entry, entity? registry entity = some entry := by
  cases entity with
  | point id =>
      obtain ⟨point, stored⟩ := Registry.holds_point_iff.1 held
      simp [entity?, Registry.color, data?, stored]
  | line id =>
      obtain ⟨line, stored⟩ := Registry.holds_line_iff.1 held
      simp [entity?, Registry.color, data?, stored]
  | circle id =>
      obtain ⟨circle, stored⟩ := Registry.holds_circle_iff.1 held
      simp [entity?, Registry.color, data?, stored]
  | polygon id =>
      obtain ⟨polygon, stored⟩ := Registry.holds_polygon_iff.1 held
      simp [entity?, Registry.color, data?, stored]
  | angle id =>
      obtain ⟨angle, stored⟩ := Registry.holds_angle_iff.1 held
      simp [entity?, Registry.color, data?, stored]

theorem map_id_entries (registry : Registry α) :
    (registry.entities.filterMap (entity? registry)).map (·.id) =
      registry.entities.map registry.sceneId := by
  rw [List.map_filterMap, ← List.filterMap_eq_map]
  refine List.filterMap_congr fun entity member => ?_
  obtain ⟨entry, shown⟩ := exists_entity? (mem_entities.1 member)
  rw [shown, Option.map_some, (entity?_eq_some_iff.1 shown).1]
  rfl

omit [Scalar α] in
theorem nodup_sceneIds (indexed : Indexed registry) :
    (registry.entities.map registry.sceneId).Nodup :=
  (nodup_entities registry).map_on fun _ member _ alsoMember =>
    eq_of_sceneId_eq indexed (mem_entities.1 member) (mem_entities.1 alsoMember)

/-- A scene depicts a registry if its entries are those of the entities: each entity has its own
identifier, and under that its own entry, and there are no other entries. -/
structure Depicts (scene : Scene α) (registry : Registry α) : Prop where
  apart : ∀ first second, registry.Holds first → registry.Holds second →
    registry.sceneId first = registry.sceneId second → first = second
  count : scene.entities.length = registry.size
  entry : ∀ entity, registry.Holds entity → ∃ entry, scene.find? (registry.sceneId entity) =
    some entry ∧ entry.id = registry.sceneId entity ∧ entity? registry entity = some entry
  entity : ∀ entry ∈ scene.entities,
    ∃ entity, registry.Holds entity ∧ entity? registry entity = some entry

theorem depicts_assemble (indexed : Indexed registry) (animations : List (List String))
    (text : String) : (assemble registry animations text).Depicts registry := by
  have distinct := nodup_sceneIds indexed
  rw [← map_id_entries] at distinct
  have arranged : (assemble registry animations text).entities.Perm
      (registry.entities.filterMap (entity? registry)) :=
    SceneEntity.arrange_perm distinct
  have entries (entry : SceneEntity α) : entry ∈ (assemble registry animations text).entities ↔
      ∃ entity, registry.Holds entity ∧ entity? registry entity = some entry := by
    simp [arranged.mem_iff, List.mem_filterMap, mem_entities]
  refine ⟨fun _ _ => eq_of_sceneId_eq indexed, ?_, fun entity held => ?_,
    fun entry => (entries entry).1⟩
  · have counted := congrArg List.length (map_id_entries registry)
    rw [List.length_map, List.length_map] at counted
    rw [arranged.length_eq, counted, length_entities]
  · obtain ⟨entry, shown⟩ := exists_entity? held
    have same := (entity?_eq_some_iff.1 shown).1
    exact ⟨entry, find?_eq_some_iff.2 ⟨(entries entry).2 ⟨entity, held, shown⟩, same⟩, same, shown⟩

omit [Scalar α] in
theorem position?_pointData (point : Point α) : (pointData point).position? = point.position := by
  obtain ⟨name, x, y⟩ := point
  cases x <;> cases y <;> rfl

namespace Depicts

variable {scene : Scene α}

/-- A point is in the scene where it is in the registry. -/
theorem position? (depicts : scene.Depicts registry) {id : PointId}
    (held : registry.Holds (.point id)) :
    scene.position? (registry.sceneId (.point id)) = registry.position id := by
  obtain ⟨entry, found, -, shown⟩ := depicts.entry _ held
  obtain ⟨point, stored⟩ := Registry.holds_point_iff.1 held
  obtain rfl : _ = entry := by simpa [entity?, Registry.color, data?, stored] using shown
  rw [Scene.position?, found, Registry.position, stored]
  exact position?_pointData point

/-- A reference to a point leads to its place. -/
theorem place_pointId (depicts : scene.Depicts registry) {point : Option PointId}
    (held : ∀ id, point = some id → registry.Holds (.point id)) :
    (pointId registry point).bind scene.position? = point.bind registry.position := by
  cases point with
  | none => rfl
  | some id => exact depicts.position? (held id rfl)

end Depicts

end Scene

end FigureMarkup

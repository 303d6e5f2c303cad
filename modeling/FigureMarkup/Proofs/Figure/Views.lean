import FigureMarkup.Figure.Measure
import Mathlib.Logic.Basic

/-!
# What registries hold

A registry is seen through its entities by number, its names, and the points that its shapes are
made of. This module says what entering a name and changing an entity do to each of these views,
so that nothing else has to open a registry.
-/

namespace FigureMarkup.Figure

open Plane

variable {α : Type}

namespace Registry

/-- A registry has an entity with this kind and number. -/
def Holds (registry : Registry α) (entity : EntityRef) : Prop :=
  entity.index < registry.count entity.kind

instance (registry : Registry α) (entity : EntityRef) : Decidable (registry.Holds entity) :=
  inferInstanceAs (Decidable (_ < _))

theorem holds_point_iff {registry : Registry α} {id : PointId} :
    registry.Holds (.point id) ↔ ∃ point, registry.point? id = some point := by
  simp [Holds, EntityRef.index, EntityRef.kind, count, point?, ← Option.isSome_iff_exists]

theorem holds_line_iff {registry : Registry α} {id : LineId} :
    registry.Holds (.line id) ↔ ∃ line, registry.line? id = some line := by
  simp [Holds, EntityRef.index, EntityRef.kind, count, line?, ← Option.isSome_iff_exists]

theorem holds_circle_iff {registry : Registry α} {id : CircleId} :
    registry.Holds (.circle id) ↔ ∃ circle, registry.circle? id = some circle := by
  simp [Holds, EntityRef.index, EntityRef.kind, count, circle?, ← Option.isSome_iff_exists]

theorem holds_polygon_iff {registry : Registry α} {id : PolygonId} :
    registry.Holds (.polygon id) ↔ ∃ polygon, registry.polygon? id = some polygon := by
  simp [Holds, EntityRef.index, EntityRef.kind, count, polygon?, ← Option.isSome_iff_exists]

theorem holds_angle_iff {registry : Registry α} {id : AngleId} :
    registry.Holds (.angle id) ↔ ∃ angle, registry.angle? id = some angle := by
  simp [Holds, EntityRef.index, EntityRef.kind, count, angle?, ← Option.isSome_iff_exists]

/-- The entities that a registry has are those with a name. -/
theorem holds_iff_name {registry : Registry α} {entity : EntityRef} :
    registry.Holds entity ↔ ∃ name, registry.name entity = some name := by
  rw [← Option.isSome_iff_exists]
  cases entity with
  | point id => simp [holds_point_iff, Registry.name, ← Option.isSome_iff_exists]
  | line id => simp [holds_line_iff, Registry.name, ← Option.isSome_iff_exists]
  | circle id => simp [holds_circle_iff, Registry.name, ← Option.isSome_iff_exists]
  | polygon id => simp [holds_polygon_iff, Registry.name, ← Option.isSome_iff_exists]
  | angle id => simp [holds_angle_iff, Registry.name, ← Option.isSome_iff_exists]

/-! ## Entering names -/

/-- The entity that entering a new name of some kind creates. -/
abbrev newest (registry : Registry α) (kind : EntityKind) : EntityRef :=
  .ofIndex kind (registry.count kind)

theorem eq_newest_iff {registry : Registry α} {kind : EntityKind} {entity : EntityRef} :
    entity = registry.newest kind ↔ entity.kind = kind ∧ entity.index = registry.count kind := by
  constructor
  · rintro rfl
    simp
  · rintro ⟨rfl, equal⟩
    rw [newest, ← equal, EntityRef.ofIndex_kind_index]

theorem count_add (registry : Registry α) (kind other : EntityKind) (name : String) :
    (registry.add kind name).count other =
      registry.count other + if other = kind then 1 else 0 := by
  cases kind <;> cases other <;>
    simp [add, addPoint, addLine, addCircle, addPolygon, addAngle, note, advanceColors, count]

theorem names_add (registry : Registry α) (kind : EntityKind) (name : String) :
    (registry.add kind name).names =
      ((kind, Text.lower name), registry.count kind) :: registry.names := by
  cases kind <;> rfl

theorem index?_note (registry : Registry α) (kind other : EntityKind) (name sought : String)
    (index : Nat) :
    (registry.note kind name index).index? other sought =
      if other = kind ∧ Text.lower sought = Text.lower name then some index
      else registry.index? other sought := by
  rw [index?, note, List.lookup_cons]
  by_cases same : other = kind ∧ Text.lower sought = Text.lower name
  · simp [same]
  · have differs : ((other, Text.lower sought) == (kind, Text.lower name)) = false := by
      simpa using same
    rw [differs, if_neg same]
    rfl

theorem index?_add (registry : Registry α) (kind other : EntityKind) (name sought : String) :
    (registry.add kind name).index? other sought =
      if other = kind ∧ Text.lower sought = Text.lower name then some (registry.count kind)
      else registry.index? other sought := by
  cases kind <;> exact index?_note ..

/-- A name finds the same entity in any case of its letters. -/
theorem index?_congr (registry : Registry α) (kind : EntityKind) {name spelling : String}
    (same : Text.lower spelling = Text.lower name) :
    registry.index? kind spelling = registry.index? kind name := by
  rw [index?, index?, same]

/-- What a name finds stays found when a new name is entered. -/
theorem index?_add_of_known {registry : Registry α} {kind other : EntityKind}
    {name sought : String} {index : Nat} (fresh : registry.index? kind name = none)
    (known : registry.index? other sought = some index) :
    (registry.add kind name).index? other sought = some index := by
  rw [index?_add, if_neg, known]
  rintro ⟨rfl, same⟩
  rw [registry.index?_congr other same, fresh] at known
  cases known

theorem name_add (registry : Registry α) (kind : EntityKind) (name : String)
    (entity : EntityRef) :
    (registry.add kind name).name entity =
      if entity = registry.newest kind then some name else registry.name entity := by
  cases kind <;> rcases entity with ⟨⟨i⟩⟩ | ⟨⟨i⟩⟩ | ⟨⟨i⟩⟩ | ⟨⟨i⟩⟩ | ⟨⟨i⟩⟩ <;>
    simp [add, addPoint, addLine, addCircle, addPolygon, addAngle, note, advanceColors, count,
      Registry.name, EntityRef.ofIndex, point?, line?, circle?, polygon?, angle?,
      Array.getElem?_push] <;>
    split <;> simp [Point.new, Line.new, Circle.new, Polygon.new, Angle.new]

theorem holds_add {registry : Registry α} {kind : EntityKind} {name : String}
    {entity : EntityRef} :
    (registry.add kind name).Holds entity ↔
      registry.Holds entity ∨ entity = registry.newest kind := by
  rw [Holds, count_add, eq_newest_iff]
  by_cases same : entity.kind = kind
  · subst same
    simp [Holds]
    omega
  · simp [same, Holds]

theorem point?_add (registry : Registry α) (kind : EntityKind) (name : String) (id : PointId) :
    (registry.add kind name).point? id =
      if .point id = registry.newest kind then some (.new name registry.colors.palette.point)
      else registry.point? id := by
  cases kind <;> rcases id with ⟨i⟩ <;>
    simp [add, addPoint, addLine, addCircle, addPolygon, addAngle, note, advanceColors, count,
      EntityRef.ofIndex, point?, Array.getElem?_push]

theorem line?_add (registry : Registry α) (kind : EntityKind) (name : String) (id : LineId) :
    (registry.add kind name).line? id =
      if .line id = registry.newest kind then some (.new name registry.colors.color)
      else registry.line? id := by
  cases kind <;> rcases id with ⟨i⟩ <;>
    simp [add, addPoint, addLine, addCircle, addPolygon, addAngle, note, advanceColors, count,
      EntityRef.ofIndex, line?, Array.getElem?_push]

theorem circle?_add (registry : Registry α) (kind : EntityKind) (name : String)
    (id : CircleId) :
    (registry.add kind name).circle? id =
      if .circle id = registry.newest kind then some (.new name registry.colors.palette.circle)
      else registry.circle? id := by
  cases kind <;> rcases id with ⟨i⟩ <;>
    simp [add, addPoint, addLine, addCircle, addPolygon, addAngle, note, advanceColors, count,
      EntityRef.ofIndex, circle?, Array.getElem?_push]

theorem polygon?_add (registry : Registry α) (kind : EntityKind) (name : String)
    (id : PolygonId) :
    (registry.add kind name).polygon? id =
      if .polygon id = registry.newest kind then some (.new name registry.colors.color)
      else registry.polygon? id := by
  cases kind <;> rcases id with ⟨i⟩ <;>
    simp [add, addPoint, addLine, addCircle, addPolygon, addAngle, note, advanceColors, count,
      EntityRef.ofIndex, polygon?, Array.getElem?_push]

theorem angle?_add (registry : Registry α) (kind : EntityKind) (name : String) (id : AngleId) :
    (registry.add kind name).angle? id =
      if .angle id = registry.newest kind then some (.new name registry.colors.color)
      else registry.angle? id := by
  cases kind <;> rcases id with ⟨i⟩ <;>
    simp [add, addPoint, addLine, addCircle, addPolygon, addAngle, note, advanceColors, count,
      EntityRef.ofIndex, angle?, Array.getElem?_push]

theorem point?_add_of_ne {kind : EntityKind} (other : kind ≠ .point) (registry : Registry α)
    (name : String) (id : PointId) : (registry.add kind name).point? id = registry.point? id := by
  cases kind <;> first | contradiction | rfl

theorem line?_add_of_ne {kind : EntityKind} (other : kind ≠ .line) (registry : Registry α)
    (name : String) (id : LineId) : (registry.add kind name).line? id = registry.line? id := by
  cases kind <;> first | contradiction | rfl

theorem circle?_add_of_ne {kind : EntityKind} (other : kind ≠ .circle) (registry : Registry α)
    (name : String) (id : CircleId) :
    (registry.add kind name).circle? id = registry.circle? id := by
  cases kind <;> first | contradiction | rfl

theorem polygon?_add_of_ne {kind : EntityKind} (other : kind ≠ .polygon) (registry : Registry α)
    (name : String) (id : PolygonId) :
    (registry.add kind name).polygon? id = registry.polygon? id := by
  cases kind <;> first | contradiction | rfl

theorem angle?_add_of_ne {kind : EntityKind} (other : kind ≠ .angle) (registry : Registry α)
    (name : String) (id : AngleId) : (registry.add kind name).angle? id = registry.angle? id := by
  cases kind <;> first | contradiction | rfl

theorem not_holds_newest (registry : Registry α) (kind : EntityKind) :
    ¬ registry.Holds (registry.newest kind) := by
  simp [Holds]

theorem point?_newest (registry : Registry α) :
    registry.point? ⟨registry.count .point⟩ = none := by
  simp [point?, count]

theorem name_newest (registry : Registry α) (kind : EntityKind) :
    registry.name (registry.newest kind) = none := by
  cases kind <;>
    simp [EntityRef.ofIndex, Registry.name, count, point?, line?, circle?, polygon?, angle?]

/-- Only shapes that the registry has are made of points. -/
theorem definingPoints_of_not_holds {registry : Registry α} {shape : ShapeRef}
    (absent : ¬ registry.Holds shape.entity) : registry.definingPoints shape = [] := by
  cases shape with
  | line id =>
      rw [ShapeRef.entity, holds_line_iff, ← Option.isSome_iff_exists,
        Option.not_isSome_iff_eq_none] at absent
      simp [definingPoints, absent]
  | circle id =>
      rw [ShapeRef.entity, holds_circle_iff, ← Option.isSome_iff_exists,
        Option.not_isSome_iff_eq_none] at absent
      simp [definingPoints, absent]
  | polygon id =>
      rw [ShapeRef.entity, holds_polygon_iff, ← Option.isSome_iff_exists,
        Option.not_isSome_iff_eq_none] at absent
      simp [definingPoints, absent]

/-- A shape that a name has just created is not made of any points yet. -/
theorem definingPoints_add (registry : Registry α) (kind : EntityKind) (name : String)
    (shape : ShapeRef) :
    (registry.add kind name).definingPoints shape = registry.definingPoints shape := by
  by_cases created : shape.entity = registry.newest kind
  · have absent : ¬ registry.Holds shape.entity := created ▸ registry.not_holds_newest kind
    rw [definingPoints_of_not_holds absent]
    cases shape <;> simp only [ShapeRef.entity] at created <;>
      simp [definingPoints, line?_add, circle?_add, polygon?_add, created, Line.new,
        Line.endpoints, Circle.new, Circle.boundary, Polygon.new]
  · cases shape <;> simp only [ShapeRef.entity] at created <;>
      simp [definingPoints, line?_add, circle?_add, polygon?_add, created]

/-- What a name finds after it was entered, and what entering it left. -/
theorem enter_eq (registry : Registry α) (kind : EntityKind) (name : String) :
    (∃ index, registry.index? kind name = some index ∧
        registry.enter kind name = ((index, false), registry)) ∨
      (registry.index? kind name = none ∧
        registry.enter kind name =
          ((registry.count kind, true), registry.add kind name)) := by
  cases found : registry.index? kind name <;> simp [enter, found]

/-! ## Changing entities -/

theorem point?_modifyPoint (registry : Registry α) (id other : PointId)
    (change : Point α → Point α) :
    (registry.modifyPoint id change).point? other =
      (registry.point? other).map fun point => if id = other then change point else point := by
  rcases id with ⟨i⟩
  rcases other with ⟨j⟩
  by_cases same : i = j <;> simp [modifyPoint, point?, Array.getElem?_modify, same]

theorem line?_modifyLine (registry : Registry α) (id other : LineId)
    (change : Line → Line) :
    (registry.modifyLine id change).line? other =
      (registry.line? other).map fun line => if id = other then change line else line := by
  rcases id with ⟨i⟩
  rcases other with ⟨j⟩
  by_cases same : i = j <;> simp [modifyLine, line?, Array.getElem?_modify, same]

theorem circle?_modifyCircle (registry : Registry α) (id other : CircleId)
    (change : Circle α → Circle α) :
    (registry.modifyCircle id change).circle? other =
      (registry.circle? other).map fun circle => if id = other then change circle else circle := by
  rcases id with ⟨i⟩
  rcases other with ⟨j⟩
  by_cases same : i = j <;> simp [modifyCircle, circle?, Array.getElem?_modify, same]

theorem polygon?_modifyPolygon (registry : Registry α) (id other : PolygonId)
    (change : Polygon → Polygon) :
    (registry.modifyPolygon id change).polygon? other =
      (registry.polygon? other).map fun polygon =>
        if id = other then change polygon else polygon := by
  rcases id with ⟨i⟩
  rcases other with ⟨j⟩
  by_cases same : i = j <;> simp [modifyPolygon, polygon?, Array.getElem?_modify, same]

theorem angle?_modifyAngle (registry : Registry α) (id other : AngleId)
    (change : Angle α → Angle α) :
    (registry.modifyAngle id change).angle? other =
      (registry.angle? other).map fun angle => if id = other then change angle else angle := by
  rcases id with ⟨i⟩
  rcases other with ⟨j⟩
  by_cases same : i = j <;> simp [modifyAngle, angle?, Array.getElem?_modify, same]

theorem definingPoints_modifyLine (registry : Registry α) (id : LineId) {change : Line → Line}
    (keeps : ∀ line, (change line).endpoints = line.endpoints) (shape : ShapeRef) :
    (registry.modifyLine id change).definingPoints shape = registry.definingPoints shape := by
  cases shape with
  | line other =>
      rw [definingPoints, line?_modifyLine, Option.map_map]
      congr 2
      funext line
      simp [apply_ite, keeps]
  | _ => rfl

theorem definingPoints_modifyCircle (registry : Registry α) (id : CircleId)
    {change : Circle α → Circle α}
    (keeps : ∀ circle, (change circle).boundary = circle.boundary) (shape : ShapeRef) :
    (registry.modifyCircle id change).definingPoints shape = registry.definingPoints shape := by
  cases shape with
  | circle other =>
      rw [definingPoints, circle?_modifyCircle, Option.map_map]
      congr 2
      funext circle
      simp [apply_ite, keeps]
  | _ => rfl

theorem definingPoints_modifyPolygon (registry : Registry α) (id : PolygonId)
    {change : Polygon → Polygon}
    (keeps : ∀ polygon, (change polygon).vertices = polygon.vertices) (shape : ShapeRef) :
    (registry.modifyPolygon id change).definingPoints shape = registry.definingPoints shape := by
  cases shape with
  | polygon other =>
      rw [definingPoints, polygon?_modifyPolygon, Option.map_map]
      congr 2
      funext polygon
      simp [apply_ite, keeps]
  | _ => rfl

/-- Two registries have entities of the same names, and find the same ones by them. -/
structure SameNames (first second : Registry α) : Prop where
  count : ∀ kind, first.count kind = second.count kind
  names : first.names = second.names
  name : ∀ entity, first.name entity = second.name entity

theorem SameNames.index? {first second : Registry α} (same : SameNames first second)
    (kind : EntityKind) (name : String) : first.index? kind name = second.index? kind name := by
  rw [Registry.index?, Registry.index?, same.names]

theorem SameNames.refl (registry : Registry α) : SameNames registry registry :=
  ⟨fun _ => rfl, rfl, fun _ => rfl⟩

theorem SameNames.trans {first second third : Registry α} (one : SameNames first second)
    (two : SameNames second third) : SameNames first third where
  count kind := (one.count kind).trans (two.count kind)
  names := one.names.trans two.names
  name entity := (one.name entity).trans (two.name entity)

theorem SameNames.holds_iff {first second : Registry α} (same : SameNames first second)
    {entity : EntityRef} : first.Holds entity ↔ second.Holds entity := by
  rw [Holds, Holds, same.count]

theorem sameNames_modifyPoint (registry : Registry α) (id : PointId) {change : Point α → Point α}
    (keeps : ∀ point, (change point).name = point.name) :
    SameNames (registry.modifyPoint id change) registry where
  count kind := by cases kind <;> simp [modifyPoint, count]
  names := rfl
  name entity := by
    cases entity with
    | point other =>
        rw [Registry.name, point?_modifyPoint, Option.map_map]
        exact congrArg (Option.map · _) (funext fun point => by simp [apply_ite, keeps])
    | _ => rfl

theorem sameNames_modifyLine (registry : Registry α) (id : LineId) {change : Line → Line}
    (keeps : ∀ line, (change line).name = line.name) :
    SameNames (registry.modifyLine id change) registry where
  count kind := by cases kind <;> simp [modifyLine, count]
  names := rfl
  name entity := by
    cases entity with
    | line other =>
        rw [Registry.name, line?_modifyLine, Option.map_map]
        exact congrArg (Option.map · _) (funext fun line => by simp [apply_ite, keeps])
    | _ => rfl

theorem sameNames_modifyCircle (registry : Registry α) (id : CircleId)
    {change : Circle α → Circle α}
    (keeps : ∀ circle, (change circle).name = circle.name) :
    SameNames (registry.modifyCircle id change) registry where
  count kind := by cases kind <;> simp [modifyCircle, count]
  names := rfl
  name entity := by
    cases entity with
    | circle other =>
        rw [Registry.name, circle?_modifyCircle, Option.map_map]
        exact congrArg (Option.map · _) (funext fun circle => by simp [apply_ite, keeps])
    | _ => rfl

theorem sameNames_modifyPolygon (registry : Registry α) (id : PolygonId)
    {change : Polygon → Polygon}
    (keeps : ∀ polygon, (change polygon).name = polygon.name) :
    SameNames (registry.modifyPolygon id change) registry where
  count kind := by cases kind <;> simp [modifyPolygon, count]
  names := rfl
  name entity := by
    cases entity with
    | polygon other =>
        rw [Registry.name, polygon?_modifyPolygon, Option.map_map]
        exact congrArg (Option.map · _) (funext fun polygon => by simp [apply_ite, keeps])
    | _ => rfl

theorem sameNames_modifyAngle (registry : Registry α) (id : AngleId) {change : Angle α → Angle α}
    (keeps : ∀ angle, (change angle).name = angle.name) :
    SameNames (registry.modifyAngle id change) registry where
  count kind := by cases kind <;> simp [modifyAngle, count]
  names := rfl
  name entity := by
    cases entity with
    | angle other =>
        rw [Registry.name, angle?_modifyAngle, Option.map_map]
        exact congrArg (Option.map · _) (funext fun angle => by simp [apply_ite, keeps])
    | _ => rfl

theorem sameNames_setColor (registry : Registry α) (color : Rgba) (entity : EntityRef) :
    SameNames (registry.setColor color entity) registry := by
  cases entity with
  | point id => exact registry.sameNames_modifyPoint id fun _ => rfl
  | line id => exact registry.sameNames_modifyLine id fun _ => rfl
  | circle id => exact registry.sameNames_modifyCircle id fun _ => rfl
  | polygon id => exact registry.sameNames_modifyPolygon id fun _ => rfl
  | angle id => exact registry.sameNames_modifyAngle id fun _ => rfl

theorem position_setColor (registry : Registry α) (color : Rgba) (entity : EntityRef)
    (id : PointId) : (registry.setColor color entity).position id = registry.position id := by
  cases entity with
  | point painted =>
      rw [position, setColor, point?_modifyPoint, position]
      cases registry.point? id with
      | none => rfl
      | some point =>
          rw [Option.map_some, Option.bind_some, Option.bind_some]
          split <;> rfl
  | line | circle | polygon | angle => rfl

/-! ## Identifiers in scenes -/

/-- All entities of a registry are in another one too, with the same identifiers. -/
def KeepsIds (before after : Registry α) : Prop :=
  ∀ entity, before.Holds entity → after.Holds entity ∧ after.sceneId entity = before.sceneId entity

theorem keepsIds_of_name {before after : Registry α}
    (keeps : ∀ {entity name}, before.name entity = some name → after.name entity = some name) :
    KeepsIds before after := by
  intro entity held
  obtain ⟨name, named⟩ := holds_iff_name.1 held
  have later := keeps named
  exact ⟨holds_iff_name.2 ⟨name, later⟩, by rw [sceneId, sceneId, named, later]⟩

theorem SameNames.sceneId {first second : Registry α} (same : SameNames first second)
    (entity : EntityRef) : first.sceneId entity = second.sceneId entity := by
  rw [Registry.sceneId, Registry.sceneId, same.name]

/-! ## Finished figures -/

/-- Every point of a registry has a place. -/
def FullyPlaced (registry : Registry α) : Prop :=
  ∀ id, registry.Holds (.point id) → ∃ position, registry.position id = some position

/-- Every angle of a registry is measured. -/
def FullyMeasured (registry : Registry α) : Prop :=
  ∀ id angle, registry.angle? id = some angle → angle.degrees.isSome = true

end Registry

end FigureMarkup.Figure

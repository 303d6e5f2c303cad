import FigureMarkup.Proofs.Placement.Frame
import FigureMarkup.Proofs.Scene.Depiction

/-!
# Scenes that differ in numbers

Placing the points of a figure in one way or another gives scenes that are alike. They have the same
entities under the same identifiers, with the same colors and references. Only places, radii and
sweeps differ, and the arms of an angle may have changed places.
-/

namespace FigureMarkup

open Construction Figure Placement

variable {α : Type}

/-- Entities that differ in numbers at most, or in the order of the arms of an angle. -/
inductive EntityData.Alike : EntityData α → EntityData α → Prop
  | point (x y otherX otherY : Option α) : Alike (.point x y) (.point otherX otherY)
  | line (p1 p2 : Option String) : Alike (.line p1 p2) (.line p1 p2)
  | circle (p1 p2 p3 center : Option String) (radius other : Option α) :
      Alike (.circle p1 p2 p3 center radius) (.circle p1 p2 p3 center other)
  | polygon (points : List String) (label : Option String) :
      Alike (.polygon points label) (.polygon points label)
  | angle (p1 vertex p3 : Option String) (degrees other : Option α) (big : Bool) :
      Alike (.angle p1 vertex p3 degrees big) (.angle p1 vertex p3 other big)
  | exchanged (p1 vertex p3 : Option String) (degrees other : Option α) (big : Bool) :
      Alike (.angle p1 vertex p3 degrees big) (.angle p3 vertex p1 other big)

theorem EntityData.Alike.symm {first second : EntityData α} (alike : Alike first second) :
    Alike second first := by
  cases alike <;> constructor

theorem EntityData.Alike.trans {first second third : EntityData α} (one : Alike first second)
    (two : Alike second third) : Alike first third := by
  cases one <;> cases two <;> constructor

structure SceneEntity.Alike (first second : SceneEntity α) : Prop where
  id : first.id = second.id
  color : first.color = second.color
  data : first.data.Alike second.data

theorem SceneEntity.Alike.symm {first second : SceneEntity α} (alike : Alike first second) :
    Alike second first :=
  ⟨alike.id.symm, alike.color.symm, alike.data.symm⟩

theorem SceneEntity.Alike.trans {first second third : SceneEntity α} (one : Alike first second)
    (two : Alike second third) : Alike first third :=
  ⟨one.id.trans two.id, one.color.trans two.color, one.data.trans two.data⟩

namespace Scene

/-- Scenes whose entities differ in numbers at most, one by one, or in the order of the arms of an
angle. -/
structure Alike (first second : Scene α) : Prop where
  entities : List.Forall₂ SceneEntity.Alike first.entities second.entities
  animations : first.animations = second.animations
  text : first.text = second.text

variable {before after another : Registry α}

/-! ## Placing a figure -/

theorem pointId_frame (frame : Frame before after) (point : Option PointId) :
    pointId after point = pointId before point := by
  cases point with
  | none => rfl
  | some id => exact congrArg some (frame.sameNames.sceneId (.point id))

theorem entities_frame (frame : Frame before after) : after.entities = before.entities := by
  rw [Registry.entities, Registry.entities, funext frame.count]

theorem color_frame (frame : Frame before after) {entity : EntityRef} {color : Rgba}
    (known : before.color entity = some color) : after.color entity = some color := by
  cases entity with
  | point id =>
      obtain ⟨old, stored, rfl⟩ := Option.map_eq_some_iff.1 known
      obtain ⟨now, found, stays⟩ := frame.point id old stored
      rw [Registry.color, found, Option.map_some, stays.color]
  | line id => rwa [Registry.color, frame.line?]
  | circle id => rwa [Registry.color, frame.circle?]
  | polygon id => rwa [Registry.color, frame.polygon?]
  | angle id =>
      obtain ⟨old, stored, rfl⟩ := Option.map_eq_some_iff.1 known
      obtain ⟨now, found, stays⟩ := frame.angle id old stored
      rw [Registry.color, found, Option.map_some, stays.color]

variable [Scalar α]

theorem data?_frame (frame : Frame before after) {entity : EntityRef} {data : EntityData α}
    (shown : data? before entity = some data) :
    ∃ other, data? after entity = some other ∧ data.Alike other := by
  cases entity with
  | point id =>
      obtain ⟨old, stored, rfl⟩ := Option.map_eq_some_iff.1 shown
      obtain ⟨now, found, -⟩ := frame.point id old stored
      exact ⟨pointData now, by rw [data?, found, Option.map_some], .point ..⟩
  | line id =>
      refine ⟨data, ?_, ?_⟩
      · rw [← shown, data?, data?, frame.line?]
        refine congrArg (Option.map · _) (funext fun line => ?_)
        simp only [lineData, pointId_frame frame]
      · obtain ⟨_, -, rfl⟩ := Option.map_eq_some_iff.1 shown
        exact .line ..
  | circle id =>
      obtain ⟨circle, stored, rfl⟩ := Option.map_eq_some_iff.1 shown
      refine ⟨circleData after circle, by rw [data?, frame.circle?, stored, Option.map_some], ?_⟩
      simp only [circleData, pointId_frame frame]
      exact .circle ..
  | polygon id =>
      refine ⟨data, ?_, ?_⟩
      · rw [← shown, data?, data?, frame.polygon?]
        refine congrArg (Option.map · _) (funext fun polygon => ?_)
        simp only [polygonData, frame.sameNames.sceneId]
      · obtain ⟨_, -, rfl⟩ := Option.map_eq_some_iff.1 shown
        exact .polygon ..
  | angle id =>
      obtain ⟨old, stored, rfl⟩ := Option.map_eq_some_iff.1 shown
      obtain ⟨now, found, stays⟩ := frame.angle id old stored
      refine ⟨angleData after now, by rw [data?, found, Option.map_some], ?_⟩
      simp only [angleData, pointId_frame frame, stays.vertex, stays.big]
      rcases stays.arms with ⟨first, last⟩ | ⟨first, last⟩
      · rw [first, last]
        exact .angle ..
      · rw [first, last]
        exact .exchanged ..

/-- An entity and what placing makes of it are shown alike. -/
theorem entity?_frame (frame : Frame before after) {entity : EntityRef} {entry : SceneEntity α}
    (shown : entity? before entity = some entry) :
    ∃ other, entity? after entity = some other ∧ entry.Alike other := by
  obtain ⟨id, color, data⟩ := entity?_eq_some_iff.1 shown
  obtain ⟨changed, found, alike⟩ := data?_frame frame data
  have same : entry.id = after.sceneId entity := id.trans (frame.sameNames.sceneId entity).symm
  exact ⟨⟨entry.id, entry.color, changed⟩,
    entity?_eq_some_iff.2 ⟨same, color_frame frame color, found⟩, rfl, rfl, alike⟩

theorem forall₂_entries (one : Frame before after) (two : Frame before another)
    {entities : List EntityRef} (held : ∀ entity ∈ entities, before.Holds entity) :
    List.Forall₂ SceneEntity.Alike (entities.filterMap (entity? after))
      (entities.filterMap (entity? another)) := by
  induction entities with
  | nil => exact .nil
  | cons entity entities ih =>
      obtain ⟨entry, shown⟩ := exists_entity? (held entity List.mem_cons_self)
      obtain ⟨first, shownOne, alikeOne⟩ := entity?_frame one shown
      obtain ⟨second, shownTwo, alikeTwo⟩ := entity?_frame two shown
      -- Each of the two entries is like the one that is shown before anything is placed.
      rw [List.filterMap_cons_some shownOne, List.filterMap_cons_some shownTwo]
      exact .cons (alikeOne.symm.trans alikeTwo)
        (ih fun entity member => held entity (List.mem_cons_of_mem _ member))

/-- However the points of a figure are placed, its scenes are alike. -/
theorem alike_assemble (one : Frame before after) (two : Frame before another)
    (animations : List (List String)) (text : String) :
    (assemble after animations text).Alike (assemble another animations text) := by
  refine ⟨SceneEntity.forall₂_arrange SceneEntity.Alike.id ?_, rfl, rfl⟩
  rw [entities_frame one, entities_frame two]
  exact forall₂_entries one two fun entity => mem_entities.1

end Scene

end FigureMarkup

import FigureMarkup.Drawing.Preview
import FigureMarkup.Proofs.Scene.Entries
import Mathlib.Data.List.Perm.Basic

/-!
# Elements of drawings

A drawing is made in three passes over the entities of a scene, and each pass skips some of them.
Taken together, an entity gets at most one element with its identifier, and no element has an
identifier otherwise.
-/

namespace FigureMarkup.Drawing

/-- The color of an element, if it has one of its own. -/
def Element.color? {α : Type} : Element α → Option String
  | .line _ _ _ color => some color
  | .circle _ _ _ color => some color
  | .polygon _ _ color => some color
  | .arc _ _ _ _ _ color => some color
  | .point _ _ color => some color
  | .label _ _ => none

variable {α : Type} [Scalar α]

/-- What the three passes draw of an entity. -/
def elementsFor (settings : Settings α) (viewport : Viewport α) (scene : Scene α)
    (entity : SceneEntity α) : List (Element α) :=
  (polygonElement? viewport scene entity).toList ++
    (strokeElement? settings viewport scene entity).toList ++
    pointElements settings viewport entity

/-- Going through the entities once gives the same elements in another order. -/
theorem elementsOf_perm (settings : Settings α) (scene : Scene α) :
    (elementsOf settings scene).Perm
      (scene.entities.flatMap (elementsFor settings (.fit settings scene) scene)) := by
  rw [elementsOf, List.filterMap_eq_flatMap_toList, List.filterMap_eq_flatMap_toList]
  exact ((List.flatMap_append_perm ..).append_right _).trans (List.flatMap_append_perm ..)

section Passes

variable {settings : Settings α} {viewport : Viewport α} {scene : Scene α}
  {entity : SceneEntity α} {element : Element α}

/-- An element with the identifier and the color of an entity. -/
def Element.StandsFor (element : Element α) (entity : SceneEntity α) : Prop :=
  element.id? = some entity.id ∧ element.color? = some (cssColor entity.color)

theorem standsFor_of_polygonElement?
    (drawn : polygonElement? viewport scene entity = some element) :
    element.StandsFor entity := by
  unfold polygonElement? at drawn
  split at drawn
  · obtain ⟨vertices, -, rfl⟩ := Option.map_eq_some_iff.1 drawn
    exact ⟨rfl, rfl⟩
  · cases drawn

theorem standsFor_of_strokeElement?
    (drawn : strokeElement? settings viewport scene entity = some element) :
    element.StandsFor entity := by
  unfold strokeElement? at drawn
  dsimp only at drawn
  split at drawn
  · obtain ⟨⟨center, radius⟩, -, same⟩ := Option.bind_eq_some_iff.1 drawn
    cases same
    exact ⟨rfl, rfl⟩
  · obtain ⟨a, -, drawn⟩ := Option.bind_eq_some_iff.1 drawn
    obtain ⟨b, -, same⟩ := Option.bind_eq_some_iff.1 drawn
    cases same
    exact ⟨rfl, rfl⟩
  · obtain ⟨a, -, drawn⟩ := Option.bind_eq_some_iff.1 drawn
    obtain ⟨vertex, -, drawn⟩ := Option.bind_eq_some_iff.1 drawn
    obtain ⟨c, -, same⟩ := Option.bind_eq_some_iff.1 drawn
    cases same
    exact ⟨rfl, rfl⟩
  · cases drawn

/-- A label has no identifier of its own. -/
theorem ids_pointElements (settings : Settings α) (viewport : Viewport α)
    (entity : SceneEntity α) :
    (pointElements settings viewport entity).filterMap Element.id? =
      if pointElements settings viewport entity = [] then [] else [entity.id] := by
  unfold pointElements
  split
  · rfl
  · dsimp only
    split <;> rfl

/-- Points are drawn in the colors of their entities, and labels in none. -/
theorem color_of_pointElements (drawn : element ∈ pointElements settings viewport entity)
    {color : String} (colored : color ∈ element.color?) : color = cssColor entity.color := by
  cases position : entity.data.position? with
  | none => simp [pointElements, position] at drawn
  | some p =>
      have among : element = .point (some entity.id) (viewport.place p) (cssColor entity.color) ∨
          element = .label (pointName entity.id) (viewport.place p + .mk 6.0 (-6.0)) := by
        cases labels : settings.labels with
        | true => simpa [pointElements, position, labels] using drawn
        | false => exact .inl (by simpa [pointElements, position, labels] using drawn)
      rcases among with rfl | rfl
      · exact (Option.some.inj colored).symm
      · cases colored

end Passes

/-- What is drawn of an entity has its color. -/
theorem color_of_elementsFor {settings : Settings α} {viewport : Viewport α} {scene : Scene α}
    {entity : SceneEntity α} {element : Element α}
    (drawn : element ∈ elementsFor settings viewport scene entity)
    {color : String} (colored : color ∈ element.color?) : color = cssColor entity.color := by
  rw [elementsFor, List.mem_append, List.mem_append, Option.mem_toList, Option.mem_toList] at drawn
  rcases drawn with (polygon | stroke) | point
  · rw [(standsFor_of_polygonElement? polygon).2] at colored
    exact (Option.some.inj colored).symm
  · rw [(standsFor_of_strokeElement? stroke).2] at colored
    exact (Option.some.inj colored).symm
  · exact color_of_pointElements point colored

/-- An entity that is drawn gives its identifier to one of its elements. -/
theorem ids_elementsFor (settings : Settings α) (viewport : Viewport α) (scene : Scene α)
    (entity : SceneEntity α) :
    (elementsFor settings viewport scene entity).filterMap Element.id? =
      if elementsFor settings viewport scene entity = [] then [] else [entity.id] := by
  cases kind : entity.data with
  | point x y =>
      have only : elementsFor settings viewport scene entity =
          pointElements settings viewport entity := by
        simp [elementsFor, polygonElement?, strokeElement?, kind]
      rw [only, ids_pointElements]
  | polygon points label =>
      have only : elementsFor settings viewport scene entity =
          (polygonElement? viewport scene entity).toList := by
        simp [elementsFor, strokeElement?, pointElements, EntityData.position?, kind]
      rw [only]
      cases drawn : polygonElement? viewport scene entity with
      | none => rfl
      | some element => simp [(standsFor_of_polygonElement? drawn).1]
  | line _ _ | circle _ _ _ _ _ | angle _ _ _ _ _ =>
      have only : elementsFor settings viewport scene entity =
          (strokeElement? settings viewport scene entity).toList := by
        simp [elementsFor, polygonElement?, pointElements, EntityData.position?, kind]
      rw [only]
      cases drawn : strokeElement? settings viewport scene entity with
      | none => rfl
      | some element => simp [(standsFor_of_strokeElement? drawn).1]

/-- The identifiers of elements are those of the entities of which something is drawn. -/
theorem ids_elementsOf_perm (settings : Settings α) (scene : Scene α) :
    ((elementsOf settings scene).filterMap Element.id?).Perm
      ((scene.entities.filter fun entity =>
        elementsFor settings (.fit settings scene) scene entity ≠ []).map (·.id)) := by
  refine ((elementsOf_perm settings scene).filterMap _).trans ?_
  rw [List.filterMap_flatMap]
  induction scene.entities with
  | nil => exact .refl _
  | cons entity entities ih =>
      rw [List.flatMap_cons, ids_elementsFor, List.filter_cons]
      by_cases hidden : elementsFor settings (.fit settings scene) scene entity = []
      · simpa [hidden] using ih
      · simpa [hidden] using ih

/-- No two elements of a drawing have the same identifier. -/
theorem nodup_ids_elementsOf (settings : Settings α) (scene : Scene α) :
    ((elementsOf settings scene).filterMap Element.id?).Nodup :=
  (ids_elementsOf_perm settings scene).nodup_iff.2
    (scene.nodup_ids.sublist (List.filter_sublist.map _))

theorem mem_ids_elementsOf {settings : Settings α} {scene : Scene α} {id : String} :
    id ∈ (elementsOf settings scene).filterMap Element.id? ↔
      ∃ entity ∈ scene.entities, entity.id = id ∧
        elementsFor settings (.fit settings scene) scene entity ≠ [] := by
  rw [(ids_elementsOf_perm settings scene).mem_iff, List.mem_map]
  constructor
  · rintro ⟨entity, member, same⟩
    obtain ⟨known, drawn⟩ := List.mem_filter.1 member
    exact ⟨entity, known, same, by simpa using drawn⟩
  · rintro ⟨entity, known, same, drawn⟩
    exact ⟨entity, List.mem_filter.2 ⟨known, by simpa using drawn⟩, same⟩

end FigureMarkup.Drawing

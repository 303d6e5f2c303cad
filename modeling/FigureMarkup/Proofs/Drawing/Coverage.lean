import FigureMarkup.Proofs.Drawing.Elements
import FigureMarkup.Proofs.Scene.Depiction

/-!
# What a drawing leaves out

Once the figure of a scene is placed and measured, everything in the scene is drawn but the circles
without a form: those that have neither a radius nor boundary points, or boundary points on a line.
-/

namespace FigureMarkup.Drawing

open Construction Figure

variable {α : Type} [Scalar α]

/-- An entity is a circle that a scene does not give a form. -/
def Formless (scene : Scene α) (data : EntityData α) : Prop :=
  data.kind = .circle ∧ circleOf? scene data = none

section

variable {settings : Settings α} {viewport : Viewport α} {scene : Scene α}
  {registry : Registry α} (depicts : scene.Depicts registry) (placed : registry.FullyPlaced)

include depicts placed

theorem exists_placeOf? (viewport : Viewport α) {id : PointId}
    (held : registry.Holds (.point id)) :
    ∃ place, placeOf? viewport scene (registry.sceneId (.point id)) = some place := by
  obtain ⟨position, here⟩ := placed id held
  rw [← depicts.position? held] at here
  exact ⟨viewport.place position, by rw [placeOf?, here, Option.map_some]⟩

theorem exists_places (viewport : Viewport α) {ids : List PointId}
    (held : ∀ id ∈ ids, registry.Holds (.point id)) :
    ∃ places, (ids.map fun id => registry.sceneId (.point id)).mapM (placeOf? viewport scene) =
      some places := by
  induction ids with
  | nil => exact ⟨[], rfl⟩
  | cons id ids ih =>
      obtain ⟨place, here⟩ :=
        exists_placeOf? depicts placed viewport (held id List.mem_cons_self)
      obtain ⟨places, others⟩ := ih fun id member => held id (List.mem_cons_of_mem _ member)
      exact ⟨place :: places, by simp [here, others]⟩

/-- Nothing is drawn of circles without a form, and something of everything else. -/
theorem elementsFor_eq_nil_iff (formed : WellFormed registry)
    (measured : registry.FullyMeasured) {entity : EntityRef} {entry : SceneEntity α}
    (shown : Scene.entity? registry entity = some entry) :
    elementsFor settings viewport scene entry = [] ↔ Formless scene entry.data := by
  obtain ⟨-, -, data⟩ := Scene.entity?_eq_some_iff.1 shown
  cases entity with
  | point id =>
      obtain ⟨point, stored, same⟩ := Option.map_eq_some_iff.1 data
      obtain ⟨position, here⟩ := placed id (Registry.holds_point_iff.2 ⟨point, stored⟩)
      rw [Registry.position, stored, Option.bind_some, ← Scene.position?_pointData, same] at here
      have drawn : pointElements settings viewport entry ≠ [] := by
        unfold pointElements
        rw [here]
        dsimp only
        split <;> exact List.cons_ne_nil _ _
      refine iff_of_false ?_ ?_
      · simp [elementsFor, drawn]
      · simp [Formless, ← same, Scene.pointData, EntityData.kind]
  | line id =>
      obtain ⟨line, stored, same⟩ := Option.map_eq_some_iff.1 data
      obtain ⟨a, b, first, second, -, heldA, heldB⟩ := formed.lines id line stored
      obtain ⟨placeA, hereA⟩ := exists_placeOf? depicts placed viewport heldA
      obtain ⟨placeB, hereB⟩ := exists_placeOf? depicts placed viewport heldB
      refine iff_of_false ?_ ?_
      · simp [elementsFor, strokeElement?, ← same, Scene.lineData, Scene.pointId, first, second,
          hereA, hereB]
      · simp [Formless, ← same, Scene.lineData, EntityData.kind]
  | circle id =>
      obtain ⟨circle, stored, same⟩ := Option.map_eq_some_iff.1 data
      rw [← same]
      cases form : circleOf? scene (Scene.circleData registry circle) with
      | none =>
          refine iff_of_true ?_ ⟨rfl, form⟩
          rw [Scene.circleData] at form
          simp [elementsFor, polygonElement?, strokeElement?, pointElements,
            EntityData.position?, ← same, Scene.circleData, form]
      | some drawn =>
          refine iff_of_false ?_ ?_
          · rw [Scene.circleData] at form
            simp [elementsFor, strokeElement?, ← same, Scene.circleData, form]
          · simp [Formless, form]
  | polygon id =>
      obtain ⟨polygon, stored, same⟩ := Option.map_eq_some_iff.1 data
      obtain ⟨places, here⟩ :=
        exists_places depicts placed viewport (formed.polygons id polygon stored).held
      refine iff_of_false ?_ ?_
      · simp [elementsFor, polygonElement?, ← same, Scene.polygonData, here]
      · simp [Formless, ← same, Scene.polygonData, EntityData.kind]
  | angle id =>
      obtain ⟨angle, stored, same⟩ := Option.map_eq_some_iff.1 data
      obtain ⟨p1, vertex, p3, first, middle, last, -, held⟩ := formed.angles id angle stored
      obtain ⟨degrees, known⟩ := Option.isSome_iff_exists.1 (measured id angle stored)
      have place (point : PointId) (among : point ∈ [p1, vertex, p3]) :=
        exists_placeOf? depicts placed viewport (held point among)
      obtain ⟨placeA, hereA⟩ := place p1 (by simp)
      obtain ⟨placeV, hereV⟩ := place vertex (by simp)
      obtain ⟨placeC, hereC⟩ := place p3 (by simp)
      refine iff_of_false ?_ ?_
      · simp [elementsFor, strokeElement?, ← same, Scene.angleData, Scene.pointId, first, middle,
          last, known, hereA, hereV, hereC]
      · simp [Formless, ← same, Scene.angleData, EntityData.kind]

end

end FigureMarkup.Drawing

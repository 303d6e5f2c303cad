import FigureMarkup.Proofs.Compilation.Integrity
import FigureMarkup.Proofs.Placement.Finite

/-!
# Finite coordinates in compiled scenes

Every point of a scene has coordinates, and they are those of the place that the point was given.
Numbers that a document writes are finite, and so are those that are computed from them unless they
are so large that computing with them overflows.
-/

namespace FigureMarkup

open Construction Figure Markup Placement Plane
open FigureMarkup.Random (Keystream)

/-- The entry of a point shows the coordinates that the point has. -/
theorem Scene.Depicts.point_of_entry {α : Type} [Scalar α] {scene : Scene α}
    {registry : Registry α} (depicts : scene.Depicts registry) {entry : SceneEntity α}
    (member : entry ∈ scene.entities) {x y : Option α} (data : entry.data = .point x y) :
    ∃ id point, registry.point? id = some point ∧ registry.sceneId (.point id) = entry.id ∧
      x = point.x ∧ y = point.y := by
  obtain ⟨entity, -, shown⟩ := depicts.entity entry member
  obtain ⟨identified, -, kept⟩ := entity?_eq_some_iff.1 shown
  rw [data] at kept
  cases entity with
  | point id =>
      obtain ⟨point, stored, same⟩ := Option.map_eq_some_iff.1 kept
      cases same
      exact ⟨id, point, stored, identified.symm, rfl, rfl⟩
  | line id | circle id | polygon id | angle id =>
      obtain ⟨_, -, other⟩ := Option.map_eq_some_iff.1 kept
      cases other

/-- If a document compiles with a bound of at most `1e300`, every point of the scene has
coordinates. They are finite, unless the point was put where it is when one of its constraints had
a shape that was not tame, or it was drawn on a circle with a cosine or a sine beyond one. -/
theorem compile_finite {settings : CompileSettings Float} {random : Keystream}
    {document : String} {scene : Scene Float}
    (small : Scalar.abs settings.placement.bound ≤ 1e300)
    (compiles : compile settings random document = .ok scene) :
    ∃ declarations, Declaration.parse document = .ok declarations ∧
      let start : Progress Keystream Float := ⟨construct settings.palette declarations, random⟩
      ∀ entry ∈ scene.entities, ∀ x y, entry.data = .point x y →
        ∃ id place, start.registry.sceneId (.point id) = entry.id ∧
          x = some place.x ∧ y = some place.y ∧
          (place.IsFinite ∨ PutWildly settings.placement start id place) := by
  obtain ⟨compilation, text, compiled, -, rfl⟩ := compile_eq_ok compiles
  obtain ⟨parsed, sound⟩ := Compilation.sound_of_ofDocument compiled
  obtain ⟨done, resolved⟩ := Compilation.resolve_of_ofDocument compiled
  refine ⟨compilation.declarations, parsed, ?_⟩
  intro start entry member x y data
  obtain ⟨id, point, stored, identified, rfl, rfl⟩ :=
    (sound.intact text).1.point_of_entry member data
  have held : compilation.registry.Holds (.point id) := Registry.holds_point_iff.2 ⟨point, stored⟩
  obtain ⟨place, here⟩ := sound.resolved.placed id held
  have named : start.registry.sceneId (.point id) = entry.id := by
    rw [← identified, Registry.sceneId, Registry.sceneId, sound.resolved.frame.sameNames.name]
  have position : point.position = some place := by
    rwa [Registry.position, stored] at here
  obtain ⟨first, second⟩ := Point.coordinates_of_position position
  refine ⟨id, place, named, first, second, ?_⟩
  rw [resolved, resolve_of_ok (placeAll_of_resolve_ok done)] at here
  exact isFinite_or_putWildly small (construct_sound settings.palette compilation.declarations).1
    (construct_written settings.palette compilation.declarations) here

/-- The points of a document with a point on a line through two others, all of ordinary size, are
finite. -/
theorem compile_finite_line :
    let settings : CompileSettings Float := .standard
    let document := "[loc A 1 0] [loc B -1 0] [line AB] [point P lieson=AB]"
    Scalar.abs settings.placement.bound ≤ 1e300 ∧
      ∃ scene, compile settings (Keystream.ofSeed 1) document = .ok scene ∧
        (scene.find? "point_P").isSome = true ∧
        ∀ entry ∈ scene.entities, ∀ x y, entry.data = .point x y →
          ∃ place : Vec Float, x = some place.x ∧ y = some place.y ∧ place.IsFinite := by
  intro settings document
  let declared : List Declaration :=
    [⟨"loc", some "A", 1, ⟨0, 11⟩, [], ["1", "0"]⟩, ⟨"loc", some "B", 1, ⟨12, 24⟩, [], ["-1", "0"]⟩,
      ⟨"line", some "AB", 1, ⟨25, 34⟩, [], []⟩,
      ⟨"point", some "P", 1, ⟨35, 54⟩, [("lieson", "AB")], []⟩]
  let start : Progress Keystream Float := ⟨construct settings.palette declared, .ofSeed 1⟩
  have small : Scalar.abs settings.placement.bound ≤ 1e300 := by decide +kernel
  have parses : (Declaration.parse document).toOption = some declared := by decide +kernel
  have shown : (compile settings (Keystream.ofSeed 1) document).toOption.map
      (fun scene => (scene.find? "point_P").isSome) = some true := by
    decide +kernel
  have order : (placeAll settings.placement start).2.placed.map Prod.fst = [⟨2⟩] := by
    decide +kernel
  have only : constraintsOf start.registry ⟨2⟩ = [.line ⟨0⟩] := by decide +kernel
  have segment : start.registry.shape? (.line ⟨0⟩) = some (.segment ⟨1.0, 0.0⟩ ⟨-1.0, 0.0⟩) := by
    decide +kernel
  have tame : (Shape.segment ⟨1.0, 0.0⟩ ⟨-1.0, 0.0⟩).Tame settings.placement.tolerance :=
    ⟨by decide +kernel, by decide +kernel, by decide +kernel, by decide +kernel⟩
  have never (id : PointId) (place : Vec Float) :
      ¬ PutWildly settings.placement start id place := by
    rintro ⟨count, stored, wild⟩
    have here : ((placeAll settings.placement start).2.placed.map Prod.fst)[count]? = some id := by
      rw [List.getElem?_map, stored]
      rfl
    rw [order, List.getElem?_singleton] at here
    split at here
    case isTrue first =>
      cases here
      subst first
      change Wild settings.placement start.registry ⟨2⟩ place at wild
      cases wild with
      | untamed member concrete wild =>
          obtain rfl := List.mem_singleton.1 (only ▸ member)
          obtain rfl := Option.some.inj (segment.symm.trans concrete)
          exact wild tame
      | turned member concrete =>
          obtain rfl := List.mem_singleton.1 (only ▸ member)
          cases segment.symm.trans concrete
    case isFalse => cases here
  obtain ⟨scene, done, present⟩ := Option.map_eq_some_iff.1 shown
  have compiles : compile settings (Keystream.ofSeed 1) document = .ok scene := by
    cases result : compile settings (Keystream.ofSeed 1) document <;> rw [result] at done <;>
      cases done
    rfl
  obtain ⟨declarations, parsed, finite⟩ := compile_finite small compiles
  rw [parsed] at parses
  obtain rfl : declarations = declared := Option.some.inj parses
  refine ⟨small, scene, compiles, present, fun entry member x y data => ?_⟩
  obtain ⟨id, place, -, first, second, whole | wild⟩ := finite entry member x y data
  · exact ⟨place, first, second, whole⟩
  · exact absurd wild (never id place)

/-- The difference of two points can be too large for any double, and then so is what is computed
from it. -/
example :
    let document := "[loc A 1e308 0] [loc B -1e308 0] [line AB] [point P lieson=AB]"
    let compiled : Except CompileError (Scene Float) :=
      compile .standard (Keystream.ofSeed 1) document
    (compiled.toOption.bind (·.position? "point_P")).map (·.x.isFinite) = some false := by
  decide +kernel

end FigureMarkup

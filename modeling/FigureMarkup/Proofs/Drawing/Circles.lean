import FigureMarkup.Drawing.Viewport
import FigureMarkup.Proofs.Compilation.Integrity

/-!
# Drawn circles

A drawing shows a circle about its center or, without a center or a radius in the scene, through
its boundary points. A registry decides by the center alone. Where all points are placed, and a
circle has all of its boundary points or none, both come to the same circle.
-/

namespace FigureMarkup.Drawing

open Construction Figure Plane

variable {σ α : Type} [Scalar α] {registry : Registry α} {scene : Scene α}

/-- Through three points there is nothing but a circle. -/
theorem eq_circle_of_circumcircle {a b c : Vec α} {tolerance : α} {shape : Shape α}
    (through : circumcircle a b c tolerance = some shape) :
    ∃ center radius, shape = .circle center radius := by
  unfold circumcircle at through
  dsimp only at through
  split at through <;> cases through
  exact ⟨_, _, rfl⟩

/-- A circle has no boundary points if nothing gives its radius. -/
theorem boundary_of_circleRadius?_none {circle : Circle α} (sound : CircleSound registry circle)
    (placed : registry.FullyPlaced) {center : PointId} (centered : circle.center = some center)
    (unknown : registry.circleRadius? circle = none) : circle.p1 = none := by
  obtain ⟨middle, here⟩ := placed center (sound.center center centered)
  rcases sound.complete with ⟨unbound, -, -⟩ | ⟨a, b, c, first, -, -⟩
  · exact unbound
  · obtain ⟨edge, there⟩ := placed a (sound.boundary a (by simp [Circle.boundary, first]))
    have found : circle.boundary.findSome? registry.position = some edge := by
      simp [Circle.boundary, first, there]
    unfold Registry.circleRadius? at unknown
    split at unknown
    · cases unknown
    · simp [centered, here, found] at unknown

theorem circleOf?_circleData (depicts : scene.Depicts registry) {circle : Circle α}
    (sound : CircleSound registry circle) (placed : registry.FullyPlaced) :
    (circleOf? scene (Scene.circleData registry circle)).map (fun (center, radius) =>
        Shape.circle center radius) = registry.circleShape? circle := by
  have boundary (point : Option PointId) (member : point ∈ [circle.p1, circle.p2, circle.p3])
      (id : PointId) (known : point = some id) : registry.Holds (.point id) := by
    refine sound.boundary id ?_
    simpa [Circle.boundary, known, eq_comm, or_assoc] using member
  have first := depicts.place_pointId (boundary circle.p1 (by simp))
  have second := depicts.place_pointId (boundary circle.p2 (by simp))
  have third := depicts.place_pointId (boundary circle.p3 (by simp))
  have middle := depicts.place_pointId sound.center
  unfold circleOf? Scene.circleData Registry.circleShape?
  dsimp only
  rw [first, second, third, middle]
  cases centered : circle.center with
  | none =>
      cases circle.p1.bind registry.position with
      | none => rfl
      | some a =>
          cases circle.p2.bind registry.position with
          | none => rfl
          | some b =>
              cases circle.p3.bind registry.position with
              | none => rfl
              | some c =>
                  cases through : circumcircle a b c defaultTolerance with
                  | none => simp [through]
                  | some shape =>
                      obtain ⟨center, radius, rfl⟩ := eq_circle_of_circumcircle through
                      simp [through]
  | some center =>
      -- Without a radius the drawing turns to the boundary points, and there are none either.
      obtain ⟨position, here⟩ := placed center (sound.center center centered)
      cases known : registry.circleRadius? circle with
      | some radius => simp [here]
      | none =>
          have bare := boundary_of_circleRadius?_none sound placed centered known
          simp [bare]

/-- A scene shows each circle of a registry as the one that the registry has, or none if the
registry has none. -/
def DrawsCircles (scene : Scene α) (registry : Registry α) : Prop :=
  ∀ id circle, registry.circle? id = some circle →
    ∃ entry, scene.find? (registry.sceneId (.circle id)) = some entry ∧
      (circleOf? scene entry.data).map (fun (center, radius) => Shape.circle center radius) =
        registry.circleShape? circle

theorem drawsCircles (depicts : scene.Depicts registry) (formed : WellFormed registry)
    (placed : registry.FullyPlaced) : DrawsCircles scene registry := by
  intro id circle stored
  obtain ⟨entry, found, -, shown⟩ :=
    depicts.entry (.circle id) (Registry.holds_circle_iff.2 ⟨circle, stored⟩)
  obtain ⟨-, -, data⟩ := Scene.entity?_eq_some_iff.1 shown
  rw [Scene.data?, stored, Option.map_some, Option.some.injEq] at data
  refine ⟨entry, found, ?_⟩
  rw [← data]
  exact circleOf?_circleData depicts (formed.circles id circle stored) placed

/-- In the drawing of a compiled document each circle is the one that its figure was placed with,
whether it is given by a center, a radius or boundary points, or by none of these. -/
theorem compile_drawsCircles [Random.Source σ α] {settings : CompileSettings α} {random : σ}
    {document : String} {scene : Scene α}
    (compiles : compile settings random document = .ok scene) :
    ∃ compilation, Compilation.ofDocument settings random document = .ok compilation ∧
      DrawsCircles scene compilation.registry := by
  obtain ⟨compilation, text, compiled, -, rfl⟩ := compile_eq_ok compiles
  obtain ⟨-, sound⟩ := Compilation.sound_of_ofDocument compiled
  have depicts := (sound.intact text).1
  exact ⟨compilation, compiled,
    drawsCircles depicts sound.resolved.formed sound.resolved.placed⟩

/-- A circle through three points, one about a center and one that is nowhere. -/
theorem compile_drawsCircles_three :
    let document := "[circle ABC] [circle o center=A radius=2] [circle e]"
    let seed := Random.Keystream.ofSeed 1
    ∃ (scene : Scene Float) (compilation : Compilation Float),
      compile .standard seed document = .ok scene ∧
        Compilation.ofDocument .standard seed document = .ok compilation ∧
        (compilation.registry.circles.toList.map fun circle =>
          (compilation.registry.circleShape? circle).isSome) = [true, true, false] ∧
        DrawsCircles scene compilation.registry := by
  intro document seed
  have succeeds : (compile .standard seed document : Except _ (Scene Float)).isOk = true := by
    decide +kernel
  have shapes : ((Compilation.ofDocument .standard seed document).toOption.map
      fun (compilation : Compilation Float) => compilation.registry.circles.toList.map fun circle =>
        (compilation.registry.circleShape? circle).isSome) = some [true, true, false] := by
    decide +kernel
  cases compiles : (compile .standard seed document : Except _ (Scene Float)) with
  | error error =>
      rw [compiles] at succeeds
      cases succeeds
  | ok scene =>
      obtain ⟨compilation, compiled, draws⟩ := compile_drawsCircles compiles
      refine ⟨scene, compilation, rfl, compiled, ?_, draws⟩
      rw [compiled] at shapes
      exact Option.some.inj shapes

end FigureMarkup.Drawing

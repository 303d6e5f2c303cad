import FigureMarkup.Proofs.Construction.WellFormed

/-!
# What declarations are about

A declaration that succeeds is about some entities, the main one first. All of them are in the
registry that it leaves. Only the marks of an animation and the definitions are about no entity.
-/

namespace FigureMarkup.Construction

open Figure Plane Markup

variable {α : Type} {declaration : Declaration}

/-! ## Shapes with their points -/

theorem holds_with_points {registry : Registry α} {main : EntityRef} {points : List PointId}
    (known : registry.Holds main) (held : ∀ id ∈ points, registry.Holds (.point id))
    {entity : EntityRef} (member : entity ∈ main :: points.map .point) :
    registry.Holds entity := by
  rcases List.mem_cons.1 member with rfl | member
  · exact known
  · obtain ⟨id, among, rfl⟩ := List.mem_map.1 member
    exact held id among

/-- A shape is touched together with the points that it is made of. -/
theorem holds_of_touchShape {registry : Registry α} {shape : ShapeRef}
    (formed : WellFormed (touched registry shape)) (known : registry.Holds shape.entity)
    {entity : EntityRef}
    (member : entity ∈ shape.entity :: (registry.definingPoints shape).map .point) :
    (touched registry shape).Holds entity := by
  rw [← definingPoints_touched registry shape] at member
  exact holds_with_points ((sameNames_touched registry shape).holds_iff.2 known)
    (fun _ => formed.holds_definingPoints) member

theorem circleEntities_ne_nil (registry : Registry α) (id : CircleId) :
    circleEntities registry id ≠ [] := by
  unfold circleEntities
  split <;> exact List.cons_ne_nil _ _

theorem holds_of_circleEntities {registry : Registry α} (formed : WellFormed registry)
    {id : CircleId} (known : registry.Holds (.circle id)) {entity : EntityRef}
    (member : entity ∈ circleEntities registry id) : registry.Holds entity := by
  obtain ⟨circle, stored⟩ := Registry.holds_circle_iff.1 known
  have sound := formed.circles id circle stored
  simp only [circleEntities, stored, List.mem_cons, List.mem_append, List.mem_map,
    Option.mem_toList, Option.map_eq_some_iff] at member
  rcases member with rfl | ⟨point, bounding, rfl⟩ | ⟨center, centered, rfl⟩
  · exact known
  · exact sound.boundary point bounding
  · exact sound.center center centered

/-! ## Effects -/

variable [Scalar α] {registry : Registry α}

/-- A declaration that succeeds is about entities that are there then, at least one. -/
theorem Declaring.about {effect : Effect α} (declaring : Declaring registry declaration effect)
    (formed : WellFormed registry) {about : List EntityRef} (succeeds : effect.1 = .ok about) :
    about ≠ [] ∧ ∀ entity ∈ about, effect.2.Holds entity := by
  have after : WellFormed effect.2 := (declaring.changes formed.indexed).wellFormed formed
  cases declaring with
  | refused => cases succeeds
  | @record name id later position shape random named entered =>
      cases succeeds
      have held := (enterPoint_spec declaration formed.indexed entered).2
      have same : Registry.SameNames
          (later.modifyPoint id (recordPoint position shape random)) later :=
        later.sameNames_modifyPoint id fun _ => recordPoint_name ..
      simpa using same.holds_iff.2 held
  | again entered known =>
      cases succeeds
      exact ⟨List.cons_ne_nil _ _, fun entity => holds_of_touchShape after known⟩
  | @line first second a b later entered name =>
      cases succeeds
      have created : (addJoined later name a b).Holds (later.newest .line) :=
        (sameNames_addJoined later name a b).holds_iff.2 (Registry.holds_add.2 (.inr rfl))
      exact ⟨List.cons_ne_nil _ _, fun entity => holds_of_touchShape after created⟩
  | @polygon names vertices later entered name label =>
      cases succeeds
      have created : (addClosed later name vertices label).Holds (later.newest .polygon) :=
        (sameNames_addClosed later name vertices label).holds_iff.2
          (Registry.holds_add.2 (.inr rfl))
      exact ⟨List.cons_ne_nil _ _, fun entity => holds_of_touchShape after created⟩
  | circleAgain id known =>
      cases succeeds
      have held : registry.Holds (.circle id) := formed.indexed.held known
      exact ⟨circleEntities_ne_nil _ _, fun entity => holds_of_circleEntities after held⟩
  | circle name center radius fresh =>
      cases succeeds
      have created : (registry.add .circle name).Holds (registry.newest .circle) :=
        Registry.holds_add.2 (.inr rfl)
      have completed : Changes declaration _ _ :=
        addCircled_completes formed.indexed fresh center radius
      exact ⟨circleEntities_ne_nil _ _,
        fun entity => holds_of_circleEntities after (completed.holds created)⟩
  | @center name circle index center later asked argument known entered =>
      cases succeeds
      have held := (enterPoint_spec declaration formed.indexed entered).2
      have same : Registry.SameNames
          (later.modifyCircle ⟨index⟩ fun circle => { circle with center := some center }) later :=
        later.sameNames_modifyCircle ⟨index⟩ fun _ => rfl
      simpa using same.holds_iff.2 held
  | @angleAgain names ids later entered id known =>
      cases succeeds
      have held := (enterPoints_spec declaration formed.indexed entered).2.2
      exact ⟨List.cons_ne_nil _ _, fun _ => holds_with_points known held⟩
  | @angle first second third p1 vertex p3 later entered name big =>
      cases succeeds
      have same : Registry.SameNames (addSpanned later name p1 vertex p3 big)
          (later.add .angle name) :=
        Registry.sameNames_modifyAngle _ _ fun _ => rfl
      have created : (later.add .angle name).Holds (later.newest .angle) :=
        Registry.holds_add.2 (.inr rfl)
      have vertices := (enterPoints_spec declaration formed.indexed entered).2.2
      have held (id : PointId) (among : id ∈ [p1, vertex, p3]) :
          (later.add .angle name).Holds (.point id) :=
        Registry.holds_add.2 (.inl (vertices id among))
      exact ⟨List.cons_ne_nil _ _,
        fun _ member => same.holds_iff.2 (holds_with_points created held member)⟩

/-! ## Declarations -/

/-- The entity that an outcome is mainly about, if it is about any. -/
def Outcome.main? : Outcome → Option EntityRef
  | .entities touched => touched.head?
  | .step | .clear => none

/-- A declaration is about entities that are there when it has been applied. -/
theorem apply_about (formed : WellFormed registry) {about : List EntityRef}
    (applied : (apply registry declaration).1 = .ok (.entities about)) :
    ∀ entity ∈ about, (apply registry declaration).2.Holds entity := by
  have step := applying registry declaration
  generalize apply registry declaration = result at step applied ⊢
  cases step with
  | unknown => cases applied
  | mark marks =>
      cases applied
      cases marks
      exact fun entity member => absurd member List.not_mem_nil
  | refused => cases applied
  | plain declaring =>
      cases applied
      exact (declaring.about formed rfl).2
  | unreadable => cases applied
  | @painted main others later value declaring argument color =>
      cases applied
      intro entity member
      exact (later.sameNames_setColor color main).holds_iff.2
        ((declaring.about formed rfl).2 entity member)

/-- A declaration that succeeds is about an entity, unless it marks a step or its end, or the
definitions. -/
theorem apply_main (formed : WellFormed registry) {outcome : Outcome}
    (applied : (apply registry declaration).1 = .ok outcome)
    (unmarked : ¬ Marks declaration outcome) :
    ∃ main others, outcome = .entities (main :: others) := by
  have step := applying registry declaration
  generalize apply registry declaration = result at step applied
  cases step with
  | unknown => cases applied
  | mark marks =>
      cases applied
      exact absurd marks unmarked
  | refused => cases applied
  | @plain entities later declaring =>
      cases applied
      obtain ⟨main, others, rfl⟩ := List.exists_cons_of_ne_nil (declaring.about formed rfl).1
      exact ⟨main, others, rfl⟩
  | unreadable => cases applied
  | painted =>
      cases applied
      exact ⟨_, _, rfl⟩

end FigureMarkup.Construction

import FigureMarkup.Construction.Interpreter
import FigureMarkup.Proofs.Construction.Applying
import Mathlib.Data.List.Induction

/-!
# Well-formed registries

Every registry that declarations build is well formed, whether or not some of them fail halfway:
references stay within the registry, lines, polygons and angles have different points, and a point
is constrained to exactly those shapes that are made of it or that it was asked to lie on.
-/

namespace FigureMarkup.Construction

open Figure Plane Markup

variable {α : Type}

/-! ## Sound entities -/

/-- A line joins two different points of the registry. -/
def LineSound (registry : Registry α) (line : Line) : Prop :=
  ∃ a b, line.p1 = some a ∧ line.p2 = some b ∧ a ≠ b ∧
    registry.Holds (.point a) ∧ registry.Holds (.point b)

/-- A circle has all boundary points or none, and refers only to points of the registry. -/
structure CircleSound (registry : Registry α) (circle : Circle α) : Prop where
  complete : (circle.p1 = none ∧ circle.p2 = none ∧ circle.p3 = none) ∨
    ∃ a b c, circle.p1 = some a ∧ circle.p2 = some b ∧ circle.p3 = some c
  boundary : ∀ point ∈ circle.boundary, registry.Holds (.point point)
  center : ∀ center, circle.center = some center → registry.Holds (.point center)
  radius : ∀ a b, circle.radius = some (.between a b) →
    registry.Holds (.point a) ∧ registry.Holds (.point b)

/-- A polygon has at least three vertices, all of them different points of the registry. -/
structure PolygonSound (registry : Registry α) (polygon : Polygon) : Prop where
  enough : 3 ≤ polygon.vertices.length
  distinct : polygon.vertices.Nodup
  held : ∀ vertex ∈ polygon.vertices, registry.Holds (.point vertex)

/-- An angle has three different points of the registry. -/
def AngleSound (registry : Registry α) (angle : Angle α) : Prop :=
  ∃ p1 vertex p3, angle.p1 = some p1 ∧ angle.vertex = some vertex ∧ angle.p3 = some p3 ∧
    [p1, vertex, p3].Nodup ∧ ∀ point ∈ [p1, vertex, p3], registry.Holds (.point point)

/-! ### In larger registries -/

section Larger

variable {before after : Registry α}
  (stays : ∀ {entity}, before.Holds entity → after.Holds entity)

include stays

theorem LineSound.mono {line : Line} (sound : LineSound before line) : LineSound after line := by
  obtain ⟨a, b, first, second, distinct, heldA, heldB⟩ := sound
  exact ⟨a, b, first, second, distinct, stays heldA, stays heldB⟩

theorem CircleSound.mono {circle : Circle α} (sound : CircleSound before circle) :
    CircleSound after circle where
  complete := sound.complete
  boundary point member := stays (sound.boundary point member)
  center center known := stays (sound.center center known)
  radius a b known := (sound.radius a b known).imp stays stays

theorem PolygonSound.mono {polygon : Polygon} (sound : PolygonSound before polygon) :
    PolygonSound after polygon where
  enough := sound.enough
  distinct := sound.distinct
  held vertex member := stays (sound.held vertex member)

theorem AngleSound.mono {angle : Angle α} (sound : AngleSound before angle) :
    AngleSound after angle := by
  obtain ⟨p1, vertex, p3, first, middle, last, distinct, held⟩ := sound
  exact ⟨p1, vertex, p3, first, middle, last, distinct,
    fun point member => stays (held point member)⟩

end Larger

/-! ### Points -/

/-- A point has both coordinates or neither, and is constrained once to each shape that is made of
it and to each shape that it was asked to lie on, and to nothing else. -/
structure PointSound (registry : Registry α) (id : PointId) (point : Point α) : Prop where
  constraints : point.constraints.Nodup
  liesOn : point.liesOn.Nodup
  included : ∀ shape ∈ point.liesOn, shape ∈ point.constraints
  held : ∀ shape ∈ point.constraints, registry.Holds shape.entity
  reasons : ∀ shape,
    shape ∈ point.constraints ↔ registry.defines id shape ∨ shape ∈ point.liesOn
  coordinates : point.x.isSome = point.y.isSome

/-- All entities of a registry are sound, and its names are those of its entities. -/
structure WellFormed (registry : Registry α) : Prop where
  indexed : Indexed registry
  lines : ∀ id line, registry.line? id = some line → LineSound registry line
  circles : ∀ id circle, registry.circle? id = some circle → CircleSound registry circle
  polygons : ∀ id polygon, registry.polygon? id = some polygon → PolygonSound registry polygon
  angles : ∀ id angle, registry.angle? id = some angle → AngleSound registry angle
  points : ∀ id point, registry.point? id = some point → PointSound registry id point

theorem wellFormed_empty (palette : Palette) :
    WellFormed (Registry.empty palette : Registry α) where
  indexed :=
    { held := fun found => by simp [Registry.index?, Registry.empty] at found
      found := fun {entity name} named => by
        cases entity <;>
          simp [Registry.name, Registry.empty, Registry.point?, Registry.line?, Registry.circle?,
            Registry.polygon?, Registry.angle?] at named }
  lines id line stored := by simp [Registry.line?, Registry.empty] at stored
  circles id circle stored := by simp [Registry.circle?, Registry.empty] at stored
  polygons id polygon stored := by simp [Registry.polygon?, Registry.empty] at stored
  angles id angle stored := by simp [Registry.angle?, Registry.empty] at stored
  points id point stored := by simp [Registry.point?, Registry.empty] at stored

/-- Shapes are made of points that the registry has. -/
theorem WellFormed.holds_definingPoints {registry : Registry α} (formed : WellFormed registry)
    {shape : ShapeRef} {id : PointId} (member : id ∈ registry.definingPoints shape) :
    registry.Holds (.point id) := by
  cases shape with
  | line line =>
      cases stored : registry.line? line with
      | none => simp [Registry.definingPoints, stored] at member
      | some found =>
          obtain ⟨a, b, first, second, -, heldA, heldB⟩ := formed.lines line found stored
          have either : id = a ∨ id = b := by
            simpa [Registry.definingPoints, stored, Line.endpoints, first, second] using member
          rcases either with rfl | rfl
          · exact heldA
          · exact heldB
  | circle circle =>
      cases stored : registry.circle? circle with
      | none => simp [Registry.definingPoints, stored] at member
      | some found =>
          refine (formed.circles circle found stored).boundary id ?_
          simpa [Registry.definingPoints, stored] using member
  | polygon polygon =>
      cases stored : registry.polygon? polygon with
      | none => simp [Registry.definingPoints, stored] at member
      | some found =>
          refine (formed.polygons polygon found stored).held id ?_
          simpa [Registry.definingPoints, stored] using member

/-! ## Changes keep entities sound -/

section Change

variable {declaration : Declaration} {before after : Registry α}

theorem Change.lineSound (change : Change declaration before after)
    (sound : ∀ id line, before.line? id = some line → LineSound before line) {id : LineId}
    {line : Line} (stored : after.line? id = some line) : LineSound after line := by
  refine LineSound.mono change.holds ?_
  rcases change.line_cases stored with ⟨old, stored, first, second⟩ |
    ⟨a, b, first, second, distinct, heldA, heldB, -⟩
  · obtain ⟨a, b, oldFirst, oldSecond, apart⟩ := sound id old stored
    exact ⟨a, b, first.trans oldFirst, second.trans oldSecond, apart⟩
  · exact ⟨a, b, first, second, distinct, heldA, heldB⟩

theorem Change.polygonSound (change : Change declaration before after)
    (sound : ∀ id polygon, before.polygon? id = some polygon → PolygonSound before polygon)
    {id : PolygonId} {polygon : Polygon} (stored : after.polygon? id = some polygon) :
    PolygonSound after polygon := by
  refine PolygonSound.mono change.holds ?_
  rcases change.polygon_cases stored with ⟨old, stored, same⟩ | ⟨enough, distinct, held, -⟩
  · have ⟨enough, distinct, held⟩ := sound id old stored
    rw [← same] at enough distinct held
    exact ⟨enough, distinct, held⟩
  · exact ⟨enough, distinct, held⟩

theorem Change.angleSound (change : Change declaration before after)
    (sound : ∀ id angle, before.angle? id = some angle → AngleSound before angle)
    {id : AngleId} {angle : Angle α} (stored : after.angle? id = some angle) :
    AngleSound after angle := by
  refine AngleSound.mono change.holds ?_
  rcases change.angle_cases stored with ⟨old, stored, same⟩ |
    ⟨p1, vertex, p3, first, middle, last, distinct, held, -⟩
  · obtain ⟨p1, vertex, p3, first, middle, last, apart⟩ := sound id old stored
    exact ⟨p1, vertex, p3, same.p1.trans first, same.vertex.trans middle, same.p3.trans last,
      apart⟩
  · exact ⟨p1, vertex, p3, first, middle, last, distinct, held⟩

theorem CircleSound.of_change {circle changed : Circle α} (sound : CircleSound before circle)
    (change : CircleChange before circle changed) : CircleSound before changed := by
  cases change with
  | keep color => exact ⟨sound.complete, sound.boundary, sound.center, sound.radius⟩
  | @boundary a b c unbound points =>
      refine ⟨.inr ⟨a, b, c, rfl, rfl, rfl⟩, fun point member => points point ?_,
        sound.center, sound.radius⟩
      simpa [Circle.boundary] using member
  | center known =>
      refine ⟨sound.complete, sound.boundary, ?_, sound.radius⟩
      rintro _ ⟨⟩
      exact known
  | radius radius known =>
      refine ⟨sound.complete, sound.boundary, sound.center, fun a b same => ?_⟩
      exact known a b (Option.some.inj same)

theorem Change.circleSound (change : Change declaration before after)
    (sound : ∀ id circle, before.circle? id = some circle → CircleSound before circle)
    {id : CircleId} {circle : Circle α} (stored : after.circle? id = some circle) :
    CircleSound after circle := by
  refine CircleSound.mono change.holds ?_
  rcases change.circle_cases stored with ⟨name, color, rfl⟩ | ⟨old, stored, changed⟩
  · exact ⟨.inl ⟨rfl, rfl, rfl⟩, by simp [Circle.new, Circle.boundary], by simp [Circle.new],
      by simp [Circle.new]⟩
  · exact (sound id old stored).of_change changed

/-! ## Changes keep points sound -/

theorem nodup_addShape {shapes : List ShapeRef} (distinct : shapes.Nodup) (shape : ShapeRef) :
    (Point.addShape shapes shape).Nodup := by
  unfold Point.addShape
  split
  case isTrue => exact distinct
  case isFalse unknown =>
    have fresh : shape ∉ shapes := by simpa using unknown
    rw [List.nodup_append]
    exact ⟨distinct, by simp, by
      rintro member known _ (_ | ⟨_, ⟨⟩⟩) rfl
      exact fresh known⟩

theorem recordPoint_constraints (position : Option (Vec α)) (shape : Option ShapeRef)
    (random : Bool) (point : Point α) :
    (recordPoint position shape random point).constraints =
      shape.elim point.constraints (Point.addShape point.constraints) := by
  cases position <;> cases shape <;> cases random <;> rfl

theorem recordPoint_liesOn (position : Option (Vec α)) (shape : Option ShapeRef)
    (random : Bool) (point : Point α) :
    (recordPoint position shape random point).liesOn =
      shape.elim point.liesOn (Point.addShape point.liesOn) := by
  cases position <;> cases shape <;> cases random <;> rfl

theorem recordPoint_coordinates (position : Option (Vec α)) (shape : Option ShapeRef)
    (random : Bool) {point : Point α} (known : point.x.isSome = point.y.isSome) :
    (recordPoint position shape random point).x.isSome =
      (recordPoint position shape random point).y.isSome := by
  cases position <;> cases shape <;> cases random <;> first | exact known | rfl

theorem PointChange.constraints_subset {id : PointId} {old new : Point α}
    (changed : PointChange declaration after id old new) {shape : ShapeRef}
    (known : shape ∈ old.constraints) : shape ∈ new.constraints := by
  cases changed with
  | keep color => exact known
  | record position asked random =>
      rw [recordPoint_constraints]
      cases asked with
      | none => exact known
      | some wanted => exact mem_addShape.2 (.inl known)
  | constrain => exact mem_addShape.2 (.inl known)

theorem PointChange.constraints_nodup {id : PointId} {old new : Point α}
    (changed : PointChange declaration after id old new) (distinct : old.constraints.Nodup) :
    new.constraints.Nodup := by
  cases changed with
  | keep color => exact distinct
  | record position asked random =>
      rw [recordPoint_constraints]
      cases asked with
      | none => exact distinct
      | some wanted => exact nodup_addShape distinct wanted
  | constrain => exact nodup_addShape distinct _

theorem PointChange.liesOn_nodup {id : PointId} {old new : Point α}
    (changed : PointChange declaration after id old new) (distinct : old.liesOn.Nodup) :
    new.liesOn.Nodup := by
  cases changed with
  | keep color => exact distinct
  | record position asked random =>
      rw [recordPoint_liesOn]
      cases asked with
      | none => exact distinct
      | some wanted => exact nodup_addShape distinct wanted
  | constrain => exact distinct

theorem PointChange.included {id : PointId} {old new : Point α}
    (changed : PointChange declaration after id old new)
    (included : ∀ shape ∈ old.liesOn, shape ∈ old.constraints) :
    ∀ shape ∈ new.liesOn, shape ∈ new.constraints := by
  intro shape lying
  cases changed with
  | keep color => exact included shape lying
  | record position asked random =>
      rw [recordPoint_liesOn] at lying
      rw [recordPoint_constraints]
      cases asked with
      | none => exact included shape lying
      | some wanted => exact mem_addShape.2 ((mem_addShape.1 lying).imp_left (included shape))
  | constrain => exact mem_addShape.2 (.inl (included shape lying))

theorem PointChange.coordinates {id : PointId} {old new : Point α}
    (changed : PointChange declaration after id old new)
    (both : old.x.isSome = old.y.isSome) : new.x.isSome = new.y.isSome := by
  cases changed with
  | keep color => exact both
  | record position asked random => exact recordPoint_coordinates position asked random both
  | constrain => exact both

/-- A change constrains a point to a shape for one of two reasons. -/
theorem PointChange.reason {id : PointId} {old new : Point α}
    (changed : PointChange declaration after id old new) {shape : ShapeRef}
    (known : shape ∈ new.constraints) :
    (shape ∈ old.constraints ∧ (shape ∈ old.liesOn → shape ∈ new.liesOn)) ∨
      after.Holds shape.entity ∧ (id ∈ after.definingPoints shape ∨ shape ∈ new.liesOn) := by
  cases changed with
  | keep color => exact .inl ⟨known, fun wanted => wanted⟩
  | record position asked random allowed =>
      rw [recordPoint_constraints] at known
      rw [recordPoint_liesOn]
      cases asked with
      | none => exact .inl ⟨known, fun wanted => wanted⟩
      | some wanted =>
          rcases mem_addShape.1 known with earlier | rfl
          · exact .inl ⟨earlier, fun lying => mem_addShape.2 (.inl lying)⟩
          · exact .inr ⟨(allowed shape rfl).1, .inr (mem_addShape.2 (.inr rfl))⟩
  | constrain held member =>
      rcases mem_addShape.1 known with earlier | rfl
      · exact .inl ⟨earlier, fun wanted => wanted⟩
      · exact .inr ⟨held, .inl member⟩

theorem defines_iff {registry : Registry α} {id : PointId} {shape : ShapeRef} :
    registry.defines id shape = true ↔ id ∈ registry.definingPoints shape := by
  simp [Registry.defines]

theorem Change.definingPoints_subset (change : Change declaration before after) {id : PointId}
    {shape : ShapeRef} (member : id ∈ before.definingPoints shape) :
    id ∈ after.definingPoints shape := by
  rcases change.definingPoints_cases shape with same | ⟨empty, -⟩
  · exact same ▸ member
  · simp [empty] at member

/-- A point that is made sound by a change stays constrained to what is made of it. -/
theorem Change.constrains (change : Change declaration before after)
    (formed : WellFormed before) {id : PointId} {point : Point α}
    (stored : after.point? id = some point) {shape : ShapeRef}
    (member : id ∈ after.definingPoints shape) : shape ∈ point.constraints := by
  rcases change.definingPoints_cases shape with same | ⟨-, binds⟩
  · rw [same] at member
    obtain ⟨old, found⟩ := Registry.holds_point_iff.1 (formed.holds_definingPoints member)
    have known : shape ∈ old.constraints :=
      ((formed.points id old found).reasons shape).2 (.inl (defines_iff.2 member))
    rcases change.point_cases stored with ⟨absent, -⟩ | ⟨_, again, changed⟩
    · simp [found] at absent
    · rw [found, Option.some.injEq] at again
      subst again
      exact changed.constraints_subset known
  · obtain ⟨same, again, known⟩ := binds id member
    rw [stored, Option.some.injEq] at again
    exact again ▸ known

theorem Change.pointSound (change : Change declaration before after)
    (formed : WellFormed before) {id : PointId} {point : Point α}
    (stored : after.point? id = some point) : PointSound after id point := by
  have constrained {shape : ShapeRef} (defined : after.defines id shape = true) :
      shape ∈ point.constraints :=
    change.constrains formed stored (defines_iff.1 defined)
  rcases change.point_cases stored with ⟨-, name, color, rfl⟩ | ⟨old, found, changed⟩
  · refine ⟨by simp [Point.new], by simp [Point.new], by simp [Point.new], by simp [Point.new],
      fun shape => ⟨by simp [Point.new], ?_⟩, rfl⟩
    rintro (defined | ⟨⟨⟩⟩)
    exact constrained defined
  · have sound := formed.points id old found
    refine ⟨changed.constraints_nodup sound.constraints, changed.liesOn_nodup sound.liesOn,
      changed.included sound.included, fun shape known => ?_,
      fun shape => ⟨fun known => ?_, ?_⟩, changed.coordinates sound.coordinates⟩
    · rcases changed.reason known with ⟨earlier, -⟩ | ⟨held, -⟩
      · exact change.holds (sound.held shape earlier)
      · exact held
    · rcases changed.reason known with ⟨earlier, stays⟩ | ⟨-, reason⟩
      · rcases (sound.reasons shape).1 earlier with defined | wanted
        · exact .inl (defines_iff.2 (change.definingPoints_subset (defines_iff.1 defined)))
        · exact .inr (stays wanted)
      · exact reason.imp_left defines_iff.2
    · rintro (defined | wanted)
      · exact constrained defined
      · exact changed.included sound.included shape wanted

theorem Change.wellFormed (change : Change declaration before after)
    (formed : WellFormed before) : WellFormed after where
  indexed := change.indexed formed.indexed
  lines _ _ stored := change.lineSound formed.lines stored
  circles _ _ stored := change.circleSound formed.circles stored
  polygons _ _ stored := change.polygonSound formed.polygons stored
  angles _ _ stored := change.angleSound formed.angles stored
  points _ _ stored := change.pointSound formed stored

theorem Changes.wellFormed (changes : Changes declaration before after)
    (formed : WellFormed before) : WellFormed after := by
  induction changes with
  | refl => exact formed
  | tail _ change ih => exact change.wellFormed ih

end Change

/-! ## Construction -/

/-- The registry that some declarations leave when all of them are applied in turn to one without
entities, also after one has failed. -/
def construct [Scalar α] (palette : Palette) (declarations : List Declaration) : Registry α :=
  declarations.foldl (fun registry declaration => (apply registry declaration).2) (.empty palette)

variable [Scalar α]

theorem construct_append (palette : Palette) (declarations : List Declaration)
    (last : Declaration) :
    (construct palette (declarations ++ [last]) : Registry α) =
      (apply (construct palette declarations) last).2 := by
  simp [construct]

/-- What every change of the declarations keeps holds at the end if it holds at the start. -/
theorem construct_induction {palette : Palette} {Kept : Registry α → Prop}
    (start : Kept (.empty palette)) (declarations : List Declaration)
    (step : ∀ declaration ∈ declarations, ∀ before after, WellFormed before →
      Change declaration before after → Kept before → Kept after) :
    WellFormed (construct palette declarations : Registry α) ∧
      Kept (construct palette declarations) := by
  induction declarations using List.reverseRecOn with
  | nil => exact ⟨wellFormed_empty palette, start⟩
  | append_singleton declarations last ih =>
      have ⟨formed, kept⟩ := ih fun declaration member =>
        step declaration (List.mem_append_left _ member)
      rw [construct_append]
      have changes := apply_changes formed.indexed last
      refine ⟨changes.wellFormed formed, ?_⟩
      generalize (apply (construct palette declarations : Registry α) last).2 = final at changes
      induction changes with
      | refl => exact kept
      | tail earlier change ih =>
          exact step last (by simp) _ _ (Changes.wellFormed earlier formed) change ih

/-- Every registry that declarations build is well formed. -/
theorem wellFormed_construct (palette : Palette) (declarations : List Declaration) :
    WellFormed (construct palette declarations : Registry α) :=
  (construct_induction trivial declarations fun _ _ _ _ _ _ _ => trivial).1

/-! ## Documents -/

omit [Scalar α] in
theorem registry_record (interpreter : Interpreter α) (declaration : Declaration)
    (outcome : Outcome) :
    (interpreter.record declaration outcome).registry = interpreter.registry := by
  cases outcome with
  | entities touched =>
      simp only [Interpreter.record]
      split <;> rfl
  | step => rfl
  | clear => rfl

section

variable {interpreter : Interpreter α} {declaration : Declaration}

theorem interpret_of_error {error : Error}
    (failed : (apply interpreter.registry declaration).1 = .error error) :
    interpreter.interpret declaration =
      (.error error,
        { interpreter with registry := (apply interpreter.registry declaration).2 }) := by
  unfold Interpreter.interpret
  generalize apply interpreter.registry declaration = applied at failed ⊢
  obtain ⟨_ | _, later⟩ := applied <;> cases failed
  rfl

theorem interpret_of_ok {outcome : Outcome}
    (succeeds : (apply interpreter.registry declaration).1 = .ok outcome) :
    interpreter.interpret declaration =
      (.ok outcome, ({ interpreter with registry := (apply interpreter.registry declaration).2 } :
        Interpreter α).record declaration outcome) := by
  unfold Interpreter.interpret
  generalize apply interpreter.registry declaration = applied at succeeds ⊢
  obtain ⟨_ | _, later⟩ := applied <;> cases succeeds
  rfl

theorem apply_of_interpret_ok {later : Interpreter α} {outcome : Outcome}
    (interpreted : interpreter.interpret declaration = (.ok outcome, later)) :
    (apply interpreter.registry declaration).1 = .ok outcome ∧
      later = ({ interpreter with registry := (apply interpreter.registry declaration).2 } :
        Interpreter α).record declaration outcome := by
  cases applied : (apply interpreter.registry declaration).1 with
  | error error =>
      rw [interpret_of_error applied] at interpreted
      cases interpreted
  | ok result =>
      rw [interpret_of_ok applied] at interpreted
      cases interpreted
      exact ⟨rfl, rfl⟩

end

theorem registry_interpret (interpreter : Interpreter α) (declaration : Declaration) :
    (interpreter.interpret declaration).2.registry =
      (apply interpreter.registry declaration).2 := by
  cases applied : (apply interpreter.registry declaration).1 with
  | error error => rw [interpret_of_error applied]
  | ok outcome => rw [interpret_of_ok applied, registry_record]

/-- A document is interpreted up to its first declaration that fails, and to its end otherwise. -/
theorem registry_interpretAll (interpreter : Interpreter α) (declarations : List Declaration) :
    ∃ applied, applied <+: declarations ∧
      (interpreter.interpretAll declarations).2.registry =
        applied.foldl (fun registry declaration => (apply registry declaration).2)
          interpreter.registry ∧
      ((interpreter.interpretAll declarations).1 = .ok () → applied = declarations) := by
  induction declarations generalizing interpreter with
  | nil => exact ⟨[], List.prefix_rfl, rfl, fun _ => rfl⟩
  | cons declaration rest ih =>
      have here := registry_interpret interpreter declaration
      unfold Interpreter.interpretAll
      generalize interpreter.interpret declaration = applied at here
      obtain ⟨outcome, next⟩ := applied
      cases outcome with
      | error error =>
          refine ⟨[declaration], by simp, here, fun done => ?_⟩
          cases done
      | ok outcome =>
          obtain ⟨applied, initial, same, all⟩ := ih next
          refine ⟨declaration :: applied, by simpa using initial, ?_, fun done => ?_⟩
          · rw [List.foldl_cons, ← here]
            exact same
          · rw [all done]

/-- What each declaration that succeeds keeps is kept by a document that interprets. -/
theorem interpretAll_induction {Kept : Interpreter α → List Declaration → Prop}
    (step : ∀ {interpreter later : Interpreter α} {applied : List Declaration}
      {declaration : Declaration} {outcome : Outcome}, Kept interpreter applied →
      interpreter.interpret declaration = (.ok outcome, later) →
      Kept later (applied ++ [declaration]))
    {interpreter : Interpreter α} {applied rest : List Declaration}
    (kept : Kept interpreter applied) (interprets : (interpreter.interpretAll rest).1 = .ok ()) :
    Kept (interpreter.interpretAll rest).2 (applied ++ rest) := by
  induction rest generalizing interpreter applied with
  | nil => simpa [Interpreter.interpretAll] using kept
  | cons declaration rest ih =>
      rcases interpreted : interpreter.interpret declaration with ⟨result, later⟩
      rw [Interpreter.interpretAll, interpreted] at interprets ⊢
      cases result with
      | error error => cases interprets
      | ok outcome =>
          have all := ih (step kept interpreted) interprets
          rwa [List.append_assoc] at all

end FigureMarkup.Construction

import FigureMarkup.Proofs.Construction.Change
import Mathlib.Tactic.ByContra

/-!
# What changes do to entities

Each kind of entity is affected by few kinds of changes. A line or a polygon is complete from the
start, an angle too, and only circles and points are completed later. The lemmas of this module
read off what an entity after a change was before it.
-/

namespace FigureMarkup.Construction

open Figure Plane Markup

variable {α : Type} {declaration : Declaration} {before after : Registry α}

/-! ## Constraining the points of a shape -/

@[simp]
theorem line?_touched (registry : Registry α) (shape : ShapeRef) (id : LineId) :
    (touched registry shape).line? id = registry.line? id := by
  rw [touched, constrain_eq]
  rfl

@[simp]
theorem circle?_touched (registry : Registry α) (shape : ShapeRef) (id : CircleId) :
    (touched registry shape).circle? id = registry.circle? id := by
  rw [touched, constrain_eq]
  rfl

@[simp]
theorem polygon?_touched (registry : Registry α) (shape : ShapeRef) (id : PolygonId) :
    (touched registry shape).polygon? id = registry.polygon? id := by
  rw [touched, constrain_eq]
  rfl

@[simp]
theorem angle?_touched (registry : Registry α) (shape : ShapeRef) (id : AngleId) :
    (touched registry shape).angle? id = registry.angle? id := by
  rw [touched, constrain_eq]
  rfl

@[simp]
theorem definingPoints_touched (registry : Registry α) (touching shape : ShapeRef) :
    (touched registry touching).definingPoints shape = registry.definingPoints shape := by
  cases shape <;> simp [Registry.definingPoints]

theorem point?_touched (registry : Registry α) (shape : ShapeRef) (id : PointId) :
    (touched registry shape).point? id =
      (registry.point? id).map fun point =>
        if id ∈ registry.definingPoints shape then point.addConstraint shape else point :=
  point?_constrain registry shape _ id

/-! ## Lines, polygons and angles -/

/-- A line has its endpoints from before, or it is new and gets two different ones, which no line
has joined. -/
theorem Change.line_cases (change : Change declaration before after) {id : LineId} {line : Line}
    (stored : after.line? id = some line) :
    (∃ old, before.line? id = some old ∧ line.p1 = old.p1 ∧ line.p2 = old.p2) ∨
      ∃ a b, line.p1 = some a ∧ line.p2 = some b ∧ a ≠ b ∧
        before.Holds (.point a) ∧ before.Holds (.point b) ∧
        id = ⟨before.lines.size⟩ ∧ before.findLine? a b = none := by
  have kept (same : after.line? id = before.line? id) :
      ∃ old, before.line? id = some old ∧ line.p1 = old.p1 ∧ line.p2 = old.p2 :=
    ⟨line, same ▸ stored, rfl, rfl⟩
  cases change with
  | point name => exact .inl (kept (Registry.line?_add_of_ne (by decide) ..))
  | record => exact .inl (kept rfl)
  | @line name a b fresh first second distinct unjoined =>
      rw [line?_touched, addJoined, Registry.line?_modifyLine, Option.map_eq_some_iff] at stored
      obtain ⟨old, stored, rfl⟩ := stored
      by_cases created : (⟨before.lines.size⟩ : LineId) = id
      · simp only [if_pos created]
        exact .inr ⟨a, b, rfl, rfl, distinct, first, second, created.symm, unjoined⟩
      · simp only [if_neg created]
        rw [Registry.line?_add,
          if_neg (by simpa [EntityRef.ofIndex, Registry.count] using Ne.symm created)] at stored
        exact .inl ⟨old, stored, rfl, rfl⟩
  | circle name => exact .inl (kept (Registry.line?_add_of_ne (by decide) ..))
  | boundary => exact .inl (kept (line?_touched ..))
  | center => exact .inl (kept rfl)
  | radius => exact .inl (kept rfl)
  | polygon =>
      exact .inl (kept ((line?_touched ..).trans (Registry.line?_add_of_ne (by decide) ..)))
  | angle => exact .inl (kept (Registry.line?_add_of_ne (by decide) ..))
  | touch => exact .inl (kept (line?_touched ..))
  | paint color entity =>
      cases entity with
      | line painted =>
          rw [Registry.setColor, Registry.line?_modifyLine, Option.map_eq_some_iff] at stored
          obtain ⟨old, stored, rfl⟩ := stored
          exact .inl ⟨old, stored, by split <;> rfl, by split <;> rfl⟩
      | _ => exact .inl (kept rfl)

/-- A polygon has its vertices from before, or it is new and gets enough different ones, which are
not those of a polygon. -/
theorem Change.polygon_cases (change : Change declaration before after) {id : PolygonId}
    {polygon : Polygon} (stored : after.polygon? id = some polygon) :
    (∃ old, before.polygon? id = some old ∧ polygon.vertices = old.vertices) ∨
      3 ≤ polygon.vertices.length ∧ polygon.vertices.Nodup ∧
        (∀ vertex ∈ polygon.vertices, before.Holds (.point vertex)) ∧
        id = ⟨before.polygons.size⟩ ∧ before.findPolygon? polygon.vertices = none := by
  have kept (same : after.polygon? id = before.polygon? id) :
      ∃ old, before.polygon? id = some old ∧ polygon.vertices = old.vertices :=
    ⟨polygon, same ▸ stored, rfl⟩
  cases change with
  | point name => exact .inl (kept (Registry.polygon?_add_of_ne (by decide) ..))
  | record => exact .inl (kept rfl)
  | line =>
      exact .inl (kept ((polygon?_touched ..).trans (Registry.polygon?_add_of_ne (by decide) ..)))
  | circle name => exact .inl (kept (Registry.polygon?_add_of_ne (by decide) ..))
  | boundary => exact .inl (kept (polygon?_touched ..))
  | center => exact .inl (kept rfl)
  | radius => exact .inl (kept rfl)
  | polygon name label fresh points enough distinct unclosed =>
      rw [polygon?_touched, addClosed, Registry.polygon?_modifyPolygon,
        Option.map_eq_some_iff] at stored
      obtain ⟨old, stored, rfl⟩ := stored
      by_cases created : (⟨before.polygons.size⟩ : PolygonId) = id
      · simp only [if_pos created]
        exact .inr ⟨enough, distinct, points, created.symm, unclosed⟩
      · simp only [if_neg created]
        rw [Registry.polygon?_add,
          if_neg (by simpa [EntityRef.ofIndex, Registry.count] using Ne.symm created)] at stored
        exact .inl ⟨old, stored, rfl⟩
  | angle => exact .inl (kept (Registry.polygon?_add_of_ne (by decide) ..))
  | touch => exact .inl (kept (polygon?_touched ..))
  | paint color entity =>
      cases entity with
      | polygon painted =>
          rw [Registry.setColor, Registry.polygon?_modifyPolygon,
            Option.map_eq_some_iff] at stored
          obtain ⟨old, stored, rfl⟩ := stored
          exact .inl ⟨old, stored, by split <;> rfl⟩
      | _ => exact .inl (kept rfl)

/-- Two angles agree in all but their names and colors. -/
structure SameSpan (first second : Angle α) : Prop where
  p1 : first.p1 = second.p1
  vertex : first.vertex = second.vertex
  p3 : first.p3 = second.p3
  big : first.big = second.big
  degrees : first.degrees = second.degrees
  measured : first.measured = second.measured

/-- An angle has its points from before, or it is new, gets three different ones, which no angle
has in this way, and is not measured yet. -/
theorem Change.angle_cases (change : Change declaration before after) {id : AngleId}
    {angle : Angle α} (stored : after.angle? id = some angle) :
    (∃ old, before.angle? id = some old ∧ SameSpan angle old) ∨
      ∃ p1 vertex p3, angle.p1 = some p1 ∧ angle.vertex = some vertex ∧ angle.p3 = some p3 ∧
        [p1, vertex, p3].Nodup ∧ (∀ point ∈ [p1, vertex, p3], before.Holds (.point point)) ∧
        (id = ⟨before.angles.size⟩ ∧ before.findAngle? p1 vertex p3 = none) ∧
        angle.degrees = none ∧ angle.measured = none := by
  have kept (same : after.angle? id = before.angle? id) :
      ∃ old, before.angle? id = some old ∧ SameSpan angle old :=
    ⟨angle, same ▸ stored, ⟨rfl, rfl, rfl, rfl, rfl, rfl⟩⟩
  cases change with
  | point name => exact .inl (kept (Registry.angle?_add_of_ne (by decide) ..))
  | record => exact .inl (kept rfl)
  | line =>
      exact .inl (kept ((angle?_touched ..).trans (Registry.angle?_add_of_ne (by decide) ..)))
  | circle name => exact .inl (kept (Registry.angle?_add_of_ne (by decide) ..))
  | boundary => exact .inl (kept (angle?_touched ..))
  | center => exact .inl (kept rfl)
  | radius => exact .inl (kept rfl)
  | polygon =>
      exact .inl (kept ((angle?_touched ..).trans (Registry.angle?_add_of_ne (by decide) ..)))
  | @angle name p1 vertex p3 big fresh points distinct unspanned =>
      rw [addSpanned, Registry.angle?_modifyAngle, Option.map_eq_some_iff] at stored
      obtain ⟨old, stored, rfl⟩ := stored
      rw [Registry.angle?_add] at stored
      by_cases created : (⟨before.angles.size⟩ : AngleId) = id
      · subst created
        simp only [EntityRef.ofIndex, Registry.count, if_true, Option.some.injEq] at stored ⊢
        subst stored
        exact .inr ⟨p1, vertex, p3, rfl, rfl, rfl, distinct, points, ⟨trivial, unspanned⟩, rfl, rfl⟩
      · simp only [if_neg created]
        rw [if_neg (by simpa [EntityRef.ofIndex, Registry.count] using Ne.symm created)] at stored
        exact .inl ⟨old, stored, ⟨rfl, rfl, rfl, rfl, rfl, rfl⟩⟩
  | touch => exact .inl (kept (angle?_touched ..))
  | paint color entity =>
      cases entity with
      | angle painted =>
          rw [Registry.setColor, Registry.angle?_modifyAngle, Option.map_eq_some_iff] at stored
          obtain ⟨old, stored, rfl⟩ := stored
          refine .inl ⟨old, stored, ?_⟩
          split <;> exact ⟨rfl, rfl, rfl, rfl, rfl, rfl⟩
      | _ => exact .inl (kept rfl)

/-! ## Circles -/

/-- What a change may do to a circle that is there already. -/
inductive CircleChange (before : Registry α) : Circle α → Circle α → Prop
  | keep (circle : Circle α) (color : Rgba) :
      CircleChange before circle { circle with color }
  | boundary (circle : Circle α) {a b c : PointId} (unbound : circle.boundary = [])
      (points : ∀ point ∈ [a, b, c], before.Holds (.point point)) :
      CircleChange before circle { circle with p1 := some a, p2 := some b, p3 := some c }
  | center (circle : Circle α) {center : PointId} (known : before.Holds (.point center)) :
      CircleChange before circle { circle with center := some center }
  | radius (circle : Circle α) (radius : Radius α)
      (known : ∀ a b, radius = .between a b →
        before.Holds (.point a) ∧ before.Holds (.point b)) :
      CircleChange before circle { circle with radius := some radius }

theorem CircleChange.refl (before : Registry α) (circle : Circle α) :
    CircleChange before circle circle :=
  .keep circle circle.color

/-- A circle is new and without points, or it is an earlier one that was changed. -/
theorem Change.circle_cases (change : Change declaration before after) {id : CircleId}
    {circle : Circle α} (stored : after.circle? id = some circle) :
    (∃ name color, circle = .new name color) ∨
      ∃ old, before.circle? id = some old ∧ CircleChange before old circle := by
  have kept (same : after.circle? id = before.circle? id) :
      ∃ old, before.circle? id = some old ∧ CircleChange before old circle :=
    ⟨circle, same ▸ stored, .refl before circle⟩
  have modified {modified : CircleId} {update : Circle α → Circle α}
      (same : after.circle? id = (before.modifyCircle modified update).circle? id)
      (allowed : ∀ old, before.circle? modified = some old →
        CircleChange before old (update old)) :
      ∃ old, before.circle? id = some old ∧ CircleChange before old circle := by
    rw [same, Registry.circle?_modifyCircle, Option.map_eq_some_iff] at stored
    obtain ⟨old, stored, rfl⟩ := stored
    refine ⟨old, stored, ?_⟩
    split
    case isTrue equal => exact allowed old (equal ▸ stored)
    case isFalse => exact .refl before old
  cases change with
  | point name => exact .inr (kept (Registry.circle?_add_of_ne (by decide) ..))
  | record => exact .inr (kept rfl)
  | line =>
      exact .inr (kept ((circle?_touched ..).trans (Registry.circle?_add_of_ne (by decide) ..)))
  | circle name =>
      rw [Registry.circle?_add] at stored
      split at stored
      · cases stored
        exact .inl ⟨_, _, rfl⟩
      · exact .inr ⟨circle, stored, .refl before circle⟩
  | boundary known unbound points =>
      refine .inr (modified (circle?_touched ..) fun old found => ?_)
      exact .boundary old (by simpa [Registry.definingPoints, found] using unbound) points
  | center bounded known => exact .inr (modified rfl fun old _ => .center old known)
  | radius bounded radius known => exact .inr (modified rfl fun old _ => .radius old radius known)
  | polygon =>
      exact .inr (kept ((circle?_touched ..).trans (Registry.circle?_add_of_ne (by decide) ..)))
  | angle => exact .inr (kept (Registry.circle?_add_of_ne (by decide) ..))
  | touch => exact .inr (kept (circle?_touched ..))
  | paint color entity =>
      cases entity with
      | circle painted => exact .inr (modified rfl fun old _ => .keep old color)
      | _ => exact .inr (kept rfl)

/-! ## Points -/

/-- What a change may do to a point that is there already. -/
inductive PointChange (declaration : Declaration) (after : Registry α) (id : PointId) :
    Point α → Point α → Prop
  | keep (point : Point α) (color : Rgba) :
      PointChange declaration after id point { point with color }
  | record (point : Point α) (position : Option (Vec α)) (shape : Option ShapeRef)
      (random : Bool)
      (asked : ∀ asked ∈ shape,
        after.Holds asked.entity ∧ (declaration.argument? "lieson").isSome) :
      PointChange declaration after id point (recordPoint position shape random point)
  | constrain (point : Point α) {shape : ShapeRef} (known : after.Holds shape.entity)
      (member : id ∈ after.definingPoints shape) :
      PointChange declaration after id point (point.addConstraint shape)

theorem PointChange.refl (declaration : Declaration) (after : Registry α) (id : PointId)
    (point : Point α) : PointChange declaration after id point point :=
  .keep point point.color

/-- A shape that has points is in the registry. -/
theorem holds_of_mem_definingPoints {registry : Registry α} {shape : ShapeRef} {id : PointId}
    (member : id ∈ registry.definingPoints shape) : registry.Holds shape.entity := by
  by_contra absent
  rw [Registry.definingPoints_of_not_holds absent] at member
  exact List.not_mem_nil member

/-- Constraining the points of a shape changes each point in an allowed way. -/
theorem point_cases_touched {registry : Registry α} {shape : ShapeRef} {id : PointId}
    {point : Point α} (stored : (touched registry shape).point? id = some point) :
    ∃ old, registry.point? id = some old ∧
      PointChange declaration (touched registry shape) id old point := by
  rw [point?_touched, Option.map_eq_some_iff] at stored
  obtain ⟨old, stored, rfl⟩ := stored
  refine ⟨old, stored, ?_⟩
  split
  case isTrue member =>
    have member : id ∈ (touched registry shape).definingPoints shape := by simpa using member
    exact .constrain old (holds_of_mem_definingPoints member) member
  case isFalse => exact .refl ..

/-- A point is new and knows nothing, or it is an earlier one that was changed. -/
theorem Change.point_cases (change : Change declaration before after) {id : PointId}
    {point : Point α} (stored : after.point? id = some point) :
    (before.point? id = none ∧ ∃ name color, point = .new name color) ∨
      ∃ old, before.point? id = some old ∧ PointChange declaration after id old point := by
  have kept (same : after.point? id = before.point? id) :
      ∃ old, before.point? id = some old ∧ PointChange declaration after id old point :=
    ⟨point, same ▸ stored, .refl ..⟩
  cases change with
  | point name =>
      rw [Registry.point?_add] at stored
      split at stored
      case isTrue created =>
        cases stored
        obtain rfl : id = ⟨before.count .point⟩ := by simpa [EntityRef.ofIndex] using created
        exact .inl ⟨before.point?_newest, _, _, rfl⟩
      case isFalse => exact .inr ⟨point, stored, .refl ..⟩
  | record recorded position shape random asked =>
      rw [Registry.point?_modifyPoint, Option.map_eq_some_iff] at stored
      obtain ⟨old, stored, rfl⟩ := stored
      refine .inr ⟨old, stored, ?_⟩
      split
      · refine .record old position shape random fun wanted member => ?_
        have same := before.sameNames_modifyPoint recorded (recordPoint_name position shape random)
        exact (asked wanted member).imp_left same.holds_iff.2
      · exact .refl ..
  | line =>
      obtain ⟨old, stored, changed⟩ := point_cases_touched stored
      exact .inr ⟨old, (Registry.point?_add_of_ne (by decide) ..).symm.trans stored, changed⟩
  | circle name => exact .inr (kept (Registry.point?_add_of_ne (by decide) ..))
  | boundary => exact .inr (point_cases_touched stored)
  | center => exact .inr (kept rfl)
  | radius => exact .inr (kept rfl)
  | polygon =>
      obtain ⟨old, stored, changed⟩ := point_cases_touched stored
      exact .inr ⟨old, (Registry.point?_add_of_ne (by decide) ..).symm.trans stored, changed⟩
  | angle => exact .inr (kept (Registry.point?_add_of_ne (by decide) ..))
  | touch => exact .inr (point_cases_touched stored)
  | paint color entity =>
      cases entity with
      | point painted =>
          rw [Registry.setColor, Registry.point?_modifyPoint, Option.map_eq_some_iff] at stored
          obtain ⟨old, stored, rfl⟩ := stored
          refine .inr ⟨old, stored, ?_⟩
          split
          · exact .keep old color
          · exact .refl ..
      | _ => exact .inr (kept rfl)

/-! ## The points of shapes -/

/-- All points that a shape is made of are constrained to it. -/
def Binds (registry : Registry α) (shape : ShapeRef) : Prop :=
  ∀ id ∈ registry.definingPoints shape,
    ∃ point, registry.point? id = some point ∧ shape ∈ point.constraints

theorem mem_addShape {shapes : List ShapeRef} {shape other : ShapeRef} :
    other ∈ Point.addShape shapes shape ↔ other ∈ shapes ∨ other = shape := by
  unfold Point.addShape
  split
  case isTrue known =>
    have member : shape ∈ shapes := by simpa using known
    exact ⟨.inl, fun either => either.elim id fun same => same ▸ member⟩
  case isFalse => simp

theorem binds_touched {registry : Registry α} {shape : ShapeRef}
    (points : ∀ id ∈ registry.definingPoints shape, registry.Holds (.point id)) :
    Binds (touched registry shape) shape := by
  intro id member
  rw [definingPoints_touched] at member
  obtain ⟨point, stored⟩ := Registry.holds_point_iff.1 (points id member)
  refine ⟨point.addConstraint shape, by simp [point?_touched, stored, member], ?_⟩
  exact mem_addShape.2 (.inr rfl)

theorem definingPoints_add_eq_nil (registry : Registry α) (kind : EntityKind) {shape : ShapeRef}
    (created : shape.entity = registry.newest kind) : registry.definingPoints shape = [] :=
  Registry.definingPoints_of_not_holds (created ▸ registry.not_holds_newest kind)

theorem definingPoints_addJoined (registry : Registry α) (name : String) (a b : PointId)
    (shape : ShapeRef) :
    (addJoined registry name a b).definingPoints shape =
      if shape = .line ⟨registry.lines.size⟩ then [a, b] else registry.definingPoints shape := by
  split
  case isTrue created =>
    subst created
    simp [Registry.definingPoints, addJoined, Registry.line?_modifyLine, Registry.line?_add,
      Registry.count, EntityRef.ofIndex, Line.endpoints]
  case isFalse other =>
    rw [← registry.definingPoints_add .line name]
    cases shape with
    | line id =>
        have different : (⟨registry.lines.size⟩ : LineId) ≠ id := fun same => other (same ▸ rfl)
        simp [Registry.definingPoints, addJoined, Registry.line?_modifyLine, different]
    | _ => rfl

theorem definingPoints_addClosed (registry : Registry α) (name : String)
    (vertices : List PointId) (label : Option String) (shape : ShapeRef) :
    (addClosed registry name vertices label).definingPoints shape =
      if shape = .polygon ⟨registry.polygons.size⟩ then vertices
      else registry.definingPoints shape := by
  split
  case isTrue created =>
    subst created
    simp [Registry.definingPoints, addClosed, Registry.polygon?_modifyPolygon,
      Registry.polygon?_add, Registry.count, EntityRef.ofIndex]
  case isFalse other =>
    rw [← registry.definingPoints_add .polygon name]
    cases shape with
    | polygon id =>
        have different : (⟨registry.polygons.size⟩ : PolygonId) ≠ id :=
          fun same => other (same ▸ rfl)
        simp [Registry.definingPoints, addClosed, Registry.polygon?_modifyPolygon, different]
    | _ => rfl

theorem definingPoints_setBoundary {registry : Registry α} {id : CircleId}
    (known : registry.Holds (.circle id)) (a b c : PointId) (shape : ShapeRef) :
    (setBoundary registry id a b c).definingPoints shape =
      if shape = .circle id then [a, b, c] else registry.definingPoints shape := by
  split
  case isTrue bounded =>
    subst bounded
    obtain ⟨circle, stored⟩ := Registry.holds_circle_iff.1 known
    simp [Registry.definingPoints, setBoundary, Registry.circle?_modifyCircle, stored,
      Circle.boundary]
  case isFalse other =>
    cases shape with
    | circle bounded =>
        have different : id ≠ bounded := fun same => other (same ▸ rfl)
        simp [Registry.definingPoints, setBoundary, Registry.circle?_modifyCircle, different]
    | _ => rfl

/-- A shape that gets its points binds them when they are constrained to it. -/
theorem definingPoints_cases_touched {before made : Registry α} {shape : ShapeRef}
    {ids : List PointId} (unbound : before.definingPoints shape = [])
    (points : ∀ other, made.definingPoints other =
      if other = shape then ids else before.definingPoints other)
    (held : ∀ id ∈ ids, made.Holds (.point id)) (other : ShapeRef) :
    (touched made shape).definingPoints other = before.definingPoints other ∨
      before.definingPoints other = [] ∧ Binds (touched made shape) other := by
  by_cases same : other = shape
  · subst same
    refine .inr ⟨unbound, binds_touched fun id member => ?_⟩
    rw [points, if_pos rfl] at member
    exact held id member
  · refine .inl ?_
    rw [definingPoints_touched, points, if_neg same]

/-- A shape is made of the points from before, or it had none and binds those it gets. -/
theorem Change.definingPoints_cases (change : Change declaration before after)
    (shape : ShapeRef) :
    after.definingPoints shape = before.definingPoints shape ∨
      before.definingPoints shape = [] ∧ Binds after shape := by
  cases change with
  | point name => exact .inl (before.definingPoints_add ..)
  | record => cases shape <;> exact .inl rfl
  | @line name a b fresh first second =>
      refine definingPoints_cases_touched (definingPoints_add_eq_nil before .line rfl)
        (definingPoints_addJoined before name a b) (fun id member => ?_) shape
      refine (sameNames_addJoined ..).holds_iff.2 (Registry.holds_add.2 (.inl ?_))
      simp only [List.mem_cons, List.not_mem_nil, or_false] at member
      rcases member with rfl | rfl
      · exact first
      · exact second
  | circle name => exact .inl (before.definingPoints_add ..)
  | boundary known unbound points =>
      refine definingPoints_cases_touched unbound (definingPoints_setBoundary known _ _ _)
        (fun id member => ?_) shape
      exact (sameNames_setBoundary ..).holds_iff.2 (points id member)
  | center id =>
      refine .inl (before.definingPoints_modifyCircle id ?_ shape)
      exact fun _ => rfl
  | radius id =>
      refine .inl (before.definingPoints_modifyCircle id ?_ shape)
      exact fun _ => rfl
  | polygon name label fresh points =>
      refine definingPoints_cases_touched (definingPoints_add_eq_nil before .polygon rfl)
        (definingPoints_addClosed before name _ label) (fun id member => ?_) shape
      exact (sameNames_addClosed ..).holds_iff.2 (Registry.holds_add.2 (.inl (points id member)))
  | angle name =>
      rw [← before.definingPoints_add .angle name]
      cases shape <;> exact .inl rfl
  | touch => exact .inl (definingPoints_touched ..)
  | paint color entity =>
      cases entity with
      | line id =>
          refine .inl (before.definingPoints_modifyLine id ?_ shape)
          exact fun _ => rfl
      | circle id =>
          refine .inl (before.definingPoints_modifyCircle id ?_ shape)
          exact fun _ => rfl
      | polygon id =>
          refine .inl (before.definingPoints_modifyPolygon id ?_ shape)
          exact fun _ => rfl
      | _ => cases shape <;> exact .inl rfl

end FigureMarkup.Construction

import FigureMarkup.Proofs.Construction.Declaring
import FigureMarkup.Proofs.Construction.WellFormed

/-!
# What stays in a figure

Whoever writes first wins: an entity that a registry has keeps its number, its name and what it is
made of, whatever is declared later and whether or not it succeeds. Only a few things can change,
and each of them only by a declaration that names the entity: the coordinates of a point, the
center of a circle, and the color of an entity. What a point must lie on only grows.
-/

namespace FigureMarkup.Figure

/-! ## Members of arrays that stay -/

/-- Every member of an array stays in its place and changes at most as is allowed there. -/
def Stays {β : Type} (allowed : Nat → β → β → Prop) (before after : Array β) : Prop :=
  ∀ i old, before[i]? = some old → ∃ now, after[i]? = some now ∧ allowed i old now

namespace Stays

variable {β : Type} {allowed : Nat → β → β → Prop} {before middle after : Array β}

theorem refl (same : ∀ i old, allowed i old old) (members : Array β) :
    Stays allowed members members :=
  fun i old stored => ⟨old, stored, same i old⟩

theorem trans (closed : ∀ i old between now, allowed i old between → allowed i between now →
      allowed i old now)
    (one : Stays allowed before middle) (two : Stays allowed middle after) :
    Stays allowed before after := by
  intro i old stored
  obtain ⟨between, stored, first⟩ := one i old stored
  obtain ⟨now, stored, second⟩ := two i between stored
  exact ⟨now, stored, closed i old between now first second⟩

theorem mono {weaker : Nat → β → β → Prop} (stays : Stays allowed before after)
    (implies : ∀ i old now, allowed i old now → weaker i old now) :
    Stays weaker before after := by
  intro i old stored
  obtain ⟨now, stored, first⟩ := stays i old stored
  exact ⟨now, stored, implies i old now first⟩

theorem push (stays : Stays allowed before after) (new : β) :
    Stays allowed before (after.push new) := by
  intro i old stored
  obtain ⟨now, stored, first⟩ := stays i old stored
  have inside : i < after.size := (Array.getElem?_eq_some_iff.1 stored).choose
  exact ⟨now, by rw [Array.getElem?_push, if_neg (Nat.ne_of_lt inside), stored], first⟩

theorem getElem?_size (stays : Stays allowed before after) : before[after.size]? = none := by
  cases stored : before[after.size]? with
  | none => rfl
  | some old =>
      obtain ⟨now, found, -⟩ := stays after.size old stored
      simp at found

/-- A member may be changed if it was not there before, or if the change is allowed. -/
theorem modify (stays : Stays allowed before after) (changed : Nat) {change : β → β}
    (fine : ∀ old now, before[changed]? = some old → allowed changed old now →
      allowed changed old (change now)) :
    Stays allowed before (after.modify changed change) := by
  intro i old stored
  obtain ⟨now, found, first⟩ := stays i old stored
  refine ⟨if changed = i then change now else now, ?_, ?_⟩
  · rw [Array.getElem?_modify, found]
    split <;> rfl
  · split
    case isTrue same =>
      subst same
      exact fine old now stored first
    case isFalse => exact first

end Stays

end FigureMarkup.Figure

namespace FigureMarkup.Construction

open Figure Plane Markup

variable {α : Type} {declaration : Declaration}

/-! ## Licences -/

/-- What may be changed about the entities that a registry has. -/
structure Licence where
  /-- Points that may get other coordinates. -/
  moves : PointId → Prop
  /-- Circles that may get another center. -/
  centers : CircleId → Prop
  /-- Entities that may get another color. -/
  paints : EntityRef → Prop

namespace Licence

def none : Licence := ⟨fun _ => False, fun _ => False, fun _ => False⟩

/-- What either of two licences allows. -/
def or (first second : Licence) : Licence where
  moves id := first.moves id ∨ second.moves id
  centers id := first.centers id ∨ second.centers id
  paints entity := first.paints entity ∨ second.paints entity

/-- A licence allows all that another one does. -/
structure Within (first second : Licence) : Prop where
  moves : ∀ {id}, first.moves id → second.moves id
  centers : ∀ {id}, first.centers id → second.centers id
  paints : ∀ {entity}, first.paints entity → second.paints entity

theorem within_or_left (first second : Licence) : first.Within (first.or second) :=
  ⟨.inl, .inl, .inl⟩

theorem within_or_right (first second : Licence) : second.Within (first.or second) :=
  ⟨.inr, .inr, .inr⟩

end Licence

/-- What a point keeps, unless it may move or be painted. -/
structure PointKept (moves paints : Prop) (old now : Point α) : Prop where
  name : now.name = old.name
  coordinates : (now.x = old.x ∧ now.y = old.y) ∨ moves
  constraints : old.constraints <+: now.constraints
  liesOn : old.liesOn <+: now.liesOn
  random : old.random = true → now.random = true
  color : now.color = old.color ∨ paints

/-- What a line keeps, unless it may be painted. -/
structure LineKept (paints : Prop) (old now : Line) : Prop where
  name : now.name = old.name
  p1 : now.p1 = old.p1
  p2 : now.p2 = old.p2
  color : now.color = old.color ∨ paints

/-- What a circle keeps, unless it may be centered or painted. -/
structure CircleKept (centers paints : Prop) (old now : Circle α) : Prop where
  name : now.name = old.name
  p1 : now.p1 = old.p1
  p2 : now.p2 = old.p2
  p3 : now.p3 = old.p3
  center : now.center = old.center ∨ centers
  radius : now.radius = old.radius
  color : now.color = old.color ∨ paints

/-- What a polygon keeps, unless it may be painted. -/
structure PolygonKept (paints : Prop) (old now : Polygon) : Prop where
  name : now.name = old.name
  vertices : now.vertices = old.vertices
  label : now.label = old.label
  color : now.color = old.color ∨ paints

/-- What an angle keeps, unless it may be painted. -/
structure AngleKept (paints : Prop) (old now : Angle α) : Prop where
  name : now.name = old.name
  p1 : now.p1 = old.p1
  vertex : now.vertex = old.vertex
  p3 : now.p3 = old.p3
  big : now.big = old.big
  degrees : now.degrees = old.degrees
  measured : now.measured = old.measured
  color : now.color = old.color ∨ paints

/-- All entities of a registry stay under their numbers and names, and change at most as a licence
allows. -/
structure Kept (licence : Licence) (before after : Registry α) : Prop where
  index? : ∀ {kind name index}, before.index? kind name = some index →
    after.index? kind name = some index
  points : Stays (fun i => PointKept (licence.moves ⟨i⟩) (licence.paints (.point ⟨i⟩)))
    before.points after.points
  lines : Stays (fun i => LineKept (licence.paints (.line ⟨i⟩))) before.lines after.lines
  circles : Stays (fun i => CircleKept (licence.centers ⟨i⟩) (licence.paints (.circle ⟨i⟩)))
    before.circles after.circles
  polygons : Stays (fun i => PolygonKept (licence.paints (.polygon ⟨i⟩)))
    before.polygons after.polygons
  angles : Stays (fun i => AngleKept (licence.paints (.angle ⟨i⟩))) before.angles after.angles

/-! ### Keeping in turn -/

/-- What is either the same or licensed stays so. -/
theorem eq_or_trans {β : Type} {licensed : Prop} {old between now : β}
    (one : between = old ∨ licensed) (two : now = between ∨ licensed) :
    now = old ∨ licensed := by
  rcases two with rfl | allowed
  · exact one
  · exact .inr allowed

section Entities

variable {moves centers paints : Prop}

theorem PointKept.refl (point : Point α) : PointKept moves paints point point :=
  ⟨rfl, .inl ⟨rfl, rfl⟩, List.prefix_rfl, List.prefix_rfl, id, .inl rfl⟩

theorem PointKept.trans {old between now : Point α} (one : PointKept moves paints old between)
    (two : PointKept moves paints between now) : PointKept moves paints old now where
  name := two.name.trans one.name
  coordinates := by
    rcases two.coordinates with ⟨x, y⟩ | allowed
    · rw [x, y]
      exact one.coordinates
    · exact .inr allowed
  constraints := one.constraints.trans two.constraints
  liesOn := one.liesOn.trans two.liesOn
  random was := two.random (one.random was)
  color := eq_or_trans one.color two.color

theorem prefix_addShape (shapes : List ShapeRef) (shape : ShapeRef) :
    shapes <+: Point.addShape shapes shape := by
  unfold Point.addShape
  split
  · exact List.prefix_rfl
  · exact List.prefix_append shapes [shape]

theorem PointKept.addConstraint (shape : ShapeRef) (point : Point α) :
    PointKept moves paints point (point.addConstraint shape) :=
  ⟨rfl, .inl ⟨rfl, rfl⟩, prefix_addShape _ _, List.prefix_rfl, fun was => was, .inl rfl⟩

theorem PointKept.recordPoint {position : Option (Vec α)} (shape : Option ShapeRef)
    (random : Bool) (allowed : position.isSome → moves) (point : Point α) :
    PointKept moves paints point (recordPoint position shape random point) where
  name := recordPoint_name position shape random point
  coordinates := by
    cases position with
    | none => exact .inl (by cases shape <;> cases random <;> exact ⟨rfl, rfl⟩)
    | some position => exact .inr (allowed rfl)
  constraints := by
    rw [recordPoint_constraints]
    cases shape with
    | none => exact List.prefix_rfl
    | some shape => exact prefix_addShape _ shape
  liesOn := by
    rw [recordPoint_liesOn]
    cases shape with
    | none => exact List.prefix_rfl
    | some shape => exact prefix_addShape _ shape
  random was := by cases position <;> cases shape <;> cases random <;> first | exact was | rfl
  color := .inl (by cases position <;> cases shape <;> cases random <;> rfl)

theorem LineKept.refl (line : Line) : LineKept paints line line :=
  ⟨rfl, rfl, rfl, .inl rfl⟩

theorem LineKept.trans {old between now : Line} (one : LineKept paints old between)
    (two : LineKept paints between now) : LineKept paints old now :=
  ⟨two.name.trans one.name, two.p1.trans one.p1, two.p2.trans one.p2,
    eq_or_trans one.color two.color⟩

theorem CircleKept.refl (circle : Circle α) : CircleKept centers paints circle circle :=
  ⟨rfl, rfl, rfl, rfl, .inl rfl, rfl, .inl rfl⟩

theorem CircleKept.trans {old between now : Circle α} (one : CircleKept centers paints old between)
    (two : CircleKept centers paints between now) : CircleKept centers paints old now :=
  ⟨two.name.trans one.name, two.p1.trans one.p1, two.p2.trans one.p2, two.p3.trans one.p3,
    eq_or_trans one.center two.center, two.radius.trans one.radius,
    eq_or_trans one.color two.color⟩

theorem PolygonKept.refl (polygon : Polygon) : PolygonKept paints polygon polygon :=
  ⟨rfl, rfl, rfl, .inl rfl⟩

theorem PolygonKept.trans {old between now : Polygon} (one : PolygonKept paints old between)
    (two : PolygonKept paints between now) : PolygonKept paints old now :=
  ⟨two.name.trans one.name, two.vertices.trans one.vertices, two.label.trans one.label,
    eq_or_trans one.color two.color⟩

theorem AngleKept.refl (angle : Angle α) : AngleKept paints angle angle :=
  ⟨rfl, rfl, rfl, rfl, rfl, rfl, rfl, .inl rfl⟩

theorem AngleKept.trans {old between now : Angle α} (one : AngleKept paints old between)
    (two : AngleKept paints between now) : AngleKept paints old now :=
  ⟨two.name.trans one.name, two.p1.trans one.p1, two.vertex.trans one.vertex,
    two.p3.trans one.p3, two.big.trans one.big, two.degrees.trans one.degrees,
    two.measured.trans one.measured, eq_or_trans one.color two.color⟩

end Entities

namespace Kept

variable {licence : Licence} {before middle after : Registry α}

theorem refl (registry : Registry α) : Kept licence registry registry where
  index? known := known
  points := .refl (fun _ => .refl) _
  lines := .refl (fun _ => .refl) _
  circles := .refl (fun _ => .refl) _
  polygons := .refl (fun _ => .refl) _
  angles := .refl (fun _ => .refl) _

theorem trans (one : Kept licence before middle) (two : Kept licence middle after) :
    Kept licence before after where
  index? known := two.index? (one.index? known)
  points := one.points.trans (fun _ _ _ _ => .trans) two.points
  lines := one.lines.trans (fun _ _ _ _ => .trans) two.lines
  circles := one.circles.trans (fun _ _ _ _ => .trans) two.circles
  polygons := one.polygons.trans (fun _ _ _ _ => .trans) two.polygons
  angles := one.angles.trans (fun _ _ _ _ => .trans) two.angles

theorem mono {wider : Licence} (kept : Kept licence before after)
    (within : licence.Within wider) : Kept wider before after where
  index? known := kept.index? known
  points := kept.points.mono fun _ _ _ one =>
    { one with
      coordinates := one.coordinates.imp_right within.moves
      color := one.color.imp_right within.paints }
  lines := kept.lines.mono fun _ _ _ one =>
    { one with color := one.color.imp_right within.paints }
  circles := kept.circles.mono fun _ _ _ one =>
    { one with
      center := one.center.imp_right within.centers
      color := one.color.imp_right within.paints }
  polygons := kept.polygons.mono fun _ _ _ one =>
    { one with color := one.color.imp_right within.paints }
  angles := kept.angles.mono fun _ _ _ one =>
    { one with color := one.color.imp_right within.paints }

/-! ### Single steps -/

/-- Entering a new name adds an entity at the end. -/
theorem add (kept : Kept licence before middle) {kind : EntityKind} {name : String}
    (fresh : middle.index? kind name = none) : Kept licence before (middle.add kind name) := by
  have index? {other : EntityKind} {sought : String} {index : Nat}
      (known : before.index? other sought = some index) :
      (middle.add kind name).index? other sought = some index :=
    Registry.index?_add_of_known fresh (kept.index? known)
  cases kind with
  | point => exact { kept with index?, points := kept.points.push _ }
  | line => exact { kept with index?, lines := kept.lines.push _ }
  | circle => exact { kept with index?, circles := kept.circles.push _ }
  | polygon => exact { kept with index?, polygons := kept.polygons.push _ }
  | angle => exact { kept with index?, angles := kept.angles.push _ }

theorem modifyPoint (kept : Kept licence before middle) (id : PointId)
    {change : Point α → Point α}
    (allowed : ∀ old, before.point? id = some old → ∀ now,
      PointKept (licence.moves id) (licence.paints (.point id)) now (change now)) :
    Kept licence before (middle.modifyPoint id change) :=
  { kept with
    points := kept.points.modify id.index fun old now stored one =>
      one.trans (allowed old stored now) }

theorem modifyLine (kept : Kept licence before middle) (id : LineId) {change : Line → Line}
    (allowed : ∀ old, before.line? id = some old → ∀ now,
      LineKept (licence.paints (.line id)) now (change now)) :
    Kept licence before (middle.modifyLine id change) :=
  { kept with
    lines := kept.lines.modify id.index fun old now stored one =>
      one.trans (allowed old stored now) }

theorem modifyCircle (kept : Kept licence before middle) (id : CircleId)
    {change : Circle α → Circle α}
    (allowed : ∀ old, before.circle? id = some old → ∀ now,
      CircleKept (licence.centers id) (licence.paints (.circle id)) now (change now)) :
    Kept licence before (middle.modifyCircle id change) :=
  { kept with
    circles := kept.circles.modify id.index fun old now stored one =>
      one.trans (allowed old stored now) }

theorem modifyPolygon (kept : Kept licence before middle) (id : PolygonId)
    {change : Polygon → Polygon}
    (allowed : ∀ old, before.polygon? id = some old → ∀ now,
      PolygonKept (licence.paints (.polygon id)) now (change now)) :
    Kept licence before (middle.modifyPolygon id change) :=
  { kept with
    polygons := kept.polygons.modify id.index fun old now stored one =>
      one.trans (allowed old stored now) }

theorem modifyAngle (kept : Kept licence before middle) (id : AngleId)
    {change : Angle α → Angle α}
    (allowed : ∀ old, before.angle? id = some old → ∀ now,
      AngleKept (licence.paints (.angle id)) now (change now)) :
    Kept licence before (middle.modifyAngle id change) :=
  { kept with
    angles := kept.angles.modify id.index fun old now stored one =>
      one.trans (allowed old stored now) }

theorem entersPoints (kept : Kept licence before middle) (entered : EntersPoints middle after) :
    Kept licence before after := by
  refine kept.trans ⟨entered.index?, fun i old stored => ?_, ?_, ?_, ?_, ?_⟩
  · have known : middle.point? ⟨i⟩ = some old := stored
    exact ⟨old, entered.point? known, .refl old⟩
  · exact entered.lines ▸ .refl (fun _ => .refl) _
  · exact entered.circles ▸ .refl (fun _ => .refl) _
  · exact entered.polygons ▸ .refl (fun _ => .refl) _
  · exact entered.angles ▸ .refl (fun _ => .refl) _

/-- A licensed entity is painted. -/
theorem setColor (kept : Kept licence before middle) {entity : EntityRef}
    (allowed : licence.paints entity) (color : Rgba) :
    Kept licence before (middle.setColor color entity) := by
  cases entity with
  | point id =>
      exact kept.modifyPoint id fun _ _ now =>
        ⟨rfl, .inl ⟨rfl, rfl⟩, List.prefix_rfl, List.prefix_rfl, fun was => was, .inr allowed⟩
  | line id => exact kept.modifyLine id fun _ _ now => ⟨rfl, rfl, rfl, .inr allowed⟩
  | circle id =>
      exact kept.modifyCircle id fun _ _ now => ⟨rfl, rfl, rfl, rfl, .inl rfl, rfl, .inr allowed⟩
  | polygon id => exact kept.modifyPolygon id fun _ _ now => ⟨rfl, rfl, rfl, .inr allowed⟩
  | angle id =>
      exact kept.modifyAngle id fun _ _ now => ⟨rfl, rfl, rfl, rfl, rfl, rfl, rfl, .inr allowed⟩

/-! ### New entities with their points -/

/-- The points of a shape are constrained to it. -/
theorem constrain (kept : Kept licence before middle) (shape : ShapeRef) (ids : List PointId) :
    Kept licence before (constrain middle shape ids) := by
  induction ids generalizing middle with
  | nil => exact kept
  | cons id ids ih => exact ih (kept.modifyPoint id fun _ _ now => .addConstraint shape now)

theorem addJoined (kept : Kept licence before middle) {name : String}
    (fresh : middle.index? .line name = .none) (a b : PointId) :
    Kept licence before (addJoined middle name a b) := by
  refine (kept.add fresh).modifyLine _ fun old stored => ?_
  simp [Registry.line?, kept.lines.getElem?_size] at stored

theorem addClosed (kept : Kept licence before middle) {name : String}
    (fresh : middle.index? .polygon name = .none) (vertices : List PointId)
    (label : Option String) : Kept licence before (addClosed middle name vertices label) := by
  refine (kept.add fresh).modifyPolygon _ fun old stored => ?_
  simp [Registry.polygon?, kept.polygons.getElem?_size] at stored

theorem addSpanned (kept : Kept licence before middle) {name : String}
    (fresh : middle.index? .angle name = .none) (p1 vertex p3 : PointId) (big : Bool) :
    Kept licence before (addSpanned middle name p1 vertex p3 big) := by
  refine (kept.add fresh).modifyAngle _ fun old stored => ?_
  simp [Registry.angle?, kept.angles.getElem?_size] at stored

/-- Whatever is done to a circle that was not there before. -/
theorem modifyNewCircle (kept : Kept licence before middle) {id : CircleId}
    (new : before.circle? id = .none) (change : Circle α → Circle α) :
    Kept licence before (middle.modifyCircle id change) := by
  refine kept.modifyCircle id fun old stored => ?_
  simp [new] at stored

theorem enterBoundary (kept : Kept licence before middle) {id : CircleId}
    (new : before.circle? id = .none) (name : String) :
    Kept licence before (enterBoundary middle id name) :=
  enterBoundary_induction kept id name
    (fun entered kept => kept.entersPoints (entersPoints_enterPoint entered).1)
    (fun ids kept => kept.constrain _ ids) fun _ _ _ kept => kept.modifyNewCircle new _

theorem enterCenter (kept : Kept licence before middle) {id : CircleId}
    (new : before.circle? id = .none) (center : Option String) :
    Kept licence before (enterCenter middle id center) :=
  enterCenter_induction kept id center
    (fun entered kept => kept.entersPoints (entersPoints_enterPoint entered).1)
    fun _ kept => kept.modifyNewCircle new _

theorem enterRadius [Scalar α] (kept : Kept licence before middle) {id : CircleId}
    (new : before.circle? id = .none) (radius : Option (DeclaredRadius α)) :
    Kept licence before (enterRadius middle id radius) := by
  rcases radius with _ | value | ⟨first, second⟩
  · unfold Construction.enterRadius
    dsimp only
    split
    · exact kept.modifyNewCircle new _
    · exact kept
  · exact kept.modifyNewCircle new _
  · rcases enteredA : middle.enterPoint first with ⟨a, one⟩
    rcases enteredB : one.enterPoint second with ⟨b, two⟩
    simp only [Construction.enterRadius, enteredA, enteredB]
    exact ((kept.entersPoints (entersPoints_enterPoint enteredA).1).entersPoints
      (entersPoints_enterPoint enteredB).1).modifyNewCircle new _

theorem addCircled [Scalar α] (kept : Kept licence before middle) {name : String}
    (fresh : middle.index? .circle name = .none) (center : Option String)
    (radius : Option (DeclaredRadius α)) :
    Kept licence before (addCircled middle name center radius) := by
  have new : before.circle? ⟨middle.circles.size⟩ = .none := kept.circles.getElem?_size
  exact (((kept.add fresh).enterBoundary new name).enterCenter new center).enterRadius new radius

end Kept

/-! ## Declarations -/

variable [Scalar α]

/-- What a declaration may change about the entities that are there before it. -/
def licence (registry : Registry α) (declaration : Declaration) : Licence where
  moves id := GivesPlace declaration ∧
    ∃ name, declaration.name = some name ∧ registry.index? .point name = some id.index
  centers id := kindOf? declaration = some .center ∧
    ∃ name, declaration.argument? "circle" = some name ∧
      registry.index? .circle name = some id.index
  paints entity := (declaration.argument? "color").isSome ∧
    ∃ others, (apply registry declaration).1 = .ok (.entities (entity :: others))

/-- What some declarations, applied in turn, may change about the entities that are there before
them: what one of them may change about those that are there before it. -/
def licenceOver (registry : Registry α) : List Declaration → Licence
  | [] => .none
  | declaration :: rest =>
      (licence registry declaration).or (licenceOver (apply registry declaration).2 rest)

theorem Declaring.kept {registry : Registry α} {effect : Effect α}
    (declaring : Declaring registry declaration effect) :
    Kept (licence registry declaration) registry effect.2 := by
  have start : Kept (licence registry declaration) registry registry := .refl registry
  cases declaring with
  | refused fault entered => exact start.entersPoints (entersPoints_enterPoints entered)
  | @record name id later position shape random named entered moves =>
      obtain ⟨enters, known | new⟩ := entersPoints_enterPoint entered
      · refine (start.entersPoints enters).modifyPoint id fun _ _ now => ?_
        exact .recordPoint shape random (fun given => ⟨moves given, name, named, known⟩) now
      · refine (start.entersPoints enters).modifyPoint id fun old stored => ?_
        simp [new] at stored
  | again entered => exact (start.entersPoints (entersPoints_enterPoints entered)).constrain _ _
  | line entered name fresh =>
      exact ((start.entersPoints (entersPoints_enterPoints entered)).addJoined fresh _ _).constrain
        _ _
  | polygon entered name label fresh =>
      exact ((start.entersPoints (entersPoints_enterPoints entered)).addClosed fresh _
        label).constrain _ _
  | circleAgain => exact start
  | circle name center radius fresh => exact start.addCircled fresh center radius
  | center asked argument known entered =>
      refine (start.entersPoints (entersPoints_enterPoint entered).1).modifyCircle _ ?_
      exact fun _ _ now =>
        ⟨rfl, rfl, rfl, rfl, .inr ⟨asked, _, argument, known⟩, rfl, .inl rfl⟩
  | angleAgain entered => exact start.entersPoints (entersPoints_enterPoints entered)
  | angle entered name big fresh =>
      exact (start.entersPoints (entersPoints_enterPoints entered)).addSpanned fresh _ _ _ big

/-- A declaration, also one that fails, changes the entities before it only as it may. -/
theorem apply_kept (registry : Registry α) (declaration : Declaration) :
    Kept (licence registry declaration) registry (apply registry declaration).2 := by
  have step := applying registry declaration
  generalize applied : apply registry declaration = result at step ⊢
  cases step with
  | unknown => exact .refl registry
  | mark => exact .refl registry
  | refused declaring => exact declaring.kept
  | plain declaring => exact declaring.kept
  | unreadable declaring => exact declaring.kept
  | @painted main others later value declaring argument color =>
      refine declaring.kept.setColor ⟨?_, others, ?_⟩ color
      · simp [argument]
      · rw [applied]

theorem foldl_apply_kept (registry : Registry α) (declarations : List Declaration) :
    Kept (licenceOver registry declarations) registry
      (declarations.foldl (fun registry declaration => (apply registry declaration).2)
        registry) := by
  induction declarations generalizing registry with
  | nil => exact .refl registry
  | cons declaration rest ih =>
      have first := (apply_kept registry declaration).mono
        (Licence.within_or_left _ (licenceOver (apply registry declaration).2 rest))
      exact first.trans ((ih _).mono (Licence.within_or_right _ _))

/-- Whatever is declared later, the entities that declarations have built stay under their numbers
and names, with what they are made of. Points move, circles are centered and entities are painted
only by later declarations that may do so. -/
theorem construct_kept (palette : Palette) (earlier later : List Declaration) :
    let before : Registry α := construct palette earlier
    Kept (licenceOver before later) before (construct palette (earlier ++ later)) := by
  intro before
  rw [construct, List.foldl_append]
  exact foldl_apply_kept before later

end FigureMarkup.Construction

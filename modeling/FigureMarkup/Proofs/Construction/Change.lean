import FigureMarkup.Construction.Interpreter
import FigureMarkup.Proofs.Figure.Views
import Mathlib.Logic.Relation

/-!
# Changes of a registry

Whatever a declaration does to a registry, it does by changes of a few kinds: it enters points,
records something about one, adds a shape together with the points it is made of, completes a
circle, or gives an entity a color. Each kind of change comes with what is known when it is made.
Applying a declaration is a sequence of changes, so what every change keeps holds of every
registry that declarations build.
-/

namespace FigureMarkup.Construction

open Figure Plane Markup Relation

variable {α : Type}

/-! ## Constraining points -/

theorem constrain_cons (registry : Registry α) (shape : ShapeRef) (id : PointId)
    (ids : List PointId) :
    constrain registry shape (id :: ids) =
      constrain (registry.modifyPoint id (Point.addConstraint shape)) shape ids :=
  rfl

/-- Constraining points changes nothing but points. -/
theorem constrain_eq (registry : Registry α) (shape : ShapeRef) (ids : List PointId) :
    constrain registry shape ids =
      { registry with points := (constrain registry shape ids).points } := by
  induction ids generalizing registry with
  | nil => rfl
  | cons id ids ih =>
      rw [constrain_cons, ih]
      rfl

@[simp]
theorem addConstraint_addConstraint (shape : ShapeRef) (point : Point α) :
    (point.addConstraint shape).addConstraint shape = point.addConstraint shape := by
  by_cases known : shape ∈ point.constraints <;>
    simp [Point.addConstraint, Point.addShape, known]

theorem point?_constrain (registry : Registry α) (shape : ShapeRef) (ids : List PointId)
    (id : PointId) :
    (constrain registry shape ids).point? id =
      (registry.point? id).map fun point =>
        if id ∈ ids then point.addConstraint shape else point := by
  induction ids generalizing registry with
  | nil => simp [constrain]
  | cons first ids ih =>
      rw [constrain_cons, ih, Registry.point?_modifyPoint, Option.map_map]
      congr 1
      funext point
      rcases eq_or_ne first id with rfl | differs
      · by_cases later : first ∈ ids <;> simp [later]
      · simp [differs, differs.symm]

/-- What constraining the points of a shape leaves. -/
def touched (registry : Registry α) (shape : ShapeRef) : Registry α :=
  constrain registry shape (registry.definingPoints shape)

/-! ## New shapes and angles -/

/-- Add a line that joins two points. -/
def addJoined (registry : Registry α) (name : String) (a b : PointId) : Registry α :=
  (registry.add .line name).modifyLine ⟨registry.lines.size⟩ fun line =>
    { line with p1 := some a, p2 := some b }

/-- Add a polygon with its vertices. -/
def addClosed (registry : Registry α) (name : String) (vertices : List PointId)
    (label : Option String) : Registry α :=
  (registry.add .polygon name).modifyPolygon ⟨registry.polygons.size⟩ fun polygon =>
    { polygon with vertices, label }

/-- Add an angle with its points. -/
def addSpanned (registry : Registry α) (name : String) (p1 vertex p3 : PointId) (big : Bool) :
    Registry α :=
  (registry.add .angle name).modifyAngle ⟨registry.angles.size⟩ fun angle =>
    { angle with p1 := some p1, vertex := some vertex, p3 := some p3, big }

/-- Let the boundary of a circle pass through three points. -/
def setBoundary (registry : Registry α) (id : CircleId) (a b c : PointId) : Registry α :=
  registry.modifyCircle id fun circle =>
    { circle with p1 := some a, p2 := some b, p3 := some c }

/-! ## Changes -/

/-- The changes that applying a declaration makes to a registry. -/
inductive Change (declaration : Declaration) : Registry α → Registry α → Prop
  | point {registry : Registry α} (name : String)
      (fresh : registry.index? .point name = none) :
      Change declaration registry (registry.add .point name)
  /-- Something is recorded about a point. It lies on a shape only if the declaration asks so. -/
  | record {registry : Registry α} (id : PointId) (position : Option (Vec α))
      (shape : Option ShapeRef) (random : Bool)
      (asked : ∀ asked ∈ shape,
        registry.Holds asked.entity ∧ (declaration.argument? "lieson").isSome) :
      Change declaration registry (registry.modifyPoint id (recordPoint position shape random))
  | line {registry : Registry α} (name : String) {a b : PointId}
      (fresh : registry.index? .line name = none)
      (first : registry.Holds (.point a)) (second : registry.Holds (.point b))
      (distinct : a ≠ b) (unjoined : registry.findLine? a b = none) :
      Change declaration registry
        (touched (addJoined registry name a b) (.line ⟨registry.lines.size⟩))
  | circle {registry : Registry α} (name : String)
      (fresh : registry.index? .circle name = none) :
      Change declaration registry (registry.add .circle name)
  /-- A circle without boundary points gets three. -/
  | boundary {registry : Registry α} {id : CircleId} {a b c : PointId}
      (known : registry.Holds (.circle id))
      (unbound : registry.definingPoints (.circle id) = [])
      (points : ∀ point ∈ [a, b, c], registry.Holds (.point point)) :
      Change declaration registry (touched (setBoundary registry id a b c) (.circle id))
  | center {registry : Registry α} (id : CircleId) {center : PointId}
      (known : registry.Holds (.point center)) :
      Change declaration registry
        (registry.modifyCircle id fun circle => { circle with center := some center })
  | radius {registry : Registry α} (id : CircleId) (radius : Radius α)
      (known : ∀ a b, radius = .between a b →
        registry.Holds (.point a) ∧ registry.Holds (.point b)) :
      Change declaration registry
        (registry.modifyCircle id fun circle => { circle with radius := some radius })
  | polygon {registry : Registry α} (name : String) {vertices : List PointId}
      (label : Option String) (fresh : registry.index? .polygon name = none)
      (points : ∀ vertex ∈ vertices, registry.Holds (.point vertex))
      (enough : 3 ≤ vertices.length) (distinct : vertices.Nodup)
      (unclosed : registry.findPolygon? vertices = none) :
      Change declaration registry
        (touched (addClosed registry name vertices label)
          (.polygon ⟨registry.polygons.size⟩))
  | angle {registry : Registry α} (name : String) {p1 vertex p3 : PointId} (big : Bool)
      (fresh : registry.index? .angle name = none)
      (points : ∀ point ∈ [p1, vertex, p3], registry.Holds (.point point))
      (distinct : [p1, vertex, p3].Nodup) (unspanned : registry.findAngle? p1 vertex p3 = none) :
      Change declaration registry (addSpanned registry name p1 vertex p3 big)
  /-- The points of a shape are constrained to it once more. -/
  | touch {registry : Registry α} {shape : ShapeRef} (known : registry.Holds shape.entity) :
      Change declaration registry (touched registry shape)
  | paint {registry : Registry α} (color : Rgba) (entity : EntityRef) :
      Change declaration registry (registry.setColor color entity)

/-- Some changes, one after another. -/
abbrev Changes (declaration : Declaration) : Registry α → Registry α → Prop :=
  ReflTransGen (Change declaration)

/-! ## Names -/

open Registry (SameNames)

theorem sameNames_constrain (registry : Registry α) (shape : ShapeRef) (ids : List PointId) :
    SameNames (constrain registry shape ids) registry := by
  induction ids generalizing registry with
  | nil => exact .refl registry
  | cons id ids ih => exact (ih _).trans (registry.sameNames_modifyPoint id fun _ => rfl)

theorem sameNames_touched (registry : Registry α) (shape : ShapeRef) :
    SameNames (touched registry shape) registry :=
  sameNames_constrain registry shape _

theorem sameNames_setBoundary (registry : Registry α) (id : CircleId) (a b c : PointId) :
    SameNames (setBoundary registry id a b c) registry :=
  registry.sameNames_modifyCircle id fun _ => rfl

theorem sameNames_addJoined (registry : Registry α) (name : String) (a b : PointId) :
    SameNames (addJoined registry name a b) (registry.add .line name) :=
  Registry.sameNames_modifyLine _ _ fun _ => rfl

theorem sameNames_addClosed (registry : Registry α) (name : String) (vertices : List PointId)
    (label : Option String) :
    SameNames (addClosed registry name vertices label) (registry.add .polygon name) :=
  Registry.sameNames_modifyPolygon _ _ fun _ => rfl

theorem recordPoint_name (position : Option (Vec α)) (shape : Option ShapeRef) (random : Bool)
    (point : Point α) : (recordPoint position shape random point).name = point.name := by
  cases position <;> cases shape <;> cases random <;> rfl

/-- A change enters at most one new name, which finds the entity that it creates. -/
theorem Change.sameNames {declaration : Declaration} {before after : Registry α}
    (change : Change declaration before after) :
    SameNames after before ∨
      ∃ kind name, before.index? kind name = none ∧ SameNames after (before.add kind name) := by
  cases change with
  | point name fresh => exact .inr ⟨.point, name, fresh, .refl _⟩
  | record id position shape random =>
      exact .inl (before.sameNames_modifyPoint id fun _ => recordPoint_name ..)
  | line name fresh =>
      exact .inr ⟨.line, name, fresh, (sameNames_touched ..).trans (sameNames_addJoined ..)⟩
  | circle name fresh => exact .inr ⟨.circle, name, fresh, .refl _⟩
  | boundary => exact .inl ((sameNames_touched _ _).trans (sameNames_setBoundary ..))
  | center id => exact .inl (before.sameNames_modifyCircle id fun _ => rfl)
  | radius id => exact .inl (before.sameNames_modifyCircle id fun _ => rfl)
  | polygon name label fresh =>
      exact .inr ⟨.polygon, name, fresh, (sameNames_touched ..).trans (sameNames_addClosed ..)⟩
  | angle name big fresh =>
      exact .inr ⟨.angle, name, fresh, Registry.sameNames_modifyAngle _ _ fun _ => rfl⟩
  | touch => exact .inl (sameNames_touched ..)
  | paint color entity => exact .inl (before.sameNames_setColor color entity)

/-- Entities stay. -/
theorem Change.holds {declaration : Declaration} {before after : Registry α}
    (change : Change declaration before after) {entity : EntityRef}
    (held : before.Holds entity) : after.Holds entity := by
  rcases change.sameNames with same | ⟨kind, name, -, same⟩
  · exact same.holds_iff.2 held
  · exact same.holds_iff.2 (Registry.holds_add.2 (.inl held))

/-- Entities keep their names. -/
theorem Change.name {declaration : Declaration} {before after : Registry α}
    (change : Change declaration before after) {entity : EntityRef} {name : String}
    (named : before.name entity = some name) : after.name entity = some name := by
  rcases change.sameNames with same | ⟨kind, created, -, same⟩
  · rw [same.name, named]
  · have earlier : entity ≠ before.newest kind := by
      rintro rfl
      rw [Registry.name_newest] at named
      cases named
    rw [same.name, Registry.name_add, if_neg earlier, named]

theorem Changes.holds {declaration : Declaration} {before after : Registry α}
    (changes : Changes declaration before after) {entity : EntityRef}
    (held : before.Holds entity) : after.Holds entity := by
  induction changes with
  | refl => exact held
  | tail _ change ih => exact change.holds ih

theorem Changes.name {declaration : Declaration} {before after : Registry α}
    (changes : Changes declaration before after) {entity : EntityRef} {name : String}
    (named : before.name entity = some name) : after.name entity = some name := by
  induction changes with
  | refl => exact named
  | tail _ change ih => exact change.name ih

/-- Names are those of entities, and every entity is found by its name. -/
structure Indexed (registry : Registry α) : Prop where
  held : ∀ {kind name index}, registry.index? kind name = some index →
    registry.Holds (.ofIndex kind index)
  found : ∀ {entity name}, registry.name entity = some name →
    registry.index? entity.kind name = some entity.index

theorem Indexed.of_sameNames {first second : Registry α} (indexed : Indexed first)
    (same : SameNames second first) : Indexed second where
  held found := same.holds_iff.2 (indexed.held (same.index? .. ▸ found))
  found named := (same.index? ..).trans (indexed.found (same.name _ ▸ named))

theorem Indexed.add {registry : Registry α} (indexed : Indexed registry) {kind : EntityKind}
    {name : String} (fresh : registry.index? kind name = none) :
    Indexed (registry.add kind name) where
  held {other sought index} found := by
    rw [Registry.index?_add] at found
    rw [Registry.holds_add]
    split at found
    case isTrue same =>
      cases found
      exact .inr (same.1 ▸ rfl)
    case isFalse => exact .inl (indexed.held found)
  found {entity sought} named := by
    rw [Registry.name_add] at named
    split at named
    case isTrue created =>
      cases named
      simp [Registry.index?_add, created]
    case isFalse => exact Registry.index?_add_of_known fresh (indexed.found named)

theorem Change.indexed {declaration : Declaration} {before after : Registry α}
    (change : Change declaration before after) (indexed : Indexed before) : Indexed after := by
  rcases change.sameNames with same | ⟨kind, name, fresh, same⟩
  · exact indexed.of_sameNames same
  · exact (indexed.add fresh).of_sameNames same

theorem Changes.indexed {declaration : Declaration} {before after : Registry α}
    (changes : Changes declaration before after) (indexed : Indexed before) :
    Indexed after := by
  induction changes with
  | refl => exact indexed
  | tail _ change ih => exact change.indexed ih

end FigureMarkup.Construction

import FigureMarkup.Proofs.Construction.Persistence
import FigureMarkup.Proofs.Construction.Redeclaration
import FigureMarkup.Proofs.Construction.References

/-!
# Applying a declaration twice

A declaration that succeeds leaves a registry in which it has nothing more to do. What it enters is
found by its name or by its points, what it records is there already, and what it refers to is
what it referred to before. So to apply it once more is to say the same and to change nothing.
-/

namespace FigureMarkup.Figure

variable {α : Type}

/-! ## Changes that change nothing -/

theorem modify_eq_self {β : Type} {members : Array β} {i : Nat} {change : β → β}
    (same : ∀ member, members[i]? = some member → change member = member) :
    members.modify i change = members := by
  refine Array.ext_getElem? fun j => ?_
  rw [Array.getElem?_modify]
  split
  case isTrue here =>
    subst here
    cases stored : members[i]? with
    | none => rfl
    | some member => rw [Option.map_some, same member stored]
  case isFalse => rfl

theorem modify_modify_self {β : Type} (members : Array β) (i : Nat) {change : β → β}
    (again : ∀ member, change (change member) = change member) :
    (members.modify i change).modify i change = members.modify i change := by
  refine modify_eq_self fun member stored => ?_
  rw [Array.getElem?_modify, if_pos rfl, Option.map_eq_some_iff] at stored
  obtain ⟨old, -, rfl⟩ := stored
  exact again old

namespace Registry

theorem modifyPoint_eq_self {registry : Registry α} {id : PointId} {change : Point α → Point α}
    (same : ∀ point, registry.point? id = some point → change point = point) :
    registry.modifyPoint id change = registry := by
  rw [modifyPoint, modify_eq_self same]

theorem modifyCircle_eq_self {registry : Registry α} {id : CircleId}
    {change : Circle α → Circle α}
    (same : ∀ circle, registry.circle? id = some circle → change circle = circle) :
    registry.modifyCircle id change = registry := by
  rw [modifyCircle, modify_eq_self same]

theorem setColor_setColor (registry : Registry α) (color : Rgba) (entity : EntityRef) :
    (registry.setColor color entity).setColor color entity = registry.setColor color entity := by
  cases entity <;>
    simp only [setColor, modifyPoint, modifyLine, modifyCircle, modifyPolygon, modifyAngle,
      modify_modify_self, implies_true]

end Registry

end FigureMarkup.Figure

namespace FigureMarkup.Construction

open Figure Plane Markup

variable {α : Type} {declaration : Declaration}

theorem constrain_eq_self {registry : Registry α} {shape : ShapeRef} {ids : List PointId}
    (known : ∀ id ∈ ids, ∀ point, registry.point? id = some point → shape ∈ point.constraints) :
    constrain registry shape ids = registry := by
  induction ids with
  | nil => rfl
  | cons id ids ih =>
      have same : registry.modifyPoint id (Point.addConstraint shape) = registry := by
        refine Registry.modifyPoint_eq_self fun point stored => ?_
        simp [Point.addConstraint, Point.addShape, known id (by simp) point stored]
      rw [constrain_cons, same, ih fun id member => known id (by simp [member])]

/-- In a well-formed registry the points of a shape are constrained to it already. -/
theorem WellFormed.touchShape_eq {registry : Registry α} (formed : WellFormed registry)
    (shape : ShapeRef) :
    touchShape registry shape =
      (.ok (shape.entity :: (registry.definingPoints shape).map .point), registry) := by
  rw [touchShape, constrain_eq_self fun id member point stored => ?_]
  exact ((formed.points id point stored).reasons shape).2 (.inl (defines_iff.2 member))

/-! ## Painting -/

/-- A licence to paint, and to do nothing else. -/
def Licence.painting : Licence := ⟨fun _ => False, fun _ => False, fun _ => True⟩

/-- A registry stays as it is, or the entity that a declaration is mainly about gets a color. -/
inductive Painted (about : List EntityRef) (later : Registry α) : Registry α → Prop
  | plain : Painted about later later
  | color {main : EntityRef} {others : List EntityRef} (mainly : about = main :: others)
      (color : Rgba) : Painted about later (later.setColor color main)

theorem Painted.kept {about : List EntityRef} {later last : Registry α}
    (painted : Painted about later last) : Kept .painting later last := by
  cases painted with
  | plain => exact .refl later
  | color mainly color => exact (Kept.refl later).setColor trivial color

namespace Kept

variable {licence : Licence} {before after : Registry α} (kept : Kept licence before after)

include kept

/-- Lines, polygons and angles keep their points. -/
theorem span? {entity : EntityRef} {points : List PointId}
    (spanned : before.span? entity = some points) : after.span? entity = some points := by
  cases entity with
  | point id => cases spanned
  | circle id => cases spanned
  | line id =>
      obtain ⟨line, stored, rfl⟩ := Option.map_eq_some_iff.1 spanned
      obtain ⟨now, found, same⟩ := kept.lines id.index line stored
      exact Option.map_eq_some_iff.2 ⟨now, found, by simp [Line.endpoints, same.p1, same.p2]⟩
  | polygon id =>
      obtain ⟨polygon, stored, rfl⟩ := Option.map_eq_some_iff.1 spanned
      obtain ⟨now, found, same⟩ := kept.polygons id.index polygon stored
      exact Option.map_eq_some_iff.2 ⟨now, found, same.vertices⟩
  | angle id =>
      obtain ⟨angle, stored, rfl⟩ := Option.map_eq_some_iff.1 spanned
      obtain ⟨now, found, same⟩ := kept.angles id.index angle stored
      exact Option.map_eq_some_iff.2
        ⟨now, found, by simp [Angle.points, same.p1, same.vertex, same.p3]⟩

theorem definingPoints {shape : ShapeRef} {points : List PointId}
    (spanned : before.span? shape.entity = some points) :
    after.definingPoints shape = before.definingPoints shape := by
  have spans {registry : Registry α} (known : registry.span? shape.entity = some points) :
      registry.definingPoints shape = points := by
    cases shape with
    | line id => exact congrArg (Option.getD · []) known
    | circle id => cases known
    | polygon id => exact congrArg (Option.getD · []) known
  rw [spans (kept.span? spanned), spans spanned]

end Kept

/-! ## Shapes and angles -/

theorem span?_addJoined (registry : Registry α) (name : String) (a b : PointId) :
    (addJoined registry name a b).span? (.line ⟨registry.lines.size⟩) = some [a, b] := by
  have newest : EntityRef.line ⟨registry.lines.size⟩ = registry.newest .line := rfl
  simp [Registry.span?, addJoined, Registry.line?_modifyLine, Registry.line?_add, newest,
    Line.endpoints]

theorem span?_addClosed (registry : Registry α) (name : String) (vertices : List PointId)
    (label : Option String) :
    (addClosed registry name vertices label).span? (.polygon ⟨registry.polygons.size⟩) =
      some vertices := by
  have newest : EntityRef.polygon ⟨registry.polygons.size⟩ = registry.newest .polygon := rfl
  simp [Registry.span?, addClosed, Registry.polygon?_modifyPolygon, Registry.polygon?_add, newest]

theorem span?_addSpanned (registry : Registry α) (name : String) (p1 vertex p3 : PointId)
    (big : Bool) :
    (addSpanned registry name p1 vertex p3 big).span? (.angle ⟨registry.angles.size⟩) =
      some [p1, vertex, p3] := by
  have newest : EntityRef.angle ⟨registry.angles.size⟩ = registry.newest .angle := rfl
  simp [Registry.span?, addSpanned, Registry.angle?_modifyAngle, Registry.angle?_add, newest,
    Angle.points]

section Spans

variable {registry later last : Registry α} {about : List EntityRef}

/-- To touch a shape once more is to touch the same points, which are constrained to it already. -/
theorem touchShape_again {shape : ShapeRef} {points : List PointId}
    (touched : touchShape registry shape = (.ok about, later))
    (spanned : registry.span? shape.entity = some points) (painted : Painted about later last)
    (formed : WellFormed last) :
    Kept .painting registry last ∧ touchShape last shape = (.ok about, last) := by
  cases touched
  have kept : Kept .painting registry last :=
    ((Kept.refl registry).constrain shape _).trans painted.kept
  exact ⟨kept, by rw [formed.touchShape_eq, kept.definingPoints spanned]⟩

theorem declareLine_again (declared : declareLine registry declaration = (.ok about, later))
    (painted : Painted about later last) (formed : WellFormed last) (apart : last.SpansApart) :
    declareLine last declaration = (.ok about, last) := by
  unfold declareLine at declared
  rcases read : endpointLabels declaration with fault | ⟨first, second⟩
  · simp [read] at declared
  · rcases enteredA : registry.enterPoint first with ⟨a, one⟩
    rcases enteredB : one.enterPoint second with ⟨b, two⟩
    simp only [read, enteredA, enteredB] at declared
    by_cases distinct : a = b
    · simp [distinct] at declared
    simp only [if_neg distinct] at declared
    -- Found or added, there is a line with these points now, and no other one.
    obtain ⟨id, before, points, kept, spanned, same, touched⟩ :
        ∃ id before points, Kept .painting two before ∧
          before.span? (.line id) = some points ∧ Coincide .line points [a, b] ∧
          touchShape before (.line id) = (.ok about, later) := by
      have finds := two.finds_findLine? distinct
      cases found : two.findLine? a b with
      | some id =>
          rw [found] at finds declared
          cases finds with
          | entity _ spanned same => exact ⟨id, two, _, .refl two, spanned, same, declared⟩
      | none =>
          simp only [found] at declared
          rcases two.enter_eq .line (newName declaration "p1" (sortedName first second)) with
            ⟨index, -, taken⟩ | ⟨fresh, created⟩
          · simp [taken] at declared
          · simp only [created] at declared
            exact ⟨_, _, _, (Kept.refl two).addJoined fresh a b, span?_addJoined two _ a b,
              .refl, declared⟩
    obtain ⟨stays, again⟩ := touchShape_again touched spanned painted formed
    have all := kept.trans stays
    rw [declareLine_of_known apart (stays.span? spanned) read
      (all.index? ((entersPoints_enterPoint enteredB).1.index? (known_of_enterPoint enteredA)))
      (all.index? (known_of_enterPoint enteredB)) distinct same, again]

theorem declarePolygon_again {triangle : Bool}
    (declared : declarePolygon registry declaration triangle = (.ok about, later))
    (painted : Painted about later last) (formed : WellFormed last) (apart : last.SpansApart) :
    declarePolygon last declaration triangle = (.ok about, last) := by
  unfold declarePolygon at declared
  cases read : vertexLabels declaration triangle with
  | error fault => simp [read] at declared
  | ok labels =>
    rcases entered : registry.enterPoints labels with ⟨vertices, next⟩
    simp only [read, entered] at declared
    by_cases distinct : allDistinct vertices = true
    · simp only [if_pos distinct] at declared
      obtain ⟨id, before, points, kept, spanned, same, touched⟩ :
          ∃ id before points, Kept .painting next before ∧
            before.span? (.polygon id) = some points ∧ Coincide .polygon points vertices ∧
            touchShape before (.polygon id) = (.ok about, later) := by
        have finds := next.finds_findPolygon? vertices
        cases found : next.findPolygon? vertices with
        | some id =>
            rw [found] at finds declared
            cases finds with
            | entity _ spanned same => exact ⟨id, next, _, .refl next, spanned, same, declared⟩
        | none =>
            simp only [found] at declared
            rcases next.enter_eq .polygon (newName declaration "points" (String.join labels)) with
              ⟨index, -, taken⟩ | ⟨fresh, created⟩
            · simp [taken] at declared
            · simp only [created] at declared
              exact ⟨_, _, _, (Kept.refl next).addClosed fresh vertices _,
                span?_addClosed next _ vertices _, .refl, declared⟩
      obtain ⟨stays, again⟩ := touchShape_again touched spanned painted formed
      rw [declarePolygon_of_known apart (stays.span? spanned) read
        ((known_of_enterPoints entered).imp fun _ _ => (kept.trans stays).index?)
        ((allDistinct_iff vertices).1 distinct) same, again]
    · simp [if_neg distinct] at declared

theorem declareAngle_again (declared : declareAngle registry declaration = (.ok about, later))
    (painted : Painted about later last) (apart : last.SpansApart) :
    declareAngle last declaration = (.ok about, last) := by
  unfold declareAngle at declared
  rcases read : angleLabels declaration with fault | ⟨first, second, third⟩
  · simp [read] at declared
  · rcases enteredA : registry.enterPoint first with ⟨p1, one⟩
    rcases enteredB : one.enterPoint second with ⟨vertex, two⟩
    rcases enteredC : two.enterPoint third with ⟨p3, three⟩
    simp only [read, enteredA, enteredB, enteredC] at declared
    split at declared
    case isTrue => cases declared
    case isFalse proper =>
      have distinct : [p1, vertex, p3].Nodup := by
        simp only [Bool.or_eq_true, decide_eq_true_eq, not_or] at proper
        simp [proper, Ne.symm proper.1.2]
      obtain ⟨id, points, kept, spanned, same, rfl⟩ :
          ∃ id points, Kept .painting three later ∧ later.span? (.angle id) = some points ∧
            Coincide .angle points [p1, vertex, p3] ∧
            about = .angle id :: [p1, vertex, p3].map .point := by
        have finds := three.finds_findAngle? distinct
        cases found : three.findAngle? p1 vertex p3 with
        | some id =>
            rw [found] at finds declared
            cases declared
            cases finds with
            | entity _ spanned same => exact ⟨id, _, .refl _, spanned, same, rfl⟩
        | none =>
            simp only [found] at declared
            rcases three.enter_eq .angle (newName declaration "p1" (first ++ second ++ third)) with
              ⟨index, -, taken⟩ | ⟨fresh, created⟩
            · simp [taken] at declared
            · simp only [created] at declared
              cases declared
              exact ⟨_, _, (Kept.refl three).addSpanned fresh p1 vertex p3 _,
                span?_addSpanned three _ p1 vertex p3 _, .refl, rfl⟩
      have all := kept.trans painted.kept
      have toThree := (entersPoints_enterPoint enteredC).1
      have toTwo := (entersPoints_enterPoint enteredB).1
      exact declareAngle_of_known apart (painted.kept.span? spanned) read
        (all.index? (toThree.index? (toTwo.index? (known_of_enterPoint enteredA))))
        (all.index? (toThree.index? (known_of_enterPoint enteredB)))
        (all.index? (known_of_enterPoint enteredC)) distinct same

end Spans

/-! ## Points -/

theorem addShape_addShape (shapes : List ShapeRef) (shape : ShapeRef) :
    Point.addShape (Point.addShape shapes shape) shape = Point.addShape shapes shape := by
  by_cases known : shape ∈ shapes <;> simp [Point.addShape, known]

theorem recordPoint_again (position : Option (Vec α)) (shape : Option ShapeRef) (random : Bool)
    (color : Rgba) (point : Point α) :
    let recorded := { recordPoint position shape random point with color }
    recordPoint position shape random recorded = recorded := by
  cases position <;> cases shape <;> cases random <;>
    simp [recordPoint, Point.place, Point.addLiesOn, Point.addConstraint, addShape_addShape]

section Points

variable {registry later last : Registry α} {name : String} {id : PointId}

theorem Painted.sameShapes {before : Registry α} (painted : Painted [.point id] later last)
    (same : SameShapes before later) : SameShapes before last := by
  cases painted with
  | plain => exact same
  | color mainly color =>
      cases mainly
      exact same.modifyPoint id fun _ => rfl

/-- What has been recorded about a point is there when it is recorded once more. -/
theorem modifyPoint_again (position : Option (Vec α)) (shape : Option ShapeRef) (random : Bool)
    (entered : registry.enterPoint name = (id, later))
    (painted : Painted [.point id] (later.modifyPoint id (recordPoint position shape random))
      last) :
    last.enterPoint name = (id, last) ∧
      last.modifyPoint id (recordPoint position shape random) = last := by
  constructor
  · refine enterPoint_of_known (painted.kept.index? ?_)
    rw [(later.sameNames_modifyPoint id fun _ => recordPoint_name ..).index?]
    exact known_of_enterPoint entered
  · refine Registry.modifyPoint_eq_self fun point stored => ?_
    -- Painting changes nothing that is recorded.
    cases painted with
    | plain =>
        simp only [Registry.point?_modifyPoint, if_true, Option.map_eq_some_iff] at stored
        obtain ⟨old, -, rfl⟩ := stored
        exact recordPoint_again position shape random _ old
    | color mainly color =>
        cases mainly
        simp only [Registry.setColor, Registry.point?_modifyPoint, if_true, Option.map_map,
          Option.map_eq_some_iff] at stored
        obtain ⟨old, -, rfl⟩ := stored
        exact recordPoint_again position shape random color old

theorem declaredShape_again {before after : Registry α} {shape : Option ShapeRef}
    (same : SameShapes before after) (declared : declaredShape before declaration = .ok shape) :
    declaredShape after declaration = .ok shape := by
  unfold declaredShape at declared ⊢
  cases given : declaration.argument? "lieson" with
  | none => simpa only [given] using declared
  | some reference =>
      cases referred : referredShape before reference with
      | error fault => simp [given, referred, Except.map] at declared
      | ok found => simpa [given, referred, same.referredShape referred] using declared

variable [Scalar α] {about : List EntityRef}

theorem declarePoint_again (declared : declarePoint registry declaration = (.ok about, later))
    (painted : Painted about later last) :
    declarePoint last declaration = (.ok about, last) := by
  obtain ⟨name, position, shape, id, next, named, placed, lying, entered, rfl, rfl⟩ :=
    declarePoint_eq_ok_iff.1 declared
  obtain ⟨found, same⟩ := modifyPoint_again position shape _ entered painted
  have shapes : SameShapes registry last :=
    painted.sameShapes (((SameShapes.refl registry).enterPoint entered).modifyPoint id
      fun _ => recordPoint_name ..)
  exact declarePoint_eq_ok_iff.2 ⟨name, position, shape, id, last, named, placed,
    declaredShape_again shapes lying, found, rfl, same.symm⟩

theorem declareLoc_again (declared : declareLoc registry declaration = (.ok about, later))
    (painted : Painted about later last) :
    declareLoc last declaration = (.ok about, last) := by
  obtain ⟨name, x, y, id, next, named, first, second, entered, rfl, rfl⟩ :=
    declareLoc_eq_ok_iff.1 declared
  obtain ⟨found, same⟩ := modifyPoint_again (some ⟨x, y⟩) none false entered painted
  exact declareLoc_eq_ok_iff.2
    ⟨name, x, y, id, last, named, first, second, found, rfl, same.symm⟩

end Points

/-! ## Circles -/

section Circles

variable {registry later last : Registry α} {about : List EntityRef}

theorem Kept.circleEntities {before after : Registry α} (kept : Kept .painting before after)
    {id : CircleId} (held : before.Holds (.circle id)) :
    circleEntities after id = circleEntities before id := by
  obtain ⟨old, stored⟩ := Registry.holds_circle_iff.1 held
  obtain ⟨now, found, same⟩ := kept.circles id.index old stored
  have here : after.circle? id = some now := found
  simp only [Construction.circleEntities, stored, here, Circle.boundary, same.p1, same.p2,
    same.p3, same.center.resolve_right not_false]

theorem declareCenter_again (declared : declareCenter registry declaration = (.ok about, later))
    (painted : Painted about later last) :
    declareCenter last declaration = (.ok about, last) := by
  obtain ⟨name, circle, index, center, next, named, argument, known, entered, rfl, rfl⟩ :=
    declareCenter_eq_ok_iff.1 declared
  have names : Registry.SameNames (next.modifyCircle ⟨index⟩ fun circle =>
      { circle with center := some center }) next :=
    next.sameNames_modifyCircle ⟨index⟩ fun _ => rfl
  have knownCircle : last.index? .circle circle = some index :=
    painted.kept.index?
      ((names.index? ..).trans ((entersPoints_enterPoint entered).1.index? known))
  have knownCenter : last.index? .point name = some center.index :=
    painted.kept.index? ((names.index? ..).trans (known_of_enterPoint entered))
  have centered : last.modifyCircle ⟨index⟩
      (fun circle => { circle with center := some center }) = last := by
    refine Registry.modifyCircle_eq_self fun circle stored => ?_
    have before : (next.modifyCircle ⟨index⟩ fun circle =>
        { circle with center := some center }).circle? ⟨index⟩ = some circle := by
      -- It is the center that may be painted, not the circle.
      cases painted with
      | plain => exact stored
      | color mainly color =>
          cases mainly
          exact stored
    simp only [Registry.circle?_modifyCircle, if_true, Option.map_eq_some_iff] at before
    obtain ⟨old, -, rfl⟩ := before
    rfl
  exact declareCenter_eq_ok_iff.2 ⟨name, circle, index, center, last, named, argument, knownCircle,
    enterPoint_of_known knownCenter, rfl, centered.symm⟩

variable [Scalar α]

theorem declareCircle_again (indexed : Indexed registry)
    (declared : declareCircle registry declaration = (.ok about, later))
    (painted : Painted about later last) :
    declareCircle last declaration = (.ok about, last) := by
  unfold declareCircle at declared
  cases named : requiredName declaration with
  | error fault => simp [named] at declared
  | ok name =>
    simp only [named] at declared
    obtain ⟨index, known, held, rfl⟩ : ∃ index, later.index? .circle name = some index ∧
        later.Holds (.circle ⟨index⟩) ∧ about = circleEntities later ⟨index⟩ := by
      cases known : registry.index? .circle name with
      | some index =>
          simp only [known] at declared
          cases declared
          exact ⟨index, known, indexed.held known, rfl⟩
      | none =>
        cases read : declaredRadius (α := α) declaration with
        | error fault => simp [known, read] at declared
        | ok radius =>
          have created : registry.enter .circle name =
              ((registry.count .circle, true), registry.add .circle name) := by
            simp [Registry.enter, known]
          simp only [known, read, created] at declared
          cases declared
          have completed : Changes declaration (registry.add .circle name)
              (addCircled registry name (declaration.argument? "center") radius) :=
            addCircled_completes indexed known _ radius
          have new : (registry.add .circle name).name (registry.newest .circle) = some name := by
            rw [Registry.name_add, if_pos rfl]
          exact ⟨_, (completed.indexed (indexed.add known)).found (completed.name new),
            completed.holds (Registry.holds_add.2 (.inr rfl)), rfl⟩
    simp only [declareCircle, named, painted.kept.index? known, painted.kept.circleEntities held]

end Circles

/-! ## Declarations -/

section Declarations

variable {registry last : Registry α} {outcome : Outcome}

/-- What is said about an effect is said again about one that is about the same and changes
nothing. -/
theorem finish_again {effect again : Effect α}
    (applied : (paint declaration effect).outcome declaration = (.ok outcome, last))
    (settles : ∀ about later, effect = (.ok about, later) → Painted about later last →
      again = (.ok about, last)) :
    (paint declaration again).outcome declaration = (.ok outcome, last) := by
  obtain ⟨fault | _ | ⟨main, others⟩, later⟩ := effect
  · cases applied
  · cases applied
    rw [settles [] last rfl .plain]
    rfl
  · cases argument : declaration.argument? "color" with
    | none =>
        simp only [paint, argument, Effect.outcome] at applied
        cases applied
        rw [settles _ last rfl .plain]
        simp only [paint, argument, Effect.outcome]
    | some value =>
        cases read : Rgba.read? value with
        | none => simp [paint, argument, read, Effect.outcome] at applied
        | some color =>
            simp only [paint, argument, read, Effect.outcome] at applied
            cases applied
            rw [settles _ later rfl (.color rfl color)]
            simp only [paint, argument, read, Effect.outcome, Registry.setColor_setColor]

variable [Scalar α]

/-- A declaration that has succeeded succeeds again, is about the same, and changes nothing. -/
theorem apply_again (indexed : Indexed registry) (formed : WellFormed last)
    (apart : last.SpansApart) (applied : apply registry declaration = (.ok outcome, last)) :
    apply last declaration = (.ok outcome, last) := by
  unfold apply at applied ⊢
  cases ofKind : DeclarationKind.ofName? declaration.kind with
  | none => simp [ofKind] at applied
  | some kind =>
      rw [ofKind] at applied
      cases kind with
      | point => exact finish_again applied fun _ _ => declarePoint_again
      | line => exact finish_again applied fun _ _ done painted =>
          declareLine_again done painted formed apart
      | circle => exact finish_again applied fun _ _ => declareCircle_again indexed
      | polygon => exact finish_again applied fun _ _ done painted =>
          declarePolygon_again done painted formed apart
      | triangle => exact finish_again applied fun _ _ done painted =>
          declarePolygon_again done painted formed apart
      | center => exact finish_again applied fun _ _ => declareCenter_again
      | angle => exact finish_again applied fun _ _ done painted =>
          declareAngle_again done painted apart
      | loc => exact finish_again applied fun _ _ => declareLoc_again
      | definitions =>
          refine finish_again applied fun about later done painted => ?_
          cases done
          rfl
      | step =>
          cases applied
          rfl
      | clear =>
          cases applied
          rfl

end Declarations

/-- In a figure that declarations build, to apply a declaration twice is to apply it once: if it
succeeds, it succeeds again, is about the same entities in the same order, and leaves the registry
as it is, with its names and the colors that come next. -/
theorem construct_apply_twice [Scalar α] (palette : Palette) (declarations : List Declaration)
    (declaration : Declaration) (outcome : Outcome)
    (applied : (apply (construct palette declarations : Registry α) declaration).1 =
      .ok outcome) :
    let once : Registry α := (apply (construct palette declarations) declaration).2
    apply once declaration = (.ok outcome, once) := by
  intro once
  have same : once = construct palette (declarations ++ [declaration]) :=
    (construct_append palette declarations declaration).symm
  have formed : WellFormed once := same ▸ wellFormed_construct palette _
  have apart : once.SpansApart := same ▸ spansApart_construct palette _
  exact apply_again (wellFormed_construct palette declarations).indexed formed apart
    (Prod.ext applied rfl)

/-- A point that was new, and is asked to lie on a line that the letters of its reference name in
the other order, is found the second time, and so is the line. -/
theorem construct_apply_twice_point :
    let line : Declaration := ⟨"line", some "AB", 1, ⟨0, 9⟩, [], []⟩
    let point : Declaration :=
      ⟨"point", some "P", 1, ⟨9, 43⟩, [("lieson", "line BA"), ("color", "#ff0000")], []⟩
    let once : Registry Float := (apply (construct .standard [line]) point).2
    once.size = (construct .standard [line] : Registry Float).size + 1 ∧
      apply once point = (.ok (.entities [.point ⟨2⟩]), once) := by
  intro line point once
  exact ⟨by decide +kernel,
    construct_apply_twice .standard [line] point (.entities [.point ⟨2⟩]) (by decide +kernel)⟩

end FigureMarkup.Construction

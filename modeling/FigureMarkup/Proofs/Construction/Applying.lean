import FigureMarkup.Proofs.Construction.Declaring
import FigureMarkup.Proofs.Construction.Views

/-!
# Applying declarations by changes

Each handler of declarations changes a registry only in the ways that a change allows, also where
it gives up halfway. What every change keeps is therefore kept by a declaration, and what a start
without entities has and every change keeps is had by every registry that declarations build.
-/

namespace FigureMarkup.Construction

open Figure Plane Markup Relation

variable {α : Type} {declaration : Declaration}

/-! ## Entering points -/

/-- Entering a point is a change at most, and the point is there afterwards. -/
theorem enterPoint_spec (declaration : Declaration) {registry later : Registry α} {name : String}
    {id : PointId}
    (indexed : Indexed registry) (entered : registry.enterPoint name = (id, later)) :
    Changes declaration registry later ∧ later.Holds (.point id) := by
  rcases registry.enter_eq .point name with ⟨index, known, found⟩ | ⟨fresh, created⟩
  · rw [Registry.enterPoint, found] at entered
    cases entered
    exact ⟨.refl, indexed.held known⟩
  · rw [Registry.enterPoint, created] at entered
    cases entered
    exact ⟨.single (.point name fresh), Registry.holds_add.2 (.inr rfl)⟩

/-- No shape is made of other points after a point is entered. -/
theorem definingPoints_enterPoint {registry later : Registry α} {name : String} {id : PointId}
    (entered : registry.enterPoint name = (id, later)) (shape : ShapeRef) :
    later.definingPoints shape = registry.definingPoints shape := by
  rcases registry.enter_eq .point name with ⟨index, -, found⟩ | ⟨-, created⟩
  · rw [Registry.enterPoint, found] at entered
    cases entered
    rfl
  · rw [Registry.enterPoint, created] at entered
    cases entered
    exact registry.definingPoints_add .point name shape

theorem enterPoints_spec (declaration : Declaration) {registry later : Registry α}
    {names : List String} {ids : List PointId} (indexed : Indexed registry)
    (entered : registry.enterPoints names = (ids, later)) :
    Changes declaration registry later ∧ ids.length = names.length ∧
      ∀ id ∈ ids, later.Holds (.point id) := by
  induction names generalizing registry ids with
  | nil =>
      cases entered
      exact ⟨.refl, rfl, by simp⟩
  | cons name names ih =>
      obtain ⟨id, next, rest, first, others, rfl⟩ := exists_of_enterPoints_cons entered
      obtain ⟨one, held⟩ := enterPoint_spec declaration indexed first
      obtain ⟨more, sizes, allHeld⟩ := ih (one.indexed indexed) others
      refine ⟨one.trans more, by simp [sizes], ?_⟩
      rintro id (_ | ⟨_, member⟩)
      · exact more.holds held
      · exact allHeld _ member

/-! ## Finding shapes -/

theorem holds_of_find? {registry : Registry α} (indexed : Indexed registry)
    {kind : EntityKind} {name : String} {entity : EntityRef}
    (found : registry.find? kind name = some entity) : registry.Holds entity := by
  simp only [Registry.find?, Option.map_eq_some_iff] at found
  obtain ⟨index, found, rfl⟩ := found
  exact indexed.held found

theorem holds_of_findByPoints? {registry : Registry α} {kind : EntityKind}
    {ids : List PointId} {entity : EntityRef}
    (found : findByPoints? registry kind ids = some entity) : registry.Holds entity := by
  unfold findByPoints? at found
  split at found
  · obtain ⟨id, joined, rfl⟩ := Option.map_eq_some_iff.1 found
    exact holds_of_findLine? joined
  · split at found
    · obtain ⟨id, closed, rfl⟩ := Option.map_eq_some_iff.1 found
      exact holds_of_findPolygon? closed
    · cases found
  · cases found

theorem holds_of_lookup? {registry : Registry α} (indexed : Indexed registry)
    {kind : EntityKind} {name : String} {entity : EntityRef}
    (found : lookup? registry kind name = some entity) : registry.Holds entity := by
  unfold lookup? at found
  split at found
  · cases found
    exact holds_of_find? indexed ‹_›
  · obtain ⟨ids, -, found⟩ := Option.bind_eq_some_iff.1 found
    exact holds_of_findByPoints? found

theorem entity_of_shape? {entity : EntityRef} {shape : ShapeRef}
    (same : entity.shape? = some shape) : shape.entity = entity := by
  cases entity <;> cases same <;> rfl

theorem holds_of_mem_candidates {registry : Registry α} (indexed : Indexed registry)
    (name : String) {shape : ShapeRef} (member : shape ∈ candidates registry name) :
    registry.Holds shape.entity := by
  unfold candidates at member
  simp only at member
  split at member
  · simp only [List.mem_filterMap] at member
    obtain ⟨entity, ⟨kind, -, found⟩, same⟩ := member
    exact entity_of_shape? same ▸ holds_of_lookup? indexed found
  · simp only [Registry.findAll, List.mem_filterMap] at member
    obtain ⟨entity, ⟨kind, -, found⟩, same⟩ := member
    exact entity_of_shape? same ▸ holds_of_find? indexed found

/-- A reference means only shapes that the registry holds. -/
theorem holds_of_qualifiedShape {registry : Registry α} (indexed : Indexed registry)
    {reference kind name : String} {shape : ShapeRef}
    (referred : qualifiedShape registry reference kind name = .ok shape) :
    registry.Holds shape.entity := by
  unfold qualifiedShape at referred
  cases ofKind : EntityKind.ofName? kind with
  | none => simp [ofKind] at referred
  | some kind =>
      cases found : lookup? registry kind name with
      | none => simp [ofKind, found] at referred
      | some entity =>
          cases same : entity.shape? with
          | none => simp [ofKind, found, same] at referred
          | some meant =>
              obtain rfl : meant = shape := by simpa [ofKind, found, same] using referred
              exact entity_of_shape? same ▸ holds_of_lookup? indexed found

theorem holds_of_bareShape {registry : Registry α} (indexed : Indexed registry)
    {reference name : String} {shape : ShapeRef}
    (referred : bareShape registry reference name = .ok shape) :
    registry.Holds shape.entity := by
  unfold bareShape at referred
  match only : candidates registry name with
  | [] | _ :: _ :: _ => simp [only] at referred
  | [meant] =>
      obtain rfl : meant = shape := by simpa [only] using referred
      exact holds_of_mem_candidates indexed name (only ▸ List.mem_singleton_self _)

theorem holds_of_referredShape {registry : Registry α} (indexed : Indexed registry)
    {reference : String} {shape : ShapeRef}
    (referred : referredShape registry reference = .ok shape) :
    registry.Holds shape.entity := by
  unfold referredShape at referred
  rcases parts : (Text.words reference.toList).map String.ofList with
    _ | ⟨first, _ | ⟨second, _ | ⟨third, more⟩⟩⟩ <;> simp only [parts] at referred
  · cases referred
  · exact holds_of_bareShape indexed referred
  · exact holds_of_qualifiedShape indexed referred
  · cases referred

/-! ## Circles -/

theorem constrain_modifyCircle (registry : Registry α) (id : CircleId)
    (change : Circle α → Circle α) (shape : ShapeRef) (ids : List PointId) :
    constrain (registry.modifyCircle id change) shape ids =
      (constrain registry shape ids).modifyCircle id change := by
  induction ids generalizing registry with
  | nil => rfl
  | cons first ids ih => exact ih (registry.modifyPoint first (Point.addConstraint shape))

theorem enterBoundary_changes {registry : Registry α} {id : CircleId}
    (indexed : Indexed registry) (known : registry.Holds (.circle id))
    (unbound : registry.definingPoints (.circle id) = []) (name : String) :
    Changes declaration registry (enterBoundary registry id name) := by
  unfold enterBoundary
  match labels name with
  | [] | [_] | [_, _] | _ :: _ :: _ :: _ :: _ => exact .refl
  | [first, second, third] =>
    rcases enteredA : registry.enterPoint first with ⟨a, one⟩
    rcases enteredB : one.enterPoint second with ⟨b, two⟩
    rcases enteredC : two.enterPoint third with ⟨c, three⟩
    simp only [enteredA, enteredB, enteredC]
    have ⟨toOne, heldA⟩ := enterPoint_spec declaration indexed enteredA
    have ⟨toTwo, heldB⟩ := enterPoint_spec declaration (toOne.indexed indexed) enteredB
    have ⟨toThree, heldC⟩ := enterPoint_spec declaration
      (toTwo.indexed (toOne.indexed indexed)) enteredC
    have still : three.Holds (.circle id) := toThree.holds (toTwo.holds (toOne.holds known))
    have bounded : Change declaration three (touched (setBoundary three id a b c) (.circle id)) :=
      .boundary still
        (by rw [definingPoints_enterPoint enteredC, definingPoints_enterPoint enteredB,
          definingPoints_enterPoint enteredA, unbound])
        (by simp [toThree.holds (toTwo.holds heldA), toThree.holds heldB, heldC])
    rw [touched, definingPoints_setBoundary still, if_pos rfl, setBoundary,
      constrain_modifyCircle] at bounded
    exact ((toOne.trans toTwo).trans toThree).tail bounded

theorem enterCenter_changes {registry : Registry α} (indexed : Indexed registry)
    (id : CircleId) (center : Option String) :
    Changes declaration registry (enterCenter registry id center) := by
  cases center with
  | none => exact .refl
  | some name =>
      rcases entered : registry.enterPoint name with ⟨center, later⟩
      have ⟨changes, held⟩ := enterPoint_spec declaration indexed entered
      simp only [enterCenter, entered]
      exact changes.tail (.center id held)

theorem enterRadius_changes [Scalar α] {registry : Registry α} (indexed : Indexed registry)
    (id : CircleId) (radius : Option (DeclaredRadius α)) :
    Changes declaration registry (enterRadius registry id radius) := by
  rcases radius with _ | value | ⟨first, second⟩
  · cases measured : (registry.circle? id).bind registry.circleRadius? with
    | none =>
        simp only [enterRadius, measured]
        exact .refl
    | some value =>
        simp only [enterRadius, measured]
        exact .single (.radius id _ (by simp))
  · exact .single (.radius id _ (by simp))
  · rcases enteredA : registry.enterPoint first with ⟨a, one⟩
    rcases enteredB : one.enterPoint second with ⟨b, two⟩
    have ⟨toOne, heldA⟩ := enterPoint_spec declaration indexed enteredA
    have ⟨toTwo, heldB⟩ := enterPoint_spec declaration (toOne.indexed indexed) enteredB
    simp only [enterRadius, enteredA, enteredB]
    refine (toOne.trans toTwo).tail (.radius id (.between a b) ?_)
    rintro _ _ ⟨⟩
    exact ⟨toTwo.holds heldA, heldB⟩

/-- A new circle gets its boundary, its center and its radius by changes. -/
theorem addCircled_completes [Scalar α] {registry : Registry α} (indexed : Indexed registry)
    {name : String} (fresh : registry.index? .circle name = none) (center : Option String)
    (radius : Option (DeclaredRadius α)) :
    Changes declaration (registry.add .circle name) (addCircled registry name center radius) := by
  have added : Indexed (registry.add .circle name) := indexed.add fresh
  have held : (registry.add .circle name).Holds (registry.newest .circle) :=
    Registry.holds_add.2 (.inr rfl)
  have unbound : (registry.add .circle name).definingPoints
      (.circle ⟨registry.count .circle⟩) = [] := by
    rw [Registry.definingPoints_add]
    exact Registry.definingPoints_of_not_holds (registry.not_holds_newest .circle)
  have bounded : Changes declaration _ _ := enterBoundary_changes added held unbound name
  have centered : Changes declaration _ _ :=
    bounded.trans (enterCenter_changes (bounded.indexed added) ⟨registry.count .circle⟩ center)
  exact centered.trans (enterRadius_changes (centered.indexed added) _ radius)

theorem addCircled_changes [Scalar α] {registry : Registry α} (indexed : Indexed registry)
    {name : String} (fresh : registry.index? .circle name = none) (center : Option String)
    (radius : Option (DeclaredRadius α)) :
    Changes declaration registry (addCircled registry name center radius) :=
  .head (.circle name fresh) (addCircled_completes indexed fresh center radius)

/-! ## Declarations -/

/-- A point is asked to lie only on shapes that the registry holds. -/
theorem holds_of_declaredShape {registry : Registry α} (indexed : Indexed registry)
    {shape : ShapeRef} (declared : declaredShape registry declaration = .ok (some shape)) :
    registry.Holds shape.entity ∧ (declaration.argument? "lieson").isSome := by
  unfold declaredShape at declared
  cases argument : declaration.argument? "lieson" with
  | none => simp [argument] at declared
  | some reference =>
    simp only [argument] at declared
    cases referred : referredShape registry reference with
    | error fault => simp [referred, Except.map] at declared
    | ok found =>
        simp only [referred, Except.map, Except.ok.injEq, Option.some.injEq] at declared
        subst declared
        exact ⟨holds_of_referredShape indexed referred, rfl⟩

/-- Whatever a declaration does before its color is read is a sequence of changes. -/
theorem Declaring.changes [Scalar α] {registry : Registry α} {effect : Effect α}
    (declaring : Declaring registry declaration effect) (indexed : Indexed registry) :
    Changes declaration registry effect.2 := by
  cases declaring with
  | refused fault entered => exact (enterPoints_spec declaration indexed entered).1
  | record position shape random named entered moves asked =>
      obtain ⟨changes, -⟩ := enterPoint_spec declaration indexed entered
      refine changes.tail (.record _ position shape random fun wanted member => ?_)
      exact (holds_of_declaredShape indexed (asked wanted member)).imp_left changes.holds
  | again entered known =>
      obtain ⟨changes, -⟩ := enterPoints_spec declaration indexed entered
      exact changes.tail (.touch known)
  | line entered name fresh distinct unjoined =>
      obtain ⟨changes, -, held⟩ := enterPoints_spec declaration indexed entered
      exact changes.tail
        (.line name fresh (held _ (by simp)) (held _ (by simp)) distinct unjoined)
  | polygon entered name label fresh enough distinct unclosed =>
      have ⟨changes, sizes, held⟩ := enterPoints_spec declaration indexed entered
      exact changes.tail (.polygon name label fresh held (sizes ▸ enough) distinct unclosed)
  | circleAgain => exact .refl
  | circle name center radius fresh => exact addCircled_changes indexed fresh center radius
  | center asked argument known entered =>
      have ⟨changes, held⟩ := enterPoint_spec declaration indexed entered
      exact changes.tail (.center _ held)
  | angleAgain entered => exact (enterPoints_spec declaration indexed entered).1
  | angle entered name big fresh distinct unspanned =>
      obtain ⟨changes, -, held⟩ := enterPoints_spec declaration indexed entered
      exact changes.tail (.angle name big fresh held distinct unspanned)

/-- Applying a declaration is a sequence of changes, also if it fails. -/
theorem apply_changes [Scalar α] {registry : Registry α} (indexed : Indexed registry)
    (declaration : Declaration) :
    Changes declaration registry (apply registry declaration).2 := by
  have step := applying registry declaration
  generalize apply registry declaration = applied at step ⊢
  cases step with
  | unknown => exact .refl
  | mark => exact .refl
  | refused declaring => exact declaring.changes indexed
  | plain declaring => exact declaring.changes indexed
  | unreadable declaring => exact declaring.changes indexed
  | painted declaring argument color =>
      exact (declaring.changes indexed).tail (.paint color _)

end FigureMarkup.Construction

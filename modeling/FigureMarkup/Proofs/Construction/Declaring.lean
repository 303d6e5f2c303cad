import FigureMarkup.Proofs.Construction.Change

/-!
# What a declaration can do

A declaration enters points first, if any, and then does one of a few things: it gives up, refers
to what is there, adds one entity, records something about a point, or centers a circle. What it
can do is said here once, for all kinds of declarations, together with the conditions under which
it happens. A color comes last, so that an unreadable one changes nothing that was done before.
-/

namespace FigureMarkup.Construction

open Figure Plane Markup

variable {α : Type} {declaration : Declaration}

/-! ## Entering points -/

/-- A registry comes from another one by entering points, and by nothing else. -/
structure EntersPoints (before after : Registry α) : Prop where
  lines : after.lines = before.lines
  circles : after.circles = before.circles
  polygons : after.polygons = before.polygons
  angles : after.angles = before.angles
  colors : after.colors = before.colors
  index? : ∀ {kind name index}, before.index? kind name = some index →
    after.index? kind name = some index
  point? : ∀ {id point}, before.point? id = some point → after.point? id = some point
  new : ∀ {id point}, after.point? id = some point → before.point? id = none →
    ∃ name, point = .new name before.colors.palette.point

namespace EntersPoints

theorem refl (registry : Registry α) : EntersPoints registry registry where
  lines := rfl
  circles := rfl
  polygons := rfl
  angles := rfl
  colors := rfl
  index? known := known
  point? stored := stored
  new stored absent := by simp [absent] at stored

theorem trans {before middle after : Registry α} (one : EntersPoints before middle)
    (two : EntersPoints middle after) : EntersPoints before after where
  lines := two.lines.trans one.lines
  circles := two.circles.trans one.circles
  polygons := two.polygons.trans one.polygons
  angles := two.angles.trans one.angles
  colors := two.colors.trans one.colors
  index? known := two.index? (one.index? known)
  point? stored := two.point? (one.point? stored)
  new {id point} stored absent := by
    cases between : middle.point? id with
    | none =>
        obtain ⟨name, same⟩ := two.new stored between
        exact ⟨name, one.colors ▸ same⟩
    | some old =>
        rw [two.point? between, Option.some.injEq] at stored
        exact stored ▸ one.new between absent

end EntersPoints

theorem entersPoints_add {registry : Registry α} {name : String}
    (fresh : registry.index? .point name = none) :
    EntersPoints registry (registry.add .point name) where
  lines := rfl
  circles := rfl
  polygons := rfl
  angles := rfl
  colors := rfl
  index? known := Registry.index?_add_of_known fresh known
  point? {id point} stored := by
    have held := Registry.holds_point_iff.2 ⟨point, stored⟩
    have other : EntityRef.point id ≠ registry.newest .point := by
      intro same
      exact registry.not_holds_newest .point (same ▸ held)
    rw [Registry.point?_add, if_neg other, stored]
  new {id point} stored absent := by
    rw [Registry.point?_add, absent] at stored
    split at stored
    · cases stored
      exact ⟨name, rfl⟩
    · cases stored

/-- Entering a point finds one that is there under its name, or it creates one. -/
theorem entersPoints_enterPoint {registry later : Registry α} {name : String} {id : PointId}
    (entered : registry.enterPoint name = (id, later)) :
    EntersPoints registry later ∧
      (registry.index? .point name = some id.index ∨ registry.point? id = none) := by
  rcases registry.enter_eq .point name with ⟨index, known, found⟩ | ⟨fresh, created⟩
  · rw [Registry.enterPoint, found] at entered
    cases entered
    exact ⟨.refl registry, .inl known⟩
  · rw [Registry.enterPoint, created] at entered
    cases entered
    exact ⟨entersPoints_add fresh, .inr registry.point?_newest⟩

/-- Points are entered one after another. -/
theorem exists_of_enterPoints_cons {registry later : Registry α} {name : String}
    {names : List String} {ids : List PointId}
    (entered : registry.enterPoints (name :: names) = (ids, later)) :
    ∃ id next rest, registry.enterPoint name = (id, next) ∧
      next.enterPoints names = (rest, later) ∧ ids = id :: rest := by
  rcases first : registry.enterPoint name with ⟨id, next⟩
  rcases others : next.enterPoints names with ⟨rest, last⟩
  rw [Registry.enterPoints, first] at entered
  simp only [others] at entered
  cases entered
  exact ⟨id, next, rest, rfl, others, rfl⟩

theorem entersPoints_enterPoints {registry later : Registry α} {names : List String}
    {ids : List PointId} (entered : registry.enterPoints names = (ids, later)) :
    EntersPoints registry later := by
  induction names generalizing registry ids with
  | nil =>
      cases entered
      exact .refl _
  | cons name names ih =>
      obtain ⟨id, next, rest, first, others, rfl⟩ := exists_of_enterPoints_cons entered
      exact (entersPoints_enterPoint first).1.trans (ih others)

/-- The name under which a point has been entered finds it. -/
theorem known_of_enterPoint {registry later : Registry α} {name : String} {id : PointId}
    (entered : registry.enterPoint name = (id, later)) :
    later.index? .point name = some id.index := by
  rcases registry.enter_eq .point name with ⟨index, known, found⟩ | ⟨fresh, created⟩
  · rw [Registry.enterPoint, found] at entered
    cases entered
    exact known
  · rw [Registry.enterPoint, created] at entered
    cases entered
    simp [Registry.index?_add]

/-- What entering points, constraining them and binding the circle keep, its boundary keeps. -/
theorem enterBoundary_induction {Wanted : Registry α → Prop} {registry : Registry α}
    (start : Wanted registry) (id : CircleId) (name : String)
    (enters : ∀ {before after name point}, before.enterPoint name = (point, after) →
      Wanted before → Wanted after)
    (constrains : ∀ {before} ids, Wanted before → Wanted (constrain before (.circle id) ids))
    (bounds : ∀ {before} a b c, Wanted before → Wanted (setBoundary before id a b c)) :
    Wanted (enterBoundary registry id name) := by
  unfold enterBoundary
  match labels name with
  | [] | [_] | [_, _] | _ :: _ :: _ :: _ :: _ => exact start
  | [first, second, third] =>
    rcases enteredA : registry.enterPoint first with ⟨a, one⟩
    rcases enteredB : one.enterPoint second with ⟨b, two⟩
    rcases enteredC : two.enterPoint third with ⟨c, three⟩
    simp only [enteredA, enteredB, enteredC]
    exact bounds a b c (constrains _ (enters enteredC (enters enteredB (enters enteredA start))))

theorem enterCenter_induction {Wanted : Registry α → Prop} {registry : Registry α}
    (start : Wanted registry) (id : CircleId) (center : Option String)
    (enters : ∀ {before after name point}, before.enterPoint name = (point, after) →
      Wanted before → Wanted after)
    (centers : ∀ {before} point, Wanted before →
      Wanted (before.modifyCircle id fun circle => { circle with center := some point })) :
    Wanted (enterCenter registry id center) := by
  cases center with
  | none => exact start
  | some name =>
      rcases entered : registry.enterPoint name with ⟨center, later⟩
      simp only [enterCenter, entered]
      exact centers center (enters entered start)

theorem allDistinct_iff (ids : List PointId) : allDistinct ids = true ↔ ids.Nodup := by
  induction ids with
  | nil => simp [allDistinct]
  | cons id ids ih => simp [allDistinct, ih]

/-! ## Finding shapes -/

theorem holds_of_findLine? {registry : Registry α} {a b : PointId} {id : LineId}
    (found : registry.findLine? a b = some id) : registry.Holds (.line id) := by
  simp only [Registry.findLine?, Option.map_eq_some_iff] at found
  obtain ⟨index, found, rfl⟩ := found
  exact (Array.findIdx?_eq_some_iff_getElem.1 found).1

theorem holds_of_findPolygon? {registry : Registry α} {vertices : List PointId}
    {id : PolygonId} (found : registry.findPolygon? vertices = some id) :
    registry.Holds (.polygon id) := by
  simp only [Registry.findPolygon?, Option.map_eq_some_iff] at found
  obtain ⟨index, found, rfl⟩ := found
  exact (Array.findIdx?_eq_some_iff_getElem.1 found).1

theorem holds_of_findAngle? {registry : Registry α} {p1 vertex p3 : PointId} {id : AngleId}
    (found : registry.findAngle? p1 vertex p3 = some id) : registry.Holds (.angle id) := by
  simp only [Registry.findAngle?, Option.map_eq_some_iff] at found
  obtain ⟨index, found, rfl⟩ := found
  exact (Array.findIdx?_eq_some_iff_getElem.1 found).1

/-! ## Effects of handlers -/

/-- The kind of a declaration, if it is one that can be applied. -/
abbrev kindOf? (declaration : Declaration) : Option DeclarationKind :=
  DeclarationKind.ofName? declaration.kind

/-- Kinds of declarations that enter points before all of their checks are made. -/
def EntersFirst (kind : DeclarationKind) : Prop :=
  kind = .line ∨ kind = .polygon ∨ kind = .triangle ∨ kind = .angle

/-- A declaration gives coordinates to the point that it names. -/
def GivesPlace (declaration : Declaration) : Prop :=
  kindOf? declaration = some .loc ∨
    kindOf? declaration = some .point ∧
      ((declaration.argument? "x").isSome ∨ (declaration.argument? "y").isSome)

/-- The coordinates of a place are numbers that can be read. -/
def IsWritten [Scalar α] (place : Vec α) : Prop :=
  (∃ text, Scalar.read? text = some place.x) ∧ ∃ text, Scalar.read? text = some place.y

/-- A circle that is new under a name, with its boundary, its center and its radius. -/
def addCircled [Scalar α] (registry : Registry α) (name : String) (center : Option String)
    (radius : Option (DeclaredRadius α)) : Registry α :=
  let id : CircleId := ⟨registry.circles.size⟩
  enterRadius (enterCenter (enterBoundary (registry.add .circle name) id name) id center) id radius

/-- What a declaration can do before its color is read. It enters points first, if any. -/
inductive Declaring [Scalar α] (registry : Registry α) (declaration : Declaration) :
    Effect α → Prop
  | refused (fault : Fault) {names : List String} {ids : List PointId} {later : Registry α}
      (entered : registry.enterPoints names = (ids, later))
      (untouched : (∀ kind ∈ kindOf? declaration, ¬ EntersFirst kind) → later = registry) :
      Declaring registry declaration (.error fault, later)
  | record {name : String} {id : PointId} {later : Registry α} (position : Option (Vec α))
      (shape : Option ShapeRef) (random : Bool) (named : declaration.name = some name)
      (entered : registry.enterPoint name = (id, later))
      (moves : position.isSome → GivesPlace declaration)
      (asked : ∀ asked ∈ shape, declaredShape registry declaration = .ok (some asked))
      (written : ∀ place ∈ position, IsWritten place) :
      Declaring registry declaration
        (.ok [.point id], later.modifyPoint id (recordPoint position shape random))
  /-- A line or a polygon that is there already. -/
  | again {names : List String} {ids : List PointId} {later : Registry α}
      (entered : registry.enterPoints names = (ids, later)) {shape : ShapeRef}
      (known : later.Holds shape.entity) :
      Declaring registry declaration (touchShape later shape)
  | line {first second : String} {a b : PointId} {later : Registry α}
      (entered : registry.enterPoints [first, second] = ([a, b], later)) (name : String)
      (fresh : later.index? .line name = none) (distinct : a ≠ b)
      (unjoined : later.findLine? a b = none) :
      Declaring registry declaration
        (touchShape (addJoined later name a b) (.line ⟨later.lines.size⟩))
  | polygon {names : List String} {vertices : List PointId} {later : Registry α}
      (entered : registry.enterPoints names = (vertices, later)) (name : String)
      (label : Option String) (fresh : later.index? .polygon name = none)
      (enough : 3 ≤ names.length) (distinct : vertices.Nodup)
      (unclosed : later.findPolygon? vertices = none) :
      Declaring registry declaration
        (touchShape (addClosed later name vertices label) (.polygon ⟨later.polygons.size⟩))
  | circleAgain {name : String} (id : CircleId)
      (known : registry.index? .circle name = some id.index) :
      Declaring registry declaration (.ok (circleEntities registry id), registry)
  | circle (name : String) (center : Option String) (radius : Option (DeclaredRadius α))
      (fresh : registry.index? .circle name = none)
      (read : declaredRadius declaration = .ok radius) :
      Declaring registry declaration
        (.ok (circleEntities (addCircled registry name center radius) ⟨registry.circles.size⟩),
          addCircled registry name center radius)
  | center {name circle : String} {index : Nat} {center : PointId} {later : Registry α}
      (asked : kindOf? declaration = some .center)
      (argument : declaration.argument? "circle" = some circle)
      (known : registry.index? .circle circle = some index)
      (entered : registry.enterPoint name = (center, later)) :
      Declaring registry declaration
        (.ok [.point center],
          later.modifyCircle ⟨index⟩ fun circle => { circle with center := some center })
  | angleAgain {names : List String} {ids : List PointId} {later : Registry α}
      (entered : registry.enterPoints names = (ids, later)) (id : AngleId)
      (known : later.Holds (.angle id)) :
      Declaring registry declaration (.ok (.angle id :: ids.map .point), later)
  | angle {first second third : String} {p1 vertex p3 : PointId} {later : Registry α}
      (entered : registry.enterPoints [first, second, third] = ([p1, vertex, p3], later))
      (name : String) (big : Bool) (fresh : later.index? .angle name = none)
      (distinct : [p1, vertex, p3].Nodup) (unspanned : later.findAngle? p1 vertex p3 = none) :
      Declaring registry declaration
        (.ok (.angle ⟨later.angles.size⟩ :: [p1, vertex, p3].map .point),
          addSpanned later name p1 vertex p3 big)

section Handlers

variable [Scalar α] {registry : Registry α}

/-- A declaration that fails at once has entered nothing. -/
theorem Declaring.failed (fault : Fault) :
    Declaring registry declaration (.error fault, registry) :=
  .refused fault (show registry.enterPoints [] = ([], registry) from rfl) fun _ => rfl

/-- A declaration of a kind that enters points may have done so when it fails. -/
theorem Declaring.failedLate {kind : DeclarationKind} (ofKind : kindOf? declaration = some kind)
    (late : EntersFirst kind) (fault : Fault) {names : List String} {ids : List PointId}
    {later : Registry α} (entered : registry.enterPoints names = (ids, later)) :
    Declaring registry declaration (.error fault, later) :=
  .refused fault entered fun early => absurd late (early kind ofKind)

theorem name_of_requiredName {name : String} (named : requiredName declaration = .ok name) :
    declaration.name = some name := by
  unfold requiredName at named
  split at named
  · cases named
    assumption
  · cases named

/-- A point declaration gives a place only by its keywords. -/
theorem keyword_of_keywordPosition {position : Option (Vec α)}
    (read : keywordPosition declaration = .ok position) (given : position.isSome) :
    (declaration.argument? "x").isSome ∨ (declaration.argument? "y").isSome := by
  unfold keywordPosition at read
  split at read
  case isTrue keyword => simpa using keyword
  case isFalse =>
    cases read
    cases given

theorem read_of_readNumber {field value : String} {number : α}
    (read : readNumber field value = .ok number) :
    Scalar.read? (Text.trim value.toList) = some number := by
  unfold readNumber at read
  split at read
  · cases read
    assumption
  · cases read

theorem written_of_keywordPosition {position : Option (Vec α)}
    (read : keywordPosition declaration = .ok position) : ∀ place ∈ position, IsWritten place := by
  unfold keywordPosition at read
  split at read
  · cases first : keywordNumber (α := α) declaration "x" with
    | error fault => simp [first, bind, Except.bind] at read
    | ok x =>
        cases second : keywordNumber (α := α) declaration "y" with
        | error fault => simp [first, second, bind, Except.bind] at read
        | ok y =>
            simp only [first, second, bind, Except.bind, pure, Except.pure, Except.ok.injEq]
              at read
            subst read
            rintro place ⟨⟩
            exact ⟨⟨_, read_of_readNumber first⟩, _, read_of_readNumber second⟩
  · cases read
    exact nofun

theorem written_of_coordinate {place : Nat} {field : String} {number : α}
    (read : coordinate declaration place field = .ok number) :
    ∃ text, Scalar.read? text = some number := by
  unfold coordinate at read
  split at read <;> exact ⟨_, read_of_readNumber read⟩

theorem declaring_point (ofKind : kindOf? declaration = some .point) :
    Declaring registry declaration (declarePoint registry declaration) := by
  unfold declarePoint
  cases named : requiredName declaration with
  | error fault => exact .failed fault
  | ok name =>
      cases placed : keywordPosition (α := α) declaration with
      | error fault => exact .failed fault
      | ok position =>
          cases lying : declaredShape registry declaration with
          | error fault => exact .failed fault
          | ok shape =>
              rcases entered : registry.enterPoint name with ⟨id, later⟩
              simp only [bind, Except.bind, pure, Except.pure, entered]
              refine .record position shape _ (name_of_requiredName named) entered
                (fun given => ?_) (fun wanted member => ?_) (written_of_keywordPosition placed)
              · exact .inr ⟨ofKind, keyword_of_keywordPosition placed given⟩
              · rw [lying, Option.mem_def.1 member]

theorem declaring_line (ofKind : kindOf? declaration = some .line) :
    Declaring registry declaration (declareLine registry declaration) := by
  unfold declareLine
  rcases endpointLabels declaration with fault | ⟨first, second⟩
  · exact .failed _
  · rcases enteredA : registry.enterPoint first with ⟨a, one⟩
    rcases enteredB : one.enterPoint second with ⟨b, two⟩
    have entered : registry.enterPoints [first, second] = ([a, b], two) := by
      simp only [Registry.enterPoints, enteredA, enteredB]
    have late : EntersFirst .line := .inl rfl
    simp only [enteredA, enteredB]
    by_cases distinct : a = b
    · simp only [if_pos distinct]
      exact .failedLate ofKind late _ entered
    · simp only [if_neg distinct]
      cases joined : two.findLine? a b with
      | some id => exact .again entered (holds_of_findLine? joined)
      | none =>
        rcases two.enter_eq .line (newName declaration "p1" (sortedName first second)) with
          ⟨index, -, taken⟩ | ⟨fresh, created⟩
        · simp only [taken]
          exact .failedLate ofKind late _ entered
        · simp only [created]
          exact .line entered _ fresh distinct joined

theorem declaring_circle :
    Declaring registry declaration (declareCircle registry declaration) := by
  unfold declareCircle
  cases requiredName declaration with
  | error fault => exact .failed _
  | ok name =>
    dsimp only
    cases known : registry.index? .circle name with
    | some index => exact .circleAgain _ known
    | none =>
      cases read : declaredRadius (α := α) declaration with
      | error fault => exact .failed _
      | ok radius =>
        have created : registry.enter .circle name =
            ((registry.count .circle, true), registry.add .circle name) := by
          simp [Registry.enter, known]
        simp only [created]
        exact .circle name (declaration.argument? "center") radius known read

theorem vertexLabels_length {triangle : Bool} {labels : List String}
    (read : vertexLabels declaration triangle = .ok labels) : 3 ≤ labels.length := by
  have checked : ∀ found : List String,
      (if triangle && found.length ≠ 3 then .error (.malformed .triangleSize)
        else if found.length < 3 then .error (.malformed .polygonSize)
        else .ok found : Except Fault (List String)) = .ok labels → 3 ≤ labels.length := by
    intro found kept
    split at kept
    · cases kept
    · split at kept
      · cases kept
      · cases kept
        omega
  cases points : declaration.argument? "points" with
  | some list =>
      rw [vertexLabels, points] at read
      exact checked _ read
  | none =>
      cases named : requiredName declaration with
      | error fault =>
          rw [vertexLabels, points, named] at read
          cases read
      | ok name =>
          rw [vertexLabels, points, named] at read
          exact checked _ read

theorem declaring_polygon {triangle : Bool} {kind : DeclarationKind}
    (ofKind : kindOf? declaration = some kind) (late : EntersFirst kind) :
    Declaring registry declaration (declarePolygon registry declaration triangle) := by
  unfold declarePolygon
  cases read : vertexLabels declaration triangle with
  | error fault => exact .failed _
  | ok labels =>
    rcases entered : registry.enterPoints labels with ⟨vertices, later⟩
    simp only [entered]
    by_cases distinct : allDistinct vertices = true
    · simp only [if_pos distinct]
      cases closed : later.findPolygon? vertices with
      | some id => exact .again entered (holds_of_findPolygon? closed)
      | none =>
        rcases later.enter_eq .polygon (newName declaration "points" (String.join labels)) with
          ⟨index, -, taken⟩ | ⟨fresh, created⟩
        · simp only [taken]
          exact .failedLate ofKind late _ entered
        · simp only [created]
          exact .polygon entered _ _ fresh (vertexLabels_length read)
            ((allDistinct_iff vertices).1 distinct) closed
    · simp only [if_neg distinct]
      exact .failedLate ofKind late _ entered

theorem declaring_center (ofKind : kindOf? declaration = some .center) :
    Declaring registry declaration (declareCenter registry declaration) := by
  unfold declareCenter
  cases requiredName declaration with
  | error fault => exact .failed fault
  | ok name =>
      cases argument : declaration.argument? "circle" with
      | none => exact .failed _
      | some circle =>
          cases known : registry.index? .circle circle with
          | none =>
              simp only [bind, Except.bind, known]
              exact .failed _
          | some index =>
              rcases entered : registry.enterPoint name with ⟨center, later⟩
              simp only [bind, Except.bind, known, entered]
              exact .center ofKind argument known entered

theorem declaring_angle (ofKind : kindOf? declaration = some .angle) :
    Declaring registry declaration (declareAngle registry declaration) := by
  unfold declareAngle
  rcases angleLabels declaration with fault | ⟨first, second, third⟩
  · exact .failed _
  · rcases enteredA : registry.enterPoint first with ⟨p1, one⟩
    rcases enteredB : one.enterPoint second with ⟨vertex, two⟩
    rcases enteredC : two.enterPoint third with ⟨p3, three⟩
    have entered :
        registry.enterPoints [first, second, third] = ([p1, vertex, p3], three) := by
      simp only [Registry.enterPoints, enteredA, enteredB, enteredC]
    have late : EntersFirst .angle := .inr (.inr (.inr rfl))
    simp only [enteredA, enteredB, enteredC]
    split
    case isTrue => exact .failedLate ofKind late _ entered
    case isFalse proper =>
      have distinct : [p1, vertex, p3].Nodup := by
        simp only [Bool.or_eq_true, decide_eq_true_eq, not_or] at proper
        simp [proper, Ne.symm proper.1.2]
      cases spanned : three.findAngle? p1 vertex p3 with
      | some id => exact .angleAgain entered id (holds_of_findAngle? spanned)
      | none =>
        rcases three.enter_eq .angle (newName declaration "p1" (first ++ second ++ third)) with
          ⟨index, -, taken⟩ | ⟨fresh, created⟩
        · simp only [taken]
          exact .failedLate ofKind late _ entered
        · simp only [created]
          exact .angle entered _ _ fresh distinct spanned

theorem declaring_loc (ofKind : kindOf? declaration = some .loc) :
    Declaring registry declaration (declareLoc registry declaration) := by
  unfold declareLoc
  cases named : requiredName declaration with
  | error fault => exact .failed fault
  | ok name =>
      cases first : coordinate (α := α) declaration 0 "x" with
      | error fault => exact .failed fault
      | ok x =>
          cases second : coordinate (α := α) declaration 1 "y" with
          | error fault => exact .failed fault
          | ok y =>
              rcases entered : registry.enterPoint name with ⟨id, later⟩
              simp only [bind, Except.bind, pure, Except.pure, entered]
              refine .record (some ⟨x, y⟩) none false (name_of_requiredName named) entered
                (fun _ => .inl ofKind) nofun fun place member => ?_
              cases member
              exact ⟨written_of_coordinate first, written_of_coordinate second⟩

end Handlers

/-! ### Handlers that succeed -/

section Successes

variable {registry later : Registry α} {about : List EntityRef}

theorem declareCenter_eq_ok_iff :
    declareCenter registry declaration = (.ok about, later) ↔
      ∃ name circle index center next, requiredName declaration = .ok name ∧
        declaration.argument? "circle" = some circle ∧
        registry.index? .circle circle = some index ∧
        registry.enterPoint name = (center, next) ∧ about = [.point center] ∧
        later = next.modifyCircle ⟨index⟩ fun circle => { circle with center := some center } := by
  constructor
  · unfold declareCenter
    cases named : requiredName declaration with
    | error fault => exact nofun
    | ok name =>
        cases argument : declaration.argument? "circle" with
        | none => exact nofun
        | some circle =>
            cases known : registry.index? .circle circle with
            | none => simp [bind, Except.bind, known]
            | some index =>
                rcases entered : registry.enterPoint name with ⟨center, next⟩
                simp only [bind, Except.bind, known, entered]
                rintro ⟨⟩
                exact ⟨name, circle, index, center, next, rfl, rfl, known, entered, rfl, rfl⟩
  · rintro ⟨name, circle, index, center, next, named, argument, known, entered, rfl, rfl⟩
    simp only [declareCenter, named, argument, known, entered, bind, Except.bind]

variable [Scalar α]

theorem declarePoint_eq_ok_iff :
    declarePoint registry declaration = (.ok about, later) ↔
      ∃ name position shape id next, requiredName declaration = .ok name ∧
        keywordPosition declaration = .ok position ∧
        declaredShape registry declaration = .ok shape ∧
        registry.enterPoint name = (id, next) ∧ about = [.point id] ∧
        later = next.modifyPoint id
          (recordPoint position shape (declaration.hasFlag "random")) := by
  constructor
  · unfold declarePoint
    cases named : requiredName declaration with
    | error fault => exact nofun
    | ok name =>
        cases placed : keywordPosition (α := α) declaration with
        | error fault => exact nofun
        | ok position =>
            cases lying : declaredShape registry declaration with
            | error fault => exact nofun
            | ok shape =>
                rcases entered : registry.enterPoint name with ⟨id, next⟩
                simp only [bind, Except.bind, pure, Except.pure, entered]
                rintro ⟨⟩
                exact ⟨name, position, shape, id, next, rfl, rfl, rfl, entered, rfl, rfl⟩
  · rintro ⟨name, position, shape, id, next, named, placed, lying, entered, rfl, rfl⟩
    simp only [declarePoint, named, placed, lying, entered, bind, Except.bind, pure, Except.pure]

theorem declareLoc_eq_ok_iff :
    declareLoc registry declaration = (.ok about, later) ↔
      ∃ name x y id next, requiredName declaration = .ok name ∧
        coordinate declaration 0 "x" = .ok x ∧ coordinate declaration 1 "y" = .ok y ∧
        registry.enterPoint name = (id, next) ∧ about = [.point id] ∧
        later = next.modifyPoint id (recordPoint (some ⟨x, y⟩) none false) := by
  constructor
  · unfold declareLoc
    cases named : requiredName declaration with
    | error fault => exact nofun
    | ok name =>
        cases first : coordinate (α := α) declaration 0 "x" with
        | error fault => exact nofun
        | ok x =>
            cases second : coordinate (α := α) declaration 1 "y" with
            | error fault => exact nofun
            | ok y =>
                rcases entered : registry.enterPoint name with ⟨id, next⟩
                simp only [bind, Except.bind, pure, Except.pure, entered]
                rintro ⟨⟩
                exact ⟨name, x, y, id, next, rfl, rfl, rfl, entered, rfl, rfl⟩
  · rintro ⟨name, x, y, id, next, named, first, second, entered, rfl, rfl⟩
    simp only [declareLoc, named, first, second, entered, bind, Except.bind, pure, Except.pure]
    rfl

end Successes

/-! ## Applying declarations -/

/-- A declaration is a step or its end, or the definitions, which are about no entity. -/
inductive Marks (declaration : Declaration) : Outcome → Prop
  | step (ofKind : kindOf? declaration = some .step) : Marks declaration .step
  | clear (ofKind : kindOf? declaration = some .clear) : Marks declaration .clear
  | definitions (ofKind : kindOf? declaration = some .definitions) :
      Marks declaration (.entities [])

/-- What applying a declaration can do, where nothing but its own kind counts. -/
inductive Applying [Scalar α] (registry : Registry α) (declaration : Declaration) :
    Except Error Outcome × Registry α → Prop
  | unknown (ofNoKind : kindOf? declaration = none) :
      Applying registry declaration (.error (.inDeclaration .unknownKind declaration), registry)
  | mark {outcome : Outcome} (marks : Marks declaration outcome) :
      Applying registry declaration (.ok outcome, registry)
  | refused {fault : Fault} {later : Registry α}
      (declaring : Declaring registry declaration (.error fault, later)) :
      Applying registry declaration (.error (.inDeclaration fault declaration), later)
  | plain {entities : List EntityRef} {later : Registry α}
      (declaring : Declaring registry declaration (.ok entities, later)) :
      Applying registry declaration (.ok (.entities entities), later)
  | unreadable {main : EntityRef} {others : List EntityRef} {later : Registry α} {value : String}
      (declaring : Declaring registry declaration (.ok (main :: others), later))
      (argument : declaration.argument? "color" = some value) :
      Applying registry declaration
        (.error (.inDeclaration (.invalidColor value) declaration), later)
  | painted {main : EntityRef} {others : List EntityRef} {later : Registry α} {value : String}
      (declaring : Declaring registry declaration (.ok (main :: others), later))
      (argument : declaration.argument? "color" = some value) (color : Rgba) :
      Applying registry declaration
        (.ok (.entities (main :: others)), later.setColor color main)

theorem applying_paint [Scalar α] {registry : Registry α} {effect : Effect α}
    (declaring : Declaring registry declaration effect) :
    Applying registry declaration ((paint declaration effect).outcome declaration) := by
  obtain ⟨_ | _ | ⟨main, others⟩, later⟩ := effect
  · exact .refused declaring
  · exact .plain declaring
  · unfold paint
    dsimp only
    cases argument : declaration.argument? "color" with
    | none => exact .plain declaring
    | some value =>
        dsimp only
        cases Rgba.read? value with
        | none => exact .unreadable declaring argument
        | some color => exact .painted declaring argument color

/-- Every declaration does one of these things. -/
theorem applying [Scalar α] (registry : Registry α) (declaration : Declaration) :
    Applying registry declaration (apply registry declaration) := by
  unfold apply
  match ofKind : DeclarationKind.ofName? declaration.kind with
  | none => exact .unknown ofKind
  | some .point => exact applying_paint (declaring_point ofKind)
  | some .line => exact applying_paint (declaring_line ofKind)
  | some .circle => exact applying_paint declaring_circle
  | some .polygon => exact applying_paint (declaring_polygon ofKind (.inr (.inl rfl)))
  | some .triangle => exact applying_paint (declaring_polygon ofKind (.inr (.inr (.inl rfl))))
  | some .center => exact applying_paint (declaring_center ofKind)
  | some .angle => exact applying_paint (declaring_angle ofKind)
  | some .loc => exact applying_paint (declaring_loc ofKind)
  | some .step => exact .mark (.step ofKind)
  | some .clear => exact .mark (.clear ofKind)
  | some .definitions => exact .mark (.definitions ofKind)

end FigureMarkup.Construction

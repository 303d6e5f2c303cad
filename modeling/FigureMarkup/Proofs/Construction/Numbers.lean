import FigureMarkup.Proofs.Construction.WellFormed

/-!
# Where the numbers of a figure come from

Declarations write the coordinates of points and the radii of circles. All that is computed while
declarations are applied is the radius of a circle whose points are placed already, which is a
distance. So every place in a registry that declarations build was written, and every circle has a
radius that a circle can have, wherever its points will be placed.
-/

namespace FigureMarkup.Construction

open Figure Plane Markup

variable {α : Type} [Scalar α] {declaration : Declaration}

/-! ## Radii -/

/-- A number that circles can have as their radius: a positive one, or a distance. -/
inductive IsRadius (value : α) : Prop
  | positive (positive : 0.0 < value)
  | distance (center boundary : Vec α) (same : value = center.distance boundary)

theorem isRadius_of_distance? {registry : Registry α} {a b : PointId} {value : α}
    (known : registry.distance? a b = some value) : IsRadius value := by
  simp only [Registry.distance?, bind, Option.bind_eq_some_iff, pure, Option.some.injEq] at known
  obtain ⟨first, -, second, -, same⟩ := known
  exact .distance first second same.symm

/-- The radius that a circle is given, if it is given one as a number, is the radius of a circle. -/
def GivenRadius (circle : Circle α) : Prop :=
  ∀ value, circle.radius = some (.literal value) → IsRadius value

theorem GivenRadius.isRadius {registry : Registry α} {circle : Circle α}
    (given : GivenRadius circle) {value : α}
    (known : registry.circleRadius? circle = some value) : IsRadius value := by
  unfold Registry.circleRadius? at known
  cases measured : circle.radius.bind registry.radius? with
  | some length =>
      obtain rfl : length = value := by simpa [measured] using known
      obtain ⟨radius, declared, here⟩ := Option.bind_eq_some_iff.1 measured
      cases radius with
      | literal number =>
          cases here
          exact given length declared
      | between a b => exact isRadius_of_distance? here
  | none =>
    simp only [measured, bind, Option.bind_eq_some_iff, pure, Option.some.injEq] at known
    obtain ⟨center, -, boundary, -, same⟩ := known
    exact .distance center boundary same.symm

/-- A number that is read as a radius is checked. -/
theorem numeral_of_readRadius {text : String} {value : α}
    (read : readRadius text = .ok (.literal value)) :
    ∃ numeral, Decimal.Numeral.read? (Text.trim text.toList) = some numeral ∧
      Scalar.ofNumeral? numeral = some value ∧ 0.0 < value := by
  unfold readRadius at read
  dsimp only at read
  cases written : Decimal.Numeral.read? (Text.trim text.toList) with
  | none =>
      simp only [written] at read
      split at read <;> cases read
  | some numeral =>
    cases rounded : Scalar.ofNumeral? (α := α) numeral with
    | none => simp [written, rounded] at read
    | some number =>
      simp only [written, rounded] at read
      split at read
      case isTrue positive =>
        cases read
        exact ⟨numeral, rfl, rounded, positive⟩
      case isFalse => cases read

theorem text_of_declaredRadius {radius : DeclaredRadius α}
    (read : declaredRadius declaration = .ok (some radius)) :
    ∃ text, declaration.argument? "radius" = some text ∧ readRadius text = .ok radius := by
  unfold declaredRadius at read
  cases given : declaration.argument? "radius" with
  | none => simp [given] at read
  | some text =>
    cases number : readRadius (α := α) text with
    | error fault => simp [given, number, Except.map] at read
    | ok found =>
        simp only [given, number, Except.map, Except.ok.injEq, Option.some.injEq] at read
        exact ⟨text, rfl, by rw [number, read]⟩

theorem isRadius_of_declaredRadius {value : α}
    (read : declaredRadius declaration = .ok (some (.literal value))) : IsRadius value := by
  obtain ⟨text, -, number⟩ := text_of_declaredRadius read
  obtain ⟨numeral, -, -, positive⟩ := numeral_of_readRadius number
  exact .positive positive

/-! ## Registries with numbers that were written -/

/-- A point without a place, or in a place that was written. -/
def WrittenPlace (point : Point α) : Prop := ∀ place, point.position = some place → IsWritten place

/-- All places of a registry were written, and all circles have radii that circles can have. -/
structure Written (registry : Registry α) : Prop where
  points : ∀ id point, registry.point? id = some point → WrittenPlace point
  circles : ∀ id circle, registry.circle? id = some circle → GivenRadius circle

theorem writtenPlace_recordPoint {position : Option (Vec α)}
    (written : ∀ place ∈ position, IsWritten place) (shape : Option ShapeRef) (random : Bool)
    {point : Point α} (before : WrittenPlace point) :
    WrittenPlace (recordPoint position shape random point) := by
  intro place here
  have known : (position <|> point.position) = some place := by
    rw [← here]
    cases position <;> cases shape <;> cases random <;> rfl
  cases position with
  | none => exact before place known
  | some given => exact written place known

namespace Written

variable {registry : Registry α}

theorem empty (palette : Palette) : Written (.empty palette : Registry α) where
  points id point stored := by simp [Registry.point?, Registry.empty] at stored
  circles id circle stored := by simp [Registry.circle?, Registry.empty] at stored

theorem add (written : Written registry) (kind : EntityKind) (name : String) :
    Written (registry.add kind name) where
  points id point stored := by
    rw [Registry.point?_add] at stored
    split at stored
    · cases stored
      exact nofun
    · exact written.points id point stored
  circles id circle stored := by
    rw [Registry.circle?_add] at stored
    split at stored
    · cases stored
      exact nofun
    · exact written.circles id circle stored

theorem modifyPoint (written : Written registry) (id : PointId) {change : Point α → Point α}
    (allowed : ∀ point, WrittenPlace point → WrittenPlace (change point)) :
    Written (registry.modifyPoint id change) where
  points other point stored := by
    rw [Registry.point?_modifyPoint, Option.map_eq_some_iff] at stored
    obtain ⟨old, stored, rfl⟩ := stored
    split
    · exact allowed old (written.points other old stored)
    · exact written.points other old stored
  circles := written.circles

theorem modifyCircle (written : Written registry) (id : CircleId) {change : Circle α → Circle α}
    (allowed : ∀ circle, GivenRadius circle → GivenRadius (change circle)) :
    Written (registry.modifyCircle id change) where
  points := written.points
  circles other circle stored := by
    rw [Registry.circle?_modifyCircle, Option.map_eq_some_iff] at stored
    obtain ⟨old, stored, rfl⟩ := stored
    split
    · exact allowed old (written.circles other old stored)
    · exact written.circles other old stored

/-- Shapes other than circles have no numbers. -/
theorem congr (written : Written registry) {later : Registry α}
    (points : later.points = registry.points) (circles : later.circles = registry.circles) :
    Written later where
  points id point stored := written.points id point (by rwa [Registry.point?, ← points])
  circles id circle stored := written.circles id circle (by rwa [Registry.circle?, ← circles])

theorem setColor (written : Written registry) (color : Rgba) (entity : EntityRef) :
    Written (registry.setColor color entity) := by
  cases entity with
  | point id => exact written.modifyPoint id fun _ before => before
  | circle id => exact written.modifyCircle id fun _ before => before
  | line id => exact written.congr rfl rfl
  | polygon id => exact written.congr rfl rfl
  | angle id => exact written.congr rfl rfl

theorem constrain (written : Written registry) (shape : ShapeRef) (ids : List PointId) :
    Written (constrain registry shape ids) := by
  induction ids generalizing registry with
  | nil => exact written
  | cons id ids ih => exact ih (written.modifyPoint id fun _ before => before)

theorem enterPoint (written : Written registry) {later : Registry α} {name : String} {id : PointId}
    (entered : registry.enterPoint name = (id, later)) : Written later := by
  rcases registry.enter_eq .point name with ⟨index, known, found⟩ | ⟨fresh, created⟩
  · rw [Registry.enterPoint, found] at entered
    cases entered
    exact written
  · rw [Registry.enterPoint, created] at entered
    cases entered
    exact written.add .point name

theorem enterPoints (written : Written registry) {later : Registry α} {names : List String}
    {ids : List PointId} (entered : registry.enterPoints names = (ids, later)) : Written later := by
  induction names generalizing registry ids with
  | nil =>
      cases entered
      exact written
  | cons name names ih =>
      obtain ⟨id, next, rest, first, others, rfl⟩ := exists_of_enterPoints_cons entered
      exact ih (written.enterPoint first) others

/-! ### New circles -/

theorem enterBoundary (written : Written registry) (id : CircleId) (name : String) :
    Written (enterBoundary registry id name) :=
  enterBoundary_induction written id name (fun entered written => written.enterPoint entered)
    (fun ids written => written.constrain _ ids)
    fun _ _ _ written => written.modifyCircle id fun _ before => before

theorem enterCenter (written : Written registry) (id : CircleId) (center : Option String) :
    Written (enterCenter registry id center) :=
  enterCenter_induction written id center (fun entered written => written.enterPoint entered)
    fun _ written => written.modifyCircle id fun _ before => before

theorem enterRadius (written : Written registry) (id : CircleId)
    {radius : Option (DeclaredRadius α)}
    (given : ∀ value, radius = some (.literal value) → IsRadius value) :
    Written (enterRadius registry id radius) := by
  have becomes {later : Registry α} (before : Written later) (value : Radius α)
      (possible : ∀ number, value = .literal number → IsRadius number) :
      Written (later.modifyCircle id fun circle => { circle with radius := some value }) :=
    before.modifyCircle id fun _ _ number same => possible number (Option.some.inj same)
  rcases radius with _ | value | ⟨first, second⟩
  · unfold Construction.enterRadius
    dsimp only
    cases measured : (registry.circle? id).bind registry.circleRadius? with
    | some value =>
        obtain ⟨circle, stored, known⟩ := Option.bind_eq_some_iff.1 measured
        refine becomes written (.literal value) ?_
        rintro _ ⟨⟩
        exact (written.circles id circle stored).isRadius known
    | none => exact written
  · refine becomes written (.literal value) ?_
    rintro _ ⟨⟩
    exact given value rfl
  · rcases enteredA : registry.enterPoint first with ⟨a, one⟩
    rcases enteredB : one.enterPoint second with ⟨b, two⟩
    simp only [Construction.enterRadius, enteredA, enteredB]
    refine becomes ((written.enterPoint enteredA).enterPoint enteredB) (.between a b) ?_
    rintro _ ⟨⟩

end Written

/-! ## Declarations -/

theorem Declaring.written {registry : Registry α} {effect : Effect α}
    (declaring : Declaring registry declaration effect) (start : Written registry) :
    Written effect.2 := by
  cases declaring with
  | refused fault entered => exact start.enterPoints entered
  | record position shape random named entered moves asked places =>
      exact (start.enterPoint entered).modifyPoint _ fun _ before =>
        writtenPlace_recordPoint places shape random before
  | again entered => exact (start.enterPoints entered).constrain _ _
  | @line first second a b later entered name =>
      have added := (start.enterPoints entered).add .line name
      have joined : Written (addJoined later name a b) := added.congr rfl rfl
      exact joined.constrain _ _
  | @polygon names vertices later entered name label =>
      have added := (start.enterPoints entered).add .polygon name
      have closed : Written (addClosed later name vertices label) := added.congr rfl rfl
      exact closed.constrain _ _
  | circleAgain => exact start
  | circle name center radius fresh read =>
      refine (((start.add .circle name).enterBoundary _ name).enterCenter _ center).enterRadius _ ?_
      rintro value rfl
      exact isRadius_of_declaredRadius read
  | center asked argument known entered =>
      exact (start.enterPoint entered).modifyCircle _ fun _ before => before
  | angleAgain entered => exact start.enterPoints entered
  | angle entered name =>
      have added := (start.enterPoints entered).add .angle name
      exact added.congr rfl rfl

theorem apply_written {registry : Registry α} (start : Written registry)
    (declaration : Declaration) : Written (apply registry declaration).2 := by
  have step := applying registry declaration
  generalize apply registry declaration = applied at step ⊢
  cases step with
  | unknown => exact start
  | mark => exact start
  | refused declaring => exact declaring.written start
  | plain declaring => exact declaring.written start
  | unreadable declaring => exact declaring.written start
  | painted declaring argument color => exact (declaring.written start).setColor color _

/-- Every number in a registry that declarations build was written, or is a distance. -/
theorem construct_written (palette : Palette) (declarations : List Declaration) :
    Written (construct palette declarations : Registry α) := by
  induction declarations using List.reverseRecOn with
  | nil => exact .empty palette
  | append_singleton declarations last ih =>
      rw [construct_append]
      exact apply_written ih last

/-! ## Shapes -/

omit [Scalar α] in
theorem length_positions? {registry : Registry α} {ids : List PointId} {positions : List (Vec α)}
    (known : registry.positions? ids = some positions) : positions.length = ids.length := by
  induction ids generalizing positions with
  | nil =>
      cases known
      rfl
  | cons id ids ih =>
      simp only [Registry.positions?, bind, Option.bind_eq_some_iff, pure] at known
      obtain ⟨position, -, rest, others, ⟨⟩⟩ := known
      rw [List.length_cons, List.length_cons, ih others]

/-- A shape that a line, a circle or a polygon of a figure can have. -/
def Occurs : Shape α → Prop
  | .segment _ _ => True
  | .circle _ radius => IsRadius radius
  | .polygon vertices => 3 ≤ vertices.length

/-- Every shape that is concrete can occur, wherever points are placed. -/
theorem occurs_of_shape? {registry : Registry α}
    (given : ∀ id circle, registry.circle? id = some circle → GivenRadius circle) {ref : ShapeRef}
    {shape : Shape α} (known : registry.shape? ref = some shape) : Occurs shape := by
  cases ref with
  | line id =>
      obtain ⟨line, -, here⟩ := Option.bind_eq_some_iff.1 known
      simp only [Registry.lineShape?, bind, Option.bind_eq_some_iff, pure] at here
      obtain ⟨ends, -, a, -, b, -, ⟨⟩⟩ := here
      trivial
  | circle id =>
      obtain ⟨circle, stored, here⟩ := Option.bind_eq_some_iff.1 known
      unfold Registry.circleShape? at here
      split at here
      · simp only [bind, Option.bind_eq_some_iff, pure] at here
        obtain ⟨center, -, radius, measured, ⟨⟩⟩ := here
        exact (given id circle stored).isRadius measured
      · simp only [bind, Option.bind_eq_some_iff] at here
        obtain ⟨a, -, b, -, c, -, through⟩ := here
        unfold circumcircle at through
        dsimp only at through
        split at through
        · cases through
        · cases through
          exact .distance _ _ rfl
  | polygon id =>
      obtain ⟨polygon, -, here⟩ := Option.bind_eq_some_iff.1 known
      unfold Registry.polygonShape? at here
      split at here
      case isTrue => cases here
      case isFalse enough =>
        obtain ⟨positions, all, rfl⟩ := Option.map_eq_some_iff.1 here
        rw [Occurs, length_positions? all]
        exact Nat.not_lt.1 enough

end FigureMarkup.Construction

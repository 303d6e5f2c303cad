import FigureMarkup.Proofs.Construction.Failure
import FigureMarkup.Proofs.Construction.Identity
import FigureMarkup.Proofs.Construction.Persistence

/-!
# Declared places

A declaration that gives a place to a point leaves the point there, and no declaration moves the
point unless it gives a place to the same point again. So when all declarations of a document have
been applied, each point stands where the last declaration puts it that puts it anywhere.
-/

namespace FigureMarkup.Construction

open Figure Plane Markup Text

variable {α : Type} {declaration : Declaration}

/-! ## What is declared -/

/-- A declaration gives both coordinates to the point of a name, in whatever case it writes the
name. -/
def PutsPoint (name : String) (declaration : Declaration) : Prop :=
  (kindOf? declaration = some .loc ∨ kindOf? declaration = some .point ∧
    (declaration.argument? "x").isSome ∧ (declaration.argument? "y").isSome) ∧
  declaration.name.map lower = some (lower name)

instance (name : String) : DecidablePred (PutsPoint name) :=
  fun _ => inferInstanceAs (Decidable (_ ∧ _))

/-- What a declaration writes for a coordinate: the value of the keyword, or else the flag in some
place if the declaration moves a point. -/
def coordinateText (declaration : Declaration) (place : Nat) (field : String) : String :=
  match declaration.argument? field with
  | some value => value
  | none => if kindOf? declaration = some .loc then declaration.flags.getD place "" else ""

section Reading

variable [Scalar α]

/-- A declaration writes the coordinates of a place. -/
structure WritesPlace (declaration : Declaration) (place : Vec α) : Prop where
  x : Scalar.read? (trim (coordinateText declaration 0 "x").toList) = some place.x
  y : Scalar.read? (trim (coordinateText declaration 1 "y").toList) = some place.y

theorem read_of_coordinate (ofKind : kindOf? declaration = some .loc) {place : Nat}
    {field : String} {number : α} (read : coordinate declaration place field = .ok number) :
    Scalar.read? (trim (coordinateText declaration place field).toList) = some number := by
  unfold coordinate at read
  unfold coordinateText
  cases given : declaration.argument? field with
  | some value =>
      rw [given] at read
      exact read_of_readNumber read
  | none =>
      rw [given] at read
      rw [if_pos ofKind]
      exact read_of_readNumber read

theorem read_of_keywordNumber (ofKind : kindOf? declaration = some .point) {place : Nat}
    {field : String} {number : α} (read : keywordNumber declaration field = .ok number) :
    Scalar.read? (trim (coordinateText declaration place field).toList) = some number := by
  have text : coordinateText declaration place field =
      (declaration.argument? field).getD "" := by
    cases given : declaration.argument? field with
    | some value => simp [coordinateText, given]
    | none => simp [coordinateText, given, ofKind]
  rw [text]
  exact read_of_readNumber read

theorem read_empty : (Scalar.read? (trim "".toList) : Option α) = none := by
  have unreadable : Decimal.Numeral.read? (trim "".toList) = none := by decide +kernel
  rw [Scalar.read?, unreadable, Option.bind_none]

/-- A point declaration that writes both coordinates has both keywords. -/
theorem WritesPlace.keywords {place : Vec α} (writes : WritesPlace declaration place)
    (ofKind : kindOf? declaration = some .point) :
    (declaration.argument? "x").isSome ∧ (declaration.argument? "y").isSome := by
  have given {place : Nat} {field : String} {number : α}
      (read : Scalar.read? (trim (coordinateText declaration place field).toList) =
        some number) : (declaration.argument? field).isSome := by
    cases argument : declaration.argument? field with
    | some value => rfl
    | none =>
        have empty : coordinateText declaration place field = "" := by
          simp [coordinateText, argument, ofKind]
        rw [empty, read_empty] at read
        cases read
  exact ⟨given writes.x, given writes.y⟩

end Reading

theorem PutsPoint.givesPlace {name : String} (puts : PutsPoint name declaration) :
    GivesPlace declaration :=
  puts.1.imp_right fun ⟨ofKind, x, _⟩ => ⟨ofKind, .inl x⟩

/-! ## Points in their places -/

/-- The point of a name stands at a place. -/
def PointAt (registry : Registry α) (name : String) (place : Vec α) : Prop :=
  ∃ id : PointId, registry.index? .point name = some id.index ∧ registry.position id = some place

theorem stored_enterPoint {registry later : Registry α} (indexed : Indexed registry)
    {name : String} {id : PointId} (entered : registry.enterPoint name = (id, later)) :
    ∃ point, later.point? id = some point := by
  rcases registry.enter_eq .point name with ⟨index, known, found⟩ | ⟨fresh, created⟩
  · rw [Registry.enterPoint, found] at entered
    cases entered
    exact Registry.holds_point_iff.1 (indexed.held known)
  · rw [Registry.enterPoint, created] at entered
    cases entered
    exact Registry.holds_point_iff.1 (Registry.holds_add.2 (.inr rfl))

/-- A point that has just been entered stands where it is put. -/
theorem pointAt_modifyPoint {registry later : Registry α} (indexed : Indexed registry)
    {name : String} {id : PointId} (entered : registry.enterPoint name = (id, later))
    {change : Point α → Point α} {place : Vec α}
    (put : ∀ point, (change point).position = some place) :
    PointAt (later.modifyPoint id change) name place := by
  obtain ⟨point, stored⟩ := stored_enterPoint indexed entered
  have known := known_of_enterPoint entered
  refine ⟨id, known, ?_⟩
  simp [Registry.position, Registry.point?_modifyPoint, stored, put]

theorem pointAt_setColor {registry : Registry α} {name : String} {place : Vec α}
    (here : PointAt registry name place) (color : Rgba) (entity : EntityRef) :
    PointAt (registry.setColor color entity) name place := by
  obtain ⟨id, known, position⟩ := here
  exact ⟨id, ((registry.sameNames_setColor color entity).index? .point name).trans known,
    (registry.position_setColor color entity id).trans position⟩

theorem pointAt_paint {effect : Effect α} {name : String} {place : Vec α}
    (here : PointAt effect.2 name place) : PointAt (paint declaration effect).2 name place := by
  obtain ⟨_ | _ | ⟨main, others⟩, registry⟩ := effect
  · exact here
  · exact here
  · unfold paint
    dsimp only
    split
    · exact here
    · split
      · exact here
      · exact pointAt_setColor here _ main

theorem ok_of_paint {effect : Effect α} {outcome : Outcome}
    (done : ((paint declaration effect).outcome declaration).1 = .ok outcome) :
    ∃ touched, effect.1 = .ok touched := by
  obtain ⟨fault | touched, registry⟩ := effect
  · cases done
  · exact ⟨touched, rfl⟩

theorem position_recordPoint (place : Vec α) (shape : Option ShapeRef) (random : Bool)
    (point : Point α) : (recordPoint (some place) shape random point).position = some place := by
  cases shape <;> cases random <;> rfl

/-! ## Declarations that put points -/

variable [Scalar α]

/-- A declaration has put the point that it names where it says. -/
def HasPut (declaration : Declaration) (registry : Registry α) : Prop :=
  ∃ name place, declaration.name = some name ∧ WritesPlace declaration place ∧
    PointAt registry name place

theorem hasPut_declareLoc (ofKind : kindOf? declaration = some .loc) {registry : Registry α}
    (indexed : Indexed registry) {touched : List EntityRef}
    (done : (declareLoc registry declaration).1 = .ok touched) :
    HasPut declaration (declareLoc registry declaration).2 := by
  obtain ⟨name, x, y, id, later, named, first, second, entered, -, same⟩ :=
    declareLoc_eq_ok_iff.1 (show declareLoc registry declaration =
      (.ok touched, (declareLoc registry declaration).2) from Prod.ext done rfl)
  rw [same]
  exact ⟨name, ⟨x, y⟩, name_of_requiredName named,
    ⟨read_of_coordinate ofKind first, read_of_coordinate ofKind second⟩,
    pointAt_modifyPoint indexed entered (position_recordPoint _ _ _)⟩

theorem hasPut_declarePoint (ofKind : kindOf? declaration = some .point)
    (keyword : (declaration.argument? "x").isSome ∨ (declaration.argument? "y").isSome)
    {registry : Registry α} (indexed : Indexed registry) {touched : List EntityRef}
    (done : (declarePoint registry declaration).1 = .ok touched) :
    HasPut declaration (declarePoint registry declaration).2 := by
  obtain ⟨name, position, shape, id, later, named, placed, -, entered, -, same⟩ :=
    declarePoint_eq_ok_iff.1 (show declarePoint registry declaration =
      (.ok touched, (declarePoint registry declaration).2) from Prod.ext done rfl)
  rw [keywordPosition, if_pos (Bool.or_eq_true_iff.2 keyword)] at placed
  cases first : keywordNumber (α := α) declaration "x" with
  | error fault => simp [first, bind, Except.bind] at placed
  | ok x =>
      cases second : keywordNumber (α := α) declaration "y" with
      | error fault => simp [first, second, bind, Except.bind] at placed
      | ok y =>
          simp only [first, second, bind, Except.bind, pure, Except.pure, Except.ok.injEq] at placed
          rw [same, ← placed]
          exact ⟨name, ⟨x, y⟩, name_of_requiredName named,
            ⟨read_of_keywordNumber ofKind first, read_of_keywordNumber ofKind second⟩,
            pointAt_modifyPoint indexed entered (position_recordPoint _ _ _)⟩

/-- A declaration that gives a place and succeeds has put its point there. -/
theorem apply_hasPut {registry : Registry α} (indexed : Indexed registry)
    (gives : GivesPlace declaration) {outcome : Outcome}
    (done : (apply registry declaration).1 = .ok outcome) :
    HasPut declaration (apply registry declaration).2 := by
  have painted {effect : Effect α} (put : HasPut declaration effect.2) :
      HasPut declaration ((paint declaration effect).outcome declaration).2 := by
    obtain ⟨name, place, named, writes, here⟩ := put
    rw [Effect.outcome_registry]
    exact ⟨name, place, named, writes, pointAt_paint here⟩
  rcases gives with ofKind | ⟨ofKind, keyword⟩
  · simp only [apply, ofKind] at done ⊢
    obtain ⟨touched, done⟩ := ok_of_paint done
    exact painted (hasPut_declareLoc ofKind indexed done)
  · simp only [apply, ofKind] at done ⊢
    obtain ⟨touched, done⟩ := ok_of_paint done
    exact painted (hasPut_declarePoint ofKind keyword indexed done)

/-- A declaration of a point that gives just one coordinate does not succeed. -/
theorem putsPoint_of_apply {registry : Registry α} (indexed : Indexed registry) {name : String}
    (gives : GivesPlace declaration) (named : declaration.name.map lower = some (lower name))
    {outcome : Outcome} (done : (apply registry declaration).1 = .ok outcome) :
    PutsPoint name declaration := by
  obtain ⟨-, place, -, writes, -⟩ := apply_hasPut indexed gives done
  exact ⟨gives.imp_right fun ⟨ofKind, _⟩ => ⟨ofKind, writes.keywords ofKind⟩, named⟩

/-! ## Declarations that leave points in place -/

/-- A point stays where it is while a declaration is applied that gives no place to it. -/
theorem pointAt_apply {palette : Palette} {earlier : List Declaration} {name : String}
    {place : Vec α} (here : PointAt (construct palette earlier) name place)
    (unmoved : GivesPlace declaration → declaration.name.map lower ≠ some (lower name)) :
    PointAt (apply (construct palette earlier : Registry α) declaration).2 name place := by
  obtain ⟨id, known, position⟩ := here
  have kept := apply_kept (construct palette earlier : Registry α) declaration
  refine ⟨id, kept.index? known, ?_⟩
  obtain ⟨old, stored, here⟩ := Option.bind_eq_some_iff.1 position
  obtain ⟨now, found, stays⟩ := kept.points id.index old stored
  have still : (apply (construct palette earlier : Registry α) declaration).2.point? id =
      some now := found
  rcases stays.coordinates with ⟨x, y⟩ | ⟨gives, spelling, named, alsoKnown⟩
  · rw [Registry.position, still, Option.bind_some, Point.position, x, y]
    exact here
  · -- Two names of one point are the same in lower case.
    have names := namesEntities_construct (α := α) palette earlier
    obtain ⟨written, stored, lowered⟩ := names.exact.1 known
    obtain ⟨other, alsoStored, alsoLowered⟩ := names.exact.1 alsoKnown
    obtain rfl : written = other := Option.some.inj (stored.symm.trans alsoStored)
    refine absurd ?_ (unmoved gives)
    rw [named, Option.map_some, ← alsoLowered, lowered]

theorem construct_pointAt {palette : Palette} {earlier later : List Declaration} {name : String}
    {place : Vec α} (here : PointAt (construct palette earlier) name place)
    (unmoved : ∀ declaration ∈ later,
      GivesPlace declaration → declaration.name.map lower ≠ some (lower name)) :
    PointAt (construct palette (earlier ++ later) : Registry α) name place := by
  induction later using List.reverseRecOn with
  | nil => rwa [List.append_nil]
  | append_singleton later last ih =>
      rw [← List.append_assoc, construct_append]
      refine pointAt_apply (ih fun declaration member => ?_) (unmoved last (by simp))
      exact unmoved declaration (List.mem_append_left _ member)

/-- The last declaration that puts a point decides where the point is, whatever is declared before
and after it. -/
theorem construct_places {palette : Palette} {declarations : List Declaration}
    (succeeds : ∀ i declaration, declarations[i]? = some declaration → ∃ outcome,
      (apply (construct palette (declarations.take i) : Registry α) declaration).1 = .ok outcome)
    {name : String} {last : Declaration}
    (isLast : (declarations.filter (PutsPoint name)).getLast? = some last) :
    ∃ place, WritesPlace last place ∧
      PointAt (construct palette declarations : Registry α) name place := by
  obtain ⟨others, kept⟩ := List.getLast?_eq_some_iff.1 isLast
  obtain ⟨front, back, rfl, -, kept⟩ := List.filter_eq_append_iff.1 kept
  obtain ⟨between, later, rfl, -, puts, quiet⟩ := List.filter_eq_cons_iff.1 kept
  have puts : PutsPoint name last := of_decide_eq_true puts
  have split : front ++ (between ++ last :: later) = front ++ between ++ [last] ++ later := by simp
  rw [split] at succeeds ⊢
  -- The last declaration puts the point where it says.
  obtain ⟨outcome, done⟩ := succeeds (front ++ between).length last (by simp)
  rw [List.append_assoc _ [last], List.take_left] at done
  obtain ⟨spelling, place, named, writes, id, known, here⟩ :=
    apply_hasPut (wellFormed_construct palette _).indexed puts.givesPlace done
  have same : lower spelling = lower name := by
    simpa [named] using puts.2
  rw [← construct_append] at known here
  rw [Registry.index?_congr _ _ same] at known
  -- Those after it put other points, if any.
  refine ⟨place, writes,
    construct_pointAt ⟨id, known, here⟩ fun declaration member gives moved => ?_⟩
  obtain ⟨i, stored⟩ := List.mem_iff_getElem?.1 member
  obtain ⟨outcome, done⟩ := succeeds ((front ++ between ++ [last]).length + i) declaration
    (by rw [List.getElem?_append_right (Nat.le_add_right _ _), Nat.add_sub_cancel_left, stored])
  have indexed := (wellFormed_construct (α := α) palette
    ((front ++ between ++ [last] ++ later).take ((front ++ between ++ [last]).length + i))).indexed
  have alsoPuts := putsPoint_of_apply indexed gives moved done
  exact List.filter_eq_nil_iff.1 quiet declaration member (decide_eq_true alsoPuts)

end FigureMarkup.Construction

import FigureMarkup.Proofs.Construction.Declaring
import FigureMarkup.Proofs.Construction.Identity
import Mathlib.Data.List.Perm.Basic

/-!
# Declaring an entity again

A line, a polygon or an angle that is declared with the points of one that is there already is that
one. The order of the points does not matter, except that an angle has its vertex in the middle,
and neither does the case of their labels or the form in which they are given. Such a declaration
enters no name and adds no entity.
-/

namespace FigureMarkup.Construction

open Figure Plane Markup

variable {α : Type} {declaration : Declaration} {registry : Registry α}

/-! ## Giving points -/

/-- The labels that a declaration gives to the points of an entity of some kind: the letters of its
name, or the values of its keywords. There are as many as the kind demands. -/
inductive Gives (declaration : Declaration) : EntityKind → List String → Prop
  | lineLetters {name : String} (ofKind : kindOf? declaration = some .line)
      (plain : ∀ key ∈ ["p1", "p2"], declaration.argument? key = none)
      (named : declaration.name = some name) (two : (labels name).length = 2) :
      Gives declaration .line (labels name)
  | linePoints {a b : String} (ofKind : kindOf? declaration = some .line)
      (first : declaration.argument? "p1" = some a)
      (second : declaration.argument? "p2" = some b) :
      Gives declaration .line [a, b]
  | polygonLetters {name : String} (triangle : Bool)
      (ofKind : kindOf? declaration = some (if triangle then .triangle else .polygon))
      (plain : declaration.argument? "points" = none) (named : declaration.name = some name)
      (enough : 3 ≤ (labels name).length) (three : triangle → (labels name).length = 3) :
      Gives declaration .polygon (labels name)
  | polygonPoints {list : String} (triangle : Bool)
      (ofKind : kindOf? declaration = some (if triangle then .triangle else .polygon))
      (listed : declaration.argument? "points" = some list)
      (enough : 3 ≤ (listedLabels list).length)
      (three : triangle → (listedLabels list).length = 3) :
      Gives declaration .polygon (listedLabels list)
  | angleLetters {name : String} (ofKind : kindOf? declaration = some .angle)
      (plain : ∀ key ∈ ["p1", "p2", "p3"], declaration.argument? key = none)
      (named : declaration.name = some name) (three : (labels name).length = 3) :
      Gives declaration .angle (labels name)
  | anglePoints {a b c : String} (ofKind : kindOf? declaration = some .angle)
      (first : declaration.argument? "p1" = some a)
      (second : declaration.argument? "p2" = some b)
      (third : declaration.argument? "p3" = some c) :
      Gives declaration .angle [a, b, c]

theorem endpointLabels_of_gives {given : List String} (gives : Gives declaration .line given) :
    kindOf? declaration = some .line ∧
      ∃ a b, given = [a, b] ∧ endpointLabels declaration = .ok (a, b) := by
  cases gives with
  | lineLetters ofKind plain named two =>
      obtain ⟨a, b, letters⟩ := List.length_eq_two.1 two
      refine ⟨ofKind, a, b, letters, ?_⟩
      simp only [endpointLabels, plain "p1" (by simp), plain "p2" (by simp), requiredName, named,
        bind, Except.bind, letters]
  | linePoints ofKind first second =>
      exact ⟨ofKind, _, _, rfl, by simp only [endpointLabels, first, second]⟩

theorem angleLabels_of_gives {given : List String} (gives : Gives declaration .angle given) :
    kindOf? declaration = some .angle ∧
      ∃ a b c, given = [a, b, c] ∧ angleLabels declaration = .ok (a, b, c) := by
  cases gives with
  | angleLetters ofKind plain named three =>
      obtain ⟨a, b, c, letters⟩ := List.length_eq_three.1 three
      refine ⟨ofKind, a, b, c, letters, ?_⟩
      simp only [angleLabels, plain "p1" (by simp), plain "p2" (by simp), plain "p3" (by simp),
        requiredName, named, bind, Except.bind, letters]
  | anglePoints ofKind first second third =>
      exact ⟨ofKind, _, _, _, rfl, by simp only [angleLabels, first, second, third]⟩

theorem perm_rotateToLeast (given : List String) : (rotateToLeast given).Perm given := by
  have turned : (rotateToLeast given).Perm (given.take _ ++ given.drop _) := List.perm_append_comm
  rwa [List.take_append_drop] at turned

theorem vertexLabels_of_letters {triangle : Bool} {name : String}
    (plain : declaration.argument? "points" = none) (named : declaration.name = some name)
    (enough : 3 ≤ (labels name).length) (three : triangle → (labels name).length = 3) :
    vertexLabels declaration triangle = .ok (rotateToLeast (labels name)) := by
  simpa [vertexLabels, plain, requiredName, named, Except.map, bind, Except.bind,
    (perm_rotateToLeast (labels name)).length_eq, Nat.not_lt.2 enough] using three

/-- The vertices of a polygon are read in another order at most. -/
theorem vertexLabels_of_gives {given : List String} (gives : Gives declaration .polygon given) :
    ∃ triangle read, kindOf? declaration = some (if triangle then .triangle else .polygon) ∧
      vertexLabels declaration triangle = .ok read ∧ read.Perm given := by
  cases gives with
  | @polygonLetters name triangle ofKind plain named enough three =>
      exact ⟨triangle, rotateToLeast (labels name), ofKind,
        vertexLabels_of_letters plain named enough three, perm_rotateToLeast (labels name)⟩
  | polygonPoints triangle ofKind listed enough three =>
      refine ⟨triangle, _, ofKind, ?_, .refl _⟩
      simpa [vertexLabels, listed, bind, Except.bind, Nat.not_lt.2 enough] using three

/-! ## Points that are there -/

/-- A label denotes a point: it is its name, in some case of its letters. -/
def Denotes (registry : Registry α) (label : String) (id : PointId) : Prop :=
  ∃ name, registry.name (.point id) = some name ∧ Text.lower label = Text.lower name

theorem enterPoint_of_known {label : String} {id : PointId}
    (known : registry.index? .point label = some id.index) :
    registry.enterPoint label = (id, registry) := by
  simp [Registry.enterPoint, Registry.enter, known]

theorem enterPoints_of_known {given : List String} {ids : List PointId}
    (known : List.Forall₂ (fun label id => registry.index? .point label = some id.index) given
      ids) : registry.enterPoints given = (ids, registry) := by
  induction known with
  | nil => rfl
  | cons first _ ih =>
      rw [Registry.enterPoints, enterPoint_of_known first]
      simp only [ih]

theorem known_of_enterPoints {registry later : Registry α} {names : List String}
    {ids : List PointId} (entered : registry.enterPoints names = (ids, later)) :
    List.Forall₂ (fun name id => later.index? .point name = some id.index) names ids := by
  induction names generalizing registry ids with
  | nil =>
      cases entered
      exact .nil
  | cons name names ih =>
      obtain ⟨id, next, rest, first, others, rfl⟩ := exists_of_enterPoints_cons entered
      exact .cons ((entersPoints_enterPoints others).index? (known_of_enterPoint first))
        (ih others)

theorem Denotes.known {label : String} {id : PointId} (denotes : Denotes registry label id)
    (indexed : Indexed registry) : registry.index? .point label = some id.index := by
  obtain ⟨name, named, same⟩ := denotes
  exact indexed.index?_spelling named same

/-! ## Entities that are there -/

section Handlers

variable (apart : registry.SpansApart) {points : List PointId}

include apart

theorem declareLine_of_known {id : LineId} {first second : String} {a b : PointId}
    (spanned : registry.span? (.line id) = some points)
    (read : endpointLabels declaration = .ok (first, second))
    (knownA : registry.index? .point first = some a.index)
    (knownB : registry.index? .point second = some b.index) (distinct : a ≠ b)
    (same : Coincide .line points [a, b]) :
    declareLine registry declaration = touchShape registry (.line id) := by
  have finds := (registry.finds_findLine? distinct).eq_some apart rfl spanned same
  obtain ⟨_, found, ⟨⟩⟩ := Option.map_eq_some_iff.1 finds
  simp only [declareLine, read, enterPoint_of_known knownA, enterPoint_of_known knownB,
    if_neg distinct, found]

theorem declarePolygon_of_known {id : PolygonId} {triangle : Bool} {given : List String}
    {vertices : List PointId} (spanned : registry.span? (.polygon id) = some points)
    (read : vertexLabels declaration triangle = .ok given)
    (known : List.Forall₂ (fun label id => registry.index? .point label = some id.index) given
      vertices) (distinct : vertices.Nodup) (same : Coincide .polygon points vertices) :
    declarePolygon registry declaration triangle = touchShape registry (.polygon id) := by
  have finds := (registry.finds_findPolygon? vertices).eq_some apart rfl spanned same
  obtain ⟨_, found, ⟨⟩⟩ := Option.map_eq_some_iff.1 finds
  simp only [declarePolygon, read, enterPoints_of_known known,
    if_pos ((allDistinct_iff vertices).2 distinct), found]

theorem declareAngle_of_known {id : AngleId} {first second third : String}
    {p1 vertex p3 : PointId} (spanned : registry.span? (.angle id) = some points)
    (read : angleLabels declaration = .ok (first, second, third))
    (knownP1 : registry.index? .point first = some p1.index)
    (knownVertex : registry.index? .point second = some vertex.index)
    (knownP3 : registry.index? .point third = some p3.index) (distinct : [p1, vertex, p3].Nodup)
    (same : Coincide .angle points [p1, vertex, p3]) :
    declareAngle registry declaration =
      (.ok (.angle id :: [p1, vertex, p3].map .point), registry) := by
  have finds := (registry.finds_findAngle? distinct).eq_some apart rfl spanned same
  obtain ⟨_, found, ⟨⟩⟩ := Option.map_eq_some_iff.1 finds
  have ⟨⟨fromFirst, arms⟩, fromLast⟩ : (p1 ≠ vertex ∧ p1 ≠ p3) ∧ vertex ≠ p3 := by
    simpa using distinct
  have proper : (p1 = vertex || p3 = vertex || p1 = p3) = false := by
    simp [fromFirst, arms, fromLast.symm]
  simp only [declareAngle, read, enterPoint_of_known knownP1, enterPoint_of_known knownVertex,
    enterPoint_of_known knownP3, proper, Bool.false_eq_true, if_false, found, List.map_cons,
    List.map_nil]

end Handlers

/-- An effect is about an entity that is there already, and enters no name. -/
def Refers (registry : Registry α) (entity : EntityRef) (effect : Effect α) : Prop :=
  (∃ others, effect.1 = .ok (entity :: others)) ∧ Registry.SameNames effect.2 registry

theorem refers_touchShape (registry : Registry α) (shape : ShapeRef) :
    Refers registry shape.entity (touchShape registry shape) :=
  ⟨⟨_, rfl⟩, sameNames_touched registry shape⟩

/-- A declaration has no color, or one that can be read. -/
def Readable (declaration : Declaration) : Prop :=
  ∀ value, declaration.argument? "color" = some value → (Rgba.read? value).isSome

/-- The entity that a declaration is mainly about gets its color, if it has one that can be read.
What is said stays if there is none that cannot. -/
theorem outcome_paint (declaration : Declaration) (main : EntityRef) (others : List EntityRef)
    (later : Registry α) :
    let painted := (paint declaration (.ok (main :: others), later)).outcome declaration
    (painted.2 = later ∨ ∃ color, painted.2 = later.setColor color main) ∧
      (Readable declaration → painted.1 = .ok (.entities (main :: others))) := by
  cases argument : declaration.argument? "color" with
  | none => simp [paint, argument, Effect.outcome]
  | some value =>
      cases read : Rgba.read? value with
      | none =>
          have unreadable : ¬ Readable declaration := fun readable => by
            simpa [read] using readable value argument
          simp [paint, argument, read, Effect.outcome, unreadable]
      | some color =>
          simp only [paint, argument, read, Effect.outcome]
          exact ⟨.inr ⟨color, rfl⟩, fun _ => trivial⟩

/-- Giving a color changes neither what a declaration is about nor any name. -/
theorem Refers.outcome {entity : EntityRef} {effect : Effect α}
    (refers : Refers registry entity effect) (readable : Readable declaration) :
    (∃ others, ((paint declaration effect).outcome declaration).1 =
        .ok (.entities (entity :: others))) ∧
      Registry.SameNames ((paint declaration effect).outcome declaration).2 registry := by
  obtain ⟨said, later⟩ := effect
  obtain ⟨⟨others, rfl⟩, same⟩ := refers
  obtain ⟨either, succeeds⟩ := outcome_paint declaration entity others later
  refine ⟨⟨others, succeeds readable⟩, ?_⟩
  rcases either with last | ⟨color, last⟩
  · rw [last]
    exact same
  · rw [last]
    exact (later.sameNames_setColor color entity).trans same

/-! ## Redeclarations -/

/-- A declaration gives the points of an entity that is there already, each of them once. -/
structure Redeclares (registry : Registry α) (declaration : Declaration) (entity : EntityRef)
    (given : List String) (ids points : List PointId) : Prop where
  gives : Gives declaration entity.kind given
  denote : List.Forall₂ (Denotes registry) given ids
  distinct : ids.Nodup
  spanned : registry.span? entity = some points
  same : Coincide entity.kind points ids

/-- Declaring an entity again succeeds, is about that entity, and enters no name. -/
theorem apply_redeclares [Scalar α] (indexed : Indexed registry) (apart : registry.SpansApart)
    {entity : EntityRef} {given : List String} {ids points : List PointId}
    (redeclares : Redeclares registry declaration entity given ids points)
    (readable : Readable declaration) :
    (∃ others, (apply registry declaration).1 = .ok (.entities (entity :: others))) ∧
      Registry.SameNames (apply registry declaration).2 registry := by
  obtain ⟨gives, denote, distinct, spanned, same⟩ := redeclares
  cases entity with
  | point id => cases gives
  | circle id => cases gives
  | line id =>
      obtain ⟨ofKind, a, b, rfl, read⟩ := endpointLabels_of_gives gives
      obtain _ | ⟨first, _ | ⟨second, ⟨⟩⟩⟩ := denote
      have again := declareLine_of_known apart spanned read (first.known indexed)
        (second.known indexed) (by simpa using distinct) same
      unfold apply
      simp only [ofKind, again]
      exact (refers_touchShape registry (.line id)).outcome readable
  | polygon id =>
      obtain ⟨triangle, read, ofKind, reads, turned⟩ := vertexLabels_of_gives gives
      obtain ⟨vertices, denoted, permuted⟩ := List.perm_comp_forall₂ turned denote
      have coincides : Coincide .polygon points vertices :=
        ⟨fun vertex => (same.1 vertex).trans permuted.symm.mem_iff, nofun⟩
      have again := declarePolygon_of_known apart spanned reads
        (denoted.imp fun _ _ denotes => denotes.known indexed) (permuted.nodup_iff.2 distinct)
        coincides
      unfold apply
      cases triangle <;> simp only [ofKind, again] <;>
        exact (refers_touchShape registry (.polygon id)).outcome readable
  | angle id =>
      obtain ⟨ofKind, a, b, c, rfl, read⟩ := angleLabels_of_gives gives
      obtain _ | ⟨first, _ | ⟨second, _ | ⟨third, ⟨⟩⟩⟩⟩ := denote
      have again := declareAngle_of_known apart spanned read (first.known indexed)
        (second.known indexed) (third.known indexed) distinct same
      have refers : Refers registry (.angle id) (declareAngle registry declaration) :=
        again ▸ ⟨⟨_, rfl⟩, .refl registry⟩
      unfold apply
      simp only [ofKind]
      exact refers.outcome readable

/-- In a registry that declarations build, the index of names has exactly the entities, no two
entities of a kind are known by the same points, and to declare an entity with the points of one
that is there is to refer to that one. -/
theorem construct_identity [Scalar α] (palette : Palette) (declarations : List Declaration) :
    let registry : Registry α := construct palette declarations
    NamesEntities registry ∧ registry.SpansApart ∧
      ∀ declaration entity given ids points,
        Redeclares registry declaration entity given ids points → Readable declaration →
          (∃ others, (apply registry declaration).1 = .ok (.entities (entity :: others))) ∧
            Registry.SameNames (apply registry declaration).2 registry := by
  intro registry
  have formed : WellFormed registry :=
    (construct_induction trivial declarations fun _ _ _ _ _ _ _ => trivial).1
  have apart := spansApart_construct (α := α) palette declarations
  exact ⟨namesEntities_construct palette declarations, apart,
    fun _ _ _ _ _ redeclares readable =>
      apply_redeclares formed.indexed apart redeclares readable⟩

/-- A line is the same line with its endpoints in the other order, in other case and as keywords,
also if it gets a color. -/
theorem construct_identity_line :
    let first : Declaration := ⟨"line", some "AB", 1, ⟨0, 9⟩, [], []⟩
    let second : Declaration :=
      ⟨"line", none, 1, ⟨9, 38⟩, [("p1", "b"), ("p2", "a"), ("color", "#ff0000")], []⟩
    let registry : Registry Float := construct .standard [first]
    Redeclares registry second (.line ⟨0⟩) ["b", "a"] [⟨1⟩, ⟨0⟩] [⟨0⟩, ⟨1⟩] ∧ Readable second ∧
      (∃ others, (apply registry second).1 = .ok (.entities (.line ⟨0⟩ :: others))) ∧
      Registry.SameNames (apply registry second).2 registry := by
  intro first second registry
  have denotes (label name : String) (id : PointId)
      (named : registry.name (.point id) = some name) (same : Text.lower label = Text.lower name) :
      Denotes registry label id := ⟨name, named, same⟩
  have redeclares : Redeclares registry second (.line ⟨0⟩) ["b", "a"] [⟨1⟩, ⟨0⟩] [⟨0⟩, ⟨1⟩] :=
    { gives := .linePoints (by decide +kernel) rfl rfl
      denote := .cons (denotes "b" "B" ⟨1⟩ (by decide +kernel) (by decide +kernel))
        (.cons (denotes "a" "A" ⟨0⟩ (by decide +kernel) (by decide +kernel)) .nil)
      distinct := by decide
      spanned := by decide +kernel
      same := ⟨fun id => by simp [or_comm], nofun⟩ }
  have readable : Readable second := by
    intro value color
    obtain rfl : "#ff0000" = value := Option.some.inj color
    decide +kernel
  obtain ⟨-, -, again⟩ := construct_identity (α := Float) .standard [first]
  exact ⟨redeclares, readable, again second (.line ⟨0⟩) _ _ _ redeclares readable⟩

/-- Only the arms of an angle may change places. An angle with another vertex is another angle, even
if its points are the same. -/
theorem construct_angle_of_other_vertex :
    let first : Declaration := ⟨"angle", some "ABC", 1, ⟨0, 11⟩, [], []⟩
    let second : Declaration := ⟨"angle", some "BAC", 1, ⟨11, 22⟩, [], []⟩
    let registry : Registry Float := construct .standard [first]
    registry.span? (.angle ⟨0⟩) = some [⟨0⟩, ⟨1⟩, ⟨2⟩] ∧
      Gives second .angle ["B", "A", "C"] ∧
      List.Forall₂ (Denotes registry) ["B", "A", "C"] [⟨1⟩, ⟨0⟩, ⟨2⟩] ∧
      List.Perm [(⟨0⟩ : PointId), ⟨1⟩, ⟨2⟩] [⟨1⟩, ⟨0⟩, ⟨2⟩] ∧
      Readable second ∧
      (apply registry second).1 =
        .ok (.entities [.angle ⟨1⟩, .point ⟨1⟩, .point ⟨0⟩, .point ⟨2⟩]) ∧
      (apply registry second).2.count .angle = registry.count .angle + 1 := by
  intro first second registry
  have gives : Gives second .angle (labels "BAC") :=
    .angleLetters (by decide +kernel) (by decide +kernel) rfl (by decide +kernel)
  have denotes (id : PointId) (name : String)
      (named : registry.name (.point id) = some name) : Denotes registry name id :=
    ⟨name, named, rfl⟩
  refine ⟨by decide +kernel, gives, ?_, by decide, nofun, by decide +kernel, by decide +kernel⟩
  exact .cons (denotes ⟨1⟩ "B" (by decide +kernel)) (.cons (denotes ⟨0⟩ "A" (by decide +kernel))
    (.cons (denotes ⟨2⟩ "C" (by decide +kernel)) .nil))

end FigureMarkup.Construction

import FigureMarkup.Proofs.Construction.Declaring
import FigureMarkup.Proofs.Construction.WellFormed
import FigureMarkup.Proofs.Figure.Colors
import FigureMarkup.Proofs.Scene.Depiction

/-!
# Colors in turn

A declaration that creates a line, a polygon or an angle takes one color from the cycle, and nothing
else moves it: no point or circle, no entity that is there already, and no declaration that fails.
So the colors of a figure follow from the order in which its lines, polygons and angles were
created, as long as no declaration gives a color itself.
-/

namespace FigureMarkup.Construction

open Figure Plane Markup
open Registry (HandsOut SameColors)

variable {α : Type} {declaration : Declaration}

/-! ## Entering points and circles -/

theorem EntersPoints.handsOut {before after : Registry α} (enters : EntersPoints before after) :
    HandsOut before [] after := by
  have other {entity : EntityRef} (differs : entity.kind ≠ .point) :
      after.color entity = before.color entity := by
    cases entity with
    | point => exact absurd rfl differs
    | line => rw [Registry.color, Registry.line?, enters.lines, Registry.color, Registry.line?]
    | circle =>
        rw [Registry.color, Registry.circle?, enters.circles, Registry.color, Registry.circle?]
    | polygon =>
        rw [Registry.color, Registry.polygon?, enters.polygons, Registry.color, Registry.polygon?]
    | angle => rw [Registry.color, Registry.angle?, enters.angles, Registry.color, Registry.angle?]
  have created {entity : EntityRef} (held : after.Holds entity) (absent : ¬ before.Holds entity) :
      ∃ id, entity = .point id := by
    cases entity with
    | point id => exact ⟨id, rfl⟩
    | line | circle | polygon | angle =>
        rw [Registry.holds_iff_color, other (by simp [EntityRef.kind]),
          ← Registry.holds_iff_color] at held
        exact absurd held absent
  refine ⟨enters.colors, fun {entity color} colored => ?_, .nil, fun entity => ?_,
    fun {n entity} found => ?_, fun {entity} fixed held absent => ?_⟩
  · by_cases differs : entity.kind = .point
    · cases entity with
      | point id =>
          obtain ⟨point, stored, rfl⟩ := Option.map_eq_some_iff.1 colored
          rw [Registry.color, enters.point? stored]
          rfl
      | line | circle | polygon | angle => cases differs
    · rw [other differs, colored]
  · simp only [List.not_mem_nil, false_iff]
    rintro ⟨turn, held, absent⟩
    obtain ⟨id, rfl⟩ := created held absent
    cases turn
  · simp at found
  · obtain ⟨id, rfl⟩ := created held absent
    obtain ⟨point, stored⟩ := Registry.holds_point_iff.1 held
    have new : before.point? id = none := by
      simpa [Registry.not_holds_iff_color, Registry.color] using absent
    obtain ⟨name, rfl⟩ := enters.new stored new
    rw [Registry.color, stored]
    rfl

theorem sameColors_constrain (registry : Registry α) (shape : ShapeRef) (ids : List PointId) :
    SameColors (constrain registry shape ids) registry := by
  induction ids generalizing registry with
  | nil => exact .refl registry
  | cons id ids ih => exact (ih _).trans (registry.sameColors_modifyPoint id fun _ => rfl)

theorem recordPoint_color (position : Option (Vec α)) (shape : Option ShapeRef) (random : Bool)
    (point : Point α) : (recordPoint position shape random point).color = point.color := by
  cases position <;> cases shape <;> cases random <;> rfl

/-- A circle that is new takes no turn, whatever is entered with it. -/
theorem handsOut_addCircled [Scalar α] (registry : Registry α) (name : String)
    (center : Option String) (radius : Option (DeclaredRadius α)) :
    HandsOut registry [] (addCircled registry name center radius) := by
  have enters {before after : Registry α} {name : String} {point : PointId}
      (entered : before.enterPoint name = (point, after)) (hands : HandsOut registry [] before) :
      HandsOut registry [] after :=
    hands.trans (entersPoints_enterPoint entered).1.handsOut
  have changes {before : Registry α} (id : CircleId) {change : Circle α → Circle α}
      (keeps : ∀ circle, (change circle).color = circle.color)
      (hands : HandsOut registry [] before) :
      HandsOut registry [] (before.modifyCircle id change) :=
    hands.congr (before.sameColors_modifyCircle id keeps)
  have bounded (id : CircleId) :
      HandsOut registry [] (enterBoundary (registry.add .circle name) id name) :=
    enterBoundary_induction (.add_fixed registry .circle rfl name) id name enters
      (fun ids hands => hands.congr (sameColors_constrain _ _ ids))
      fun _ _ _ hands => changes id (fun _ => rfl) hands
  have centered (id : CircleId) : HandsOut registry []
      (enterCenter (enterBoundary (registry.add .circle name) id name) id center) :=
    enterCenter_induction (bounded id) id center enters
      fun _ hands => changes id (fun _ => rfl) hands
  have start := centered ⟨registry.circles.size⟩
  rw [addCircled]
  generalize enterCenter _ _ center = middle at start ⊢
  rcases radius with _ | value | ⟨first, second⟩
  · unfold enterRadius
    dsimp only
    split
    · exact changes _ (fun _ => rfl) start
    · exact start
  · exact changes _ (fun _ => rfl) start
  · rcases enteredA : middle.enterPoint first with ⟨a, one⟩
    rcases enteredB : one.enterPoint second with ⟨b, two⟩
    simp only [enterRadius, enteredA, enteredB]
    exact changes _ (fun _ => rfl) (enters enteredB (enters enteredA start))

/-! ## Declarations -/

/-- The entities that take turns and are new in a registry. -/
def newTurns (before after : Registry α) : List EntityRef :=
  after.entities.filter fun entity => entity.kind.takesTurn && !decide (before.Holds entity)

theorem newTurns_eq {before after : Registry α} {order : List EntityRef}
    (hands : HandsOut before order after) (few : order.length ≤ 1) :
    newTurns before after = order := by
  have listed : (newTurns before after).Perm order := by
    refine (List.perm_ext_iff_of_nodup ((nodup_entities after).filter _) hands.nodup).2 ?_
    intro entity
    simp [hands.mem_iff, mem_entities, and_left_comm]
  match order, few with
  | [], _ => exact listed.eq_nil
  | [entity], _ => exact List.perm_singleton.1 listed

section Steps

variable [Scalar α] {registry : Registry α}

/-- A declaration creates nothing that takes a turn, or it succeeds and creates the entity that it
is mainly about. -/
theorem Declaring.handsOut {effect : Effect α} (declaring : Declaring registry declaration effect) :
    HandsOut registry [] effect.2 ∨ ∃ main others, effect.1 = .ok (main :: others) ∧
      HandsOut registry [main] effect.2 := by
  cases declaring with
  | refused fault entered => exact .inl (entersPoints_enterPoints entered).handsOut
  | record position shape random named entered =>
      refine .inl ((entersPoints_enterPoint entered).1.handsOut.congr ?_)
      exact Registry.sameColors_modifyPoint _ _ (recordPoint_color position shape random)
  | again entered =>
      exact .inl ((entersPoints_enterPoints entered).handsOut.congr (sameColors_constrain _ _ _))
  | line entered name =>
      have adds := (entersPoints_enterPoints entered).handsOut.trans (.add_turn _ .line rfl name)
      refine .inr ⟨_, _, rfl, (adds.congr ?_).congr (sameColors_constrain _ _ _)⟩
      exact Registry.sameColors_modifyLine _ _ fun _ => rfl
  | polygon entered name =>
      have adds := (entersPoints_enterPoints entered).handsOut.trans (.add_turn _ .polygon rfl name)
      refine .inr ⟨_, _, rfl, (adds.congr ?_).congr (sameColors_constrain _ _ _)⟩
      exact Registry.sameColors_modifyPolygon _ _ fun _ => rfl
  | circleAgain => exact .inl (.refl registry)
  | circle name center radius => exact .inl (handsOut_addCircled registry name center radius)
  | center _ _ _ entered =>
      refine .inl ((entersPoints_enterPoint entered).1.handsOut.congr ?_)
      exact Registry.sameColors_modifyCircle _ _ fun _ => rfl
  | angleAgain entered => exact .inl (entersPoints_enterPoints entered).handsOut
  | angle entered name =>
      have adds := (entersPoints_enterPoints entered).handsOut.trans (.add_turn _ .angle rfl name)
      refine .inr ⟨_, _, rfl, adds.congr ?_⟩
      exact Registry.sameColors_modifyAngle _ _ fun _ => rfl

/-- A declaration without a color moves the cycle by one color at most, and only if it succeeds. -/
theorem apply_handsOut (registry : Registry α) (uncolored : declaration.argument? "color" = none) :
    HandsOut registry [] (apply registry declaration).2 ∨ ∃ main others,
      (apply registry declaration).1 = .ok (.entities (main :: others)) ∧
      HandsOut registry [main] (apply registry declaration).2 := by
  have step := applying registry declaration
  generalize apply registry declaration = result at step ⊢
  cases step with
  | unknown => exact .inl (.refl registry)
  | mark => exact .inl (.refl registry)
  | refused declaring =>
      rcases declaring.handsOut with idle | ⟨main, others, succeeds, -⟩
      · exact .inl idle
      · cases succeeds
  | plain declaring =>
      rcases declaring.handsOut with idle | ⟨main, others, succeeds, hands⟩
      · exact .inl idle
      · cases succeeds
        exact .inr ⟨main, others, rfl, hands⟩
  | unreadable _ argument => simp [uncolored] at argument
  | painted _ argument => simp [uncolored] at argument

end Steps

/-! ## Runs -/

/-- The lines, polygons and angles that declarations create, in order of their creation. -/
def creations [Scalar α] (registry : Registry α) : List Declaration → List EntityRef
  | [] => []
  | declaration :: rest =>
      let later := (apply registry declaration).2
      newTurns registry later ++ creations later rest

variable [Scalar α]

theorem handsOut_creations {registry : Registry α} {declarations : List Declaration}
    (uncolored : ∀ declaration ∈ declarations, declaration.argument? "color" = none) :
    HandsOut registry (creations registry declarations)
      (declarations.foldl (fun registry declaration => (apply registry declaration).2)
        registry) := by
  induction declarations generalizing registry with
  | nil => exact .refl registry
  | cons declaration rest ih =>
      refine HandsOut.trans ?_ (ih fun later member =>
        uncolored later (List.mem_cons_of_mem _ member))
      rcases apply_handsOut registry (uncolored declaration List.mem_cons_self) with
        idle | ⟨main, -, -, hands⟩
      · rw [newTurns_eq idle (by simp)]
        exact idle
      · rw [newTurns_eq hands (by simp)]
        exact hands

/-- Where no declaration gives a color, lines, polygons and angles have the colors of the cycle in
the order of their creation, and points and circles have the two other colors of the palette. The
cycle moves with the creation of a line, a polygon or an angle, and with nothing else. -/
theorem construct_colors (palette : Palette) (declarations : List Declaration)
    (uncolored : ∀ declaration ∈ declarations, declaration.argument? "color" = none) :
    let registry : Registry α := construct palette declarations
    let order := creations (.empty palette : Registry α) declarations
    order.Nodup ∧
      (∀ entity, entity ∈ order ↔ entity.kind.takesTurn = true ∧ registry.Holds entity) ∧
      (∀ n entity, order[n]? = some entity →
        registry.color entity = palette.cycle[n % palette.cycle.length]?) ∧
      (∀ id, registry.Holds (.point id) → registry.color (.point id) = some palette.point) ∧
      (∀ id, registry.Holds (.circle id) → registry.color (.circle id) = some palette.circle) ∧
      registry.colors = ⟨palette, order.length % palette.cycle.length⟩ ∧
      ∀ earlier declaration later, declarations = earlier ++ declaration :: later →
        let before : Registry α := construct palette earlier
        let after := (apply before declaration).2
        (newTurns before after = [] ∧ after.colors = before.colors) ∨
          ∃ main others, (apply before declaration).1 = .ok (.entities (main :: others)) ∧
            newTurns before after = [main] ∧ after.colors = before.colors.advance := by
  intro registry order
  have hands : HandsOut (.empty palette) order registry := handsOut_creations uncolored
  have absent (entity : EntityRef) : ¬ (Registry.empty palette : Registry α).Holds entity := by
    cases entity <;> exact Nat.not_lt_zero _
  refine ⟨hands.nodup, fun entity => ?_, fun n entity found => ?_, fun id held => ?_,
    fun id held => ?_, ?_, fun earlier declaration later parts => ?_⟩
  · rw [hands.mem_iff, and_iff_left (absent entity)]
  · rw [hands.turn found]
    exact ColorCycle.color_iterate_advance palette n
  · exact hands.fixed rfl held (absent _)
  · exact hands.fixed rfl held (absent _)
  · exact hands.colors.trans (ColorCycle.iterate_advance_start palette order.length)
  · rcases apply_handsOut (construct palette earlier : Registry α)
      (uncolored declaration (by simp [parts])) with idle | ⟨main, others, succeeds, hands⟩
    · exact .inl ⟨newTurns_eq idle (by simp), idle.colors⟩
    · exact .inr ⟨main, others, succeeds, newTurns_eq hands (by simp), hands.colors⟩

/-- With two colors, the third of the entities has the color of the first again. Neither the circle,
nor the line that is declared again, nor the line that fails takes a color. -/
theorem construct_colors_of_two :
    let palette : Palette :=
      ⟨none, .ofChannels [255], .ofChannels [0, 255], [.ofChannels [1], .ofChannels [2]], by simp⟩
    let declare (kind name : String) : Declaration := ⟨kind, some name, 1, ⟨0, 0⟩, [], []⟩
    let declarations := [declare "line" "AB", declare "circle" "ABC", declare "line" "BA",
      declare "line" "CC", declare "triangle" "ABC", declare "angle" "ABC"]
    let registry : Registry Float := construct palette declarations
    (∀ declaration ∈ declarations, declaration.argument? "color" = none) ∧
      creations (.empty palette : Registry Float) declarations =
        [.line ⟨0⟩, .polygon ⟨0⟩, .angle ⟨0⟩] ∧
      registry.color (.polygon ⟨0⟩) = some (.ofChannels [2]) ∧
      registry.color (.angle ⟨0⟩) = registry.color (.line ⟨0⟩) := by
  intro palette declare declarations registry
  have uncolored : ∀ declaration ∈ declarations, declaration.argument? "color" = none := by
    decide +kernel
  have order : creations (.empty palette : Registry Float) declarations =
      [.line ⟨0⟩, .polygon ⟨0⟩, .angle ⟨0⟩] := by
    decide +kernel
  obtain ⟨-, -, turns, -⟩ := construct_colors (α := Float) palette declarations uncolored
  rw [order] at turns
  have again : 2 % palette.cycle.length = 0 % palette.cycle.length := by simp [palette]
  refine ⟨uncolored, order, turns 1 _ rfl, (turns 2 _ rfl).trans ?_⟩
  rw [again]
  exact (turns 0 _ rfl).symm

end FigureMarkup.Construction

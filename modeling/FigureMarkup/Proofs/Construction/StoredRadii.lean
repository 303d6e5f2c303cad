import FigureMarkup.Proofs.Construction.MeasuredRadius
import FigureMarkup.Proofs.Placement.Finite
import FigureMarkup.Proofs.Plane.Distances

/-!
# Radii that are stored

A circle has a number for its radius from the moment when it is declared, or never. Either the
number is given, and then it was checked, or it was measured. What is measured is not checked: it is
zero where the sum of squares vanishes, as it does when the center is a boundary point, and infinite
where that sum overflows. It is of use between these extremes.
-/

namespace FigureMarkup.Figure

/-- The number that a radius is given as, if it is. -/
def Radius.literal? {α : Type} : Radius α → Option α
  | .literal value => some value
  | .between _ _ => none

theorem Radius.literal?_eq_some {α : Type} {radius : Radius α} {value : α}
    (same : radius.literal? = some value) : radius = .literal value := by
  cases radius with
  | literal number => exact congrArg Radius.literal (Option.some.inj same)
  | between a b => cases same

theorem Registry.exists_circle_of_setColor {α : Type} {registry : Registry α} {color : Rgba}
    {entity : EntityRef} {id : CircleId} {circle : Circle α}
    (stored : (registry.setColor color entity).circle? id = some circle) :
    ∃ old, registry.circle? id = some old ∧ old.radius = circle.radius := by
  cases entity with
  | circle painted =>
      rw [Registry.setColor, Registry.circle?_modifyCircle, Option.map_eq_some_iff] at stored
      obtain ⟨old, stored, rfl⟩ := stored
      refine ⟨old, stored, ?_⟩
      split <;> rfl
  | point | line | polygon | angle => exact ⟨circle, stored, rfl⟩

end FigureMarkup.Figure

namespace FigureMarkup.Construction

open Figure Plane Markup

section New

variable {α : Type} [Scalar α] {declaration : Declaration} {registry : Registry α} {id : CircleId}

/-! ## Radii of new circles -/

omit [Scalar α] in
/-- The circle that is new is the last one. -/
theorem AddsUnmeasured.eq_of_new {later : Registry α} (adds : AddsUnmeasured registry later)
    (new : registry.circle? id = none) {circle : Circle α}
    (stored : later.circle? id = some circle) : id = ⟨registry.circles.size⟩ := by
  have outside : registry.circles.size ≤ id.index := Array.getElem?_eq_none_iff.1 new
  have inside : id.index < later.circles.size := (Array.getElem?_eq_some_iff.1 stored).choose
  have size := adds.size
  rcases id with ⟨index⟩
  exact congrArg CircleId.mk (by simp only at inside outside; omega)

omit [Scalar α] in
/-- A radius that is given replaces the one of a new circle. -/
theorem radius_of_modifyCircle {later : Registry α} (adds : AddsUnmeasured registry later)
    (new : registry.circle? id = none) {given : Radius α} {circle : Circle α}
    (stored : (later.modifyCircle ⟨registry.circles.size⟩ fun circle =>
      { circle with radius := some given }).circle? id = some circle) :
    circle.radius = some given := by
  rw [Registry.circle?_modifyCircle, Option.map_eq_some_iff] at stored
  obtain ⟨old, stored, rfl⟩ := stored
  rw [if_pos (adds.eq_of_new new stored).symm]

/-- A number that a new circle has as its radius is the one that is given, or none is given. -/
theorem literal_of_addCircled {name : String} {center : Option String}
    {radius : Option (DeclaredRadius α)} (new : registry.circle? id = none) {circle : Circle α}
    (stored : (addCircled registry name center radius).circle? id = some circle) {value : α}
    (literal : circle.radius = some (.literal value)) :
    radius = some (.literal value) ∨ radius = none := by
  have adds := ((AddsUnmeasured.add registry name).enterBoundary name).enterCenter center
  rw [addCircled] at stored
  generalize enterCenter _ _ center = later at adds stored
  rcases radius with _ | number | ⟨first, second⟩
  · exact .inr rfl
  · have given := radius_of_modifyCircle adds new stored
    rw [given, Option.some.injEq, Radius.literal.injEq] at literal
    exact .inl (literal ▸ rfl)
  · rcases enteredA : later.enterPoint first with ⟨a, one⟩
    rcases enteredB : one.enterPoint second with ⟨b, two⟩
    simp only [enterRadius, enteredA, enteredB] at stored
    have given :=
      radius_of_modifyCircle ((adds.enterPoint enteredA).enterPoint enteredB) new stored
    rw [given, Option.some.injEq] at literal
    cases literal

theorem argument_of_declaredRadius (read : declaredRadius (α := α) declaration = .ok none) :
    declaration.argument? "radius" = none := by
  unfold declaredRadius at read
  cases given : declaration.argument? "radius" with
  | none => rfl
  | some value =>
      cases written : readRadius (α := α) value <;> simp [given, written, Except.map] at read

theorem Declaring.literal_of_new {effect : Effect α}
    (declaring : Declaring registry declaration effect) (new : registry.circle? id = none)
    {circle : Circle α} (stored : effect.2.circle? id = some circle) {value : α}
    (literal : circle.radius = some (.literal value)) :
    declaredRadius declaration = .ok (some (.literal value)) ∨
      declaration.argument? "radius" = none := by
  obtain ⟨name, center, radius, read, adds⟩ := declaring.addsCircle new stored
  rw [adds] at stored
  rcases literal_of_addCircled new stored literal with rfl | rfl
  · exact .inl read
  · exact .inr (argument_of_declaredRadius read)

/-- A number that a new circle has as its radius was read, or no radius was declared. -/
theorem apply_literal_of_new (new : registry.circle? id = none) {circle : Circle α}
    (stored : (apply registry declaration).2.circle? id = some circle) {value : α}
    (literal : circle.radius = some (.literal value)) :
    declaredRadius declaration = .ok (some (.literal value)) ∨
      declaration.argument? "radius" = none := by
  have step := applying registry declaration
  generalize apply registry declaration = applied at step stored
  cases step with
  | unknown => simp [new] at stored
  | mark => simp [new] at stored
  | refused declaring => exact declaring.literal_of_new new stored literal
  | plain declaring => exact declaring.literal_of_new new stored literal
  | unreadable declaring => exact declaring.literal_of_new new stored literal
  | painted declaring =>
      obtain ⟨old, before, same⟩ := Registry.exists_circle_of_setColor stored
      exact declaring.literal_of_new new before (same.trans literal)

end New

/-! ## Numbers that can serve as radii -/

/-- A number that is finite and positive, as the radius of a circle should be. -/
def Usable (radius : Float) : Prop := radius.isFinite = true ∧ 0.0 < radius

theorem usable_of_readRadius {text : String} {value : Float}
    (read : readRadius text = .ok (.literal value)) : Usable value := by
  obtain ⟨numeral, -, rounded, positive⟩ := numeral_of_readRadius read
  exact ⟨Placement.isFinite_of_ofNumeral? rounded, positive⟩

/-- What is measured is the distance of two places. -/
theorem exists_places_of_measuredRadius? {α : Type} [Scalar α] {registry : Registry α}
    {circle : Circle α} {value : α} (measured : registry.measuredRadius? circle = some value) :
    ∃ center boundary, circle.center.bind registry.position = some center ∧
      circle.boundary.findSome? registry.position = some boundary ∧
      value = center.distance boundary := by
  simp only [Registry.measuredRadius?, bind, Option.bind_eq_some_iff, pure, Option.some.injEq]
    at measured
  obtain ⟨center, centered, boundary, bounded, same⟩ := measured
  exact ⟨center, boundary, Option.bind_eq_some_iff.2 centered, bounded, same.symm⟩

theorem isFinite_of_findSome? {registry : Registry Float} (written : Written registry)
    {ids : List PointId} {place : Vec Float}
    (found : ids.findSome? registry.position = some place) : place.IsFinite := by
  obtain ⟨id, -, here⟩ := List.exists_of_findSome?_eq_some found
  exact Placement.isFinite_of_written written here

/-- A number that a circle has as its radius is the one with which it was declared, and then it is
finite and positive, or it was measured when the circle was declared. A measured radius is not
negative, and it is finite or positive exactly if the sum of squares is of which it is the root. So
it is both if the center and the boundary point were neither too far from each other nor too
close. -/
theorem construct_literal_radius (palette : Palette) (declarations : List Declaration)
    (id : CircleId) (circle : Circle Float) (value : Float)
    (stored : (construct palette declarations).circle? id = some circle)
    (literal : circle.radius = some (.literal value)) :
    ∃ earlier declaration later, declarations = earlier ++ declaration :: later ∧
      (construct palette earlier : Registry Float).circle? id = none ∧
      ((∃ text, declaration.argument? "radius" = some text ∧
          readRadius text = .ok (.literal value) ∧ Usable value) ∨
        declaration.argument? "radius" = none ∧
          let before : Registry Float := construct palette (earlier ++ [declaration])
          ∃ declared center boundary, before.circle? id = some declared ∧
            declared.center.bind before.position = some center ∧
            declared.boundary.findSome? before.position = some boundary ∧
            value = center.distance boundary ∧ center.IsFinite ∧ boundary.IsFinite ∧ 0.0 ≤ value ∧
            value.isFinite = (center.squaredDistance boundary).isFinite ∧
            (0.0 < value ↔ 0.0 < center.squaredDistance boundary) ∧
            (center.UpTo 1e150 → boundary.UpTo 1e150 → center.Apart boundary → Usable value)) := by
  obtain ⟨earlier, declaration, later, declared, rfl, new, first⟩ :=
    exists_declaration_of_circle stored
  refine ⟨earlier, declaration, later, rfl, new, ?_⟩
  -- The circle keeps the radius with which it was declared.
  have given : declared.radius = some (.literal value) := by
    have kept := construct_kept (α := Float) palette (earlier ++ [declaration]) later
    rw [List.append_assoc, List.singleton_append] at kept
    obtain ⟨now, alsoStored, same⟩ := kept.circles id.index declared first
    obtain rfl : circle = now := Option.some.inj (stored.symm.trans alsoStored)
    exact same.radius.symm.trans literal
  have applied := construct_append (α := Float) palette earlier declaration
  rcases apply_literal_of_new new (applied ▸ first) given with read | plain
  · obtain ⟨text, argument, number⟩ := text_of_declaredRadius read
    exact .inl ⟨text, argument, number, usable_of_readRadius number⟩
  · refine .inr ⟨plain, ?_⟩
    intro before
    have written : Written before := construct_written palette _
    have measured : Measured before declared := by
      have here : before = (apply (construct palette earlier) declaration).2 := applied
      rw [here]
      exact apply_measured plain new (here ▸ first)
    rw [Measured, given, eq_comm, Option.map_eq_some_iff] at measured
    obtain ⟨number, known, same⟩ := measured
    cases same
    obtain ⟨center, boundary, centered, bounded, rfl⟩ := exists_places_of_measuredRadius? known
    obtain ⟨point, -, here⟩ := Option.bind_eq_some_iff.1 centered
    have finite := Placement.isFinite_of_written written here
    have alsoFinite := isFinite_of_findSome? written bounded
    obtain ⟨nonneg, sameFinite, samePositive⟩ := Vec.distance_of_isFinite finite alsoFinite
    exact ⟨declared, center, boundary, first, centered, bounded, rfl, finite, alsoFinite, nonneg,
      sameFinite, samePositive, Vec.distance_of_apart⟩

/-- A circle around a place that is as far from its boundary point as `x` says. -/
def measuredAcross (x : String) : List Declaration :=
  [⟨"loc", some "O", 1, ⟨0, 9⟩, [], ["0", "0"]⟩, ⟨"loc", some "A", 1, ⟨9, 22⟩, [], [x, "0"]⟩,
    ⟨"circle", some "ABC", 1, ⟨22, 43⟩, [("center", "O")], []⟩]

/-- A radius that is not finite was measured, and the squares have overflowed. -/
theorem construct_literal_radius_of_far :
    let registry : Registry Float := construct .standard (measuredAcross "1e200")
    ∃ circle, registry.circle? ⟨0⟩ = some circle ∧ circle.radius = some (.literal (1.0 / 0.0)) ∧
      ∃ center boundary : Vec Float, (1.0 / 0.0 : Float) = center.distance boundary ∧
        center.IsFinite ∧ boundary.IsFinite ∧
        (center.squaredDistance boundary).isFinite = false := by
  intro registry
  obtain ⟨circle, stored⟩ : ∃ circle, registry.circle? ⟨0⟩ = some circle :=
    Option.isSome_iff_exists.1 (by decide +kernel)
  have known : ((registry.circle? ⟨0⟩).bind Circle.radius).bind Radius.literal? =
      some (1.0 / 0.0) := by
    decide +kernel
  rw [stored, Option.bind_some, Option.bind_eq_some_iff] at known
  obtain ⟨radius, given, number⟩ := known
  rw [Radius.literal?_eq_some number] at given
  have infinite : (1.0 / 0.0 : Float).isFinite = false := by decide +kernel
  obtain ⟨_, _, _, -, -, checked | ⟨-, _, center, boundary, -, -, -, same, finite, alsoFinite, -,
      overflows, -⟩⟩ := construct_literal_radius .standard (measuredAcross "1e200") ⟨0⟩ circle
    (1.0 / 0.0) stored given
  · obtain ⟨_, -, -, usable, -⟩ := checked
    rw [infinite] at usable
    cases usable
  · exact ⟨circle, stored, given, center, boundary, same, finite, alsoFinite,
      overflows.symm.trans infinite⟩

/-- The radius is zero where the center is on the boundary. -/
example :
    (((construct .standard (measuredAcross "0") : Registry Float).circle? ⟨0⟩).bind
      Circle.radius).bind Radius.literal? = some 0.0 := by
  decide +kernel

end FigureMarkup.Construction

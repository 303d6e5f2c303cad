import FigureMarkup.Proofs.Construction.Persistence
import Mathlib.Data.List.Basic

/-!
# Radii that are measured

A circle that is declared without a radius has one as soon as its center and some boundary point
have places: their distance. If both have places when the circle is declared, the distance is
written down at once and stands from then on. Otherwise it is measured whenever it is asked for.
The two ways agree until the center or the boundary changes. A later declaration can give the
circle another center, move its points, or place an earlier boundary point, and none of these
measures again what was written down.
-/

namespace FigureMarkup.Figure

open Plane

variable {α : Type} [Scalar α]

namespace Registry

/-- The distance of the center of a circle from the first of its boundary points that is placed,
whatever radius the circle was given. -/
def measuredRadius? (registry : Registry α) (circle : Circle α) : Option α := do
  let center ← circle.center.bind registry.position
  let boundary ← circle.boundary.findSome? registry.position
  return center.distance boundary

/-- A radius is measured only if none was given that has a value. -/
theorem circleRadius?_eq (registry : Registry α) (circle : Circle α) :
    registry.circleRadius? circle =
      (circle.radius.bind registry.radius?).or (registry.measuredRadius? circle) := by
  unfold circleRadius?
  cases circle.radius.bind registry.radius? with
  | some value => rw [Option.some_or]
  | none => rw [Option.none_or, measuredRadius?]

/-- What is measured depends on the center, the boundary and their places alone. -/
theorem measuredRadius?_congr {first second : Registry α} {old now : Circle α}
    (center : now.center = old.center) (boundary : now.boundary = old.boundary)
    (places : ∀ id, old.center = some id ∨ id ∈ old.boundary →
      second.position id = first.position id) :
    second.measuredRadius? now = first.measuredRadius? old := by
  have centered : now.center.bind second.position = old.center.bind first.position := by
    rw [center]
    cases named : old.center with
    | none => rfl
    | some id => exact places id (.inl named)
  have bounded : now.boundary.findSome? second.position =
      old.boundary.findSome? first.position := by
    rw [boundary, ← List.head?_filterMap, ← List.head?_filterMap,
      List.filterMap_congr fun id member => places id (.inr member)]
  rw [measuredRadius?, measuredRadius?, centered, bounded]

end Registry

/-- A circle has the radius that is measured, written down as a number, or none if nothing can be
measured. -/
def Measured (registry : Registry α) (circle : Circle α) : Prop :=
  circle.radius = (registry.measuredRadius? circle).map .literal

theorem Measured.congr {first second : Registry α} {old now : Circle α}
    (measured : Measured first old) (center : now.center = old.center)
    (boundary : now.boundary = old.boundary) (radius : now.radius = old.radius)
    (places : ∀ id, second.position id = first.position id) : Measured second now := by
  rw [Measured, Registry.measuredRadius?_congr center boundary fun id _ => places id, radius]
  exact measured

theorem Measured.setColor {registry : Registry α} (color : Rgba) (entity : EntityRef)
    {id : CircleId} (measured : ∀ circle, registry.circle? id = some circle →
      Measured registry circle) {circle : Circle α}
    (stored : (registry.setColor color entity).circle? id = some circle) :
    Measured (registry.setColor color entity) circle := by
  have places := registry.position_setColor color entity
  cases entity with
  | circle painted =>
      rw [Registry.setColor, Registry.circle?_modifyCircle, Option.map_eq_some_iff] at stored
      obtain ⟨old, stored, rfl⟩ := stored
      refine (measured old stored).congr ?_ ?_ ?_ places <;> split <;> rfl
  | point | line | polygon | angle => exact (measured circle stored).congr rfl rfl rfl places

end FigureMarkup.Figure

namespace FigureMarkup.Construction

open Figure Plane Markup

variable {α : Type} [Scalar α] {declaration : Declaration}

/-! ## New circles -/

/-- A registry has one circle more than another one, and that circle has not been given a radius. -/
structure AddsUnmeasured (registry later : Registry α) : Prop where
  size : later.circles.size = registry.circles.size + 1
  radius : ∀ circle, later.circle? ⟨registry.circles.size⟩ = some circle → circle.radius = none

namespace AddsUnmeasured

variable {registry later : Registry α}

omit [Scalar α]

theorem add (registry : Registry α) (name : String) :
    AddsUnmeasured registry (registry.add .circle name) where
  size := Array.size_push _
  radius circle stored := by
    rw [Registry.circle?_add] at stored
    obtain rfl : Circle.new name registry.colors.palette.circle = circle := by
      simpa [EntityRef.ofIndex, Registry.count] using stored
    rfl

theorem congr {last : Registry α} (adds : AddsUnmeasured registry later)
    (circles : last.circles = later.circles) : AddsUnmeasured registry last where
  size := circles ▸ adds.size
  radius circle stored := adds.radius circle (by rwa [Registry.circle?, ← circles])

/-- The new circle is changed, but given no radius. -/
theorem modifyCircle (adds : AddsUnmeasured registry later) {change : Circle α → Circle α}
    (keeps : ∀ circle, (change circle).radius = circle.radius) :
    AddsUnmeasured registry (later.modifyCircle ⟨registry.circles.size⟩ change) where
  size := (Array.size_modify ..).trans adds.size
  radius circle stored := by
    rw [Registry.circle?_modifyCircle, Option.map_eq_some_iff] at stored
    obtain ⟨old, stored, rfl⟩ := stored
    rw [if_pos rfl, keeps, adds.radius old stored]

theorem enterPoint {last : Registry α} {name : String} {point : PointId}
    (adds : AddsUnmeasured registry later) (entered : later.enterPoint name = (point, last)) :
    AddsUnmeasured registry last :=
  adds.congr (entersPoints_enterPoint entered).1.circles

theorem enterBoundary (adds : AddsUnmeasured registry later) (name : String) :
    AddsUnmeasured registry (enterBoundary later ⟨registry.circles.size⟩ name) :=
  enterBoundary_induction adds _ name (fun entered adds => adds.enterPoint entered)
    (fun _ adds => adds.congr (by rw [constrain_eq]))
    fun _ _ _ adds => adds.modifyCircle fun _ => rfl

theorem enterCenter (adds : AddsUnmeasured registry later) (center : Option String) :
    AddsUnmeasured registry (enterCenter later ⟨registry.circles.size⟩ center) :=
  enterCenter_induction adds _ center (fun entered adds => adds.enterPoint entered)
    fun _ adds => adds.modifyCircle fun _ => rfl

end AddsUnmeasured

/-- A new circle that is given no radius is measured. -/
theorem AddsUnmeasured.measured_enterRadius {registry later : Registry α}
    (adds : AddsUnmeasured registry later) {circle : Circle α}
    (stored : (enterRadius later ⟨registry.circles.size⟩ none).circle? ⟨registry.circles.size⟩ =
      some circle) : Measured (enterRadius later ⟨registry.circles.size⟩ none) circle := by
  unfold enterRadius at stored ⊢
  dsimp only at stored ⊢
  cases known : (later.circle? ⟨registry.circles.size⟩).bind later.circleRadius? with
  | none =>
      rw [known] at stored
      have given := adds.radius circle stored
      have unknown : later.measuredRadius? circle = none := by
        simpa [stored, later.circleRadius?_eq, given] using known
      rw [Measured, given, unknown, Option.map_none]
  | some value =>
      simp only [known, Registry.circle?_modifyCircle, if_true, Option.map_eq_some_iff] at stored
      obtain ⟨old, stored, rfl⟩ := stored
      have before : later.measuredRadius? old = some value := by
        simpa [stored, later.circleRadius?_eq, adds.radius old stored] using known
      have same : (later.modifyCircle ⟨registry.circles.size⟩ fun circle =>
          { circle with radius := some (.literal value) }).measuredRadius?
            { old with radius := some (.literal value) } = some value :=
        (Registry.measuredRadius?_congr rfl rfl fun _ _ => rfl).trans before
      rw [Measured, same, Option.map_some]

theorem size_enterRadius (registry : Registry α) (id : CircleId) :
    (enterRadius registry id none).circles.size = registry.circles.size := by
  unfold enterRadius
  dsimp only
  split
  · exact Array.size_modify ..
  · rfl

theorem measured_addCircled {registry : Registry α} {name : String} {center : Option String}
    {id : CircleId} (new : registry.circle? id = none) {circle : Circle α}
    (stored : (addCircled registry name center none).circle? id = some circle) :
    Measured (addCircled registry name center none) circle := by
  have adds := ((AddsUnmeasured.add registry name).enterBoundary name).enterCenter center
  obtain rfl : id = ⟨registry.circles.size⟩ := by
    have inside : id.index < (addCircled registry name center none).circles.size :=
      (Array.getElem?_eq_some_iff.1 stored).choose
    rw [addCircled, size_enterRadius, adds.size] at inside
    have outside : registry.circles.size ≤ id.index := Array.getElem?_eq_none_iff.1 new
    rcases id with ⟨index⟩
    rw [show index = registry.circles.size by simp only at inside outside; omega]
  exact adds.measured_enterRadius stored

/-! ## Declarations of circles -/

/-- Only the declaration of a new circle adds one. -/
theorem Declaring.addsCircle {registry : Registry α} {effect : Effect α}
    (declaring : Declaring registry declaration effect) {id : CircleId}
    (new : registry.circle? id = none) {circle : Circle α}
    (stored : effect.2.circle? id = some circle) :
    ∃ name center radius, declaredRadius declaration = .ok radius ∧
      effect.2 = addCircled registry name center radius := by
  -- Whatever else a declaration does, it leaves no circle where there was none.
  have unadded {later : Registry α} (circles : later.circles = registry.circles) :
      later.circle? id ≠ some circle := by
    rw [Registry.circle?, circles, ← Registry.circle?, new]
    exact (Option.some_ne_none circle).symm
  cases declaring with
  | refused fault entered =>
      exact absurd stored (unadded (entersPoints_enterPoints entered).circles)
  | record position shape random named entered =>
      exact absurd stored (unadded (entersPoints_enterPoint entered).1.circles)
  | again entered =>
      refine absurd stored (unadded ?_)
      rw [touchShape, constrain_eq]
      exact (entersPoints_enterPoints entered).circles
  | line entered name =>
      refine absurd stored (unadded ?_)
      rw [touchShape, constrain_eq]
      exact (entersPoints_enterPoints entered).circles
  | polygon entered name =>
      refine absurd stored (unadded ?_)
      rw [touchShape, constrain_eq]
      exact (entersPoints_enterPoints entered).circles
  | circleAgain => exact absurd stored (unadded rfl)
  | circle name center radius fresh read => exact ⟨name, center, radius, read, rfl⟩
  | @center _ _ index center later asked argument known entered =>
      simp only [Registry.circle?_modifyCircle, Option.map_eq_some_iff] at stored
      obtain ⟨old, stored, -⟩ := stored
      rw [Registry.circle?, (entersPoints_enterPoint entered).1.circles, ← Registry.circle?,
        new] at stored
      cases stored
  | angleAgain entered =>
      exact absurd stored (unadded (entersPoints_enterPoints entered).circles)
  | angle entered name =>
      exact absurd stored (unadded (entersPoints_enterPoints entered).circles)

/-- A circle that is new with a declaration without a radius is measured. -/
theorem Declaring.measured {registry : Registry α} {effect : Effect α}
    (declaring : Declaring registry declaration effect)
    (plain : declaration.argument? "radius" = none) {id : CircleId}
    (new : registry.circle? id = none) (circle : Circle α)
    (stored : effect.2.circle? id = some circle) : Measured effect.2 circle := by
  obtain ⟨name, center, radius, read, adds⟩ := declaring.addsCircle new stored
  obtain rfl : none = radius := by simpa [declaredRadius, plain] using read
  rw [adds] at stored ⊢
  exact measured_addCircled new stored

theorem apply_measured {registry : Registry α} (plain : declaration.argument? "radius" = none)
    {id : CircleId} (new : registry.circle? id = none) {circle : Circle α}
    (stored : (apply registry declaration).2.circle? id = some circle) :
    Measured (apply registry declaration).2 circle := by
  have step := applying registry declaration
  generalize apply registry declaration = applied at step stored ⊢
  cases step with
  | unknown => simp [new] at stored
  | mark => simp [new] at stored
  | refused declaring => exact declaring.measured plain new circle stored
  | plain declaring => exact declaring.measured plain new circle stored
  | unreadable declaring => exact declaring.measured plain new circle stored
  | painted declaring argument color =>
      exact Measured.setColor color _ (declaring.measured plain new) stored

/-! ## Radii after later declarations -/

/-- Every circle is new with some declaration. -/
theorem exists_declaration_of_circle {palette : Palette} {declarations : List Declaration}
    {id : CircleId} {circle : Circle α}
    (stored : (construct palette declarations).circle? id = some circle) :
    ∃ earlier declaration later declared, declarations = earlier ++ declaration :: later ∧
      (construct palette earlier : Registry α).circle? id = none ∧
      (construct palette (earlier ++ [declaration]) : Registry α).circle? id = some declared := by
  induction declarations using List.reverseRecOn generalizing circle with
  | nil => simp [construct, Registry.empty, Registry.circle?] at stored
  | append_singleton declarations last ih =>
      cases before : (construct palette declarations : Registry α).circle? id with
      | none => exact ⟨declarations, last, [], circle, rfl, before, stored⟩
      | some old =>
          obtain ⟨earlier, declaration, later, declared, rfl, new, first⟩ := ih before
          exact ⟨earlier, declaration, later ++ [last], declared, by simp, new, first⟩

section Later

variable {licence : Licence} {before now : Registry α} {id : CircleId} {old circle : Circle α}

/-- What was measured at first stays the radius, and only what was not is measured again. -/
theorem circleRadius?_of_measured {centers paints : Prop} (measured : Measured before old)
    (kept : CircleKept centers paints old circle) :
    now.circleRadius? circle =
      (before.measuredRadius? old).or (now.measuredRadius? circle) := by
  rw [now.circleRadius?_eq, kept.radius, measured]
  cases before.measuredRadius? old <;> rfl

/-- A circle measures the same as long as it has its center and its points stay where they are. -/
theorem Kept.measuredRadius? (kept : Kept licence before now) (formed : WellFormed before)
    (stored : before.circle? id = some old) (later : now.circle? id = some circle)
    (centered : ¬ licence.centers id)
    (unmoved : ∀ point, old.center = some point ∨ point ∈ old.boundary → ¬ licence.moves point) :
    now.measuredRadius? circle = before.measuredRadius? old := by
  obtain ⟨found, alsoStored, same⟩ := kept.circles id.index old stored
  obtain rfl : circle = found := Option.some.inj (later.symm.trans alsoStored)
  have sound := formed.circles id old stored
  refine Registry.measuredRadius?_congr (same.center.resolve_right centered) ?_
    fun point part => ?_
  · rw [Circle.boundary, same.p1, same.p2, same.p3, Circle.boundary]
  · have held : before.Holds (.point point) := part.elim (sound.center point) (sound.boundary point)
    obtain ⟨first, known⟩ := Registry.holds_point_iff.1 held
    obtain ⟨last, knownLater, moved⟩ := kept.points point.index first known
    obtain ⟨x, y⟩ := moved.coordinates.resolve_right (unmoved point part)
    have here : now.point? point = some last := knownLater
    rw [Registry.position, Registry.position, known, here, Option.bind_some, Option.bind_some,
      Point.position, Point.position, x, y]

end Later

/-- A circle that is declared without a radius has the radius that could be measured when it was
declared, whatever is declared later, and is measured anew only if nothing could be measured then.
So its radius is the distance of its center from its first boundary point with a place, as they
are now, exactly if what was measured then, if anything, is the same distance. That is so if no
later declaration gives the circle a center, or its center or a boundary point a place. -/
theorem construct_circleRadius (palette : Palette) (declarations : List Declaration)
    (id : CircleId) (circle : Circle α)
    (stored : (construct palette declarations).circle? id = some circle) :
    ∃ earlier declaration later declared, declarations = earlier ++ declaration :: later ∧
      (construct palette earlier : Registry α).circle? id = none ∧
      (construct palette (earlier ++ [declaration])).circle? id = some declared ∧
      (declaration.argument? "radius" = none →
        let before : Registry α := construct palette (earlier ++ [declaration])
        let now : Registry α := construct palette declarations
        now.circleRadius? circle =
            (before.measuredRadius? declared).or (now.measuredRadius? circle) ∧
          (∀ distance, now.measuredRadius? circle = some distance →
            (now.circleRadius? circle = some distance ↔
              ∀ written ∈ before.measuredRadius? declared, written = distance)) ∧
          (¬ (licenceOver before later).centers id →
            (∀ point, declared.center = some point ∨ point ∈ declared.boundary →
              ¬ (licenceOver before later).moves point) →
            now.circleRadius? circle = now.measuredRadius? circle)) := by
  obtain ⟨earlier, declaration, later, declared, rfl, new, first⟩ :=
    exists_declaration_of_circle stored
  refine ⟨earlier, declaration, later, declared, rfl, new, first, ?_⟩
  intro plain before now
  have kept : Kept (licenceOver before later) before now := by
    have same : now = construct palette ((earlier ++ [declaration]) ++ later) := by simp [now]
    rw [same]
    exact construct_kept palette (earlier ++ [declaration]) later
  have measured : Measured before declared := by
    have applied : before = (apply (construct palette earlier) declaration).2 :=
      construct_append palette earlier declaration
    rw [applied]
    exact apply_measured plain new (applied ▸ first)
  obtain ⟨found, alsoStored, same⟩ := kept.circles id.index declared first
  obtain rfl : circle = found := Option.some.inj (stored.symm.trans alsoStored)
  have radius : now.circleRadius? circle =
      (before.measuredRadius? declared).or (now.measuredRadius? circle) :=
    circleRadius?_of_measured measured same
  refine ⟨radius, fun distance known => ?_, fun centered unmoved => ?_⟩
  · rw [radius, known]
    cases before.measuredRadius? declared <;> simp
  · have again := kept.measuredRadius? (wellFormed_construct palette _) first stored centered
      unmoved
    rw [radius, again, Option.or_self]

/-- A circle whose radius is measured, and a boundary point of it that is moved afterwards. -/
def movedBoundary : List Declaration :=
  [⟨"loc", some "O", 1, ⟨0, 9⟩, [], ["0", "0"]⟩, ⟨"loc", some "A", 1, ⟨9, 18⟩, [], ["1", "0"]⟩,
    ⟨"circle", some "ABC", 1, ⟨18, 39⟩, [("center", "O")], []⟩,
    ⟨"loc", some "A", 1, ⟨39, 48⟩, [], ["2", "0"]⟩]

theorem circleRadius_of_moved_boundary :
    let now : Registry Float := construct .standard movedBoundary
    ∃ circle, now.circle? ⟨0⟩ = some circle ∧ now.measuredRadius? circle = some 2.0 ∧
      now.circleRadius? circle = some 1.0 ∧
      ∃ earlier declaration later declared,
        movedBoundary = earlier ++ declaration :: later ∧
        (construct .standard (earlier ++ [declaration]) : Registry Float).circle? ⟨0⟩ =
          some declared ∧
        (declaration.argument? "radius" = none →
          (construct .standard (earlier ++ [declaration])).measuredRadius? declared =
            some (1.0 : Float)) := by
  intro now
  obtain ⟨circle, stored⟩ : ∃ circle, now.circle? ⟨0⟩ = some circle :=
    Option.isSome_iff_exists.1 (by decide +kernel)
  have measured : (now.circle? ⟨0⟩).bind now.measuredRadius? = some 2.0 := by decide +kernel
  have radius : (now.circle? ⟨0⟩).bind now.circleRadius? = some 1.0 := by decide +kernel
  rw [stored, Option.bind_some] at measured radius
  obtain ⟨earlier, declaration, later, declared, split, -, first, plainly⟩ :=
    construct_circleRadius .standard movedBoundary ⟨0⟩ circle stored
  refine ⟨circle, stored, measured, radius, earlier, declaration, later, declared, split, first,
    fun plain => ?_⟩
  -- The measure of now differs, so the radius is the one of then.
  have known := (plainly plain).1.symm.trans radius
  rw [measured] at known
  cases written : (construct .standard (earlier ++ [declaration])).measuredRadius? declared with
  | none =>
      rw [written, Option.none_or] at known
      exact absurd known (by decide +kernel)
  | some value => rwa [written, Option.some_or] at known

end FigureMarkup.Construction

import FigureMarkup.Proofs.Placement.Resolution

/-!
# Shapes in the course of a run

A point that is placed on a shape stays on it only if the shape stays the same while other points
are placed. Lines, polygons and circles through three points do. A circle about a center does once
its radius is settled. Until then it takes its radius from the first boundary point that is placed,
and it is resized as soon as its declared radius or an earlier boundary point says otherwise.
-/

namespace FigureMarkup.Figure

open Plane

variable {α : Type}

/-- Two registries have the same shapes, and the later one knows all places of the earlier one. -/
structure Refines (earlier later : Registry α) : Prop where
  position : ∀ {id position}, earlier.position id = some position →
    later.position id = some position
  line? : ∀ id, later.line? id = earlier.line? id
  circle? : ∀ id, later.circle? id = earlier.circle? id
  polygon? : ∀ id, later.polygon? id = earlier.polygon? id

theorem refines_placePoints {registry : Registry α} {placed : List (PointId × Vec α)}
    (fresh : registry.Fresh placed) : Refines registry (registry.placePoints placed) where
  position known := Registry.position_placePoints fresh known
  line? id := registry.line?_placePoints placed id
  circle? id := registry.circle?_placePoints placed id
  polygon? id := registry.polygon?_placePoints placed id

namespace Refines

variable {earlier later : Registry α} (refines : Refines earlier later)

include refines

theorem positions? {ids : List PointId} {positions : List (Vec α)}
    (known : earlier.positions? ids = some positions) :
    later.positions? ids = some positions := by
  induction ids generalizing positions with
  | nil => exact known
  | cons id ids ih =>
      simp only [Registry.positions?, bind, Option.bind_eq_some_iff, pure] at known ⊢
      obtain ⟨position, here, rest, others, same⟩ := known
      exact ⟨position, refines.position here, rest, ih others, same⟩

theorem lineShape? {line : Line} {shape : Shape α}
    (known : earlier.lineShape? line = some shape) : later.lineShape? line = some shape := by
  simp only [Registry.lineShape?, bind, Option.bind_eq_some_iff, pure] at known ⊢
  obtain ⟨ends, joined, first, atFirst, second, atSecond, same⟩ := known
  exact ⟨ends, joined, first, refines.position atFirst, second, refines.position atSecond, same⟩

theorem polygonShape? {polygon : Polygon} {shape : Shape α}
    (known : earlier.polygonShape? polygon = some shape) :
    later.polygonShape? polygon = some shape := by
  unfold Registry.polygonShape? at known ⊢
  split at known
  case isTrue => cases known
  case isFalse enough =>
    obtain ⟨positions, all, rfl⟩ := Option.map_eq_some_iff.1 known
    rw [if_neg enough, refines.positions? all]
    rfl

/-- Some boundary point that is placed stays so, although an earlier one may come before it. -/
theorem findSome?_position {ids : List PointId} {position : Vec α}
    (known : ids.findSome? earlier.position = some position) :
    ∃ other, ids.findSome? later.position = some other := by
  obtain ⟨id, member, here⟩ := List.exists_of_findSome?_eq_some known
  rw [← Option.isSome_iff_exists, List.findSome?_isSome_iff]
  exact ⟨id, member, by rw [refines.position here]; rfl⟩

variable [Scalar α]

theorem distance? {a b : PointId} {distance : α}
    (known : earlier.distance? a b = some distance) : later.distance? a b = some distance := by
  simp only [Registry.distance?, bind, Option.bind_eq_some_iff, pure] at known ⊢
  obtain ⟨first, atFirst, second, atSecond, same⟩ := known
  exact ⟨first, refines.position atFirst, second, refines.position atSecond, same⟩

theorem radius? {radius : Radius α} {value : α} (known : earlier.radius? radius = some value) :
    later.radius? radius = some value := by
  cases radius with
  | literal given => exact known
  | between a b => exact refines.distance? known

end Refines

/-! ## Settled radii -/

variable [Scalar α]

/-- Nothing that goes before the measure in use for the radius of a circle can still become
known. -/
def RadiusSettled (registry : Registry α) (circle : Circle α) : Prop :=
  match circle.radius with
  | some radius => (registry.radius? radius).isSome = true
  | none => ∀ first, circle.boundary.head? = some first →
      (registry.position first).isSome = true

theorem Refines.circleRadius?_of_settled {earlier later : Registry α}
    (refines : Refines earlier later) {circle : Circle α} {radius : α}
    (settled : RadiusSettled earlier circle)
    (known : earlier.circleRadius? circle = some radius) :
    later.circleRadius? circle = some radius := by
  unfold RadiusSettled at settled
  unfold Registry.circleRadius? at known ⊢
  cases declared : circle.radius with
  | some given =>
      rw [declared] at settled known
      obtain ⟨value, measured⟩ := Option.isSome_iff_exists.1 settled
      simp only [Option.bind_some, measured] at known
      simp only [Option.bind_some, refines.radius? measured]
      exact known
  | none =>
      rw [declared] at settled known
      simp only [Option.bind_none, bind, Option.bind_eq_some_iff, pure] at known ⊢
      obtain ⟨center, ⟨id, named, here⟩, boundary, found, same⟩ := known
      refine ⟨center, ⟨id, named, refines.position here⟩, boundary, ?_, same⟩
      cases points : circle.boundary with
      | nil =>
          rw [points] at found
          cases found
      | cons first rest =>
          obtain ⟨place, atFirst⟩ := Option.isSome_iff_exists.1 (settled first (by simp [points]))
          rw [points, List.findSome?_cons, atFirst] at found
          rw [List.findSome?_cons, refines.position atFirst]
          exact found

theorem Refines.circleRadius?_isSome {earlier later : Registry α}
    (refines : Refines earlier later) {circle : Circle α} {radius : α}
    (known : earlier.circleRadius? circle = some radius) :
    ∃ other, later.circleRadius? circle = some other := by
  unfold Registry.circleRadius? at known ⊢
  cases measured : circle.radius.bind later.radius? with
  | some value => exact ⟨value, rfl⟩
  | none =>
      have before : circle.radius.bind earlier.radius? = none := by
        by_contra settled
        obtain ⟨value, settled⟩ := Option.ne_none_iff_exists'.1 settled
        obtain ⟨given, declared, here⟩ := Option.bind_eq_some_iff.1 settled
        simp [declared, refines.radius? here] at measured
      rw [before] at known
      simp only [bind, Option.bind_eq_some_iff, pure] at known ⊢
      obtain ⟨center, ⟨id, named, here⟩, boundary, found, same⟩ := known
      obtain ⟨other, alsoFound⟩ := refines.findSome?_position found
      exact ⟨_, center, ⟨id, named, refines.position here⟩, other, alsoFound, rfl⟩

/-! ## Shapes that stay -/

/-- A circle about a center is given another radius: the measure in use was not settled, and what
goes before it has become known and measures differently. -/
def Resized (earlier later : Registry α) : ShapeRef → Prop
  | .circle id => ∃ circle, earlier.circle? id = some circle ∧ circle.center.isSome = true ∧
      ¬ RadiusSettled earlier circle ∧
      later.circleRadius? circle ≠ earlier.circleRadius? circle
  | _ => False

/-- A circle that took its radius from the first boundary point with a place takes another one now:
the radius that it was given, or the distance of a boundary point that goes before. -/
structure Remeasured (earlier later : Registry α) (circle : Circle α) (center : Vec α)
    (old new : α) : Prop where
  unknown : circle.radius.bind earlier.radius? = none
  before : ∃ place, circle.boundary.findSome? earlier.position = some place ∧
    old = center.distance place
  now : circle.radius.bind later.radius? = some new ∨
    ∃ place, circle.boundary.findSome? later.position = some place ∧ new = center.distance place
  differs : new ≠ old

theorem radius?_of_not_settled {registry : Registry α} {circle : Circle α}
    (unsettled : ¬ RadiusSettled registry circle) :
    circle.radius.bind registry.radius? = none := by
  unfold RadiusSettled at unsettled
  cases declared : circle.radius with
  | none => rfl
  | some radius =>
      rw [declared] at unsettled
      simpa using unsettled

/-- The radius of a circle is the one it was given or comes from a boundary point. -/
theorem circleRadius?_cases {registry : Registry α} {circle : Circle α} {center : PointId}
    {place : Vec α} {radius : α} (centered : circle.center = some center)
    (here : registry.position center = some place)
    (known : registry.circleRadius? circle = some radius) :
    circle.radius.bind registry.radius? = some radius ∨
      circle.radius.bind registry.radius? = none ∧
        ∃ boundary, circle.boundary.findSome? registry.position = some boundary ∧
          radius = place.distance boundary := by
  unfold Registry.circleRadius? at known
  cases measured : circle.radius.bind registry.radius? with
  | some value => exact .inl (by simpa only [measured] using known)
  | none =>
      simp only [measured, centered, Option.bind_some, here, bind, Option.bind_eq_some_iff, pure]
        at known
      obtain ⟨boundary, found, same⟩ := known
      exact .inr ⟨rfl, boundary, found, (Option.some.inj same).symm⟩

/-- The shape of a circle about a center stays concrete, and only its radius may change. -/
theorem Refines.circleShape?_of_center {earlier later : Registry α}
    (refines : Refines earlier later) {circle : Circle α} {center : PointId} {curve : Shape α}
    (centered : circle.center = some center)
    (known : earlier.circleShape? circle = some curve) :
    ∃ place old new, curve = .circle place old ∧ earlier.position center = some place ∧
      earlier.circleRadius? circle = some old ∧ later.circleRadius? circle = some new ∧
      later.circleShape? circle = some (.circle place new) := by
  simp only [Registry.circleShape?, centered, bind, Option.bind_eq_some_iff, pure] at known ⊢
  obtain ⟨place, here, old, measured, ⟨⟩⟩ := known
  obtain ⟨new, remeasured⟩ := refines.circleRadius?_isSome measured
  exact ⟨place, old, new, rfl, here, measured, remeasured, place, refines.position here, new,
    remeasured, rfl⟩

theorem Refines.circleShape?_of_none {earlier later : Registry α}
    (refines : Refines earlier later) {circle : Circle α} {curve : Shape α}
    (centerless : circle.center = none) (known : earlier.circleShape? circle = some curve) :
    later.circleShape? circle = some curve := by
  simp only [Registry.circleShape?, centerless, bind, Option.bind_eq_some_iff] at known ⊢
  obtain ⟨a, ⟨first, one, atFirst⟩, b, ⟨second, two, atSecond⟩, c, ⟨third, three, atThird⟩, same⟩ :=
    known
  exact ⟨a, ⟨first, one, refines.position atFirst⟩, b, ⟨second, two, refines.position atSecond⟩,
    c, ⟨third, three, refines.position atThird⟩, same⟩

/-- A concrete shape stays as it is, unless it is a circle that is resized. -/
theorem Refines.shape?_iff {earlier later : Registry α} (refines : Refines earlier later)
    {shape : ShapeRef} {curve : Shape α} (known : earlier.shape? shape = some curve) :
    later.shape? shape = some curve ↔ ¬ Resized earlier later shape := by
  cases shape with
  | line id =>
      obtain ⟨line, stored, here⟩ := Option.bind_eq_some_iff.1 known
      simp [Resized, Registry.shape?, refines.line?, stored, refines.lineShape? here]
  | polygon id =>
      obtain ⟨polygon, stored, here⟩ := Option.bind_eq_some_iff.1 known
      simp [Resized, Registry.shape?, refines.polygon?, stored, refines.polygonShape? here]
  | circle id =>
      obtain ⟨circle, stored, here⟩ := Option.bind_eq_some_iff.1 known
      rw [Registry.shape?, refines.circle?, stored, Option.bind_some]
      cases centered : circle.center with
      | none =>
          have unresized : ¬ Resized earlier later (.circle id) := by
            rintro ⟨found, alsoStored, center, -⟩
            rw [stored, Option.some.injEq] at alsoStored
            simp [← alsoStored, centered] at center
          exact iff_of_true (refines.circleShape?_of_none centered here) unresized
      | some center =>
          obtain ⟨place, old, new, rfl, -, before, after, again⟩ :=
            refines.circleShape?_of_center centered here
          rw [again]
          constructor
          · rintro same ⟨found, alsoStored, -, -, differs⟩
            rw [stored, Option.some.injEq] at alsoStored
            cases same
            rw [← alsoStored, before, after] at differs
            exact differs rfl
          · intro unresized
            have same : new = old := by
              by_contra differs
              refine unresized ⟨circle, stored, by simp [centered], fun settled => ?_, ?_⟩
              · have kept := refines.circleRadius?_of_settled settled before
                rw [after, Option.some.injEq] at kept
                exact differs kept
              · rw [before, after, Ne, Option.some.injEq]
                exact differs
            rw [same]

/-- A resized circle keeps its center, and takes its radius from something that goes before. -/
theorem Refines.shape?_of_resized {earlier later : Registry α} (refines : Refines earlier later)
    {shape : ShapeRef} {curve : Shape α} (known : earlier.shape? shape = some curve)
    (resized : Resized earlier later shape) :
    ∃ circle place old new, curve = .circle place old ∧
      later.shape? shape = some (.circle place new) ∧
      Remeasured earlier later circle place old new := by
  cases shape with
  | line id => exact resized.elim
  | polygon id => exact resized.elim
  | circle id =>
      obtain ⟨circle, stored, hasCenter, unsettled, differs⟩ := resized
      obtain ⟨center, centered⟩ := Option.isSome_iff_exists.1 hasCenter
      rw [Registry.shape?, stored, Option.bind_some] at known
      obtain ⟨place, old, new, rfl, here, before, after, again⟩ :=
        refines.circleShape?_of_center centered known
      refine ⟨circle, place, old, new, rfl, ?_, radius?_of_not_settled unsettled, ?_, ?_, ?_⟩
      · rw [Registry.shape?, refines.circle?, stored, Option.bind_some, again]
      · rcases circleRadius?_cases centered here before with measured | ⟨-, boundary⟩
        · rw [radius?_of_not_settled unsettled] at measured
          cases measured
        · exact boundary
      · exact (circleRadius?_cases centered (refines.position here) after).imp_right And.right
      · rintro rfl
        exact differs (after.trans before.symm)

end FigureMarkup.Figure

namespace FigureMarkup.Placement

open Figure Plane Markup Construction

variable {σ α : Type} [Scalar α] [Random.Source σ α]

/-! ## Moments of a run -/

/-- The registry of a run after a number of its placements. -/
def moment (settings : Settings α) (progress : Progress σ α) (count : Nat) : Registry α :=
  progress.registry.placePoints ((placeAll settings progress).2.placed.take count)

variable (settings : Settings α) (progress : Progress σ α)

theorem fresh_placed : progress.registry.Fresh (placeAll settings progress).2.placed ∧
    (placeAll settings progress).2.registry =
      progress.registry.placePoints (placeAll settings progress).2.placed := by
  obtain ⟨placed, -, fresh, registry, record⟩ := (placeAll_ends settings progress).extends_run
  have same : (placeAll settings progress).2.placed = placed := record
  rw [same]
  exact ⟨fresh, registry⟩

/-- Each placement gives a place to a point that has had none. -/
theorem moment_succ {count : Nat} {id : PointId} {position : Vec α}
    (next : (placeAll settings progress).2.placed[count]? = some (id, position)) :
    (moment settings progress count).awaits id = true ∧
      moment settings progress (count + 1) =
        (moment settings progress count).placePoint id position := by
  obtain ⟨inside, here⟩ := List.getElem?_eq_some_iff.1 next
  have split := (fresh_placed settings progress).1
  rw [← List.take_append_drop count (placeAll settings progress).2.placed,
    List.drop_eq_getElem_cons inside, here, Registry.fresh_append] at split
  refine ⟨split.2.1, ?_⟩
  rw [moment, moment, List.take_add_one, next, Option.toList_some, Registry.placePoints_append]
  rfl

theorem refines_moment {i j : Nat} (order : i ≤ j) :
    Refines (moment settings progress i) (moment settings progress j) := by
  have all := (fresh_placed settings progress).1
  obtain ⟨more, rfl⟩ := Nat.exists_eq_add_of_le order
  rw [← List.take_append_drop (i + more) (placeAll settings progress).2.placed,
    List.take_add, Registry.fresh_append, Registry.fresh_append] at all
  rw [moment, moment, List.take_add, Registry.placePoints_append]
  exact refines_placePoints all.1.2

/-- In the course of a run on a figure that declarations build, a concrete shape stays the same
exactly as long as it is not resized. Only a circle about a center is ever resized, and only while
its radius is not settled. -/
theorem concrete_shape_stays_iff (palette : Palette) (declarations : List Declaration)
    (settings : Settings α) (source : σ) :
    let start : Progress σ α := ⟨construct palette declarations, source⟩
    let run := (placeAll settings start).2
    (∀ count id position, run.placed[count]? = some (id, position) →
        (moment settings start count).awaits id = true ∧
        moment settings start (count + 1) =
          (moment settings start count).placePoint id position) ∧
      moment settings start run.placed.length = run.registry ∧
      ∀ i j shape curve, i ≤ j → (moment settings start i).shape? shape = some curve →
        ((moment settings start j).shape? shape = some curve ↔
          ¬ Resized (moment settings start i) (moment settings start j) shape) ∧
        (Resized (moment settings start i) (moment settings start j) shape →
          ∃ circle place old new, curve = .circle place old ∧
            (moment settings start j).shape? shape = some (.circle place new) ∧
            Remeasured (moment settings start i) (moment settings start j) circle place old
              new) := by
  intro start run
  refine ⟨fun count id position next => moment_succ settings start next, ?_,
    fun i j shape curve order known => ?_⟩
  · rw [moment, List.take_length]
    exact (fresh_placed settings start).2.symm
  · have refines := refines_moment settings start order
    exact ⟨refines.shape?_iff known, refines.shape?_of_resized known⟩

/-- A circle about a center whose declared radius is measured between points without places. -/
def measuredLater : List Declaration :=
  [⟨"loc", some "O", 1, ⟨0, 9⟩, [], ["0", "0"]⟩, ⟨"loc", some "A", 1, ⟨11, 20⟩, [], ["1", "0"]⟩,
    ⟨"loc", some "B", 1, ⟨22, 31⟩, [], ["0", "1"]⟩,
    ⟨"loc", some "C", 1, ⟨33, 43⟩, [], ["-1", "0"]⟩,
    ⟨"circle", some "ABC", 1, ⟨45, 74⟩, [("center", "O"), ("radius", "PQ")], []⟩]

theorem circle_resized_by_declared_radius :
    let start : Progress Random.Keystream Float := ⟨construct .standard measuredLater, .ofSeed 1⟩
    (moment .standard start 0).shape? (.circle ⟨0⟩) = some (.circle .zero 1.0) ∧
      (moment .standard start 2).shape? (.circle ⟨0⟩) ≠ some (.circle .zero 1.0) ∧
      Resized (moment .standard start 0) (moment .standard start 2) (.circle ⟨0⟩) := by
  intro start
  have before : (moment .standard start 0).shape? (.circle ⟨0⟩) = some (.circle .zero 1.0) := by
    decide +kernel
  have after : (moment .standard start 2).shape? (.circle ⟨0⟩) ≠ some (.circle .zero 1.0) := by
    decide +kernel
  obtain ⟨-, -, stays⟩ := concrete_shape_stays_iff .standard measuredLater
    (Settings.standard : Settings Float) (Random.Keystream.ofSeed 1)
  exact ⟨before, after, by_contra fun unresized =>
    after ((stays 0 2 _ _ (by decide) before).1.2 unresized)⟩

end FigureMarkup.Placement

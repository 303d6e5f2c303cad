import FigureMarkup.Placement.Resolver
import FigureMarkup.Proofs.Figure.Views
import Mathlib.Tactic.ByContra

/-!
# Placing points

A registry changes during placement in one way only: a point that has no place gets one. Names,
constraints and the points of shapes stay as they are, and so does every place that is known.
-/

namespace FigureMarkup.Figure

open Plane

variable {α : Type}

namespace Point

theorem position_place (point : Point α) (position : Vec α) :
    (point.place position).position = some position :=
  rfl

theorem coordinates_of_position {point : Point α} {place : Vec α}
    (here : point.position = some place) : point.x = some place.x ∧ point.y = some place.y := by
  unfold position at here
  cases across : point.x with
  | none => simp [across] at here
  | some x =>
      cases along : point.y with
      | none => simp [across, along] at here
      | some y =>
          obtain rfl : ⟨x, y⟩ = place := by simpa [across, along] using here
          exact ⟨rfl, rfl⟩

end Point

namespace Registry

/-- A registry has a point that is still without a place. -/
def awaits (registry : Registry α) (id : PointId) : Bool :=
  (registry.point? id).any fun point => !point.isPlaced

/-- A registry has a point that is still without a place and that may not be put anywhere. -/
def waits (registry : Registry α) (id : PointId) : Bool :=
  (registry.point? id).any fun point => !point.isPlaced && !point.random

/-- Put some points somewhere, one after another. -/
def placePoints (registry : Registry α) (placed : List (PointId × Vec α)) : Registry α :=
  placed.foldl (fun registry (id, position) => registry.placePoint id position) registry

@[simp]
theorem placePoints_nil (registry : Registry α) : registry.placePoints [] = registry :=
  rfl

theorem placePoints_cons (registry : Registry α) (id : PointId) (position : Vec α)
    (placed : List (PointId × Vec α)) :
    registry.placePoints ((id, position) :: placed) =
      (registry.placePoint id position).placePoints placed :=
  rfl

theorem placePoints_append (registry : Registry α) (first second : List (PointId × Vec α)) :
    registry.placePoints (first ++ second) =
      (registry.placePoints first).placePoints second := by
  simp [placePoints]

/-! ## What stays -/

theorem placePoints_eq (registry : Registry α) (placed : List (PointId × Vec α)) :
    registry.placePoints placed =
      { registry with points := (registry.placePoints placed).points } := by
  induction placed generalizing registry with
  | nil => rfl
  | cons first placed ih =>
      rw [placePoints_cons, ih]
      rfl

@[simp]
theorem line?_placePoints (registry : Registry α) (placed : List (PointId × Vec α))
    (id : LineId) : (registry.placePoints placed).line? id = registry.line? id := by
  rw [placePoints_eq]
  rfl

@[simp]
theorem circle?_placePoints (registry : Registry α) (placed : List (PointId × Vec α))
    (id : CircleId) : (registry.placePoints placed).circle? id = registry.circle? id := by
  rw [placePoints_eq]
  rfl

@[simp]
theorem polygon?_placePoints (registry : Registry α) (placed : List (PointId × Vec α))
    (id : PolygonId) : (registry.placePoints placed).polygon? id = registry.polygon? id := by
  rw [placePoints_eq]
  rfl

@[simp]
theorem angle?_placePoints (registry : Registry α) (placed : List (PointId × Vec α))
    (id : AngleId) : (registry.placePoints placed).angle? id = registry.angle? id := by
  rw [placePoints_eq]
  rfl

@[simp]
theorem definingPoints_placePoints (registry : Registry α) (placed : List (PointId × Vec α))
    (shape : ShapeRef) :
    (registry.placePoints placed).definingPoints shape = registry.definingPoints shape := by
  cases shape <;> simp [definingPoints]

theorem sameNames_placePoints (registry : Registry α) (placed : List (PointId × Vec α)) :
    SameNames (registry.placePoints placed) registry := by
  induction placed generalizing registry with
  | nil => exact .refl registry
  | cons first placed ih =>
      obtain ⟨id, position⟩ := first
      exact (ih _).trans (registry.sameNames_modifyPoint id fun _ => rfl)

theorem size_points_placePoints (registry : Registry α) (placed : List (PointId × Vec α)) :
    (registry.placePoints placed).points.size = registry.points.size :=
  (registry.sameNames_placePoints placed).count .point

theorem point?_placePoint (registry : Registry α) (id other : PointId) (position : Vec α) :
    (registry.placePoint id position).point? other =
      (registry.point? other).map fun point =>
        if id = other then point.place position else point :=
  registry.point?_modifyPoint id other _

theorem point?_placePoint_of_ne (registry : Registry α) {id other : PointId}
    (different : id ≠ other) (position : Vec α) :
    (registry.placePoint id position).point? other = registry.point? other := by
  simp [point?_placePoint, different]

/-- A point keeps all but its coordinates. -/
theorem point?_placePoints (registry : Registry α) (placed : List (PointId × Vec α))
    {id : PointId} {later : Point α}
    (stored : (registry.placePoints placed).point? id = some later) :
    ∃ point, registry.point? id = some point ∧
      later = { point with x := later.x, y := later.y } := by
  induction placed generalizing registry with
  | nil => exact ⟨later, stored, rfl⟩
  | cons first placed ih =>
      obtain ⟨moved, position⟩ := first
      obtain ⟨middle, found, same⟩ := ih _ stored
      rw [point?_placePoint, Option.map_eq_some_iff] at found
      obtain ⟨point, found, rfl⟩ := found
      refine ⟨point, found, ?_⟩
      split at same <;> exact same

/-! ## Places -/

theorem position_placePoint {registry : Registry α} {id : PointId}
    (held : registry.Holds (.point id)) (position : Vec α) (other : PointId) :
    (registry.placePoint id position).position other =
      if id = other then some position else registry.position other := by
  obtain ⟨point, stored⟩ := holds_point_iff.1 held
  rw [Registry.position, point?_placePoint]
  by_cases same : id = other
  · subst same
    simp [stored, Point.position_place]
  · simp [same, Registry.position]

theorem awaits_iff {registry : Registry α} {id : PointId} :
    registry.awaits id = true ↔ registry.Holds (.point id) ∧ registry.position id = none := by
  rw [holds_point_iff, awaits, position]
  cases registry.point? id <;> simp [Point.isPlaced]

theorem awaits_of_waits {registry : Registry α} {id : PointId}
    (waiting : registry.waits id = true) : registry.awaits id = true := by
  rw [waits, Option.any_eq_true] at waiting
  obtain ⟨point, stored, open_⟩ := waiting
  simp_all [awaits]

theorem not_waits {registry : Registry α} {id : PointId} (known : registry.awaits id = false) :
    registry.waits id = false := by
  rw [Bool.eq_false_iff] at known ⊢
  exact fun waiting => known (awaits_of_waits waiting)

theorem awaits_placePoint_of_ne (registry : Registry α) {id other : PointId}
    (different : id ≠ other) (position : Vec α) :
    (registry.placePoint id position).awaits other = registry.awaits other := by
  rw [awaits, point?_placePoint_of_ne registry different, awaits]

theorem waits_placePoint_of_ne (registry : Registry α) {id other : PointId}
    (different : id ≠ other) (position : Vec α) :
    (registry.placePoint id position).waits other = registry.waits other := by
  rw [waits, point?_placePoint_of_ne registry different, waits]

/-- Some points get a place in turn, each of which has had none. -/
def Fresh (registry : Registry α) : List (PointId × Vec α) → Prop
  | [] => True
  | (id, position) :: placed =>
      registry.awaits id = true ∧ (registry.placePoint id position).Fresh placed

theorem fresh_append {registry : Registry α} {first second : List (PointId × Vec α)} :
    registry.Fresh (first ++ second) ↔
      registry.Fresh first ∧ (registry.placePoints first).Fresh second := by
  induction first generalizing registry with
  | nil => simp [Fresh]
  | cons placement first ih =>
      obtain ⟨id, position⟩ := placement
      rw [List.cons_append, Fresh, Fresh, ih, placePoints_cons, and_assoc]

/-- A place that is known stays the same. -/
theorem position_placePoints {registry : Registry α} {placed : List (PointId × Vec α)}
    (fresh : registry.Fresh placed) {id : PointId} {position : Vec α}
    (known : registry.position id = some position) :
    (registry.placePoints placed).position id = some position := by
  induction placed generalizing registry with
  | nil => exact known
  | cons placement placed ih =>
      obtain ⟨moved, place⟩ := placement
      obtain ⟨waiting, fresh⟩ := fresh
      have ⟨held, unplaced⟩ := awaits_iff.1 waiting
      refine ih fresh ?_
      rw [position_placePoint held]
      have other : moved ≠ id := by
        rintro rfl
        simp [known] at unplaced
      rw [if_neg other, known]

theorem position_placePoints_of_notMem (registry : Registry α)
    {placed : List (PointId × Vec α)} {id : PointId} (absent : id ∉ placed.map Prod.fst) :
    (registry.placePoints placed).position id = registry.position id := by
  induction placed generalizing registry with
  | nil => rfl
  | cons placement placed ih =>
      obtain ⟨moved, place⟩ := placement
      rw [List.map_cons, List.mem_cons, not_or] at absent
      have other : moved ≠ id := Ne.symm absent.1
      rw [placePoints_cons, ih _ absent.2, position, point?_placePoint, position]
      simp [other]

/-- A place that a point has after some have been put somewhere is one of theirs, or the point has
had it before. -/
theorem position_placePoints_cases {registry : Registry α}
    {placed : List (PointId × Vec α)} (fresh : registry.Fresh placed) {id : PointId}
    {place : Vec α} (here : (registry.placePoints placed).position id = some place) :
    registry.position id = some place ∨ (id, place) ∈ placed := by
  induction placed generalizing registry with
  | nil => exact .inl here
  | cons placement placed ih =>
      obtain ⟨moved, position⟩ := placement
      obtain ⟨waiting, fresh⟩ := fresh
      rcases ih fresh here with before | later
      · rw [position_placePoint (awaits_iff.1 waiting).1] at before
        split at before
        case isTrue same =>
          cases before
          exact .inr (same ▸ List.mem_cons_self)
        case isFalse => exact .inl before
      · exact .inr (List.mem_cons_of_mem _ later)

/-- Every point that is put somewhere has a place afterwards. -/
theorem not_awaits_of_placed {registry : Registry α} {placed : List (PointId × Vec α)}
    (fresh : registry.Fresh placed) {id : PointId} (member : id ∈ placed.map Prod.fst) :
    (registry.placePoints placed).awaits id = false := by
  induction placed generalizing registry with
  | nil => simp at member
  | cons placement placed ih =>
      obtain ⟨moved, place⟩ := placement
      obtain ⟨waiting, fresh⟩ := fresh
      by_cases first : id = moved
      · subst first
        have held := (awaits_iff.1 waiting).1
        have known : (registry.placePoint id place).position id = some place := by
          rw [position_placePoint held, if_pos rfl]
        rw [placePoints_cons, Bool.eq_false_iff, Ne, awaits_iff]
        simp [position_placePoints fresh known]
      · exact ih fresh (by simpa [first] using member)

/-- No point waits later that has not waited before. -/
theorem awaits_of_awaits_placePoints {registry : Registry α} {placed : List (PointId × Vec α)}
    (fresh : registry.Fresh placed) {id : PointId}
    (waiting : (registry.placePoints placed).awaits id = true) : registry.awaits id = true := by
  rw [awaits_iff] at waiting ⊢
  refine ⟨(registry.sameNames_placePoints placed).holds_iff.1 waiting.1, ?_⟩
  by_contra known
  obtain ⟨position, known⟩ := Option.ne_none_iff_exists'.1 known
  simp [position_placePoints fresh known] at waiting

end Registry

end FigureMarkup.Figure

import FigureMarkup.Plane.Intersection
import FigureMarkup.Proofs.Random.Squares
import Mathlib.Data.Fin.SuccPred

/-!
# Points that count as one

Shapes may be found to meet in several points that are too close to each other to count apart. Of
such points the first one is kept. Being near is not transitive, and a point may not even be near
itself, so that the order of the points decides which of them are kept. Still nothing is lost: a
point is left out exactly if one that is kept before it is near it. So shapes that are found to meet
do meet, and a polygon meets a shape exactly if one of its edges does.
-/

namespace FigureMarkup.Plane

/-! ## Points that are kept -/

section Kept

variable {α : Type} [Scalar α] {tolerance : α}

/-- The places of a list at which its points are kept, in order. No kept point is near one that is
kept before it, and every other point is. -/
structure Keeps (tolerance : α) (points : List (Vec α)) (places : List (Fin points.length)) :
    Prop where
  ordered : places.Pairwise (· < ·)
  apart : ∀ i ∈ places, ∀ j ∈ places, i < j → points[i].isNear points[j] tolerance = false
  covers : ∀ j, j ∈ places ∨ ∃ i ∈ places, i < j ∧ points[i].isNear points[j] tolerance = true

/-- Next to points that are kept already, a point is kept exactly if none that is kept before it is
near it. -/
theorem keepDistinct_places (tolerance : α) (kept points : List (Vec α)) :
    ∃ places : List (Fin points.length),
      keepDistinct tolerance kept points = places.map (points[·]) ∧
        places.Pairwise (· < ·) ∧
        ∀ j, j ∈ places ↔ (∀ q ∈ kept, q.isNear points[j] tolerance = false) ∧
          ∀ i ∈ places, i < j → points[i].isNear points[j] tolerance = false := by
  induction points generalizing kept with
  | nil => exact ⟨[], rfl, .nil, fun j => j.elim0⟩
  | cons p rest ih =>
      by_cases known : kept.any (·.isNear p tolerance) = true
      · obtain ⟨places, same, ordered, exactly⟩ := ih kept
        obtain ⟨q, member, near⟩ := List.any_eq_true.1 known
        refine ⟨places.map Fin.succ, ?_, ?_, fun j => ?_⟩
        · rw [keepDistinct, if_pos known, same, List.map_map]
          rfl
        · exact List.pairwise_map.2 (ordered.imp Fin.succ_lt_succ_iff.2)
        · cases j using Fin.cases with
          | zero =>
              refine iff_of_false (by simp [Fin.succ_ne_zero]) fun alone => ?_
              exact Bool.false_ne_true ((alone.1 q member).symm.trans near)
          | succ j => simpa using exactly j
      · -- The point is kept, so that those after it have to be apart from it as well.
        obtain ⟨places, same, ordered, exactly⟩ := ih (p :: kept)
        refine ⟨0 :: places.map Fin.succ, ?_, ?_, fun j => ?_⟩
        · rw [keepDistinct, if_neg known, same, List.map_cons, List.map_map]
          rfl
        · exact List.pairwise_cons.2 ⟨by simp [Fin.succ_pos],
            List.pairwise_map.2 (ordered.imp Fin.succ_lt_succ_iff.2)⟩
        · cases j using Fin.cases with
          | zero =>
              refine iff_of_true List.mem_cons_self ⟨fun q member => ?_, fun i _ before => ?_⟩
              · exact Bool.eq_false_iff.2 fun near => known (List.any_eq_true.2 ⟨q, member, near⟩)
              · exact absurd before (Fin.not_lt_zero i)
          | succ j =>
              have alone := exactly j
              rw [List.forall_mem_cons, and_assoc, and_left_comm] at alone
              simpa [Fin.succ_ne_zero] using alone

/-- The points that count are those at the places that are kept. -/
theorem exists_keeps (tolerance : α) (points : List (Vec α)) :
    ∃ places, Keeps tolerance points places ∧
      distinct tolerance points = places.map (points[·]) := by
  obtain ⟨places, same, ordered, exactly⟩ := keepDistinct_places tolerance [] points
  refine ⟨places, ⟨ordered, ?_, fun j => ?_⟩, same⟩
  · exact fun i earlier j later => ((exactly j).1 later).2 i earlier
  · by_contra! lost
    refine lost.1 ((exactly j).2 ⟨nofun, fun i member before => ?_⟩)
    exact Bool.eq_false_iff.2 (lost.2 i member before)

/-- Where no point is kept there is none. -/
theorem Keeps.eq_nil {points : List (Vec α)} (keeps : Keeps tolerance points []) :
    points = [] := by
  cases points with
  | nil => rfl
  | cons p rest => simpa using keeps.covers (0 : Fin (rest.length + 1))

theorem distinct_eq_nil_iff {points : List (Vec α)} :
    distinct tolerance points = [] ↔ points = [] := by
  obtain ⟨places, keeps, same⟩ := exists_keeps tolerance points
  constructor
  · intro empty
    obtain rfl : places = [] := List.map_eq_nil_iff.1 (same.symm.trans empty)
    exact keeps.eq_nil
  · rintro rfl
    rfl

/-! ## Points that shapes have in common -/

namespace Shape

/-- The points in which the formula for two shapes finds that they meet, before any is left out.
There is no formula for polygons. -/
def formula? (first second : Shape α) (tolerance : α) : Option (List (Vec α)) :=
  match first, second with
  | .segment a₁ b₁, .segment a₂ b₂ => some (segmentSegment a₁ b₁ a₂ b₂ tolerance)
  | .segment a b, .circle center radius | .circle center radius, .segment a b =>
      some (segmentCircle a b center radius tolerance)
  | .circle c₁ r₁, .circle c₂ r₂ => some (circleCircle c₁ r₁ c₂ r₂ tolerance)
  | .polygon _, _ | _, .polygon _ => none

variable {first second : Shape α}

theorem intersect_of_formula? {points : List (Vec α)}
    (found : first.formula? second tolerance = some points) :
    first.intersect second tolerance = distinct tolerance points := by
  cases first <;> cases second <;> cases found <;> rfl

/-- A polygon meets a shape in the points in which its edges do. -/
theorem intersect_polygon_left (vertices : List (Vec α)) (shape : Shape α) (tolerance : α) :
    (polygon vertices).intersect shape tolerance =
      distinct tolerance ((polygon vertices).edges.flatMap fun edge =>
        (segment edge.1 edge.2).intersect shape tolerance) :=
  rfl

theorem intersect_polygon_right (smooth : ∀ vertices, first ≠ polygon vertices)
    (vertices : List (Vec α)) (tolerance : α) :
    first.intersect (polygon vertices) tolerance =
      distinct tolerance ((polygon vertices).edges.flatMap fun edge =>
        first.intersect (segment edge.1 edge.2) tolerance) := by
  cases first with
  | segment => rfl
  | circle => rfl
  | polygon others => exact absurd rfl (smooth others)

theorem intersect_polygon_left_eq_nil_iff {vertices : List (Vec α)} :
    (polygon vertices).intersect second tolerance = [] ↔
      ∀ edge ∈ (polygon vertices).edges,
        (segment edge.1 edge.2).intersect second tolerance = [] := by
  rw [intersect_polygon_left, distinct_eq_nil_iff, List.flatMap_eq_nil_iff]

theorem intersect_polygon_right_eq_nil_iff {vertices : List (Vec α)} :
    first.intersect (polygon vertices) tolerance = [] ↔
      ∀ edge ∈ (polygon vertices).edges,
        first.intersect (segment edge.1 edge.2) tolerance = [] := by
  have meets (piece : Shape α) (smooth : ∀ vertices, piece ≠ polygon vertices) :
      piece.intersect (polygon vertices) tolerance = [] ↔
        ∀ edge ∈ (polygon vertices).edges,
          piece.intersect (segment edge.1 edge.2) tolerance = [] := by
    rw [intersect_polygon_right smooth, distinct_eq_nil_iff, List.flatMap_eq_nil_iff]
  cases first with
  | segment => exact meets _ nofun
  | circle => exact meets _ nofun
  | polygon others =>
      -- Both say that no edge of one polygon meets an edge of the other.
      simp only [intersect_polygon_left_eq_nil_iff]
      constructor
      · intro missed edge member other among
        exact (meets (segment other.1 other.2) nofun).1 (missed other among) edge member
      · intro missed other among
        exact (meets (segment other.1 other.2) nofun).2 fun edge member =>
          missed edge member other among

end Shape

end Kept

/-! ## Doubles -/

/-- For doubles it makes no difference which one of two points is near the other. -/
theorem Vec.isNear_swap (a b : Vec Float) (tolerance : Float) :
    a.isNear b tolerance = b.isNear a tolerance := by
  have squares : (b - a).dot (b - a) = (a - b).dot (a - b) :=
    congrArg₂ (· + ·) (Random.square_sub_swap b.x a.x) (Random.square_sub_swap b.y a.y)
  unfold Vec.isNear Vec.distance Vec.length
  rw [squares]

/-- To leave out points that are near others loses nothing. What is left of a list is some of its
points, in their order; no two of them are near each other, and every other point is near one of
them that comes before it. So shapes that are no polygons are taken not to meet only if the formula
for them finds no point, and a polygon is taken not to meet a shape exactly if no edge of it is
taken to meet the shape. -/
theorem distinct_loses_nothing (tolerance : Float) :
    (∀ p q : Vec Float, p.isNear q tolerance = q.isNear p tolerance) ∧
      (∀ points : List (Vec Float), ∃ places, Keeps tolerance points places ∧
        distinct tolerance points = places.map (points[·])) ∧
      (∀ (first second : Shape Float) points, first.formula? second tolerance = some points →
        first.intersect second tolerance = distinct tolerance points ∧
          (first.intersect second tolerance = [] ↔ points = [])) ∧
      ∀ (vertices : List (Vec Float)) (shape : Shape Float),
        ((Shape.polygon vertices).intersect shape tolerance = [] ↔
          ∀ edge ∈ (Shape.polygon vertices).edges,
            (Shape.segment edge.1 edge.2).intersect shape tolerance = []) ∧
        (shape.intersect (.polygon vertices) tolerance = [] ↔
          ∀ edge ∈ (Shape.polygon vertices).edges,
            shape.intersect (.segment edge.1 edge.2) tolerance = []) := by
  refine ⟨fun p q => p.isNear_swap q tolerance, exists_keeps tolerance,
    fun first second points found => ?_, fun vertices shape => ?_⟩
  · have thinned := Shape.intersect_of_formula? found
    exact ⟨thinned, by rw [thinned, distinct_eq_nil_iff]⟩
  · exact ⟨Shape.intersect_polygon_left_eq_nil_iff, Shape.intersect_polygon_right_eq_nil_iff⟩

/-- By the formula a tangent meets a circle twice, but in one place. -/
theorem distinct_loses_nothing_tangent :
    let tangent : Shape Float := .segment ⟨-1, 1⟩ ⟨1, 1⟩
    let circle : Shape Float := .circle ⟨0, 0⟩ 1
    ∃ points, tangent.formula? circle 1e-9 = some points ∧ points.length = 2 ∧
      tangent.intersect circle 1e-9 = distinct 1e-9 points ∧
      (tangent.intersect circle 1e-9).length = 1 := by
  intro tangent circle
  have twice : (tangent.formula? circle 1e-9).map List.length = some 2 := by decide +kernel
  obtain ⟨points, found, both⟩ := Option.map_eq_some_iff.1 twice
  obtain ⟨-, -, formula, -⟩ := distinct_loses_nothing 1e-9
  exact ⟨points, found, both, (formula tangent circle points found).1, by decide +kernel⟩

/-- Of three points in a row, of which each is near the next one, those at the ends are kept if an
end comes first, and the middle one alone if it comes first. -/
example :
    distinct (1.0 : Float) [⟨0.0, 0.0⟩, ⟨1.0, 0.0⟩, ⟨2.0, 0.0⟩] = [⟨0.0, 0.0⟩, ⟨2.0, 0.0⟩] ∧
      distinct (1.0 : Float) [⟨1.0, 0.0⟩, ⟨0.0, 0.0⟩, ⟨2.0, 0.0⟩] = [⟨1.0, 0.0⟩] := by
  decide +kernel

end FigureMarkup.Plane

import FigureMarkup.Plane.Intersection
import FigureMarkup.Proofs.Random.Exact
import FigureMarkup.Proofs.Random.SizedDraws
import FigureMarkup.Proofs.Random.Sums

/-!
# Sizes of computed points

A point that is computed from shapes is finite if the shapes are not too large. Points of segments
are found by their parameters, and a parameter that counts as lying on a segment is small, so the
ends may be large. Two circles are cut by the line through their common points, which divides by
the distance of the centers, so circles have to be smaller, and different centers not too close.
-/

namespace FigureMarkup.Plane

open FigureMarkup.Random (Ample Keystream High choose mem_of_choose le_of_not_lt sized_iff sized_one
  sized_zero)

/-! ## Vectors -/

namespace Vec

/-- Both coordinates are finite. -/
def IsFinite (v : Vec Float) : Prop := v.x.isFinite = true ∧ v.y.isFinite = true

/-- Both coordinates are at most a size, in either direction. -/
structure UpTo (size : Float) (v : Vec Float) : Prop where
  left : -size ≤ v.x
  right : v.x ≤ size
  below : -size ≤ v.y
  above : v.y ≤ size

instance (size : Float) (v : Vec Float) : Decidable (v.UpTo size) :=
  decidable_of_iff (-size ≤ v.x ∧ v.x ≤ size ∧ -size ≤ v.y ∧ v.y ≤ size)
    ⟨fun ⟨left, right, below, above⟩ => ⟨left, right, below, above⟩,
      fun ⟨left, right, below, above⟩ => ⟨left, right, below, above⟩⟩

/-- Both coordinates are doubles of bounded exponent. -/
def Sized (most : Int) (v : Vec Float) : Prop := Random.Sized most v.x ∧ Random.Sized most v.y

variable {m n k : Int} {v w : Vec Float}

theorem UpTo.sized {size : Float} (upTo : v.UpTo size) (sized : Random.Sized m size)
    (range : -1074 ≤ m ∧ m ≤ 971) : v.Sized m :=
  ⟨(sized.neg range).of_between sized upTo.left upTo.right,
    (sized.neg range).of_between sized upTo.below upTo.above⟩

namespace Sized

theorem isFinite (sized : v.Sized m) : v.IsFinite := ⟨sized.1.isFinite, sized.2.isFinite⟩

theorem add (first : v.Sized m) (second : w.Sized n)
    (fits : m + 2 ≤ k ∧ n + 2 ≤ k ∧ -1072 ≤ k ∧ k ≤ 971) : (v + w).Sized k :=
  ⟨first.1.add second.1 fits, first.2.add second.2 fits⟩

theorem sub (first : v.Sized m) (second : w.Sized n)
    (fits : m + 2 ≤ k ∧ n + 2 ≤ k ∧ -1072 ≤ k ∧ k ≤ 971) : (v - w).Sized k :=
  ⟨first.1.sub second.1 fits, first.2.sub second.2 fits⟩

theorem mul {factor : Float} (sized : v.Sized m) (also : Random.Sized n factor)
    (fits : m + n + 54 ≤ k ∧ -1073 ≤ m + n + 54 ∧ k ≤ 971) : (v * factor).Sized k :=
  ⟨sized.1.mul also fits, sized.2.mul also fits⟩

theorem perp (sized : v.Sized m) (range : -1074 ≤ m ∧ m ≤ 971) : v.perp.Sized m :=
  ⟨sized.2.neg range, sized.1⟩

theorem length (sized : v.Sized m) (fits : 2 * m + 5 ≤ 2 * k ∧ -500 ≤ m ∧ k ≤ 450) :
    Random.Sized k v.length := by
  obtain ⟨squares, nonneg⟩ := sized.1.squares sized.2 (k := 2 * m + 56) (by omega)
  exact squares.sqrt nonneg (by omega)

/-- A point of a segment is finite if its parameter is small. -/
theorem lerp {t : Float} (first : v.Sized 944) (second : w.Sized 944)
    (parameter : Random.Sized (-41) t) : (v + (w - v) * t).IsFinite := by
  have span : (w - v).Sized 946 := second.sub first (by decide)
  have part : ((w - v) * t).Sized 959 := span.mul parameter (by decide)
  have whole : (v + (w - v) * t).Sized 961 := first.add part (by decide)
  exact whole.isFinite

end Sized

end Vec

/-! ## Tame shapes -/

/-- A shape that is not so large, for a tolerance, that points computed from it could fail to be
finite. -/
def Shape.Tame (tolerance : Float) : Shape Float → Prop
  | .segment a b => 0.0 ≤ tolerance ∧ tolerance ≤ 1.0 ∧ a.UpTo 1e300 ∧ b.UpTo 1e300
  | .circle center radius => 1e-30 ≤ tolerance ∧ tolerance ≤ 1.0 ∧ center.UpTo 1e50 ∧
      -1e50 ≤ radius ∧ radius ≤ 1e50
  | .polygon vertices => 0.0 ≤ tolerance ∧ tolerance ≤ 1.0 ∧ ∀ v ∈ vertices, v.UpTo 1e300

/-- Cosines and sines of finite angles are at most one, in either direction. Nothing is known of
these functions but what they give when a program runs. -/
def UnitTurns : Prop := ∀ angle : Float, angle.isFinite = true →
  (Vec.mk (Scalar.cos angle) (Scalar.sin angle)).UpTo 1.0

theorem sized_e300 : Random.Sized 944 (1e300 : Float) :=
  (sized_iff (by decide)).2 (by decide +kernel)

theorem sized_e50 : Random.Sized 114 (1e50 : Float) :=
  (sized_iff (by decide)).2 (by decide +kernel)

theorem sized_e30 : Random.Sized (-52) (1e-30 : Float) :=
  (sized_iff (by decide)).2 (by decide)

theorem unpack_e30 : (1e-30 : Float).toModel.unpack =
    .finite .positive 5708990770823840 (-152) (by decide) := by
  have bits : (1e-30 : Float).toModel.toBits = 0x39B4484BFEEBC2A0 := by decide
  rw [Float.Model.unpack, bits]
  rfl

theorem ample_two : Ample (-51) (2.0 : Float) :=
  .normal _ (by decide) (by decide) (Int.le_refl _) Random.unpack_two

variable {tolerance : Float} {m : Int}

/-! ## Points of segments -/

section Segments

variable (least : 0.0 ≤ tolerance) (greatest : tolerance ≤ 1.0)

include least greatest

/-- A parameter that counts as lying on a segment is small. -/
theorem sized_of_isBetween {t : Float}
    (inside : Scalar.isBetween (-tolerance) (1.0 + tolerance) t = true) :
    Random.Sized (-50) t := by
  have small := (sized_zero _).of_between sized_one least greatest
  have low : Random.Sized (-50) (-tolerance) := (small.neg (by decide)).mono (by decide)
  have high : Random.Sized (-50) (1.0 + tolerance) := sized_one.add small (by decide)
  simp only [Scalar.isBetween, Bool.and_eq_true, decide_eq_true_eq] at inside
  exact low.of_between high inside.1 inside.2

theorem isFinite_of_mem_parallelSegments {a₁ b₁ a₂ b₂ p : Vec Float} (start : a₁.Sized 944)
    (stop : b₁.Sized 944) (member : p ∈ parallelSegments a₁ b₁ a₂ b₂ tolerance) : p.IsFinite := by
  unfold parallelSegments at member
  dsimp only at member
  split at member
  · cases member
  · split at member
    case isTrue => cases member
    case isFalse meets =>
      obtain rfl := List.mem_singleton.1 member
      obtain ⟨low, high⟩ := Random.sized_overlap (Random.zero_le_max _) (Random.min_le_one _)
        least greatest meets
      have both : Random.Sized (-46) _ := low.add high (by decide)
      have middle : Random.Sized (-46) _ := both.div ample_two (by decide)
      exact start.lerp stop (middle.mono (by decide))

theorem isFinite_of_mem_segmentSegment {a₁ b₁ a₂ b₂ p : Vec Float} (start₁ : a₁.Sized 944)
    (stop₁ : b₁.Sized 944) (start₂ : a₂.Sized 944)
    (member : p ∈ segmentSegment a₁ b₁ a₂ b₂ tolerance) : p.IsFinite := by
  unfold segmentSegment at member
  dsimp only at member
  split at member
  · split at member
    · obtain rfl := List.mem_singleton.1 member
      exact start₁.isFinite
    · cases member
  · split at member
    · split at member
      · obtain rfl := List.mem_singleton.1 member
        exact start₂.isFinite
      · cases member
    · split at member
      · exact isFinite_of_mem_parallelSegments least greatest start₁ stop₁ member
      · split at member
        case isTrue inside =>
          obtain rfl := List.mem_singleton.1 member
          rw [Bool.and_eq_true] at inside
          have parameter := sized_of_isBetween least greatest inside.1
          exact start₁.lerp stop₁ (parameter.mono (by decide))
        case isFalse => cases member

theorem isFinite_of_mem_segmentCircle {a b center p : Vec Float} {radius : Float}
    (start : a.Sized 944) (stop : b.Sized 944)
    (member : p ∈ segmentCircle a b center radius tolerance) : p.IsFinite := by
  unfold segmentCircle at member
  dsimp only at member
  split at member
  · split at member
    · obtain rfl := List.mem_singleton.1 member
      exact start.isFinite
    · cases member
  · split at member
    · cases member
    · obtain ⟨t, among, rfl⟩ := List.mem_map.1 member
      have parameter := sized_of_isBetween least greatest (List.mem_filter.1 among).2
      exact start.lerp stop (parameter.mono (by decide))

end Segments

/-! ## Points of circles -/

theorem sized_of_tame_circle {center : Vec Float} {radius : Float}
    (tame : (Shape.circle center radius).Tame tolerance) :
    center.Sized 114 ∧ Random.Sized 114 radius := by
  obtain ⟨-, -, upTo, least, greatest⟩ := tame
  exact ⟨upTo.sized sized_e50 (by decide),
    (sized_e50.neg (by decide)).of_between sized_e50 least greatest⟩

/-- The distance of two different centers is not too small. -/
theorem high_of_not_le {distance : Float} (least : 1e-30 ≤ tolerance) (greatest : tolerance ≤ 1.0)
    (sized : Random.Sized m distance) (apart : ¬ distance ≤ tolerance) :
    High (-152) distance.toModel.unpack := by
  have small : High (-152) (1e-30 : Float).toModel.unpack := by
    rw [unpack_e30]
    exact .finite _ (Int.le_refl _)
  have sizedTolerance := sized_e30.of_between sized_one least greatest
  have order := le_of_not_lt sizedTolerance.isNumber sized.isNumber fun less =>
    apart (Random.le_of_lt less)
  exact (small.of_le sizedTolerance least).of_le sized order

theorem isFinite_of_mem_circleCircle {c₁ c₂ p : Vec Float} {r₁ r₂ : Float}
    (least : 1e-30 ≤ tolerance) (greatest : tolerance ≤ 1.0) (center₁ : c₁.Sized 114)
    (center₂ : c₂.Sized 114) (radius₁ : Random.Sized 114 r₁) (radius₂ : Random.Sized 114 r₂)
    (member : p ∈ circleCircle c₁ r₁ c₂ r₂ tolerance) : p.IsFinite := by
  have delta : (c₂ - c₁).Sized 116 := center₂.sub center₁ (by decide)
  have distance : Random.Sized 119 (c₂ - c₁).length := delta.length (by decide)
  unfold circleCircle at member
  dsimp only at member
  split at member
  case isTrue => cases member
  case isFalse apart =>
    split at member
    · cases member
    · have high := high_of_not_le least greatest distance apart
      have ample := high.ample (by decide)
      have squares : Random.Sized 284 (r₁ * r₁ - r₂ * r₂) :=
        (radius₁.mul radius₁ (k := 282) (by decide)).sub
          (radius₂.mul radius₂ (k := 282) (by decide)) (by decide)
      have numerator : Random.Sized 294
          (r₁ * r₁ - r₂ * r₂ + (c₂ - c₁).length * (c₂ - c₁).length) :=
        squares.add (distance.mul distance (k := 292) (by decide)) (by decide)
      have along : Random.Sized 394 ((r₁ * r₁ - r₂ * r₂ +
          (c₂ - c₁).length * (c₂ - c₁).length) / (2.0 * (c₂ - c₁).length)) :=
        numerator.div (high.ample_double distance (by decide)) (by decide)
      generalize (r₁ * r₁ - r₂ * r₂ + (c₂ - c₁).length * (c₂ - c₁).length) /
        (2.0 * (c₂ - c₁).length) = foot at along member
      obtain ⟨rest, nonneg⟩ := Random.sized_max_zero
        ((radius₁.mul radius₁ (k := 282) (by decide)).sub (along.mul along (k := 842) (by decide))
          (k := 844) (by decide))
      have half : Random.Sized 397 (Scalar.sqrt (Scalar.max (r₁ * r₁ - foot * foot) 0.0)) :=
        rest.sqrt nonneg (by decide)
      have middle : (c₁ + (c₂ - c₁) * (foot / (c₂ - c₁).length)).Sized 667 :=
        center₁.add (delta.mul (along.div ample (k := 495) (by decide)) (k := 665) (by decide))
          (by decide)
      have offset : ((c₂ - c₁).perp * (Scalar.sqrt (Scalar.max (r₁ * r₁ - foot * foot) 0.0) /
          (c₂ - c₁).length)).Sized 668 :=
        (delta.perp (by decide)).mul (half.div ample (k := 498) (by decide)) (by decide)
      split at member
      · obtain rfl := List.mem_singleton.1 member
        exact middle.isFinite
      · simp only [List.mem_cons, List.not_mem_nil, or_false] at member
        rcases member with rfl | rfl
        · exact (middle.add offset (k := 670) (by decide)).isFinite
        · exact (middle.sub offset (k := 670) (by decide)).isFinite

/-! ## Points of tame shapes -/

theorem subset_keepDistinct {kept points : List (Vec Float)} {p : Vec Float}
    (member : p ∈ keepDistinct tolerance kept points) : p ∈ points := by
  induction points generalizing kept with
  | nil => exact member
  | cons q rest ih =>
      rw [keepDistinct] at member
      split at member
      · exact List.mem_cons_of_mem q (ih member)
      · rcases List.mem_cons.1 member with rfl | member
        · exact List.mem_cons_self
        · exact List.mem_cons_of_mem q (ih member)

theorem mem_of_mem_cyclicPairs {β : Type} {members : List β} {a b : β}
    (pair : (a, b) ∈ cyclicPairs members) : a ∈ members ∧ b ∈ members := by
  unfold cyclicPairs at pair
  split at pair
  · obtain ⟨first, second⟩ := List.of_mem_zip pair
    refine ⟨first, ?_⟩
    rw [List.mem_append, List.mem_singleton] at second
    rcases second with second | rfl
    · exact List.mem_cons_of_mem _ second
    · exact List.mem_cons_self
  · cases pair

namespace Shape

theorem Tame.edge {shape : Shape Float} (tame : shape.Tame tolerance) {a b : Vec Float}
    (edge : (a, b) ∈ shape.edges) : (Shape.segment a b).Tame tolerance := by
  cases shape with
  | segment => cases edge
  | circle => cases edge
  | polygon vertices =>
      obtain ⟨least, greatest, upTo⟩ := tame
      obtain ⟨first, second⟩ := mem_of_mem_cyclicPairs edge
      exact ⟨least, greatest, upTo a first, upTo b second⟩

theorem Tame.ends {a b : Vec Float} (tame : (Shape.segment a b).Tame tolerance) :
    a.Sized 944 ∧ b.Sized 944 :=
  ⟨tame.2.2.1.sized sized_e300 (by decide), tame.2.2.2.sized sized_e300 (by decide)⟩

theorem isFinite_of_mem_meetSmooth {first second : Shape Float} (tame : first.Tame tolerance)
    (alsoTame : second.Tame tolerance) {p : Vec Float}
    (member : p ∈ meetSmooth first second tolerance) : p.IsFinite := by
  unfold meetSmooth at member
  split at member
  · obtain ⟨start, stop⟩ := tame.ends
    exact isFinite_of_mem_segmentSegment tame.1 tame.2.1 start stop alsoTame.ends.1
      (subset_keepDistinct member)
  · obtain ⟨start, stop⟩ := tame.ends
    exact isFinite_of_mem_segmentCircle tame.1 tame.2.1 start stop (subset_keepDistinct member)
  · obtain ⟨start, stop⟩ := alsoTame.ends
    exact isFinite_of_mem_segmentCircle alsoTame.1 alsoTame.2.1 start stop
      (subset_keepDistinct member)
  · obtain ⟨center₁, radius₁⟩ := sized_of_tame_circle tame
    obtain ⟨center₂, radius₂⟩ := sized_of_tame_circle alsoTame
    exact isFinite_of_mem_circleCircle tame.1 tame.2.1 center₁ center₂ radius₁ radius₂
      (subset_keepDistinct member)
  · cases member
  · cases member

theorem isFinite_of_mem_meetEdges {first second : Shape Float} (tame : first.Tame tolerance)
    (alsoTame : second.Tame tolerance) {p : Vec Float}
    (member : p ∈ meetEdges first second tolerance) : p.IsFinite := by
  unfold meetEdges at member
  split at member
  · obtain ⟨⟨a, b⟩, edge, meets⟩ := List.mem_flatMap.1 (subset_keepDistinct member)
    exact isFinite_of_mem_meetSmooth tame (alsoTame.edge edge) meets
  · exact isFinite_of_mem_meetSmooth tame alsoTame member

/-- Tame shapes meet in finite points. -/
theorem isFinite_of_mem_intersect {first second : Shape Float} (tame : first.Tame tolerance)
    (alsoTame : second.Tame tolerance) {p : Vec Float}
    (member : p ∈ first.intersect second tolerance) : p.IsFinite := by
  unfold intersect at member
  split at member
  · obtain ⟨⟨a, b⟩, edge, meets⟩ := List.mem_flatMap.1 (subset_keepDistinct member)
    exact isFinite_of_mem_meetEdges (tame.edge edge) alsoTame meets
  · exact isFinite_of_mem_meetEdges tame alsoTame member

end Shape

theorem isFinite_of_mem_intersectAll {shapes : List (Shape Float)}
    (tame : ∀ shape ∈ shapes, shape.Tame tolerance) {p : Vec Float}
    (member : p ∈ intersectAll shapes tolerance) : p.IsFinite := by
  match shapes with
  | [] | [_] => cases member
  | first :: second :: rest =>
      exact Shape.isFinite_of_mem_intersect (tame first (by simp)) (tame second (by simp))
        (List.mem_filter.1 member).1

/-! ## Random points -/

theorem isFinite_randomOnSegment {a b : Vec Float} (start : a.Sized 944) (stop : b.Sized 944)
    (padding : Float) (source : Keystream) : (randomOnSegment a b padding source).1.IsFinite := by
  unfold randomOnSegment
  dsimp only
  refine start.lerp stop ?_
  split
  case isTrue positive =>
    have low := (Random.sized_clamp positive).mono (show (-54 : Int) ≤ -50 by decide)
    have high : Random.Sized (-50) (1.0 - Scalar.clamp padding 0.0 0.49) :=
      sized_one.sub (Random.sized_clamp positive) (by decide)
    exact Keystream.sized_below low high (by decide) _ source
  case isFalse => exact source.sized_fine.mono (by decide)

theorem isFinite_randomOnCircle {center : Vec Float} {radius : Float}
    (tame : (Shape.circle center radius).Tame tolerance) (turns : UnitTurns)
    (source : Keystream) : (randomOnCircle center radius source).1.IsFinite := by
  obtain ⟨sizedCenter, sizedRadius⟩ := sized_of_tame_circle tame
  have low : Random.Sized (-50) (0.0 : Float) := sized_zero _
  have high : Random.Sized (-50) (Scalar.tau : Float) := (sized_iff (by decide)).2 (by decide)
  have drawn : Random.Sized (-41) (Random.Source.below (0.0 : Float) Scalar.tau source).1 :=
    Keystream.sized_below low high (by decide) _ source
  have turn := (turns _ drawn.isFinite).sized sized_one (by decide)
  have arm := turn.mul sizedRadius (k := 116) (by decide)
  exact (sizedCenter.add arm (k := 118) (by decide)).isFinite

/-- A random point of a tame shape is finite. -/
theorem Shape.isFinite_randomPoint {shape : Shape Float} (tame : shape.Tame tolerance)
    (turns : ∀ center radius, shape = .circle center radius → UnitTurns) (padding : Float)
    (source : Keystream) : (shape.randomPoint padding source).1.IsFinite := by
  cases shape with
  | segment a b => exact isFinite_randomOnSegment tame.ends.1 tame.ends.2 padding source
  | circle center radius => exact isFinite_randomOnCircle tame (turns center radius rfl) source
  | polygon vertices =>
      unfold randomPoint
      dsimp only
      rcases chosen : choose (polygon vertices).edges source with ⟨_ | ⟨a, b⟩, later⟩
      · cases vertices with
        | nil => exact ⟨(sized_zero 0).isFinite, (sized_zero 0).isFinite⟩
        | cons first rest =>
            exact ((tame.2.2 first List.mem_cons_self).sized sized_e300 (by decide)).isFinite
      · obtain ⟨start, stop⟩ := (tame.edge (mem_of_choose chosen)).ends
        exact isFinite_randomOnSegment start stop padding later

end FigureMarkup.Plane

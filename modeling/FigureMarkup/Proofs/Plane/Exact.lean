import Mathlib
import FigureMarkup.Plane.Intersection

/-!
# Geometry in exact arithmetic

The plane is written over any type of numbers. Over the real numbers nothing is rounded, so that
its definitions say what they mean: the distance of two points vanishes only if they are the same,
and with a tolerance of zero a shape contains exactly the points through which it passes.
-/

namespace FigureMarkup

open Decimal

/-- The number that a numeral says, as it stands. -/
noncomputable def Decimal.Numeral.toReal? : Numeral → Option ℝ
  | .finite negative digits exponent =>
      some (if negative then -(digits * 10 ^ exponent) else digits * 10 ^ exponent)
  | _ => none

-- The real numbers keep the operations and literals that they have in Mathlib.
attribute [instance (50)] Scalar.toDiv Scalar.toOfScientific Scalar.toBEq

/-- The real numbers, with operations that are exact. -/
noncomputable instance : Scalar ℝ where
  decideLt := inferInstance
  decideLe := inferInstance
  abs x := |x|
  sqrt := Real.sqrt
  sin := Real.sin
  cos := Real.cos
  atan2 y x := Complex.arg ⟨x, y⟩
  tau := 2 * Real.pi
  toDegrees radians := radians * (180 / Real.pi)
  ofNumeral? := Numeral.toReal?

namespace Scalar

@[simp]
theorem real_sqrt (x : ℝ) : Scalar.sqrt x = √x := rfl

@[simp]
theorem real_abs (x : ℝ) : Scalar.abs x = |x| := rfl

@[simp]
theorem real_sin (x : ℝ) : Scalar.sin x = Real.sin x := rfl

@[simp]
theorem real_cos (x : ℝ) : Scalar.cos x = Real.cos x := rfl

@[simp]
theorem real_zero : (0.0 : ℝ) = 0 := by norm_num

@[simp]
theorem real_one : (1.0 : ℝ) = 1 := by norm_num

@[simp]
theorem real_min (x y : ℝ) : Scalar.min x y = Min.min x y := by
  unfold Scalar.min
  by_cases less : y < x
  · rw [if_pos less, min_eq_right less.le]
  · rw [if_neg less, if_pos (beq_self_eq_true x), min_eq_left (not_lt.1 less)]

@[simp]
theorem real_max (x y : ℝ) : Scalar.max x y = Max.max x y := by
  unfold Scalar.max
  by_cases less : x < y
  · rw [if_pos less, max_eq_right less.le]
  · rw [if_neg less, if_pos (beq_self_eq_true x), max_eq_left (not_lt.1 less)]

theorem real_clamp_eq (x low high : ℝ) :
    Scalar.clamp x low high = Min.min high (Max.max low x) := by
  unfold Scalar.clamp
  dsimp only
  by_cases below : x < low
  · rw [if_pos below, max_eq_left below.le]
    by_cases above : high < low
    · rw [if_pos above, min_eq_left above.le]
    · rw [if_neg above, min_eq_right (not_lt.1 above)]
  · rw [if_neg below, max_eq_right (not_lt.1 below)]
    by_cases above : high < x
    · rw [if_pos above, min_eq_left above.le]
    · rw [if_neg above, min_eq_right (not_lt.1 above)]

theorem real_clamp {low high : ℝ} (ordered : low ≤ high) (x : ℝ) :
    low ≤ Scalar.clamp x low high ∧ Scalar.clamp x low high ≤ high := by
  rw [real_clamp_eq]
  exact ⟨le_min ordered (le_max_left low x), min_le_left _ _⟩

theorem real_clamp_of_between {low high x : ℝ} (above : low ≤ x) (below : x ≤ high) :
    Scalar.clamp x low high = x := by
  rw [real_clamp_eq, max_eq_right above, min_eq_right below]

theorem real_isBetween {low high x : ℝ} :
    Scalar.isBetween low high x = true ↔ low ≤ x ∧ x ≤ high := by
  simp [Scalar.isBetween]

end Scalar

namespace Plane

/-! ## Vectors -/

attribute [ext] Vec

namespace Vec

variable (a b : Vec ℝ) (factor : ℝ)

@[simp] theorem add_x : (a + b).x = a.x + b.x := rfl

@[simp] theorem add_y : (a + b).y = a.y + b.y := rfl

@[simp] theorem sub_x : (a - b).x = a.x - b.x := rfl

@[simp] theorem sub_y : (a - b).y = a.y - b.y := rfl

@[simp] theorem mul_x : (a * factor).x = a.x * factor := rfl

@[simp] theorem mul_y : (a * factor).y = a.y * factor := rfl

@[simp] theorem perp_x : a.perp.x = -a.y := rfl

@[simp] theorem perp_y : a.perp.y = a.x := rfl

@[simp] theorem lerp_x : (a.lerp b factor).x = a.x + (b.x - a.x) * factor := rfl

@[simp] theorem lerp_y : (a.lerp b factor).y = a.y + (b.y - a.y) * factor := rfl

theorem dot_eq : a.dot b = a.x * b.x + a.y * b.y := rfl

theorem cross_eq : a.cross b = a.x * b.y - a.y * b.x := rfl

theorem lerp_eq : a.lerp b factor = a + (b - a) * factor := rfl

theorem distance_eq : a.distance b = √((b - a).dot (b - a)) := rfl

theorem dot_self_nonneg : 0 ≤ a.dot a := by
  rw [dot_eq]
  nlinarith [sq_nonneg a.x, sq_nonneg a.y]

variable {a b}

theorem dot_self_eq_zero : a.dot a = 0 ↔ a.x = 0 ∧ a.y = 0 := by
  rw [dot_eq]
  constructor
  · intro vanishes
    constructor <;> nlinarith [sq_nonneg a.x, sq_nonneg a.y]
  · rintro ⟨x, y⟩
    rw [x, y]
    ring

theorem sub_dot_self_eq_zero : (b - a).dot (b - a) = 0 ↔ a = b := by
  rw [dot_self_eq_zero, sub_x, sub_y, sub_eq_zero, sub_eq_zero, Vec.ext_iff, eq_comm,
    eq_comm (a := b.y)]

theorem distance_nonneg : 0 ≤ a.distance b := Real.sqrt_nonneg _

theorem distance_eq_zero : a.distance b = 0 ↔ a = b := by
  rw [distance_eq, Real.sqrt_eq_zero (dot_self_nonneg _), sub_dot_self_eq_zero]

theorem distance_le_zero : a.distance b ≤ 0 ↔ a = b := by
  rw [← distance_eq_zero]
  exact ⟨fun small => le_antisymm small distance_nonneg, le_of_eq⟩

theorem isNear_zero : a.isNear b 0 = true ↔ a = b := by
  rw [isNear, decide_eq_true_eq, distance_le_zero]

theorem distance_comm : a.distance b = b.distance a := by
  rw [distance_eq, distance_eq]
  congr 1
  simp only [dot_eq, sub_x, sub_y]
  ring

end Vec

/-! ## Points of shapes -/

/-- A point of the segment between two ends. -/
def OnEdge (p a b : Vec ℝ) : Prop := ∃ t : ℝ, 0 ≤ t ∧ t ≤ 1 ∧ p = a.lerp b t

theorem onEdge_start (a b : Vec ℝ) : OnEdge a a b :=
  ⟨0, le_refl 0, zero_le_one, by ext <;> simp⟩

theorem onEdge_self {p a : Vec ℝ} : OnEdge p a a ↔ p = a := by
  constructor
  · rintro ⟨t, -, -, rfl⟩
    ext <;> simp
  · rintro rfl
    exact onEdge_start p p

theorem onSegment_zero {p a b : Vec ℝ} : onSegment p a b 0 = true ↔ OnEdge p a b := by
  unfold onSegment distanceToSegment
  dsimp only
  rw [decide_eq_true_eq]
  by_cases degenerate : a = b
  · subst degenerate
    have vanishes : (a - a).dot (a - a) = 0 := Vec.sub_dot_self_eq_zero.2 rfl
    rw [if_pos (by simp [vanishes]), Vec.distance_le_zero, onEdge_self]
  · have positive : (b - a).dot (b - a) ≠ 0 := mt Vec.sub_dot_self_eq_zero.1 degenerate
    rw [if_neg (by simpa using positive), Vec.distance_le_zero, Scalar.real_zero, Scalar.real_one]
    constructor
    · intro nearest
      obtain ⟨above, below⟩ := Scalar.real_clamp zero_le_one
        ((p - a).dot (b - a) / (b - a).dot (b - a))
      exact ⟨_, above, below, nearest⟩
    · rintro ⟨t, above, below, rfl⟩
      -- The foot of a point of the segment is the point itself.
      have foot : (a.lerp b t - a).dot (b - a) / (b - a).dot (b - a) = t := by
        rw [div_eq_iff positive]
        simp only [Vec.dot_eq, Vec.sub_x, Vec.sub_y, Vec.lerp_x, Vec.lerp_y]
        ring
      rw [foot, Scalar.real_clamp_of_between above below, Vec.lerp_eq]

theorem onCircle_zero {p center : Vec ℝ} {radius : ℝ} :
    onCircle p center radius 0 = true ↔ p.distance center = radius := by
  rw [onCircle, decide_eq_true_eq, Scalar.real_abs, abs_nonpos_iff, sub_eq_zero]

theorem distance_eq_iff {p center : Vec ℝ} {radius : ℝ} (positive : 0 ≤ radius) :
    p.distance center = radius ↔ (p - center).dot (p - center) = radius * radius := by
  rw [Vec.distance_comm, Vec.distance_eq,
    Real.sqrt_eq_iff_mul_self_eq (Vec.dot_self_nonneg _) positive]

namespace Shape

/-- A shape goes through a point. -/
def Passes : Shape ℝ → Vec ℝ → Prop
  | .segment a b, p => OnEdge p a b
  | .circle center radius, p => p.distance center = radius
  | .polygon vertices, p => ∃ edge ∈ cyclicPairs vertices, OnEdge p edge.1 edge.2

theorem contains_zero {shape : Shape ℝ} {p : Vec ℝ} :
    shape.contains p 0 = true ↔ shape.Passes p := by
  cases shape with
  | segment a b => exact onSegment_zero
  | circle center radius => exact onCircle_zero
  | polygon vertices =>
      rw [contains, List.any_eq_true]
      simp only [edges, onSegment_zero, Passes]

/-- No circle has a negative radius. -/
def Proper : Shape ℝ → Prop
  | .circle _ radius => 0 ≤ radius
  | _ => True

end Shape

end Plane

end FigureMarkup

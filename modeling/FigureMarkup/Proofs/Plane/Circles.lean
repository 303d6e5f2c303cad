import FigureMarkup.Proofs.Plane.Segments

/-!
# Where circles meet

A segment meets a circle where a quadratic equation has a solution between zero and one. Two
circles about different centers meet on both sides of the line through the centers, at a distance
from it that the radii fix. In exact arithmetic the computed points are all common points.
-/

namespace FigureMarkup.Plane

variable {p a b center : Vec ℝ} {radius : ℝ}

/-! ## A segment and a circle -/

/-- The point at a parameter of a line lies on a circle if the parameter solves an equation. -/
theorem lerp_distance_eq_iff (positive : 0 ≤ radius) {t : ℝ} :
    (a.lerp b t).distance center = radius ↔
      (b - a).dot (b - a) * (t * t) + 2 * (a - center).dot (b - a) * t +
        ((a - center).dot (a - center) - radius * radius) = 0 := by
  rw [distance_eq_iff positive]
  simp only [Vec.dot_eq, Vec.sub_x, Vec.sub_y, Vec.lerp_x, Vec.lerp_y]
  constructor <;> intro equation <;> linear_combination equation

/-- The solutions of a quadratic equation in the order in which they are computed. -/
theorem quadratic_iff {qa qb qc : ℝ} (proper : qa ≠ 0) (t : ℝ) :
    qa * (t * t) + qb * t + qc = 0 ↔
      0 ≤ qb * qb - 4 * qa * qc ∧
        (t = (-qb - √(qb * qb - 4 * qa * qc)) / (2 * qa) ∨
          t = (-qb + √(qb * qb - 4 * qa * qc)) / (2 * qa)) := by
  have same : discrim qa qb qc = qb * qb - 4 * qa * qc := by
    rw [discrim]
    ring
  by_cases solvable : 0 ≤ qb * qb - 4 * qa * qc
  · have root : discrim qa qb qc = √(qb * qb - 4 * qa * qc) * √(qb * qb - 4 * qa * qc) := by
      rw [same, Real.mul_self_sqrt solvable]
    rw [quadratic_eq_zero_iff proper root, or_comm]
    exact (and_iff_right solvable).symm
  · refine iff_of_false (fun equation => solvable ?_) fun both => solvable both.1
    rw [← same, discrim_eq_sq_of_quadratic_eq_zero equation]
    exact sq_nonneg _

/-- A segment meets a circle exactly in the computed points. -/
theorem lists_segmentCircle (a b center : Vec ℝ) (positive : 0 ≤ radius) :
    Lists (segmentCircle a b center radius 0)
      (fun p => OnEdge p a b ∧ p.distance center = radius) := by
  unfold segmentCircle
  simp only [zero_mul, neg_zero, Scalar.real_sqrt, Scalar.real_zero, Scalar.real_one, add_zero,
    show (2.0 : ℝ) = 2 by norm_num, show (4.0 : ℝ) = 4 by norm_num]
  by_cases degenerate : a = b
  · subst degenerate
    rw [if_pos (Vec.sub_dot_self_eq_zero.2 rfl).le]
    refine lists_test fun p => ?_
    rw [onEdge_self, onCircle_zero]
    exact and_congr_right fun same => same ▸ Iff.rfl
  · have proper : (b - a).dot (b - a) ≠ 0 := mt Vec.sub_dot_self_eq_zero.1 degenerate
    have long : ¬ (b - a).dot (b - a) ≤ 0 := fun short =>
      proper (le_antisymm short (Vec.dot_self_nonneg _))
    rw [if_neg long]
    -- The points of the segment on the circle are those at the solutions between zero and one.
    have solved (p : Vec ℝ) : OnEdge p a b ∧ p.distance center = radius ↔
        ∃ t, (0 ≤ t ∧ t ≤ 1) ∧ p = a.lerp b t ∧
          (b - a).dot (b - a) * (t * t) + 2 * (a - center).dot (b - a) * t +
            ((a - center).dot (a - center) - radius * radius) = 0 := by
      constructor
      · rintro ⟨⟨t, above, below, rfl⟩, onCircle⟩
        exact ⟨t, ⟨above, below⟩, rfl, (lerp_distance_eq_iff positive).1 onCircle⟩
      · rintro ⟨t, ⟨above, below⟩, rfl, equation⟩
        exact ⟨⟨t, above, below, rfl⟩, (lerp_distance_eq_iff positive).2 equation⟩
    refine fun p => Iff.trans ?_ (solved p).symm
    simp only [quadratic_iff proper, Bool.and_self, decide_eq_true_eq]
    generalize 2 * (a - center).dot (b - a) = qb
    generalize (a - center).dot (a - center) - radius * radius = qc
    generalize (b - a).dot (b - a) = qa
    by_cases negative : qb * qb - 4 * qa * qc < 0
    · rw [if_pos negative]
      simp [not_le.2 negative]
    · rw [if_neg negative, if_neg negative]
      simp only [List.mem_map, List.mem_filter, List.mem_cons, List.not_mem_nil, or_false,
        Scalar.real_isBetween, ← Vec.lerp_eq]
      constructor
      · rintro ⟨t, ⟨root, inside⟩, rfl⟩
        exact ⟨t, inside, rfl, not_lt.1 negative, root⟩
      · rintro ⟨t, inside, rfl, -, root⟩
        exact ⟨t, ⟨root, inside⟩, rfl⟩

/-! ## Two circles -/

section TwoCircles

variable {c₁ c₂ : Vec ℝ} {r₁ r₂ dist : ℝ}

/-- How far the chord of two circles lies from the first center, along the line of centers. -/
noncomputable def chordAt (r₁ r₂ dist : ℝ) : ℝ := (r₁ * r₁ - r₂ * r₂ + dist * dist) / (2.0 * dist)

theorem chordAt_mul (apart : 0 < dist) :
    chordAt r₁ r₂ dist * (2 * dist) = r₁ * r₁ - r₂ * r₂ + dist * dist := by
  rw [chordAt, show (2.0 : ℝ) = 2 by norm_num]
  exact div_mul_cancel₀ _ (by positivity)

/-- Two circles reach each other if the chord lies within the first one. -/
theorem reach_iff (apart : 0 < dist) (first : 0 ≤ r₁) (second : 0 ≤ r₂) :
    ¬ (r₁ + r₂ < dist ∨ dist < |r₁ - r₂|) ↔
      chordAt r₁ r₂ dist * chordAt r₁ r₂ dist ≤ r₁ * r₁ := by
  have chord : chordAt r₁ r₂ dist * (2 * dist) = _ := chordAt_mul apart
  generalize chordAt r₁ r₂ dist = along at chord ⊢
  have double : 0 < 2 * dist := by positivity
  have nearer : along ≤ r₁ ↔ |dist - r₁| ≤ |r₂| := by
    rw [abs_le_iff_mul_self_le, ← mul_le_mul_iff_left₀ double, chord]
    constructor <;> intro bound <;> linarith
  have farther : -r₁ ≤ along ↔ |r₂| ≤ |dist + r₁| := by
    rw [abs_le_iff_mul_self_le, ← mul_le_mul_iff_left₀ double, chord]
    constructor <;> intro bound <;> linarith
  rw [← abs_le_iff_mul_self_le, abs_of_nonneg first, abs_le, nearer, farther, abs_of_nonneg second,
    abs_of_pos (show 0 < dist + r₁ by linarith), abs_le, not_or, not_lt, not_lt, abs_le]
  constructor
  · rintro ⟨reach, low, high⟩
    exact ⟨by linarith, by linarith, by linarith⟩
  · rintro ⟨low, high, reach⟩
    exact ⟨by linarith, by linarith, by linarith⟩

/-- A direction of length one, and a displacement as a multiple of it. -/
theorem exists_direction {d : Vec ℝ} (apart : dist ≠ 0) (squared : d.dot d = dist * dist) :
    ∃ e : Vec ℝ, e.x * e.x + e.y * e.y = 1 ∧ d = e * dist := by
  refine ⟨d * (1 / dist), ?_, ?_⟩
  · rw [Vec.dot_eq] at squared
    rw [Vec.mul_x, Vec.mul_y]
    field_simp
    linear_combination squared
  · ext <;> simp [apart]

/-- The common points of two circles lie on the chord, on both sides of the line of centers. -/
theorem onBoth_iff (apart : 0 < dist) (squared : (c₂ - c₁).dot (c₂ - c₁) = dist * dist)
    (first : 0 ≤ r₁) (second : 0 ≤ r₂) :
    p.distance c₁ = r₁ ∧ p.distance c₂ = r₂ ↔
      ∃ k, k * k = r₁ * r₁ - chordAt r₁ r₂ dist * chordAt r₁ r₂ dist ∧
        p = c₁ + (c₂ - c₁) * (chordAt r₁ r₂ dist / dist) + (c₂ - c₁).perp * (k / dist) := by
  rw [distance_eq_iff first, distance_eq_iff second]
  have chord : chordAt r₁ r₂ dist * (2 * dist) = _ := chordAt_mul apart
  generalize chordAt r₁ r₂ dist = along at chord ⊢
  have proper : dist ≠ 0 := apart.ne'
  obtain ⟨e, unit, displaced⟩ := exists_direction proper squared
  have x : c₂.x = c₁.x + e.x * dist := by
    rw [← Vec.mul_x, ← displaced, Vec.sub_x]
    ring
  have y : c₂.y = c₁.y + e.y * dist := by
    rw [← Vec.mul_y, ← displaced, Vec.sub_y]
    ring
  have scaled (s t : ℝ) : s * dist * (t / dist) = s * t := by
    field_simp
  simp only [displaced, Vec.ext_iff, Vec.dot_eq, Vec.add_x, Vec.add_y, Vec.sub_x, Vec.sub_y,
    Vec.mul_x, Vec.mul_y, Vec.perp_x, Vec.perp_y, ← neg_mul, scaled, x, y]
  constructor
  · rintro ⟨onFirst, onSecond⟩
    have foot : (p.x - c₁.x) * e.x + (p.y - c₁.y) * e.y = along := by
      refine mul_right_cancel₀ (mul_ne_zero two_ne_zero proper) ?_
      linear_combination onFirst - onSecond + dist ^ 2 * unit - chord
    refine ⟨e.x * (p.y - c₁.y) - e.y * (p.x - c₁.x), ?_, ?_, ?_⟩
    · linear_combination
        ((p.x - c₁.x) ^ 2 + (p.y - c₁.y) ^ 2) * unit + onFirst -
          ((p.x - c₁.x) * e.x + (p.y - c₁.y) * e.y + along) * foot
    · linear_combination e.x * foot - (p.x - c₁.x) * unit
    · linear_combination e.y * foot - (p.y - c₁.y) * unit
  · rintro ⟨k, side, atX, atY⟩
    rw [atX, atY]
    constructor
    · linear_combination (along ^ 2 + k ^ 2) * unit + side
    · linear_combination ((along - dist) ^ 2 + k ^ 2) * unit + side - chord

/-- Two circles about different centers meet exactly in the computed points. -/
theorem lists_circleCircle (apart : c₁ ≠ c₂) (first : 0 ≤ r₁) (second : 0 ≤ r₂) :
    Lists (circleCircle c₁ r₁ c₂ r₂ 0)
      (fun p => p.distance c₁ = r₁ ∧ p.distance c₂ = r₂) := by
  have distant : 0 < c₁.distance c₂ :=
    lt_of_le_of_ne Vec.distance_nonneg (Ne.symm (mt Vec.distance_eq_zero.1 apart))
  have squared : (c₂ - c₁).dot (c₂ - c₁) = c₁.distance c₂ * c₁.distance c₂ :=
    (Real.mul_self_sqrt (Vec.dot_self_nonneg _)).symm
  refine fun p => Iff.trans ?_ (onBoth_iff distant squared first second).symm
  unfold circleCircle
  simp only [← Vec.distance.eq_def, add_zero, sub_zero, Scalar.real_abs, Scalar.real_sqrt,
    Scalar.real_max, Scalar.real_zero, Bool.or_eq_true, decide_eq_true_eq, ← chordAt.eq_def]
  rw [if_neg (not_le.2 distant)]
  have reached := reach_iff distant first second
  generalize chordAt r₁ r₂ (c₁.distance c₂) = along at reached ⊢
  generalize c₁ + (c₂ - c₁) * (along / c₁.distance c₂) = middle
  by_cases reach : along * along ≤ r₁ * r₁
  · rw [if_neg (reached.2 reach), max_eq_left (sub_nonneg.2 reach)]
    have height := Real.mul_self_sqrt (sub_nonneg.2 reach)
    have positive := Real.sqrt_nonneg (r₁ * r₁ - along * along)
    generalize √(r₁ * r₁ - along * along) = h at height positive ⊢
    -- The two sides of the line of centers, which are one where the circles only touch.
    have sides (k : ℝ) : k * k = r₁ * r₁ - along * along ↔ k = h ∨ k = -h := by
      rw [← height, mul_self_eq_mul_self_iff]
    simp only [sides, or_and_right, exists_or, exists_eq_left]
    have opposite : middle + (c₂ - c₁).perp * (-h / c₁.distance c₂) =
        middle - (c₂ - c₁).perp * (h / c₁.distance c₂) := by
      ext <;> simp <;> ring
    rw [opposite]
    by_cases touching : h ≤ 0
    · obtain rfl : h = 0 := le_antisymm touching positive
      have left : middle + (c₂ - c₁).perp * (0 / c₁.distance c₂) = middle := by
        ext <;> simp
      have right : middle - (c₂ - c₁).perp * (0 / c₁.distance c₂) = middle := by
        ext <;> simp
      rw [if_pos le_rfl, left, right, or_self, List.mem_singleton]
    · rw [if_neg touching, List.mem_cons, List.mem_singleton]
  · rw [if_pos (not_not.1 (mt reached.1 reach))]
    refine iff_of_false List.not_mem_nil ?_
    rintro ⟨k, side, -⟩
    exact reach (sub_nonneg.1 (side ▸ mul_self_nonneg k))

end TwoCircles

end FigureMarkup.Plane

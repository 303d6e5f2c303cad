import FigureMarkup.Proofs.Plane.Segments

/-!
# The circle through three points

The center of a circle through three points has the same distance from each of them, which is to say
that two linear equations hold. The equations have one solution unless the points lie on a line. In
exact arithmetic the computed circle is therefore the only one through the points, in whichever
order they are given.
-/

namespace FigureMarkup.Plane

/-- Some points lie on one line. -/
def Collinear (points : List (Vec ℝ)) : Prop :=
  ∃ start direction : Vec ℝ, ∀ p ∈ points, ∃ t : ℝ, p = start + direction * t

/-- A circle goes through some points. -/
def Circumscribes (center : Vec ℝ) (radius : ℝ) (points : List (Vec ℝ)) : Prop :=
  ∀ p ∈ points, p.distance center = radius

variable {a b c : Vec ℝ}

theorem collinear_iff : Collinear [a, b, c] ↔ (b - a).cross (c - a) = 0 := by
  constructor
  · rintro ⟨start, direction, on⟩
    obtain ⟨r, atA⟩ := on a (by simp)
    obtain ⟨s, atB⟩ := on b (by simp)
    obtain ⟨t, atC⟩ := on c (by simp)
    rw [atA, atB, atC]
    simp only [Vec.cross_eq, Vec.sub_x, Vec.sub_y, Vec.add_x, Vec.add_y, Vec.mul_x, Vec.mul_y]
    ring
  · intro flat
    by_cases same : a = b
    · subst same
      refine ⟨a, c - a, ?_⟩
      simp only [List.forall_mem_cons, List.not_mem_nil, false_implies, implies_true, and_true]
      exact ⟨⟨0, by ext <;> simp⟩, ⟨0, by ext <;> simp⟩, 1, by ext <;> simp⟩
    · have proper : (b - a).dot (b - a) ≠ 0 := mt Vec.sub_dot_self_eq_zero.1 same
      have turned : (c - a).cross (b - a) = 0 := by
        rw [Vec.cross_eq] at flat ⊢
        linear_combination -flat
      have along := eq_mul_of_cross_eq_zero proper turned
      refine ⟨a, b - a, ?_⟩
      simp only [List.forall_mem_cons, List.not_mem_nil, false_implies, implies_true, and_true]
      refine ⟨⟨0, by ext <;> simp⟩, ⟨1, by ext <;> simp⟩,
        (c - a).dot (b - a) / (b - a).dot (b - a), ?_⟩
      rw [← along]
      ext <;> simp

/-- A point has the same distance from two others if it solves a linear equation. -/
theorem distance_eq_distance_iff {o : Vec ℝ} :
    b.distance o = a.distance o ↔ 2 * (b - a).dot o = b.dot b - a.dot a := by
  rw [Vec.distance_eq, Vec.distance_eq,
    Real.sqrt_inj (Vec.dot_self_nonneg _) (Vec.dot_self_nonneg _)]
  simp only [Vec.dot_eq, Vec.sub_x, Vec.sub_y]
  constructor <;> intro equation <;> linear_combination -equation

/-- The solution of the two linear equations. -/
noncomputable def circumcenter (a b c : Vec ℝ) : Vec ℝ :=
  let area := (b - a).cross (c - a)
  ⟨(a.dot a * (b.y - c.y) + b.dot b * (c.y - a.y) + c.dot c * (a.y - b.y)) / (area + area),
    (a.dot a * (c.x - b.x) + b.dot b * (a.x - c.x) + c.dot c * (b.x - a.x)) / (area + area)⟩

theorem eq_circumcenter_iff (proper : (b - a).cross (c - a) ≠ 0) {o : Vec ℝ} :
    o = circumcenter a b c ↔ b.distance o = a.distance o ∧ c.distance o = a.distance o := by
  have double : 2 * (b - a).cross (c - a) ≠ 0 := mul_ne_zero two_ne_zero proper
  rw [distance_eq_distance_iff, distance_eq_distance_iff, Vec.ext_iff]
  simp only [circumcenter, ← two_mul]
  rw [eq_div_iff double, eq_div_iff double]
  simp only [Vec.dot_eq, Vec.cross_eq, Vec.sub_x, Vec.sub_y] at double ⊢
  constructor
  · rintro ⟨x, y⟩
    constructor
    · refine mul_left_cancel₀ double ?_
      linear_combination 2 * (b.x - a.x) * x + 2 * (b.y - a.y) * y
    · refine mul_left_cancel₀ double ?_
      linear_combination 2 * (c.x - a.x) * x + 2 * (c.y - a.y) * y
  · rintro ⟨first, second⟩
    constructor
    · linear_combination (c.y - a.y) * first - (b.y - a.y) * second
    · linear_combination (b.x - a.x) * second - (c.x - a.x) * first

/-- There is one circle through three points that do not lie on a line. -/
theorem circumscribes_iff (proper : (b - a).cross (c - a) ≠ 0) {o : Vec ℝ} {radius : ℝ} :
    Circumscribes o radius [a, b, c] ↔
      o = circumcenter a b c ∧ radius = (circumcenter a b c).distance a := by
  constructor
  · intro through
    have first : a.distance o = radius := through a (by simp)
    have second : b.distance o = radius := through b (by simp)
    have third : c.distance o = radius := through c (by simp)
    obtain rfl := (eq_circumcenter_iff proper).2
      ⟨second.trans first.symm, third.trans first.symm⟩
    exact ⟨rfl, first.symm.trans Vec.distance_comm⟩
  · rintro ⟨rfl, rfl⟩
    obtain ⟨second, third⟩ := (eq_circumcenter_iff proper).1 rfl
    rw [Vec.distance_comm]
    simp [Circumscribes, second, third]

theorem circumcircle_zero (a b c : Vec ℝ) :
    circumcircle a b c 0 =
      if (b - a).cross (c - a) = 0 then none
      else some (.circle (circumcenter a b c) ((circumcenter a b c).distance a)) := by
  have area : (2.0 : ℝ) * (a.x * (b.y - c.y) + b.x * (c.y - a.y) + c.x * (a.y - b.y)) =
      2 * (b - a).cross (c - a) := by
    simp only [Vec.cross_eq, Vec.sub_x, Vec.sub_y]
    norm_num
    ring
  unfold circumcircle
  dsimp only
  rw [area, Scalar.real_abs]
  simp only [abs_nonpos_iff, mul_eq_zero, two_ne_zero, false_or, circumcenter, ← two_mul]

theorem circumcircle_eq_none_iff : circumcircle a b c 0 = none ↔ Collinear [a, b, c] := by
  rw [circumcircle_zero, collinear_iff]
  split <;> simp_all

theorem circumcircle_eq_some_iff {shape : Shape ℝ} :
    circumcircle a b c 0 = some shape ↔
      ¬ Collinear [a, b, c] ∧
        ∃ center radius, shape = .circle center radius ∧
          Circumscribes center radius [a, b, c] := by
  rw [circumcircle_zero, collinear_iff]
  by_cases flat : (b - a).cross (c - a) = 0
  · rw [if_pos flat]
    exact iff_of_false nofun fun both => both.1 flat
  · rw [if_neg flat, Option.some.injEq, and_iff_right flat]
    simp only [circumscribes_iff flat]
    constructor
    · rintro rfl
      exact ⟨_, _, rfl, rfl, rfl⟩
    · rintro ⟨center, radius, rfl, rfl, rfl⟩
      rfl

/-- The computed circle is the circle through three points. There is none exactly if the points lie
on a line, there is no other one, and the order of the points does not matter. -/
theorem circumcircle_exact (a b c : Vec ℝ) :
    (circumcircle a b c 0 = none ↔ Collinear [a, b, c]) ∧
      (∀ shape, circumcircle a b c 0 = some shape →
        ∃ center radius, shape = .circle center radius ∧
          Circumscribes center radius [a, b, c] ∧
          ∀ other size, Circumscribes other size [a, b, c] → other = center ∧ size = radius) ∧
      ∀ p q r, [p, q, r].Perm [a, b, c] → circumcircle p q r 0 = circumcircle a b c 0 := by
  refine ⟨circumcircle_eq_none_iff, fun shape computed => ?_, fun p q r order => ?_⟩
  · obtain ⟨proper, center, radius, rfl, through⟩ := circumcircle_eq_some_iff.1 computed
    refine ⟨center, radius, rfl, through, fun other size alsoThrough => ?_⟩
    rw [collinear_iff] at proper
    obtain ⟨rfl, rfl⟩ := (circumscribes_iff proper).1 through
    exact (circumscribes_iff proper).1 alsoThrough
  · have members (s : Vec ℝ) : s ∈ [p, q, r] ↔ s ∈ [a, b, c] := order.mem_iff
    refine Option.ext fun shape => ?_
    simp only [circumcircle_eq_some_iff, Collinear, Circumscribes, members]

end FigureMarkup.Plane

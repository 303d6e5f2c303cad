import FigureMarkup.Proofs.Plane.Exact

/-!
# Where segments meet

Two segments meet in no point, in one, or in a stretch. In exact arithmetic the computed points are
common points, there is one whenever the segments meet, and unless the segments share a stretch it
is the only common point.
-/

namespace FigureMarkup.Plane

/-! ## Lists of common points -/

/-- Some points are exactly those that have a property. -/
def Lists (points : List (Vec ℝ)) (common : Vec ℝ → Prop) : Prop := ∀ p, p ∈ points ↔ common p

/-- Some points have a property, there is one of them if any point has it, and they are all such
points unless there are infinitely many. -/
structure Represents (points : List (Vec ℝ)) (common : Vec ℝ → Prop) : Prop where
  sound : ∀ p ∈ points, common p
  nonempty : ∀ p, common p → points ≠ []
  complete : {p | common p}.Finite → ∀ p, common p → p ∈ points

namespace Represents

variable {points : List (Vec ℝ)} {common other : Vec ℝ → Prop}

theorem of_lists (lists : Lists points common) : Represents points common where
  sound p := (lists p).1
  nonempty p shared := List.ne_nil_of_mem ((lists p).2 shared)
  complete _ p := (lists p).2

theorem congr (represents : Represents points common) (same : ∀ p, common p ↔ other p) :
    Represents points other := by
  obtain rfl : common = other := funext fun p => propext (same p)
  exact represents

/-- No point has a property. -/
theorem nil (apart : ∀ p, ¬ common p) : Represents [] common :=
  .of_lists fun p => by simp [apart p]

end Represents

theorem Lists.congr {points : List (Vec ℝ)} {common other : Vec ℝ → Prop}
    (lists : Lists points common) (same : ∀ p, common p ↔ other p) : Lists points other :=
  fun p => (lists p).trans (same p)

/-- A point that is tested. -/
theorem lists_test {test : Bool} {q : Vec ℝ} {common : Vec ℝ → Prop}
    (decides : ∀ p, common p ↔ p = q ∧ test = true) :
    Lists (if test then [q] else []) common := by
  intro p
  rw [decides]
  cases test <;> simp

/-! ## The line through a segment -/

variable {a b a₁ b₁ a₂ b₂ p : Vec ℝ}

theorem lerp_injective (proper : a ≠ b) : Function.Injective (a.lerp b) := by
  intro s t same
  by_contra differ
  have x := congrArg Vec.x same
  have y := congrArg Vec.y same
  simp only [Vec.lerp_x, Vec.lerp_y, add_right_inj, mul_eq_mul_left_iff, differ, false_or] at x y
  exact proper (Vec.ext (sub_eq_zero.1 x).symm (sub_eq_zero.1 y).symm)

/-- A displacement along a segment is a multiple of it. -/
theorem eq_mul_of_cross_eq_zero {v d : Vec ℝ} (proper : d.dot d ≠ 0) (along : v.cross d = 0) :
    v = d * (v.dot d / d.dot d) := by
  rw [Vec.cross_eq] at along
  ext
  · rw [Vec.mul_x, mul_div_assoc', eq_div_iff proper, Vec.dot_eq, Vec.dot_eq]
    linear_combination d.y * along
  · rw [Vec.mul_y, mul_div_assoc', eq_div_iff proper, Vec.dot_eq, Vec.dot_eq]
    linear_combination -d.x * along

/-- The part of a line between the points at two parameters. -/
theorem onEdge_lerp {t₀ t₁ : ℝ} :
    OnEdge p (a.lerp b t₀) (a.lerp b t₁) ↔
      ∃ s, min t₀ t₁ ≤ s ∧ s ≤ max t₀ t₁ ∧ p = a.lerp b s := by
  constructor
  · rintro ⟨u, above, below, rfl⟩
    refine ⟨t₀ + (t₁ - t₀) * u, ?_, ?_, by ext <;> simp <;> ring⟩
    · rcases le_total t₀ t₁ with order | order
      · rw [min_eq_left order]
        nlinarith
      · rw [min_eq_right order]
        nlinarith
    · rcases le_total t₀ t₁ with order | order
      · rw [max_eq_right order]
        nlinarith
      · rw [max_eq_left order]
        nlinarith
  · rintro ⟨s, above, below, rfl⟩
    by_cases same : t₀ = t₁
    · subst same
      rw [min_self] at above
      rw [max_self] at below
      rw [le_antisymm below above]
      exact onEdge_start _ _
    · have differ : t₁ - t₀ ≠ 0 := sub_ne_zero.2 (Ne.symm same)
      refine ⟨(s - t₀) / (t₁ - t₀), ?_, ?_, ?_⟩
      · rcases lt_or_gt_of_ne same with order | order
        · rw [min_eq_left order.le] at above
          exact div_nonneg (by linarith) (by linarith)
        · rw [max_eq_left order.le] at below
          exact div_nonneg_of_nonpos (by linarith) (by linarith)
      · rcases lt_or_gt_of_ne same with order | order
        · rw [max_eq_right order.le] at below
          rw [div_le_one (by linarith)]
          linarith
        · rw [min_eq_right order.le] at above
          rw [div_le_one_of_neg (by linarith)]
          linarith
      · ext <;> simp only [Vec.lerp_x, Vec.lerp_y] <;> field_simp <;> ring

/-! ## Parallel segments -/

/-- Two segments of one line share the stretch that lies between the ends of both. -/
theorem common_iff_of_collinear (proper : a ≠ b) {t₀ t₁ : ℝ} :
    OnEdge p a b ∧ OnEdge p (a.lerp b t₀) (a.lerp b t₁) ↔
      ∃ s, max 0 (min t₀ t₁) ≤ s ∧ s ≤ min 1 (max t₀ t₁) ∧ p = a.lerp b s := by
  rw [onEdge_lerp]
  simp only [max_le_iff, le_min_iff]
  constructor
  · rintro ⟨⟨t, above, below, rfl⟩, s, alsoAbove, alsoBelow, same⟩
    obtain rfl := lerp_injective proper same
    exact ⟨t, ⟨above, alsoAbove⟩, ⟨below, alsoBelow⟩, rfl⟩
  · rintro ⟨s, ⟨above, alsoAbove⟩, ⟨below, alsoBelow⟩, same⟩
    exact ⟨⟨s, above, below, same⟩, s, alsoAbove, alsoBelow, same⟩

/-- A stretch is represented by its middle. -/
theorem represents_stretch (proper : a ≠ b) (low high : ℝ) :
    Represents (if high < low then [] else [a.lerp b ((low + high) / 2)])
      (fun p => ∃ s, low ≤ s ∧ s ≤ high ∧ p = a.lerp b s) := by
  by_cases empty : high < low
  · rw [if_pos empty]
    refine .nil ?_
    rintro p ⟨s, above, below, -⟩
    linarith
  · rw [if_neg empty]
    refine ⟨?_, by simp, ?_⟩
    · intro p member
      exact ⟨(low + high) / 2, by linarith, by linarith, List.mem_singleton.1 member⟩
    · rintro finite p ⟨s, above, below, rfl⟩
      have thin : low = high := by
        by_contra differ
        have stretch : ((a.lerp b) '' Set.Icc low high).Infinite :=
          (Set.Icc_infinite (lt_of_le_of_ne (not_lt.1 empty) differ)).image
            (lerp_injective proper).injOn
        refine stretch (finite.subset ?_)
        rintro q ⟨u, ⟨alsoAbove, alsoBelow⟩, rfl⟩
        exact ⟨u, alsoAbove, alsoBelow, rfl⟩
      have middle : s = (low + high) / 2 := by linarith
      rw [middle, List.mem_singleton]

theorem represents_parallelSegments (proper : a₁ ≠ b₁)
    (parallel : (b₁ - a₁).cross (b₂ - a₂) = 0) :
    Represents (parallelSegments a₁ b₁ a₂ b₂ 0)
      (fun p => OnEdge p a₁ b₁ ∧ OnEdge p a₂ b₂) := by
  have squared : (b₁ - a₁).dot (b₁ - a₁) ≠ 0 := mt Vec.sub_dot_self_eq_zero.1 proper
  unfold parallelSegments
  simp only [zero_mul, Scalar.real_abs, Scalar.real_min, Scalar.real_max, Scalar.real_zero,
    Scalar.real_one, abs_pos, add_zero]
  by_cases apart : (a₂ - a₁).cross (b₁ - a₁) = 0
  · rw [if_neg (not_not.2 apart)]
    -- Both ends of the second segment lie on the line through the first one.
    have along : (b₂ - a₁).cross (b₁ - a₁) = 0 := by
      simp only [Vec.cross_eq, Vec.sub_x, Vec.sub_y] at apart parallel ⊢
      linear_combination apart - parallel
    have start := eq_mul_of_cross_eq_zero squared apart
    have stop := eq_mul_of_cross_eq_zero squared along
    generalize (a₂ - a₁).dot (b₁ - a₁) / (b₁ - a₁).dot (b₁ - a₁) = t₀ at start ⊢
    generalize (b₂ - a₁).dot (b₁ - a₁) / (b₁ - a₁).dot (b₁ - a₁) = t₁ at stop ⊢
    have first : a₂ = a₁.lerp b₁ t₀ := by
      rw [Vec.lerp_eq, ← start]
      ext <;> simp
    have second : b₂ = a₁.lerp b₁ t₁ := by
      rw [Vec.lerp_eq, ← stop]
      ext <;> simp
    have stretch := represents_stretch proper (max 0 (min t₀ t₁)) (min 1 (max t₀ t₁))
    rw [show (2.0 : ℝ) = 2 by norm_num, first, second]
    exact stretch.congr fun p => (common_iff_of_collinear proper).symm
  · rw [if_pos apart]
    refine .nil ?_
    rintro p ⟨⟨t, -, -, rfl⟩, u, -, -, same⟩
    rw [Vec.ext_iff] at same
    refine apart ?_
    simp only [Vec.cross_eq, Vec.sub_x, Vec.sub_y, Vec.lerp_x, Vec.lerp_y] at same parallel ⊢
    linear_combination (b₁.x - a₁.x) * same.2 - (b₁.y - a₁.y) * same.1 + u * parallel

/-! ## All segments -/

/-- Two segments run along each other: both have a length, and they have one direction. -/
def Parallel (a₁ b₁ a₂ b₂ : Vec ℝ) : Prop :=
  a₁ ≠ b₁ ∧ a₂ ≠ b₂ ∧ (b₁ - a₁).cross (b₂ - a₂) = 0

/-- The parameters of the point where two lines cross. -/
theorem crossing_iff (crossing : (b₁ - a₁).cross (b₂ - a₂) ≠ 0) {t u : ℝ} :
    a₁.lerp b₁ t = a₂.lerp b₂ u ↔
      t = (a₂ - a₁).cross (b₂ - a₂) / (b₁ - a₁).cross (b₂ - a₂) ∧
        u = (a₂ - a₁).cross (b₁ - a₁) / (b₁ - a₁).cross (b₂ - a₂) := by
  rw [eq_div_iff crossing, eq_div_iff crossing, Vec.ext_iff]
  simp only [Vec.cross_eq, Vec.sub_x, Vec.sub_y, Vec.lerp_x, Vec.lerp_y] at crossing ⊢
  constructor
  · rintro ⟨x, y⟩
    constructor
    · linear_combination (b₂.y - a₂.y) * x - (b₂.x - a₂.x) * y
    · linear_combination (b₁.y - a₁.y) * x - (b₁.x - a₁.x) * y
  · rintro ⟨first, second⟩
    constructor
    · refine mul_right_cancel₀ crossing ?_
      linear_combination (b₁.x - a₁.x) * first - (b₂.x - a₂.x) * second
    · refine mul_right_cancel₀ crossing ?_
      linear_combination (b₁.y - a₁.y) * first - (b₂.y - a₂.y) * second

/-- Where two segments meet, by the case into which they fall. -/
theorem segmentSegment_cases (a₁ b₁ a₂ b₂ : Vec ℝ) :
    Lists (segmentSegment a₁ b₁ a₂ b₂ 0) (fun p => OnEdge p a₁ b₁ ∧ OnEdge p a₂ b₂) ∨
      Parallel a₁ b₁ a₂ b₂ ∧
        segmentSegment a₁ b₁ a₂ b₂ 0 = parallelSegments a₁ b₁ a₂ b₂ 0 := by
  have short (a b : Vec ℝ) : (b - a).dot (b - a) ≤ 0 ↔ a = b := by
    rw [← Vec.sub_dot_self_eq_zero]
    exact ⟨fun small => le_antisymm small (Vec.dot_self_nonneg _), le_of_eq⟩
  unfold segmentSegment
  simp only [zero_mul, mul_zero, Scalar.real_abs, Scalar.real_one, neg_zero, add_zero,
    abs_nonpos_iff, short]
  by_cases first : a₁ = b₁
  · subst first
    rw [if_pos rfl]
    refine .inl (lists_test fun p => ?_)
    rw [onSegment_zero, onEdge_self]
    exact and_congr_right fun same => same ▸ Iff.rfl
  · rw [if_neg first]
    by_cases second : a₂ = b₂
    · subst second
      rw [if_pos rfl]
      refine .inl (lists_test fun p => ?_)
      rw [onSegment_zero, onEdge_self, and_comm]
      exact and_congr_right fun same => same ▸ Iff.rfl
    · rw [if_neg second]
      by_cases crossing : (b₁ - a₁).cross (b₂ - a₂) = 0
      · rw [if_pos crossing]
        exact .inr ⟨⟨first, second, crossing⟩, rfl⟩
      · rw [if_neg crossing]
        refine .inl (lists_test fun p => ?_)
        rw [Bool.and_eq_true, Scalar.real_isBetween, Scalar.real_isBetween]
        constructor
        · rintro ⟨⟨t, above, below, rfl⟩, u, alsoAbove, alsoBelow, same⟩
          obtain ⟨rfl, rfl⟩ := (crossing_iff crossing).1 same
          exact ⟨rfl, ⟨above, below⟩, alsoAbove, alsoBelow⟩
        · rintro ⟨rfl, ⟨above, below⟩, alsoAbove, alsoBelow⟩
          exact ⟨⟨_, above, below, rfl⟩, _, alsoAbove, alsoBelow,
            (crossing_iff crossing).2 ⟨rfl, rfl⟩⟩

/-- Segments that are not parallel meet exactly in the computed points. -/
theorem lists_segmentSegment (crossing : ¬ Parallel a₁ b₁ a₂ b₂) :
    Lists (segmentSegment a₁ b₁ a₂ b₂ 0) (fun p => OnEdge p a₁ b₁ ∧ OnEdge p a₂ b₂) :=
  (segmentSegment_cases a₁ b₁ a₂ b₂).resolve_right fun ⟨parallel, _⟩ => crossing parallel

theorem represents_segmentSegment (a₁ b₁ a₂ b₂ : Vec ℝ) :
    Represents (segmentSegment a₁ b₁ a₂ b₂ 0) (fun p => OnEdge p a₁ b₁ ∧ OnEdge p a₂ b₂) := by
  rcases segmentSegment_cases a₁ b₁ a₂ b₂ with lists | ⟨⟨proper, -, parallel⟩, same⟩
  · exact .of_lists lists
  · rw [same]
    exact represents_parallelSegments proper parallel

end FigureMarkup.Plane

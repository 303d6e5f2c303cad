import FigureMarkup.Proofs.Random.Exact

/-!
# Random points of shapes

A point that is drawn from a shape lies on it, in exact arithmetic and whatever the source draws.
On a segment the parameter stays between zero and one, whichever padding is asked for.
-/

namespace FigureMarkup.Plane

variable {σ : Type} [Random.Source σ ℝ] [Random.Ranged σ]

/-- A random point of a segment has a parameter that keeps away from both ends by the padding, of
which at most `0.49` counts. -/
theorem exists_lerp_randomOnSegment (a b : Vec ℝ) (padding : ℝ) (source : σ) :
    ∃ t ∈ Set.Ico (min 0.49 (max 0 padding)) (1 - min 0.49 (max 0 padding)),
      (randomOnSegment a b padding source).1 = a.lerp b t := by
  have positive : 0 ≤ min 0.49 (max 0 padding) := le_min (by norm_num) (le_max_left 0 padding)
  have limited : min 0.49 (max 0 padding) ≤ 0.49 := min_le_left _ _
  unfold randomOnSegment
  dsimp only
  rw [Scalar.real_clamp_eq, Scalar.real_zero, Scalar.real_one]
  generalize min 0.49 (max 0 padding) = kept at positive limited ⊢
  norm_num at limited
  split
  case isTrue =>
    have range : kept < 1 - kept := by linarith
    exact ⟨_, Random.Ranged.below_mem range source, rfl⟩
  case isFalse unpadded =>
    obtain rfl : kept = 0 := le_antisymm (not_lt.1 unpadded) positive
    rw [sub_zero]
    exact ⟨_, Random.Ranged.fraction_mem source, rfl⟩

theorem onEdge_randomOnSegment (a b : Vec ℝ) (padding : ℝ) (source : σ) :
    OnEdge (randomOnSegment a b padding source).1 a b := by
  obtain ⟨t, ⟨above, below⟩, same⟩ := exists_lerp_randomOnSegment a b padding source
  have positive : 0 ≤ min 0.49 (max 0 padding) := le_min (by norm_num) (le_max_left 0 padding)
  exact ⟨t, by linarith, by linarith, same⟩

omit [Random.Ranged σ] in
theorem distance_randomOnCircle (center : Vec ℝ) {radius : ℝ} (positive : 0 ≤ radius)
    (source : σ) : (randomOnCircle center radius source).1.distance center = radius := by
  rw [distance_eq_iff positive]
  unfold randomOnCircle
  dsimp only
  generalize (Random.Source.below (0.0 : ℝ) Scalar.tau source).1 = theta
  simp only [Vec.dot_eq, Vec.sub_x, Vec.sub_y, Vec.add_x, Vec.add_y, Vec.mul_x, Vec.mul_y,
    Scalar.real_sin, Scalar.real_cos]
  linear_combination radius ^ 2 * Real.sin_sq_add_cos_sq theta

namespace Shape

/-- Points can be drawn from a shape: its radius is not negative, and it has edges if it is a
polygon. -/
def Drawable : Shape ℝ → Prop
  | .segment _ _ => True
  | .circle _ radius => 0 ≤ radius
  | .polygon vertices => 2 ≤ vertices.length

theorem Drawable.proper {shape : Shape ℝ} (drawable : shape.Drawable) : shape.Proper := by
  cases shape <;> first | exact drawable | trivial

theorem cyclicPairs_ne_nil {β : Type} {members : List β} (several : 2 ≤ members.length) :
    cyclicPairs members ≠ [] := by
  match members, several with
  | first :: second :: rest, _ => simp [cyclicPairs]

/-- A random point of a shape lies on the shape. -/
theorem passes_randomPoint [Random.Lawful σ] {shape : Shape ℝ} (drawable : shape.Drawable)
    (padding : ℝ) (source : σ) : shape.Passes (shape.randomPoint padding source).1 := by
  cases shape with
  | segment a b => exact onEdge_randomOnSegment a b padding source
  | circle center radius => exact distance_randomOnCircle center drawable source
  | polygon vertices =>
      unfold randomPoint
      dsimp only
      rcases chosen : Random.choose (polygon vertices).edges source with ⟨_ | ⟨a, b⟩, later⟩
      · have empty : cyclicPairs vertices = [] :=
          Random.choose_eq_none_iff.1 (congrArg Prod.fst chosen)
        exact absurd empty (cyclicPairs_ne_nil drawable)
      · exact ⟨(a, b), Random.mem_of_choose chosen, onEdge_randomOnSegment a b padding later⟩

end Shape

end FigureMarkup.Plane

import FigureMarkup.Proofs.Plane.Sizes
import FigureMarkup.Proofs.Random.Magnitudes

/-!
# Distances of places

A distance is computed as the root of a sum of squares. For finite places it is a number that is not
negative. It is infinite where the sum of squares overflows, and zero where that sum vanishes, which
does not only happen if the two places are the same.
-/

namespace FigureMarkup.Plane.Vec

open FigureMarkup.Random

/-- The sum of squares of which a distance is the root. -/
def squaredDistance (a b : Vec Float) : Float := (b - a).dot (b - a)

/-- Two places are not too close to each other in one of their coordinates. -/
def Apart (a b : Vec Float) : Prop :=
  (1e-150 ≤ b.x - a.x ∨ b.x - a.x ≤ -1e-150) ∨ 1e-150 ≤ b.y - a.y ∨ b.y - a.y ≤ -1e-150

instance (a b : Vec Float) : Decidable (a.Apart b) :=
  inferInstanceAs (Decidable (_ ∨ _))

theorem distance_eq_sqrt (a b : Vec Float) : a.distance b = (a.squaredDistance b).sqrt := rfl

variable {a b : Vec Float}

theorem magnitude_squaredDistance (first : a.IsFinite) (second : b.IsFinite) :
    Magnitude (a.squaredDistance b).toModel.unpack :=
  magnitude_add
    (magnitude_square (sub_isNumber (.of_isFinite second.1) (.of_isFinite first.1)))
    (magnitude_square (sub_isNumber (.of_isFinite second.2) (.of_isFinite first.2)))

/-- The distance of finite places is not negative. It is finite or positive exactly if the sum of
squares is. -/
theorem distance_of_isFinite (first : a.IsFinite) (second : b.IsFinite) :
    0.0 ≤ a.distance b ∧ (a.distance b).isFinite = (a.squaredDistance b).isFinite ∧
      (0.0 < a.distance b ↔ 0.0 < a.squaredDistance b) := by
  rw [distance_eq_sqrt]
  exact sqrt_of_magnitude (magnitude_squaredDistance first second)

theorem sized_e150 : Random.Sized 446 (1e150 : Float) :=
  (sized_iff (by decide)).2 (by decide +kernel)

/-- The distance of places that are neither too far away nor too close is finite and positive. -/
theorem distance_of_apart (first : a.UpTo 1e150) (second : b.UpTo 1e150) (apart : a.Apart b) :
    (a.distance b).isFinite = true ∧ 0.0 < a.distance b := by
  have start := first.sized sized_e150 (by decide)
  have stop := second.sized sized_e150 (by decide)
  have span : (b - a).Sized 448 := stop.sub start (by decide)
  obtain ⟨finite, positive⟩ := squares_of_sized span.1 span.2 apart
  obtain ⟨-, sameFinite, samePositive⟩ := distance_of_isFinite start.isFinite stop.isFinite
  exact ⟨sameFinite.trans finite, samePositive.2 positive⟩

end FigureMarkup.Plane.Vec

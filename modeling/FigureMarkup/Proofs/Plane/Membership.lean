import FigureMarkup.Proofs.Plane.Circles
import FigureMarkup.Proofs.Plane.RandomPoints

/-!
# Membership and distance

A shape contains the points that are no further from its curve than a tolerance. The point of a
segment nearest to another point is at the clamped parameter of its foot, and the distance from a
circle is the difference between the distance from the center and the radius. Random points are
points of the same curve, so what is drawn from a shape lies on it under every tolerance.
-/

namespace FigureMarkup.Plane

/-- A least value is within a bound if some value is. -/
theorem le_iff_of_isLeast {β : Type} {curve : Set β} {measure : β → ℝ} {least bound : ℝ}
    (isLeast : IsLeast (measure '' curve) least) :
    least ≤ bound ↔ ∃ q ∈ curve, measure q ≤ bound := by
  constructor
  · intro near
    obtain ⟨q, member, same⟩ := isLeast.1
    exact ⟨q, member, same ▸ near⟩
  · rintro ⟨q, member, near⟩
    exact (isLeast.2 ⟨q, member, rfl⟩).trans near

/-! ## The distance to a segment -/

section Segment

variable {p a b : Vec ℝ}

/-- No number between two ends is nearer to a number than that number clamped between them. -/
theorem abs_clamp_sub_le {low high s : ℝ} (above : low ≤ s) (below : s ≤ high) (x : ℝ) :
    |Scalar.clamp x low high - x| ≤ |s - x| := by
  rw [Scalar.real_clamp_eq]
  rcases le_total x low with under | beyond
  · rw [max_eq_left under, min_eq_right (above.trans below), abs_of_nonneg (sub_nonneg.2 under),
      abs_of_nonneg (by linarith)]
    linarith
  · rw [max_eq_right beyond]
    rcases le_total x high with inside | outside
    · rw [min_eq_right inside, sub_self, abs_zero]
      exact abs_nonneg _
    · rw [min_eq_left outside, abs_of_nonpos (sub_nonpos.2 outside), abs_of_nonpos (by linarith)]
      linarith

/-- Of two points of a line, the one whose parameter is nearer to that of the foot is nearer. -/
theorem distance_lerp_le {foot s t : ℝ}
    (projects : (p - a).dot (b - a) = foot * (b - a).dot (b - a))
    (nearer : |s - foot| ≤ |t - foot|) :
    p.distance (a.lerp b s) ≤ p.distance (a.lerp b t) := by
  rw [Vec.distance_eq, Vec.distance_eq]
  refine Real.sqrt_le_sqrt ?_
  have gap : (a.lerp b t - p).dot (a.lerp b t - p) - (a.lerp b s - p).dot (a.lerp b s - p) =
      (b - a).dot (b - a) * ((t - foot) ^ 2 - (s - foot) ^ 2) := by
    simp only [Vec.dot_eq, Vec.sub_x, Vec.sub_y, Vec.lerp_x, Vec.lerp_y] at projects ⊢
    linear_combination 2 * (s - t) * projects
  have further : 0 ≤ (t - foot) ^ 2 - (s - foot) ^ 2 := sub_nonneg.2 (sq_le_sq.2 nearer)
  linarith [mul_nonneg (Vec.dot_self_nonneg (b - a)) further]

theorem isLeast_distanceToSegment (p a b : Vec ℝ) :
    IsLeast (p.distance '' {q | OnEdge q a b}) (distanceToSegment p a b) := by
  unfold distanceToSegment
  dsimp only
  by_cases degenerate : a = b
  · subst degenerate
    have vanishes : (a - a).dot (a - a) = 0 := Vec.sub_dot_self_eq_zero.2 rfl
    rw [if_pos (by simp [vanishes])]
    refine ⟨⟨a, onEdge_start a a, rfl⟩, ?_⟩
    rintro - ⟨q, same, rfl⟩
    rw [onEdge_self.1 same]
  · have proper : (b - a).dot (b - a) ≠ 0 := mt Vec.sub_dot_self_eq_zero.1 degenerate
    rw [if_neg (by simpa using proper), Scalar.real_zero, Scalar.real_one, ← Vec.lerp_eq]
    obtain ⟨above, below⟩ := Scalar.real_clamp zero_le_one
      ((p - a).dot (b - a) / (b - a).dot (b - a))
    refine ⟨⟨_, ⟨_, above, below, rfl⟩, rfl⟩, ?_⟩
    rintro - ⟨q, ⟨t, started, ended, rfl⟩, rfl⟩
    exact distance_lerp_le (div_mul_cancel₀ _ proper).symm (abs_clamp_sub_le started ended _)

end Segment

/-! ## The distance to a circle -/

theorem Vec.distance_eq_dist (a b : Vec ℝ) : a.distance b = dist (⟨a.x, a.y⟩ : ℂ) ⟨b.x, b.y⟩ := by
  rw [Complex.dist_eq_re_im, Vec.distance_eq]
  congr 1
  simp only [Vec.dot_eq, Vec.sub_x, Vec.sub_y]
  ring

/-- The distance of two points on one ray from a center. -/
theorem distance_along {e : Vec ℝ} (unit : e.x * e.x + e.y * e.y = 1) (center : Vec ℝ) (s t : ℝ) :
    (center + e * s).distance (center + e * t) = |s - t| := by
  rw [Vec.distance_eq, ← Real.sqrt_sq_eq_abs]
  congr 1
  simp only [Vec.dot_eq, Vec.sub_x, Vec.sub_y, Vec.add_x, Vec.add_y, Vec.mul_x, Vec.mul_y]
  linear_combination (s - t) ^ 2 * unit

/-- Every point lies on a ray from a center. From the center itself, any ray will do. -/
theorem exists_ray (p center : Vec ℝ) :
    ∃ e : Vec ℝ, e.x * e.x + e.y * e.y = 1 ∧ p = center + e * p.distance center := by
  by_cases centered : p.distance center = 0
  · refine ⟨⟨1, 0⟩, by norm_num, ?_⟩
    rw [centered, Vec.distance_eq_zero.1 centered]
    ext <;> simp
  · have squared : (p - center).dot (p - center) = p.distance center * p.distance center :=
      (distance_eq_iff Vec.distance_nonneg).1 rfl
    obtain ⟨e, unit, displaced⟩ := exists_direction centered squared
    refine ⟨e, unit, ?_⟩
    rw [← displaced]
    ext <;> simp

theorem isLeast_distanceToCircle (p center : Vec ℝ) {radius : ℝ} (positive : 0 ≤ radius) :
    IsLeast (p.distance '' {q | q.distance center = radius}) |p.distance center - radius| := by
  constructor
  · obtain ⟨e, unit, here⟩ := exists_ray p center
    have start : center + e * (0 : ℝ) = center := by
      ext <;> simp
    refine ⟨center + e * radius, ?_, ?_⟩
    · have apart := distance_along unit center radius 0
      rwa [start, sub_zero, abs_of_nonneg positive] at apart
    · have apart := distance_along unit center (p.distance center) radius
      rwa [← here] at apart
  · rintro - ⟨q, rfl, rfl⟩
    simp only [Vec.distance_eq_dist]
    exact abs_dist_sub_le _ _ _

/-! ## Edges of polygons -/

/-- The edge of a polygon with some number leads from the vertex with that number to the next one,
and from the last vertex to the first. -/
def IsEdge {β : Type} (vertices : List β) (i : Nat) (a b : β) : Prop :=
  vertices[i]? = some a ∧ vertices[(i + 1) % vertices.length]? = some b

section Edges

variable {β : Type} {vertices : List β} (several : 2 ≤ vertices.length)

include several

theorem length_cyclicPairs : (cyclicPairs vertices).length = vertices.length := by
  match vertices, several with
  | first :: second :: rest, _ => simp [cyclicPairs]

theorem getElem?_cyclicPairs {i : Nat} {a b : β} :
    (cyclicPairs vertices)[i]? = some (a, b) ↔ IsEdge vertices i a b := by
  match vertices, several with
  | first :: second :: rest, _ =>
      rw [cyclicPairs, List.getElem?_zip_eq_some]
      refine and_congr_right fun here => ?_
      have inside : i < (first :: second :: rest).length := (List.getElem?_eq_some_iff.1 here).1
      rcases Nat.lt_or_eq_of_le (Nat.succ_le_of_lt inside) with before | last
      · rw [Nat.mod_eq_of_lt before, List.getElem?_cons_succ,
          List.getElem?_append_left (by simpa using before)]
      · rw [Nat.succ_eq_add_one] at last
        rw [last, Nat.mod_self]
        obtain rfl : i = (second :: rest).length := by simpa using last
        simp

theorem exists_cyclicPairs_iff (Wanted : β → β → Prop) :
    (∃ edge ∈ cyclicPairs vertices, Wanted edge.1 edge.2) ↔
      ∃ i a b, IsEdge vertices i a b ∧ Wanted a b := by
  constructor
  · rintro ⟨⟨a, b⟩, member, wanted⟩
    obtain ⟨i, here⟩ := List.mem_iff_getElem?.1 member
    exact ⟨i, a, b, (getElem?_cyclicPairs several).1 here, wanted⟩
  · rintro ⟨i, a, b, edge, wanted⟩
    exact ⟨(a, b), List.mem_of_getElem? ((getElem?_cyclicPairs several).2 edge), wanted⟩

end Edges

/-! ## One curve -/

namespace Shape

/-- The points of a shape: those between the ends of a segment, those at the radius from the center
of a circle, or those of all edges of a polygon. -/
def curve : Shape ℝ → Set (Vec ℝ)
  | .segment a b => {p | OnEdge p a b}
  | .circle center radius => {p | p.distance center = radius}
  | .polygon vertices => {p | ∃ i a b, IsEdge vertices i a b ∧ OnEdge p a b}

theorem passes_iff_mem_curve {shape : Shape ℝ} (drawable : shape.Drawable) {p : Vec ℝ} :
    shape.Passes p ↔ p ∈ shape.curve := by
  cases shape with
  | segment a b => exact Iff.rfl
  | circle center radius => exact Iff.rfl
  | polygon vertices => exact exists_cyclicPairs_iff drawable (OnEdge p)

/-- A shape contains a point if some point of its curve is near. -/
theorem contains_iff {shape : Shape ℝ} (drawable : shape.Drawable) (p : Vec ℝ) (tolerance : ℝ) :
    shape.contains p tolerance = true ↔ ∃ q ∈ shape.curve, p.distance q ≤ tolerance := by
  have onEdge (a b : Vec ℝ) :
      onSegment p a b tolerance = true ↔ ∃ q, OnEdge q a b ∧ p.distance q ≤ tolerance := by
    rw [onSegment, decide_eq_true_eq]
    exact le_iff_of_isLeast (isLeast_distanceToSegment p a b)
  cases shape with
  | segment a b => exact onEdge a b
  | circle center radius =>
      rw [contains, onCircle, decide_eq_true_eq]
      exact le_iff_of_isLeast (isLeast_distanceToCircle p center drawable)
  | polygon vertices =>
      rw [contains, List.any_eq_true]
      simp only [edges, onEdge]
      rw [exists_cyclicPairs_iff drawable fun a b =>
        ∃ q, OnEdge q a b ∧ p.distance q ≤ tolerance]
      constructor
      · rintro ⟨i, a, b, edge, q, on, near⟩
        exact ⟨q, ⟨i, a, b, edge, on⟩, near⟩
      · rintro ⟨q, ⟨i, a, b, edge, on⟩, near⟩
        exact ⟨i, a, b, edge, q, on, near⟩

section Draws

variable {σ : Type} [Random.Source σ ℝ] [Random.Lawful σ]

/-- A polygon draws the number of an edge first, and then a point of that edge. -/
theorem randomPoint_polygon {vertices : List (Vec ℝ)} (several : 2 ≤ vertices.length)
    (padding : ℝ) (source : σ) :
    ∃ a b later, IsEdge vertices (Random.Source.index (α := ℝ) vertices.length source).1 a b ∧
      (Shape.polygon vertices).randomPoint padding source = randomOnSegment a b padding later := by
  have filled : (cyclicPairs vertices).isEmpty = false := by
    simpa using cyclicPairs_ne_nil several
  have inside := Random.Lawful.index_lt (σ := σ) vertices.length source (by omega)
  generalize drawn : Random.Source.index (α := ℝ) vertices.length source = draw at inside ⊢
  rw [← length_cyclicPairs several] at inside
  obtain ⟨⟨a, b⟩, edge⟩ : ∃ edge, (cyclicPairs vertices)[draw.1]? = some edge :=
    ⟨_, List.getElem?_eq_getElem inside⟩
  refine ⟨a, b, draw.2, (getElem?_cyclicPairs several).1 edge, ?_⟩
  simp only [randomPoint, edges, Random.choose, filled, length_cyclicPairs several, drawn, edge,
    Bool.false_eq_true, if_false]

/-- A point was drawn at a parameter that keeps away from both ends: of a segment, or of the edge of
a polygon whose number the source gives. A circle has no ends. -/
def DrawnFrom (kept : ℝ) (source : σ) (p : Vec ℝ) : Shape ℝ → Prop
  | .segment a b => ∃ t ∈ Set.Ico kept (1 - kept), p = a.lerp b t
  | .circle center radius => p.distance center = radius
  | .polygon vertices => ∃ a b,
      IsEdge vertices (Random.Source.index (α := ℝ) vertices.length source).1 a b ∧
        ∃ t ∈ Set.Ico kept (1 - kept), p = a.lerp b t

/-- Membership and random points describe one curve: a shape contains the points near to its curve,
and the points that are drawn from it are points of the curve, away from the ends by the padding. -/
theorem describes_curve [Random.Ranged σ] {shape : Shape ℝ} (drawable : shape.Drawable) :
    (∀ p tolerance, shape.contains p tolerance = true ↔
        ∃ q ∈ shape.curve, p.distance q ≤ tolerance) ∧
      ∀ (padding : ℝ) (source : σ),
        let p := (shape.randomPoint padding source).1
        p ∈ shape.curve ∧ shape.DrawnFrom (min 0.49 (max 0 padding)) source p := by
  refine ⟨contains_iff drawable, fun padding source => ⟨?_, ?_⟩⟩
  · exact (passes_iff_mem_curve drawable).1 (passes_randomPoint drawable padding source)
  · cases shape with
    | segment a b => exact exists_lerp_randomOnSegment a b padding source
    | circle center radius => exact distance_randomOnCircle center drawable source
    | polygon vertices =>
        obtain ⟨a, b, later, edge, same⟩ := randomPoint_polygon drawable padding source
        rw [same]
        exact ⟨a, b, edge, exists_lerp_randomOnSegment a b padding later⟩

end Draws

/-- A triangle contains a point beside the edge from its last vertex to the first. -/
theorem describes_curve_triangle :
    let triangle : Shape ℝ := .polygon [⟨0, 0⟩, ⟨4, 0⟩, ⟨0, 3⟩]
    let source : Random.ExactKeystream := ⟨.ofSeed 1⟩
    let p := (triangle.randomPoint 0.2 source).1
    triangle.Drawable ∧ triangle.contains ⟨-1, 1⟩ 1 = true ∧
      p ∈ triangle.curve ∧ triangle.DrawnFrom (min 0.49 (max 0 0.2)) source p := by
  intro triangle source p
  have drawable : triangle.Drawable := Nat.le_succ 2
  obtain ⟨contains, draws⟩ := describes_curve (σ := Random.ExactKeystream) drawable
  refine ⟨drawable, (contains _ _).2 ⟨⟨0, 1⟩, ?_, ?_⟩, draws 0.2 source⟩
  · exact ⟨2, ⟨0, 3⟩, ⟨0, 0⟩, ⟨rfl, rfl⟩, 2 / 3, by norm_num, by norm_num, by
      ext <;> norm_num⟩
  · rw [Vec.distance_eq]
    norm_num [Vec.dot_eq]

end Shape

end FigureMarkup.Plane

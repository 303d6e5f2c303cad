import FigureMarkup.Drawing.Viewport
import FigureMarkup.Proofs.Plane.Exact

/-!
# Everything drawn fits the drawing

A scene occupies its placed points and its circles. The box of a scene has sides that some occupied
point touches and that none crosses, whatever the order of the entities. In exact arithmetic the
viewport of a box brings all that is occupied into the square of the drawing. It scales distances by
one factor, keeps left and right, and exchanges up and down; and it fills the square from side to
side unless the scene is smaller than the tolerance.
-/

namespace FigureMarkup

open Plane

/-- The radius that is written down for a circle. -/
def EntityData.radius? {α : Type} : EntityData α → Option α
  | .circle _ _ _ _ radius => radius
  | _ => none

namespace Scene

/-- No circle of a scene has a negative radius. -/
def ProperRadii (scene : Scene ℝ) : Prop :=
  ∀ entity ∈ scene.entities, ∀ radius, entity.data.radius? = some radius → 0 ≤ radius

/-- The points that an entity of a scene occupies: a placed point, or those of a circle. -/
def occupiedBy (scene : Scene ℝ) (data : EntityData ℝ) : Set (Vec ℝ) :=
  { p | data.position? = some p ∨ ∃ center radius,
    Drawing.circleOf? scene data = some (center, radius) ∧ p.distance center = radius }

def occupied (scene : Scene ℝ) : Set (Vec ℝ) :=
  { p | ∃ entity ∈ scene.entities, p ∈ scene.occupiedBy entity.data }

end Scene

namespace Drawing

/-! ## Extents -/

/-- A range holds the ends of some numbers, or nothing if there are none. -/
inductive Range.Spans : Range ℝ → Set ℝ → Prop
  | empty : Spans .empty ∅
  | of {low high : ℝ} {values : Set ℝ} (least : IsLeast values low)
      (greatest : IsGreatest values high) : Spans ⟨some low, some high⟩ values

theorem Range.Spans.widen {range : Range ℝ} {values piece : Set ℝ} {x distance : ℝ}
    (spans : range.Spans values) (least : IsLeast piece (x - distance))
    (greatest : IsGreatest piece (x + distance)) :
    (range.widen x distance).Spans (values ∪ piece) := by
  cases spans with
  | empty =>
      have widened : Range.empty.widen x distance = ⟨some (x - distance), some (x + distance)⟩ := by
        simp [Range.widen, Range.empty, Range.lower, Range.upper]
      rw [widened, Set.empty_union]
      exact .of least greatest
  | @of low high _ lowest highest =>
      have widened : Range.widen ⟨some low, some high⟩ x distance =
          ⟨some (min low (x - distance)), some (max high (x + distance))⟩ := by
        simp [Range.widen, Range.lower, Range.upper]
      rw [widened]
      exact .of (lowest.union least) (highest.union greatest)

/-- Some points reach as far from a center as a distance, to all four sides. -/
structure Reaches (points : Set (Vec ℝ)) (center : Vec ℝ) (distance : ℝ) : Prop where
  left : IsLeast (Vec.x '' points) (center.x - distance)
  right : IsGreatest (Vec.x '' points) (center.x + distance)
  bottom : IsLeast (Vec.y '' points) (center.y - distance)
  top : IsGreatest (Vec.y '' points) (center.y + distance)

theorem reaches_singleton (p : Vec ℝ) : Reaches {p} p 0 := by
  constructor <;> simp

/-- A circle reaches as far as its radius. -/
theorem reaches_circle (center : Vec ℝ) {radius : ℝ} (nonneg : 0 ≤ radius) :
    Reaches { p | p.distance center = radius } center radius := by
  have onCircle {p : Vec ℝ} (x y : ℝ) (here : p = ⟨center.x + x, center.y + y⟩)
      (far : x * x + y * y = radius * radius) : p.distance center = radius := by
    rw [distance_eq_iff nonneg, here]
    simpa [Vec.dot_eq] using far
  have near {p : Vec ℝ} (member : p.distance center = radius) :
      |p.x - center.x| ≤ radius ∧ |p.y - center.y| ≤ radius := by
    rw [distance_eq_iff nonneg, Vec.dot_eq, Vec.sub_x, Vec.sub_y] at member
    constructor
    · exact abs_le_of_sq_le_sq (by nlinarith [sq_nonneg (p.y - center.y)]) nonneg
    · exact abs_le_of_sq_le_sq (by nlinarith [sq_nonneg (p.x - center.x)]) nonneg
  refine ⟨⟨⟨⟨_, _⟩, onCircle (-radius) 0 rfl (by ring), rfl⟩, ?_⟩,
    ⟨⟨⟨_, _⟩, onCircle radius 0 rfl (by ring), rfl⟩, ?_⟩,
    ⟨⟨⟨_, _⟩, onCircle 0 (-radius) rfl (by ring), rfl⟩, ?_⟩,
    ⟨⟨⟨_, _⟩, onCircle 0 radius rfl (by ring), rfl⟩, ?_⟩⟩
  · rintro x ⟨p, member, rfl⟩
    linarith [(abs_le.1 (near member).1).1]
  · rintro x ⟨p, member, rfl⟩
    linarith [(abs_le.1 (near member).1).2]
  · rintro y ⟨p, member, rfl⟩
    linarith [(abs_le.1 (near member).2).1]
  · rintro y ⟨p, member, rfl⟩
    linarith [(abs_le.1 (near member).2).2]

/-- A box holds the ends of some points in both directions. -/
structure Box.Spans (box : Box ℝ) (points : Set (Vec ℝ)) : Prop where
  x : box.x.Spans (Vec.x '' points)
  y : box.y.Spans (Vec.y '' points)

theorem Box.Spans.widen {box : Box ℝ} {points piece : Set (Vec ℝ)} {center : Vec ℝ} {radius : ℝ}
    (spans : box.Spans points) (reaches : Reaches piece center radius) :
    (box.widen center radius).Spans (points ∪ piece) := by
  constructor
  · rw [Set.image_union]
    exact spans.x.widen reaches.left reaches.right
  · rw [Set.image_union]
    exact spans.y.widen reaches.bottom reaches.top

/-! ## The box of a scene -/

variable {scene : Scene ℝ}

/-- A circle through three points has no negative radius. -/
theorem nonneg_of_circumcircle {a b c center : Vec ℝ} {radius tolerance : ℝ}
    (through : circumcircle a b c tolerance = some (.circle center radius)) : 0 ≤ radius := by
  unfold circumcircle at through
  dsimp only at through
  split at through
  · cases through
  · simp only [Option.some.injEq, Shape.circle.injEq] at through
    obtain ⟨rfl, rfl⟩ := through
    exact Vec.distance_nonneg

/-- A circle of a scene has the radius that is written down, or it goes through three points. -/
theorem circleOf?_cases {data : EntityData ℝ} {center : Vec ℝ} {radius : ℝ}
    (circle : circleOf? scene data = some (center, radius)) :
    data.radius? = some radius ∨
      ∃ a b c, circumcircle a b c defaultTolerance = some (.circle center radius) := by
  cases data with
  | point | line | polygon | angle => cases circle
  | circle p1 p2 p3 middle written =>
      unfold circleOf? at circle
      dsimp only at circle
      split at circle
      case h_1 =>
        cases circle
        exact .inl rfl
      case h_2 =>
        obtain ⟨a, -, circle⟩ := Option.bind_eq_some_iff.1 circle
        obtain ⟨b, -, circle⟩ := Option.bind_eq_some_iff.1 circle
        obtain ⟨c, -, circle⟩ := Option.bind_eq_some_iff.1 circle
        match through : circumcircle a b c defaultTolerance with
        | some (.circle middle length) =>
            obtain ⟨rfl, rfl⟩ : middle = center ∧ length = radius := by
              simpa [through] using circle
            exact .inr ⟨a, b, c, through⟩
        | some (.segment _ _) | some (.polygon _) | none => simp [through] at circle

theorem radius_nonneg_of_circleOf? {data : EntityData ℝ} {center : Vec ℝ} {radius : ℝ}
    (proper : ∀ radius, data.radius? = some radius → 0 ≤ radius)
    (circle : circleOf? scene data = some (center, radius)) : 0 ≤ radius := by
  rcases circleOf?_cases circle with written | ⟨a, b, c, through⟩
  · exact proper radius written
  · exact nonneg_of_circumcircle through

/-- A placed point is no circle, so that it occupies nothing else. -/
theorem occupiedBy_of_position? {data : EntityData ℝ} {p : Vec ℝ}
    (here : data.position? = some p) : scene.occupiedBy data = {p} := by
  have noCircle : circleOf? scene data = none := by
    cases data with
    | point => rfl
    | line | circle | polygon | angle => cases here
  ext q
  simp [Scene.occupiedBy, here, noCircle, eq_comm]

theorem occupiedBy_of_circleOf? {data : EntityData ℝ} {center : Vec ℝ} {radius : ℝ}
    (unplaced : data.position? = none) (circle : circleOf? scene data = some (center, radius)) :
    scene.occupiedBy data = { p | p.distance center = radius } := by
  ext q
  simp [Scene.occupiedBy, unplaced, circle, eq_comm (a := radius)]

theorem occupiedBy_of_none {data : EntityData ℝ} (unplaced : data.position? = none)
    (noCircle : circleOf? scene data = none) : scene.occupiedBy data = ∅ := by
  ext q
  simp [Scene.occupiedBy, unplaced, noCircle]

/-- A box that is widened to an entity holds what the entity occupies. -/
theorem Box.Spans.widenTo (scene : Scene ℝ) {box : Box ℝ} {points : Set (Vec ℝ)}
    {data : EntityData ℝ} (spans : box.Spans points)
    (proper : ∀ radius, data.radius? = some radius → 0 ≤ radius) :
    (box.widenTo scene data).Spans (points ∪ scene.occupiedBy data) := by
  unfold Box.widenTo
  cases here : data.position? with
  | some p =>
      rw [occupiedBy_of_position? here]
      exact Scalar.real_zero ▸ spans.widen (reaches_singleton p)
  | none =>
      cases circle : circleOf? scene data with
      | none =>
          rw [occupiedBy_of_none here circle, Set.union_empty]
          exact spans
      | some shape =>
          obtain ⟨center, radius⟩ := shape
          rw [occupiedBy_of_circleOf? here circle]
          exact spans.widen (reaches_circle center (radius_nonneg_of_circleOf? proper circle))

/-- Going through some entities widens a box to what they occupy. -/
theorem Box.Spans.foldl (scene : Scene ℝ) {entities : List (SceneEntity ℝ)}
    (proper : ∀ entity ∈ entities, ∀ radius, entity.data.radius? = some radius → 0 ≤ radius)
    {box : Box ℝ} {points : Set (Vec ℝ)} (spans : box.Spans points) :
    (entities.foldl (fun box entity => box.widenTo scene entity.data) box).Spans
      (points ∪ { p | ∃ entity ∈ entities, p ∈ scene.occupiedBy entity.data }) := by
  induction entities generalizing box points with
  | nil => simpa using spans
  | cons entity rest ih =>
      have widened := spans.widenTo scene (proper entity List.mem_cons_self)
      have later :=
        ih (fun other member => proper other (List.mem_cons_of_mem entity member)) widened
      have together : points ∪ { p | ∃ other ∈ entity :: rest, p ∈ scene.occupiedBy other.data } =
          points ∪ scene.occupiedBy entity.data ∪
            { p | ∃ other ∈ rest, p ∈ scene.occupiedBy other.data } := by
        ext p
        simp [or_assoc]
      rw [together]
      exact later

theorem spans_boxOf (proper : scene.ProperRadii) : (Box.of scene).Spans scene.occupied := by
  have nothing : (⟨.empty, .empty⟩ : Box ℝ).Spans ∅ := by
    constructor <;> rw [Set.image_empty] <;> exact .empty
  have spans := nothing.foldl scene proper
  rwa [Set.empty_union] at spans

/-! ## Places in the drawing -/

namespace Viewport

theorem distance_place (viewport : Viewport ℝ) (nonneg : 0 ≤ viewport.scale) (p q : Vec ℝ) :
    (viewport.place p).distance (viewport.place q) = viewport.scale * p.distance q := by
  have scaled : (viewport.place q - viewport.place p).dot (viewport.place q - viewport.place p) =
      viewport.scale ^ 2 * (q - p).dot (q - p) := by
    simp only [place, Vec.dot_eq, Vec.sub_x, Vec.sub_y]
    ring
  rw [Vec.distance_eq, Vec.distance_eq, scaled, Real.sqrt_mul (sq_nonneg _), Real.sqrt_sq nonneg]

/-- The side of the square that shows a rectangle. -/
noncomputable def side (low high : Vec ℝ) : ℝ :=
  max (max (high.x - low.x) (high.y - low.y)) defaultTolerance

theorem side_pos (low high : Vec ℝ) : 0 < side low high := by
  have positive : (0 : ℝ) < defaultTolerance := by norm_num [defaultTolerance]
  exact lt_max_of_lt_right positive

theorem ofCorners_eq (settings : Settings ℝ) (low high : Vec ℝ) :
    ofCorners settings low high =
      ⟨⟨low.x - (side low high - (high.x - low.x)) / 2,
          low.y - (side low high - (high.y - low.y)) / 2⟩,
        low.y - (side low high - (high.y - low.y)) / 2 + side low high,
        settings.size / side low high, settings.padding⟩ := by
  have two : (2.0 : ℝ) = 2 := by norm_num
  simp only [ofCorners, Scalar.real_max, two]
  rfl

/-- A length of at most the side is scaled to at most the size of the drawing. -/
theorem scaled_mem_Icc {side size : ℝ} (length : ℝ) (positive : 0 < side) (drawn : 0 < size)
    (nonneg : 0 ≤ length) (fits : length ≤ side) :
    length * (size / side) ∈ Set.Icc 0 size := by
  have scale : 0 < size / side := div_pos drawn positive
  constructor
  · exact mul_nonneg nonneg scale.le
  · calc
      length * (size / side) ≤ side * (size / side) := mul_le_mul_of_nonneg_right fits scale.le
      _ = size := mul_div_cancel₀ size positive.ne'

/-- A viewport shows some points in a drawing. -/
structure Shows (viewport : Viewport ℝ) (settings : Settings ℝ) (points : Set (Vec ℝ)) :
    Prop where
  /-- All points lie in the square within the padding. -/
  inside : ∀ p ∈ points,
    (viewport.place p).x ∈ Set.Icc settings.padding (settings.padding + settings.size) ∧
      (viewport.place p).y ∈ Set.Icc settings.padding (settings.padding + settings.size)
  positive : 0 < viewport.scale
  distance : ∀ p q, (viewport.place p).distance (viewport.place q) = viewport.scale * p.distance q
  rightwards : ∀ p q, (viewport.place p).x < (viewport.place q).x ↔ p.x < q.x
  downwards : ∀ p q, (viewport.place p).y < (viewport.place q).y ↔ q.y < p.y
  /-- Points that are apart in some direction reach from one side of the square to the other. -/
  touches : (∃ p ∈ points, ∃ q ∈ points,
      defaultTolerance ≤ q.x - p.x ∨ defaultTolerance ≤ q.y - p.y) →
    ∃ p ∈ points, ∃ q ∈ points,
      (viewport.place p).x = settings.padding ∧
          (viewport.place q).x = settings.padding + settings.size ∨
        (viewport.place p).y = settings.padding ∧
          (viewport.place q).y = settings.padding + settings.size

section Shows

variable {settings : Settings ℝ} {viewport : Viewport ℝ} {points : Set (Vec ℝ)}

/-- Every viewport with a positive scale keeps order and distances as it should. -/
theorem shows_of_inside (positive : 0 < viewport.scale)
    (inside : ∀ p ∈ points,
      (viewport.place p).x ∈ Set.Icc settings.padding (settings.padding + settings.size) ∧
        (viewport.place p).y ∈ Set.Icc settings.padding (settings.padding + settings.size))
    (touches : (∃ p ∈ points, ∃ q ∈ points,
        defaultTolerance ≤ q.x - p.x ∨ defaultTolerance ≤ q.y - p.y) →
      ∃ p ∈ points, ∃ q ∈ points,
        (viewport.place p).x = settings.padding ∧
            (viewport.place q).x = settings.padding + settings.size ∨
          (viewport.place p).y = settings.padding ∧
            (viewport.place q).y = settings.padding + settings.size) :
    viewport.Shows settings points where
  inside := inside
  positive := positive
  distance := viewport.distance_place positive.le
  rightwards p q := by
    change viewport.padding + _ < viewport.padding + _ ↔ _
    rw [add_lt_add_iff_left, mul_lt_mul_iff_left₀ positive, sub_lt_sub_iff_right]
  downwards p q := by
    change viewport.padding + _ < viewport.padding + _ ↔ _
    rw [add_lt_add_iff_left, mul_lt_mul_iff_left₀ positive, sub_lt_sub_iff_left]
  touches := touches

theorem scale_pos (drawn : 0 < settings.size) (low high : Vec ℝ) :
    0 < (ofCorners settings low high).scale := by
  rw [ofCorners_eq]
  exact div_pos drawn (side_pos low high)

/-- A rectangle is shown in the square: what lies in it comes to lie in the drawing. -/
theorem ofCorners_inside (drawn : 0 < settings.size) {low high p : Vec ℝ}
    (x : p.x ∈ Set.Icc low.x high.x) (y : p.y ∈ Set.Icc low.y high.y) :
    ((ofCorners settings low high).place p).x ∈
        Set.Icc settings.padding (settings.padding + settings.size) ∧
      ((ofCorners settings low high).place p).y ∈
        Set.Icc settings.padding (settings.padding + settings.size) := by
  have wide : high.x - low.x ≤ side low high := le_max_of_le_left (le_max_left _ _)
  have tall : high.y - low.y ≤ side low high := le_max_of_le_left (le_max_right _ _)
  have positive := side_pos low high
  rw [ofCorners_eq, place]
  generalize side low high = side at wide tall positive
  obtain ⟨left, right⟩ := x
  obtain ⟨bottom, top⟩ := y
  have across := scaled_mem_Icc (p.x - (low.x - (side - (high.x - low.x)) / 2)) positive drawn
    (by linarith) (by linarith)
  have down := scaled_mem_Icc (low.y - (side - (high.y - low.y)) / 2 + side - p.y) positive drawn
    (by linarith) (by linarith)
  exact ⟨⟨by linarith [across.1], by linarith [across.2]⟩,
    ⟨by linarith [down.1], by linarith [down.2]⟩⟩

/-- A rectangle that is as wide as the square reaches from its left side to its right one. -/
theorem ofCorners_touches_x (settings : Settings ℝ) {low high p q : Vec ℝ}
    (wide : side low high = high.x - low.x) (left : p.x = low.x) (right : q.x = high.x) :
    ((ofCorners settings low high).place p).x = settings.padding ∧
      ((ofCorners settings low high).place q).x = settings.padding + settings.size := by
  have positive := side_pos low high
  have across : (high.x - low.x) * (settings.size / (high.x - low.x)) = settings.size :=
    mul_div_cancel₀ settings.size (wide ▸ positive).ne'
  rw [ofCorners_eq, place, place, wide, left, right]
  simp [across]

/-- A rectangle that is as tall as the square reaches from its upper side to its lower one. -/
theorem ofCorners_touches_y (settings : Settings ℝ) {low high p q : Vec ℝ}
    (tall : side low high = high.y - low.y) (top : p.y = high.y) (bottom : q.y = low.y) :
    ((ofCorners settings low high).place p).y = settings.padding ∧
      ((ofCorners settings low high).place q).y = settings.padding + settings.size := by
  have positive := side_pos low high
  have down : (high.y - low.y) * (settings.size / (high.y - low.y)) = settings.size :=
    mul_div_cancel₀ settings.size (tall ▸ positive).ne'
  rw [ofCorners_eq, place, place, tall, top, bottom]
  simp [down]

theorem shows_ofCorners (drawn : 0 < settings.size) {low high : Vec ℝ}
    (left : IsLeast (Vec.x '' points) low.x) (right : IsGreatest (Vec.x '' points) high.x)
    (bottom : IsLeast (Vec.y '' points) low.y) (top : IsGreatest (Vec.y '' points) high.y) :
    (ofCorners settings low high).Shows settings points := by
  refine shows_of_inside (scale_pos drawn low high) ?_ ?_
  · intro p member
    exact ofCorners_inside drawn ⟨left.2 ⟨p, member, rfl⟩, right.2 ⟨p, member, rfl⟩⟩
      ⟨bottom.2 ⟨p, member, rfl⟩, top.2 ⟨p, member, rfl⟩⟩
  · rintro ⟨p, member, q, alsoMember, apart⟩
    have leftward := left.2 ⟨p, member, rfl⟩
    have rightward := right.2 ⟨q, alsoMember, rfl⟩
    have below := bottom.2 ⟨p, member, rfl⟩
    have above := top.2 ⟨q, alsoMember, rfl⟩
    -- The tolerance does not count, so the side is the larger of width and height.
    have large : side low high = max (high.x - low.x) (high.y - low.y) := by
      refine max_eq_left ?_
      rcases apart with apart | apart
      · exact le_max_of_le_left (by linarith)
      · exact le_max_of_le_right (by linarith)
    rcases le_total (high.y - low.y) (high.x - low.x) with wide | tall
    · obtain ⟨first, leftmost, atLeft⟩ := left.1
      obtain ⟨last, rightmost, atRight⟩ := right.1
      exact ⟨first, leftmost, last, rightmost,
        .inl (ofCorners_touches_x settings (large.trans (max_eq_left wide)) atLeft atRight)⟩
    · obtain ⟨first, topmost, atTop⟩ := top.1
      obtain ⟨last, lowest, atBottom⟩ := bottom.1
      exact ⟨first, topmost, last, lowest,
        .inr (ofCorners_touches_y settings (large.trans (max_eq_right tall)) atTop atBottom)⟩

end Shows

/-- The box that a scene spans is shown, and around the origin if there is nothing to show. -/
theorem shows_ofBox {settings : Settings ℝ} (drawn : 0 < settings.size) {box : Box ℝ}
    {points : Set (Vec ℝ)} (spans : box.Spans points) :
    (ofBox settings box).Shows settings points := by
  obtain ⟨⟨lowX, highX⟩, ⟨lowY, highY⟩⟩ := box
  obtain ⟨x, y⟩ := spans
  generalize across : Vec.x '' points = abscissas at x
  generalize down : Vec.y '' points = ordinates at y
  cases x with
  | empty =>
      obtain rfl : points = ∅ := Set.image_eq_empty.1 across
      exact shows_of_inside (scale_pos drawn _ _) (by simp) (by simp)
  | of left right =>
      cases y with
      | empty =>
          obtain rfl : points = ∅ := Set.image_eq_empty.1 down
          rw [Set.image_empty] at across
          subst across
          exact absurd left.1 (Set.notMem_empty _)
      | of bottom top =>
          subst across down
          have finite (x : ℝ) : isFinite x = true := by simp [isFinite]
          rw [ofBox]
          dsimp only
          rw [if_pos (finite _)]
          exact shows_ofCorners drawn left right bottom top

end Viewport

/-- In exact arithmetic the viewport of a scene shows all that the scene occupies, its placed points
and its circles, in the square within the padding. Distances are scaled by one positive factor,
left stays left, and up becomes down. A scene whose extent is at least the tolerance reaches from
one side of the square to the opposite one. -/
theorem fit_shows (settings : Settings ℝ) (scene : Scene ℝ) (drawn : 0 < settings.size)
    (proper : scene.ProperRadii) :
    (Viewport.fit settings scene).Shows settings scene.occupied :=
  Viewport.shows_ofBox drawn (spans_boxOf proper)

/-- A circle of radius one about a point at the origin. -/
def circledOrigin : Scene ℝ where
  entities := [
    ⟨"circle_c", .ofChannels [0xB1, 0x0D, 0xC9], .circle none none none (some "point_O") (some 1)⟩,
    ⟨"point_O", .ofChannels [0xFF, 0xFF, 0xFF], .point (some 0) (some 0)⟩]
  animations := []
  text := ""
  ordered := by
    refine List.pairwise_cons.2 ⟨fun later member => ?_, List.pairwise_singleton _ _⟩
    obtain rfl := List.mem_singleton.1 member
    show "circle_c" < "point_O"
    decide

/-- The topmost point of a circle is occupied and shown, and the circle fills the drawing. -/
theorem fit_shows_circle :
    0 < (Settings.standard : Settings ℝ).size ∧ circledOrigin.ProperRadii ∧
      (⟨0, 1⟩ : Vec ℝ) ∈ circledOrigin.occupied ∧
      (Viewport.fit .standard circledOrigin).Shows .standard circledOrigin.occupied := by
  have drawn : 0 < (Settings.standard : Settings ℝ).size := by norm_num [Settings.standard]
  have proper : circledOrigin.ProperRadii := by
    intro entity member radius written
    simp only [circledOrigin, List.mem_cons, List.not_mem_nil, or_false] at member
    rcases member with rfl | rfl
    · obtain rfl := Option.some.inj written
      norm_num
    · cases written
  have center : circledOrigin.position? "point_O" = some ⟨0, 0⟩ := by
    simp [Scene.position?, Scene.find?, circledOrigin, EntityData.position?]
  have top : (⟨0, 1⟩ : Vec ℝ) ∈ circledOrigin.occupied := by
    refine ⟨_, List.mem_cons_self, .inr ⟨⟨0, 0⟩, 1, ?_, ?_⟩⟩
    · simp [circleOf?, center]
    · rw [distance_eq_iff (by norm_num)]
      norm_num [Vec.dot_eq]
  exact ⟨drawn, proper, top, fit_shows .standard circledOrigin drawn proper⟩

end Drawing

end FigureMarkup

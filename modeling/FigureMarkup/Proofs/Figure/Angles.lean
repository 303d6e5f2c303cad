import FigureMarkup.Figure.Measure
import FigureMarkup.Proofs.Plane.Turns

/-!
# Measured angles

A measured angle runs counter-clockwise from its first arm to its last one, on the side that it
means. It does not matter in which order the arms were given, and measuring it again changes
nothing.
-/

namespace FigureMarkup.Figure

open Plane FigureMarkup.Random

/-- The points of an angle stand at three places. -/
structure Angle.Stands {α : Type} (registry : Registry α) (angle : Angle α)
    (a vertex c : Vec α) : Prop where
  start : angle.p1.bind registry.position = some a
  vertex : angle.vertex.bind registry.position = some vertex
  stop : angle.p3.bind registry.position = some c

/-- Measure an angle with polar angles that come from a function. -/
def Registry.measureBy? {α : Type} [scalar : Scalar α] (atan2 : α → α → α)
    (registry : Registry α) (angle : Angle α) : Option (Angle α) :=
  @Registry.measure? α (scalar.withAtan2 atan2) registry angle

/-- Polar angles come from the function that the numbers bring along. -/
theorem Registry.measureBy?_atan2 {α : Type} [Scalar α] (registry : Registry α) (angle : Angle α) :
    registry.measureBy? Scalar.atan2 angle = registry.measure? angle :=
  rfl

namespace Angle

section

variable {α : Type}

/-- The angle from the last arm to the first. -/
def exchange (angle : Angle α) : Angle α :=
  { angle with p1 := angle.p3, p3 := angle.p1 }

/-- Note the sweep of an angle, and the places that it was measured from. -/
def record (angle : Angle α) (degrees : α) (a vertex c : Vec α) : Angle α :=
  { angle with degrees := some degrees, measured := some (a, vertex, c) }

/-- An angle has the arms of another one, in either order. -/
def HasArmsOf (measured angle : Angle α) : Prop :=
  measured.p1 = angle.p1 ∧ measured.p3 = angle.p3 ∨
    measured.p1 = angle.p3 ∧ measured.p3 = angle.p1

variable [scalar : Scalar α] {registry : Registry α} {angle : Angle α}
  {a vertex c : Vec α}

/-- Decide whether an angle has to exchange its arms to mean the side that it does. -/
def exchanges (big : Bool) (sweep : α) : Bool := big != decide (sweep < 0.0)

/-- The sweep on the side that an angle means. -/
def swept (big : Bool) (sweep : α) : α :=
  match big, decide (sweep < 0.0) with
  | false, false => sweep
  | false, true => -sweep
  | true, false => 360.0 - sweep
  | true, true => 360.0 + sweep

/-- What the first measurement of an angle makes of it. -/
def orient (angle : Angle α) (sweep : α) (a vertex c : Vec α) : Angle α :=
  if exchanges angle.big sweep then
    angle.exchange.record (swept angle.big sweep) c vertex a
  else
    angle.record (swept angle.big sweep) a vertex c

theorem measureAt_of_fresh (fresh : angle.measured = none) (a vertex c : Vec α) :
    angle.measureAt a vertex c = angle.orient (signedAngle a vertex c) a vertex c := by
  obtain ⟨name, p1, own, p3, big, degrees, measured, color⟩ := angle
  obtain rfl : measured = none := fresh
  cases big <;> by_cases negative : signedAngle a vertex c < 0.0 <;>
    simp [measureAt, isMeasuredAt, orient, exchanges, swept, exchange, record, negative]

theorem Stands.measureBy? (stands : Stands registry angle a vertex c) (atan2 : α → α → α) :
    registry.measureBy? atan2 angle =
      some (@measureAt α (scalar.withAtan2 atan2) angle a vertex c) := by
  simp [Registry.measureBy?, Registry.measure?, stands.start, stands.vertex, stands.stop]

theorem Stands.measureBy?_of_fresh (stands : Stands registry angle a vertex c)
    (fresh : angle.measured = none) (atan2 : α → α → α) :
    registry.measureBy? atan2 angle =
      some (angle.orient (turn (bearing atan2 vertex a) (bearing atan2 vertex c)) a vertex c) := by
  rw [stands.measureBy?, ← signedAngle_withAtan2]
  exact congrArg some (@measureAt_of_fresh α (scalar.withAtan2 atan2) angle fresh a vertex c)

theorem orient_degrees (angle : Angle α) (sweep : α) (a vertex c : Vec α) :
    (angle.orient sweep a vertex c).degrees = some (swept angle.big sweep) := by
  unfold orient
  split <;> rfl

/-- Measuring an angle leaves its name, its vertex, its side and its color. -/
theorem orient_rest (angle : Angle α) (sweep : α) (a vertex c : Vec α) :
    angle.orient sweep a vertex c = { angle with
      p1 := (angle.orient sweep a vertex c).p1
      p3 := (angle.orient sweep a vertex c).p3
      degrees := some (swept angle.big sweep)
      measured := (angle.orient sweep a vertex c).measured } := by
  unfold orient
  split <;> rfl

theorem orient_arms (angle : Angle α) (sweep : α) (a vertex c : Vec α) :
    (angle.orient sweep a vertex c).p1 =
        (if exchanges angle.big sweep then angle.p3 else angle.p1) ∧
      (angle.orient sweep a vertex c).p3 =
        if exchanges angle.big sweep then angle.p1 else angle.p3 := by
  unfold orient
  split <;> exact ⟨rfl, rfl⟩

theorem orient_hasArmsOf (angle : Angle α) (sweep : α) (a vertex c : Vec α) :
    (angle.orient sweep a vertex c).HasArmsOf angle := by
  unfold orient
  split
  · exact .inr ⟨rfl, rfl⟩
  · exact .inl ⟨rfl, rfl⟩

theorem orient_measured (angle : Angle α) (sweep : α) (a vertex c : Vec α) :
    (angle.orient sweep a vertex c).measured =
      some (if exchanges angle.big sweep then c else a, vertex,
        if exchanges angle.big sweep then a else c) := by
  unfold orient
  split <;> rfl

/-- The points of a measured angle stand where it was measured, in the order of its arms. -/
theorem Stands.orient (stands : Stands registry angle a vertex c) (sweep : α) :
    Stands registry (angle.orient sweep a vertex c)
      (if exchanges angle.big sweep then c else a) vertex
      (if exchanges angle.big sweep then a else c) := by
  unfold Angle.orient
  split
  · exact ⟨stands.stop, stands.vertex, stands.start⟩
  · exact ⟨stands.start, stands.vertex, stands.stop⟩

/-- An angle is not measured again while its points stay where they are. -/
theorem Stands.measureBy?_orient {later : Registry α} {sweep : α}
    (stands : Stands later (angle.orient sweep a vertex c)
      (if exchanges angle.big sweep then c else a) vertex
      (if exchanges angle.big sweep then a else c))
    (same : (a == a) = true ∧ (vertex == vertex) = true ∧ (c == c) = true) (atan2 : α → α → α) :
    later.measureBy? atan2 (angle.orient sweep a vertex c) =
      some (angle.orient sweep a vertex c) := by
  rw [stands.measureBy?]
  refine congrArg some (if_pos ?_)
  have kept : (angle.orient sweep a vertex c).isMeasuredAt
      (if exchanges angle.big sweep then c else a) vertex
      (if exchanges angle.big sweep then a else c) = true := by
    rw [isMeasuredAt, orient_measured]
    cases exchanges angle.big sweep <;> simp [same]
  exact kept

end

/-! ## Sweeps in doubles -/

/-- The sweep that an angle means, from the exact turn between its arms. -/
def meant (big : Bool) (turn : ℚ) : ℚ := if big then 360 - |turn| else |turn|

section Sweeps

variable (big : Bool) {sweep back : Float} (ahead : Direction sweep)

include ahead

omit big in
theorem negative_iff : sweep < 0.0 ↔ rational sweep < 0 := by
  rw [ahead.sized.lt_iff_rational (sized_zero (-44)), rational_zero]

theorem swept_of_neg (negative : rational sweep < 0) :
    swept big sweep = (if big then 360.0 + sweep else -sweep) ∧ exchanges big sweep = !big := by
  have side : decide (sweep < 0.0) = true := decide_eq_true ((negative_iff ahead).2 negative)
  unfold swept exchanges
  rw [side]
  cases big <;> exact ⟨rfl, rfl⟩

theorem swept_of_nonneg (nonneg : 0 ≤ rational sweep) :
    swept big sweep = (if big then 360.0 - sweep else sweep) ∧ exchanges big sweep = big := by
  have side : decide (sweep < 0.0) = false :=
    decide_eq_false fun negative => nonneg.not_gt ((negative_iff ahead).1 negative)
  unfold swept exchanges
  rw [side]
  cases big <;> exact ⟨rfl, rfl⟩

/-- An angle is measured as the sweep that it means, rounded. -/
theorem roundsTo_swept : Sized (-42) (swept big sweep) ∧
    RoundsTo (meant big (rational sweep)) (swept big sweep).toModel.unpack := by
  unfold meant
  rcases lt_or_ge (rational sweep) 0 with negative | nonneg
  · rw [(swept_of_neg big ahead negative).1, abs_of_neg negative]
    cases big with
    | false =>
        have sized := ahead.sized.neg (by decide)
        refine ⟨sized.mono (by decide), ?_⟩
        rw [if_neg Bool.false_ne_true, if_neg Bool.false_ne_true,
          ← ahead.sized.rational_neg (by decide)]
        exact sized.canonical.roundsTo
    | true =>
        have sum : 360 - -rational sweep = rational 360.0 + rational sweep := by
          rw [rational_360]
          ring
        rw [if_pos rfl, if_pos rfl, sum]
        exact ⟨sized_360.add ahead.sized (by decide),
          sized_360.roundsTo_add ahead.sized (by decide)⟩
  · rw [(swept_of_nonneg big ahead nonneg).1, abs_of_nonneg nonneg]
    cases big with
    | false => exact ⟨ahead.sized.mono (by decide), ahead.sized.canonical.roundsTo⟩
    | true =>
        rw [if_pos rfl, if_pos rfl, ← rational_360]
        exact ⟨sized_360.sub ahead.sized (by decide),
          sized_360.roundsTo_sub ahead.sized (by decide)⟩

/-- Where no rounding is needed, there is none. -/
theorem rational_swept {bound : Float} {m : Int} (sized : Sized m bound)
    (exact_eq : meant big (rational sweep) = rational bound) :
    rational (swept big sweep) = rational bound :=
  (roundsTo_swept big ahead).2.eq sized.canonical exact_eq

theorem rational_swept_of_zero (zero : rational sweep = 0) :
    rational (swept big sweep) = if big then 360 else 0 := by
  cases big with
  | false =>
      rw [rational_swept _ ahead (sized_zero 0) (by simp [meant, zero]), rational_zero]
      rfl
  | true =>
      rw [rational_swept _ ahead sized_360 (by simp [meant, zero]), rational_360]
      rfl

theorem rational_swept_of_half (half : rational sweep = 180) :
    rational (swept big sweep) = 180 := by
  have same : meant big (rational sweep) = rational 180.0 := by
    rw [meant, half, rational_180]
    cases big <;> norm_num
  rw [rational_swept big ahead sized_180 same, rational_180]

variable (behind : Direction back)

include behind

theorem rational_swept_of_opposite_of_neg
    (opposite : Opposite sweep.toModel.unpack back.toModel.unpack) (negative : rational sweep < 0) :
    rational (swept big sweep) = rational (swept big back) ∧
      exchanges big back = !exchanges big sweep := by
  have negated : rational back = -rational sweep := opposite.value_eq
  have positive : 0 ≤ rational back := by linarith
  rw [(swept_of_neg big ahead negative).1, (swept_of_neg big ahead negative).2,
    (swept_of_nonneg big behind positive).1, (swept_of_nonneg big behind positive).2, Bool.not_not]
  refine ⟨?_, rfl⟩
  cases big with
  | false =>
      change rational (-sweep) = rational back
      rw [ahead.sized.rational_neg (by decide), negated]
  | true => exact opposite.symm.add_eq_sub behind.sized ahead.sized sized_360 (by decide)

/-- Opposite turns mean the same sweep, and one of them exchanges the arms. -/
theorem rational_swept_of_opposite
    (opposite : Opposite sweep.toModel.unpack back.toModel.unpack) :
    rational (swept big sweep) = rational (swept big back) ∧
      (rational sweep ≠ 0 → exchanges big back = !exchanges big sweep) := by
  have negated : rational back = -rational sweep := opposite.value_eq
  rcases lt_trichotomy (rational sweep) 0 with negative | zero | positive
  · obtain ⟨same, flipped⟩ := rational_swept_of_opposite_of_neg big ahead behind opposite negative
    exact ⟨same, fun _ => flipped⟩
  · refine ⟨?_, fun nonzero => absurd zero nonzero⟩
    rw [rational_swept_of_zero big ahead zero,
      rational_swept_of_zero big behind (by rw [negated, zero, neg_zero])]
  · obtain ⟨same, flipped⟩ :=
      rational_swept_of_opposite_of_neg big behind ahead opposite.symm (by linarith)
    exact ⟨same.symm, fun _ => by rw [flipped, Bool.not_not]⟩

end Sweeps

/-- The range of the sweeps on the side that an angle means. -/
def OnSide (big : Bool) (degrees : Float) : Prop :=
  if big then 180.0 ≤ degrees ∧ degrees ≤ 360.0 else 0.0 ≤ degrees ∧ degrees ≤ 180.0

theorem onSide_swept (big : Bool) {sweep : Float} (ahead : Direction sweep) :
    OnSide big (swept big sweep) := by
  obtain ⟨sized, roundsTo⟩ := roundsTo_swept big ahead
  have nonneg := abs_nonneg (rational sweep)
  have half := abs_le.2 ⟨ahead.least, ahead.greatest⟩
  cases big with
  | false =>
      change RoundsTo |rational sweep| _ at roundsTo
      refine ⟨?_, ?_⟩
      · rw [(sized_zero 0).le_iff_rational sized]
        exact roundsTo.ge (sized_zero 0) (by rwa [rational_zero])
      · rw [sized.le_iff_rational sized_180]
        exact roundsTo.le sized_180 (by rwa [rational_180])
  | true =>
      change RoundsTo (360 - |rational sweep|) _ at roundsTo
      refine ⟨?_, ?_⟩
      · rw [sized_180.le_iff_rational sized]
        exact roundsTo.ge sized_180 (by rw [rational_180]; linarith)
      · rw [sized.le_iff_rational sized_360]
        exact roundsTo.le sized_360 (by rw [rational_360]; linarith)

/-- The sweep that an angle means is the turn between its arms as it orders them, and a whole turn
if it means the side beyond half a turn. -/
theorem meant_eq (big : Bool) {sweep : Float} (ahead : Direction sweep) :
    ∃ whole : ℤ, meant big (rational sweep) =
      (if exchanges big sweep then -rational sweep else rational sweep) + 360 * whole := by
  unfold meant
  rcases lt_or_ge (rational sweep) 0 with negative | nonneg
  · rw [(swept_of_neg big ahead negative).2, abs_of_neg negative]
    cases big
    · exact ⟨0, by simp⟩
    · exact ⟨1, by simp; ring⟩
  · rw [(swept_of_nonneg big ahead nonneg).2, abs_of_nonneg nonneg]
    cases big
    · exact ⟨0, by simp⟩
    · exact ⟨1, by simp; ring⟩

theorem meant_le (big : Bool) {sweep : Float} (ahead : Direction sweep) :
    |meant big (rational sweep)| ≤ 360 := by
  have half := abs_le.2 ⟨ahead.least, ahead.greatest⟩
  have nonneg := abs_nonneg (rational sweep)
  unfold meant
  rw [abs_le]
  split <;> constructor <;> linarith

/-- A sweep is the difference of the directions of its arms, and some whole turns, up to
rounding. -/
theorem swept_near (big : Bool) {start stop : Float} (first : Direction start)
    (second : Direction stop) :
    ∃ turns : ℤ, |rational (swept big (turn start stop)) -
        ((if exchanges big (turn start stop) then rational start - rational stop
          else rational stop - rational start) + 360 * turns)| < 1 / 10 ^ 12 := by
  have ahead := first.direction_turn second
  obtain ⟨turns, inner⟩ := first.turn_near second
  obtain ⟨whole, same⟩ := meant_eq big ahead
  have small : |meant big (rational (turn start stop))| ≤ 2 ^ (-43 + 52 : ℤ) :=
    (meant_le big ahead).trans (by norm_num)
  have outer := (roundsTo_swept big ahead).2.near (by decide) small
  change |rational (swept big (turn start stop)) - _| ≤ _ at outer
  -- The turn is rounded twice at most, and the sweep once more.
  have unit : (2 : ℚ) ^ (-43 : ℤ) < 1 / 3 / 10 ^ 12 := by norm_num
  generalize (2 : ℚ) ^ (-43 : ℤ) = error at inner outer unit
  rw [same] at outer
  rw [abs_le] at inner outer
  cases flag : exchanges big (turn start stop) with
  | false =>
      refine ⟨whole + turns, ?_⟩
      rw [flag] at outer
      simp only [Bool.false_eq_true, if_false] at outer ⊢
      rw [abs_lt]
      push_cast
      constructor <;> linarith
  | true =>
      refine ⟨whole - turns, ?_⟩
      rw [flag] at outer
      simp only [if_true] at outer ⊢
      rw [abs_lt]
      push_cast
      constructor <;> linarith

/-- Exchanging the directions leaves the sweep. It changes which of the two orders is kept, unless
the sweep is nothing, half a turn or a whole turn. -/
theorem swept_swap (big : Bool) {start stop : Float} (first : Direction start)
    (second : Direction stop) :
    rational (swept big (turn stop start)) = rational (swept big (turn start stop)) ∧
      (rational (swept big (turn start stop)) ≠ 0 → rational (swept big (turn start stop)) ≠ 180 →
        rational (swept big (turn start stop)) ≠ 360 →
          exchanges big (turn stop start) = !exchanges big (turn start stop)) := by
  have ahead := first.direction_turn second
  have behind := second.direction_turn first
  obtain opposite | ⟨half, alsoHalf⟩ := first.turn_swap second
  · obtain ⟨same, flipped⟩ := rational_swept_of_opposite big ahead behind opposite
    refine ⟨same.symm, fun nonzero _ notWhole => flipped fun zero => ?_⟩
    have swept_eq := rational_swept_of_zero big ahead zero
    cases big with
    | false => exact nonzero swept_eq
    | true => exact notWhole swept_eq
  · have swept_eq := rational_swept_of_half big ahead half
    exact ⟨(rational_swept_of_half big behind alsoHalf).trans swept_eq.symm,
      fun _ notHalf => absurd swept_eq notHalf⟩

/-! ## Measuring an angle for the first time -/

/-- An angle between the same arms in the other order, which is not measured yet. -/
structure Reverses {α : Type} (other angle : Angle α) : Prop where
  fresh : other.measured = none
  p1 : other.p1 = angle.p3
  vertex : other.vertex = angle.vertex
  p3 : other.p3 = angle.p1
  big : other.big = angle.big

/-- An angle as it is measured in doubles: with a sweep on the side that it means, and its arms in
the order of that sweep. -/
structure Oriented (atan2 : Float → Float → Float) (registry : Registry Float)
    (angle : Angle Float) (vertex : Vec Float) (measured : Angle Float) (degrees : Float)
    (start stop : Vec Float) : Prop where
  result : registry.measureBy? atan2 angle = some measured
  sweep : measured.degrees = some degrees
  rest : measured = { angle with
    p1 := measured.p1, p3 := measured.p3, degrees := some degrees, measured := measured.measured }
  arms : measured.HasArmsOf angle
  stands : measured.Stands registry start vertex stop
  side : OnSide angle.big degrees
  turn : ∃ turns : ℤ, |rational degrees - (rational (bearing atan2 vertex stop) -
    rational (bearing atan2 vertex start) + 360 * turns)| < 1 / 10 ^ 12
  reversed : ∀ other, other.Reverses angle → ∃ otherMeasured otherDegrees,
    registry.measureBy? atan2 other = some otherMeasured ∧
    otherMeasured.degrees = some otherDegrees ∧ (otherDegrees == degrees) = true ∧
    ((degrees == 0.0) = false → (degrees == 180.0) = false → (degrees == 360.0) = false →
      otherMeasured.p1 = measured.p1 ∧ otherMeasured.p3 = measured.p3)
  again : ∀ later, measured.Stands later start vertex stop →
    later.measureBy? atan2 measured = some measured

section Doubles

variable {atan2 : Float → Float → Float} {registry : Registry Float} {angle : Angle Float}
  {a vertex c : Vec Float} (stands : angle.Stands registry a vertex c)
  (first : Direction (bearing atan2 vertex a)) (second : Direction (bearing atan2 vertex c))

include stands first second

/-- An angle whose arms are given in the other order is measured as the same sweep, and its arms
are left in the same order where that is determined. -/
theorem Reverses.measured {other : Angle Float} (reverses : other.Reverses angle) {sweep : Float}
    (turned : Plane.turn (bearing atan2 vertex a) (bearing atan2 vertex c) = sweep) :
    ∃ otherMeasured otherDegrees, registry.measureBy? atan2 other = some otherMeasured ∧
      otherMeasured.degrees = some otherDegrees ∧
      (otherDegrees == swept angle.big sweep) = true ∧
      ((swept angle.big sweep == 0.0) = false → (swept angle.big sweep == 180.0) = false →
        (swept angle.big sweep == 360.0) = false →
          otherMeasured.p1 = (angle.orient sweep a vertex c).p1 ∧
            otherMeasured.p3 = (angle.orient sweep a vertex c).p3) := by
  have otherStands : other.Stands registry c vertex a :=
    ⟨reverses.p1 ▸ stands.stop, reverses.vertex ▸ stands.vertex, reverses.p3 ▸ stands.start⟩
  have sized := (roundsTo_swept angle.big (first.direction_turn second)).1
  have otherSized := (roundsTo_swept angle.big (second.direction_turn first)).1
  obtain ⟨same, flipped⟩ := swept_swap angle.big first second
  rw [turned] at sized same flipped
  refine ⟨_, _, otherStands.measureBy?_of_fresh reverses.fresh atan2, orient_degrees .., ?_, ?_⟩
  · rw [reverses.big]
    exact (otherSized.beq_iff_rational sized).2 same
  · intro nonzero notHalf notWhole
    have flipped := flipped (rational_zero ▸ sized.rational_ne_of_beq (sized_zero 0) nonzero)
      (rational_180 ▸ sized.rational_ne_of_beq sized_180 notHalf)
      (rational_360 ▸ sized.rational_ne_of_beq sized_360 notWhole)
    rw [(orient_arms other ..).1, (orient_arms other ..).2, (orient_arms angle ..).1,
      (orient_arms angle ..).2, reverses.big, reverses.p1, reverses.p3, flipped]
    cases exchanges angle.big sweep <;> exact ⟨rfl, rfl⟩

theorem oriented_orient (fresh : angle.measured = none)
    (numbers : a.IsNumber ∧ vertex.IsNumber ∧ c.IsNumber) :
    ∃ measured degrees start stop,
      Oriented atan2 registry angle vertex measured degrees start stop := by
  generalize turned : Plane.turn (bearing atan2 vertex a) (bearing atan2 vertex c) = sweep
  have ahead : Direction sweep := turned ▸ first.direction_turn second
  have same := And.intro numbers.1.beq_self (And.intro numbers.2.1.beq_self numbers.2.2.beq_self)
  refine ⟨angle.orient sweep a vertex c, swept angle.big sweep, _, _,
    { result := turned ▸ stands.measureBy?_of_fresh fresh atan2
      sweep := orient_degrees ..
      rest := orient_rest ..
      arms := orient_hasArmsOf ..
      stands := stands.orient sweep
      side := onSide_swept angle.big ahead
      turn := ?_
      reversed := fun other reverses => reverses.measured stands first second turned
      again := fun later kept => kept.measureBy?_orient same atan2 }⟩
  obtain ⟨turns, near⟩ := swept_near angle.big first second
  rw [turned] at near
  refine ⟨turns, ?_⟩
  cases flag : exchanges angle.big sweep with
  | false => simpa only [flag, Bool.false_eq_true, if_false] using near
  | true => simpa only [flag, if_true] using near

end Doubles

/-! ## Exact arithmetic -/

theorem real_swept (big : Bool) (sweep : ℝ) : ∃ whole : ℤ,
    swept big sweep = (if exchanges big sweep then -sweep else sweep) + 360 * whole := by
  unfold swept exchanges
  cases big <;> cases decide (sweep < 0.0)
  · exact ⟨0, by simp⟩
  · exact ⟨0, by simp⟩
  · exact ⟨1, by norm_num; ring⟩
  · exact ⟨1, by norm_num; ring⟩

/-- Where nothing is rounded, a sweep is the difference of the directions of its arms and some
whole turns. -/
theorem real_degrees {atan2 : ℝ → ℝ → ℝ} {registry : Registry ℝ} {angle : Angle ℝ}
    {a vertex c : Vec ℝ} (stands : angle.Stands registry a vertex c)
    (fresh : angle.measured = none) :
    ∃ measured degrees start stop, registry.measureBy? atan2 angle = some measured ∧
      measured.degrees = some degrees ∧ measured.HasArmsOf angle ∧
      measured.Stands registry start vertex stop ∧
      ∃ turns : ℤ,
        degrees = bearing atan2 vertex stop - bearing atan2 vertex start + 360 * turns := by
  obtain ⟨turns, turned⟩ := real_turn (bearing atan2 vertex a) (bearing atan2 vertex c)
  obtain ⟨whole, same⟩ := real_swept angle.big
    (Plane.turn (bearing atan2 vertex a) (bearing atan2 vertex c))
  refine ⟨_, _, _, _, stands.measureBy?_of_fresh fresh atan2, orient_degrees ..,
    orient_hasArmsOf .., stands.orient _, ?_⟩
  rw [same]
  split
  · refine ⟨whole - turns, ?_⟩
    rw [turned]
    push_cast
    ring
  · refine ⟨whole + turns, ?_⟩
    rw [turned]
    push_cast
    ring

/-- An angle is measured as a sweep on the side that it means, counter-clockwise from its first arm
to its last one. The order in which the arms were given does not count, and measuring again changes
nothing while the points stay where they are. In doubles the sweep is the difference of the
directions of the arms up to rounding, and some whole turns; in exact arithmetic it is that. -/
theorem measured_angle_canonical :
    (∀ (atan2 : Float → Float → Float) (registry : Registry Float) (angle : Angle Float)
        (a vertex c : Vec Float),
      angle.Stands registry a vertex c → angle.measured = none →
      a.IsNumber ∧ vertex.IsNumber ∧ c.IsNumber →
      WithinHalfTurn (atan2 (a - vertex).y (a - vertex).x) →
      WithinHalfTurn (atan2 (c - vertex).y (c - vertex).x) →
        ∃ measured degrees start stop,
          Oriented atan2 registry angle vertex measured degrees start stop) ∧
    ∀ (atan2 : ℝ → ℝ → ℝ) (registry : Registry ℝ) (angle : Angle ℝ) (a vertex c : Vec ℝ),
      angle.Stands registry a vertex c → angle.measured = none →
        ∃ measured degrees start stop, registry.measureBy? atan2 angle = some measured ∧
          measured.degrees = some degrees ∧ measured.HasArmsOf angle ∧
          measured.Stands registry start vertex stop ∧
          ∃ turns : ℤ,
            degrees = bearing atan2 vertex stop - bearing atan2 vertex start + 360 * turns := by
  refine ⟨?_, fun atan2 registry angle a vertex c stands fresh => real_degrees stands fresh⟩
  intro atan2 registry angle a vertex c stands fresh numbers first second
  exact oriented_orient stands (direction_toDegrees first) (direction_toDegrees second) fresh
    numbers

/-- Three points at the corners of a quarter turn. -/
def quarter {α : Type} [Scalar α] : Registry α :=
  { Registry.empty .standard with
    points := #[
      (Point.new "A" Palette.standard.point).place ⟨0.0, 1.0⟩,
      (Point.new "B" Palette.standard.point).place ⟨0.0, 0.0⟩,
      (Point.new "C" Palette.standard.point).place ⟨1.0, 0.0⟩] }

/-- The angle from the upper arm of a quarter turn to the right one. -/
def quarterAngle {α : Type} : Angle α :=
  { Angle.new "ABC" Palette.standard.point with
    p1 := some ⟨0⟩
    vertex := some ⟨1⟩
    p3 := some ⟨2⟩ }

/-- The polar angles of the two arms of a quarter turn. -/
def quarterAtan2 (y _x : Float) : Float := if y == 0.0 then 0.0 else 1.5707963267948966

theorem stands_quarter {α : Type} [Scalar α] :
    (quarterAngle : Angle α).Stands quarter ⟨0.0, 1.0⟩ ⟨0.0, 0.0⟩ ⟨1.0, 0.0⟩ :=
  ⟨rfl, rfl, rfl⟩

/-- A quarter turn is measured so, with its arms given clockwise. -/
theorem measured_angle_canonical_quarter :
    ((quarterAngle : Angle Float).measured = none ∧
      ∃ measured degrees start stop, Oriented quarterAtan2 quarter quarterAngle ⟨0.0, 0.0⟩
        measured degrees start stop) ∧
    ((quarterAngle : Angle ℝ).measured = none ∧
      ∃ measured degrees start stop,
        (quarter : Registry ℝ).measureBy? Scalar.atan2 quarterAngle = some measured ∧
          measured.degrees = some degrees ∧ measured.HasArmsOf quarterAngle ∧
          measured.Stands quarter start ⟨0.0, 0.0⟩ stop ∧
          ∃ turns : ℤ, degrees = bearing Scalar.atan2 ⟨0.0, 0.0⟩ stop -
            bearing Scalar.atan2 ⟨0.0, 0.0⟩ start + 360 * turns) :=
  ⟨⟨rfl, measured_angle_canonical.1 quarterAtan2 quarter quarterAngle _ _ _ stands_quarter rfl
      ⟨by decide, by decide, by decide⟩ (by decide) (by decide)⟩,
    ⟨rfl, measured_angle_canonical.2 Scalar.atan2 quarter quarterAngle _ _ _ stands_quarter rfl⟩⟩

/-- The sweep runs from the right arm to the upper one. -/
example : ((quarter : Registry Float).measureBy? quarterAtan2 quarterAngle).map
    (fun measured => (measured.p1, measured.p3)) = some (some ⟨2⟩, some ⟨0⟩) := by
  decide +kernel

end Angle

end FigureMarkup.Figure

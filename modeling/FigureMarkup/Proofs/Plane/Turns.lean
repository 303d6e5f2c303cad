import FigureMarkup.Proofs.Plane.Exact
import FigureMarkup.Proofs.Random.Operations

/-!
# Turns between directions

The angle from one ray to another is the difference of their polar angles, moved by a whole turn
where it leaves the range of half a turn either way. In doubles it stays in that range, and is the
opposite angle where the rays are exchanged; only half a turn stays as it is.
-/

namespace FigureMarkup

/-- The numbers of a type, with polar angles that come from another function. -/
@[reducible]
def Scalar.withAtan2 {α : Type} (scalar : Scalar α) (atan2 : α → α → α) : Scalar α :=
  { scalar with atan2 }

namespace Plane

open FigureMarkup.Random

section

variable {α : Type} [scalar : Scalar α]

/-- The direction of the ray from one point through another, in degrees. -/
def bearing (atan2 : α → α → α) (vertex point : Vec α) : α :=
  Scalar.toDegrees (atan2 (point - vertex).y (point - vertex).x)

/-- The turn from one direction to another, at most half a turn either way. -/
def turn (start stop : α) : α :=
  let degrees := stop - start
  if 180.0 < degrees then degrees - 360.0
  else if degrees ≤ -180.0 then degrees + 360.0
  else degrees

theorem signedAngle_withAtan2 (atan2 : α → α → α) (first vertex last : Vec α) :
    @signedAngle α (scalar.withAtan2 atan2) first vertex last =
      turn (bearing atan2 vertex first) (bearing atan2 vertex last) :=
  rfl

end

/-- In exact arithmetic the turn is the difference of the directions and some whole turns. -/
theorem real_turn (start stop : ℝ) : ∃ turns : ℤ, turn start stop = stop - start + 360 * turns := by
  unfold turn
  dsimp only
  split
  · exact ⟨-1, by norm_num; ring⟩
  · split
    · exact ⟨1, by norm_num⟩
    · exact ⟨0, by norm_num⟩

/-! ## Places -/

/-- A place of which both coordinates are numbers. -/
def Vec.IsNumber (place : Vec Float) : Prop :=
  place.x.isNaN = false ∧ place.y.isNaN = false

instance (place : Vec Float) : Decidable place.IsNumber :=
  inferInstanceAs (Decidable (_ ∧ _))

theorem float_beq_self {x : Float} (isNumber : x.isNaN = false) : (x == x) = true := by
  change x.toModel.unpack.isNaN = false at isNumber
  change x.toModel.unpack.beq x.toModel.unpack = true
  generalize x.toModel.unpack = number at isNumber
  cases number with
  | notANumber => cases isNumber
  | infinity sign => cases sign <;> rfl
  | zero => rfl
  | finite sign mantissa exponent =>
      cases sign <;> simp [Float.Model.UnpackedFloat.beq, Float.Model.UnpackedFloat.compare]

theorem Vec.IsNumber.beq_self {place : Vec Float} (isNumber : place.IsNumber) :
    (place == place) = true := by
  change (place.x == place.x && place.y == place.y) = true
  rw [float_beq_self isNumber.1, float_beq_self isNumber.2]
  rfl

/-! ## Half a turn and a whole turn -/

theorem unpack_180 : (180.0 : Float).toModel.unpack =
    .finite .positive 6333186975989760 (-45) (by decide) := by
  have bits : (180.0 : Float).toModel.toBits = 0x4066800000000000 := by decide
  rw [Float.Model.unpack, bits]
  rfl

theorem unpack_360 : (360.0 : Float).toModel.unpack =
    .finite .positive 6333186975989760 (-44) (by decide) := by
  have bits : (360.0 : Float).toModel.toBits = 0x4076800000000000 := by decide
  rw [Float.Model.unpack, bits]
  rfl

theorem unpack_pi : (3.141592653589793 : Float).toModel.unpack =
    .finite .positive 7074237752028440 (-51) (by decide) := by
  have bits : (3.141592653589793 : Float).toModel.toBits = 0x400921FB54442D18 := by decide
  rw [Float.Model.unpack, bits]
  rfl

theorem unpack_degreesPerRadian : (57.29577951308232 : Float).toModel.unpack =
    .finite .positive 8063664102031864 (-47) (by decide) := by
  have bits : (57.29577951308232 : Float).toModel.toBits = 0x404CA5DC1A63C1F8 := by decide
  rw [Float.Model.unpack, bits]
  rfl

theorem sized_180 : Sized (-45) (180.0 : Float) :=
  ⟨.positive, unpack_180 ▸ .finite _ (by decide) (by decide)⟩

theorem sized_360 : Sized (-44) (360.0 : Float) :=
  ⟨.positive, unpack_360 ▸ .finite _ (by decide) (by decide)⟩

@[simp]
theorem rational_180 : rational 180.0 = 180 := by
  rw [rational, unpack_180, value]
  norm_num

@[simp]
theorem rational_360 : rational 360.0 = 360 := by
  rw [rational, unpack_360, value]
  norm_num

theorem sized_neg_180 : Sized (-45) (-180.0 : Float) :=
  sized_180.neg (by decide)

@[simp]
theorem rational_neg_180 : rational (-180.0) = -180 := by
  rw [sized_180.rational_neg (by decide), rational_180]

/-! ## Directions -/

/-- A direction in degrees that is at most half a turn either way. -/
structure Direction (degrees : Float) : Prop where
  sized : Sized (-44) degrees
  least : -180 ≤ rational degrees
  greatest : rational degrees ≤ 180

/-- An angle in radians that is at most half a turn either way. -/
def WithinHalfTurn (radians : Float) : Prop :=
  -3.141592653589793 ≤ radians ∧ radians ≤ 3.141592653589793

instance (radians : Float) : Decidable (WithinHalfTurn radians) :=
  inferInstanceAs (Decidable (_ ∧ _))

/-- Half a turn in radians is half a turn in degrees, so that no direction is beyond it. -/
theorem direction_toDegrees {radians : Float} (within : WithinHalfTurn radians) :
    Direction (Scalar.toDegrees radians) := by
  obtain ⟨least, greatest⟩ := within
  have pi : Sized (-51) (3.141592653589793 : Float) :=
    ⟨.positive, unpack_pi ▸ .finite _ (by decide) (by decide)⟩
  have factor : Sized (-47) (57.29577951308232 : Float) :=
    ⟨.positive, unpack_degreesPerRadian ▸ .finite _ (by decide) (by decide)⟩
  have opposite := pi.neg (by decide)
  have sized := Sized.of_between opposite pi least greatest
  rw [opposite.le_iff_rational sized, pi.rational_neg (by decide)] at least
  rw [sized.le_iff_rational pi] at greatest
  have positive : 0 < rational 57.29577951308232 := by
    rw [rational, unpack_degreesPerRadian, value]
    norm_num
  have half : rational 3.141592653589793 * rational 57.29577951308232 ≤ 180 := by
    rw [rational, rational, unpack_pi, unpack_degreesPerRadian, value, value]
    norm_num
  have product := sized.roundsTo_mul factor (by decide)
  change Direction (radians * 57.29577951308232)
  constructor
  · exact sized.mul factor (by decide)
  · have exact_ge : rational (-180.0) ≤ rational radians * rational 57.29577951308232 := by
      rw [rational_neg_180]
      nlinarith
    have := product.ge sized_neg_180 exact_ge
    rwa [rational_neg_180] at this
  · have exact_le : rational radians * rational 57.29577951308232 ≤ rational 180.0 := by
      rw [rational_180]
      nlinarith
    have := product.le sized_180 exact_le
    rwa [rational_180] at this

example : (Scalar.toDegrees 3.141592653589793 : Float) = 180.0 := by
  decide +kernel

/-! ## The turn between two directions -/

namespace Direction

variable {start stop : Float} (first : Direction start) (second : Direction stop)

include first second

theorem sized_sub : Sized (-42) (stop - start) :=
  second.sized.sub first.sized (by decide)

theorem roundsTo_sub : RoundsTo (rational stop - rational start) (stop - start).toModel.unpack :=
  second.sized.roundsTo_sub first.sized (by decide)

theorem sub_le : rational (stop - start) ≤ 360 := by
  rw [← rational_360]
  refine (first.roundsTo_sub second).le sized_360 ?_
  rw [rational_360]
  linarith [first.least, second.greatest]

theorem neg_le_sub : -360 ≤ rational (stop - start) := by
  have opposite : rational (-360.0) = -360 := by
    rw [sized_360.rational_neg (by decide), rational_360]
  rw [← opposite]
  refine (first.roundsTo_sub second).ge (sized_360.neg (by decide)) ?_
  rw [opposite]
  linarith [first.greatest, second.least]

theorem turn_of_inside (above : -180 < rational (stop - start))
    (below : rational (stop - start) ≤ 180) : turn start stop = stop - start := by
  have notOver : ¬ (180.0 : Float) < stop - start := by
    rw [sized_180.lt_iff_rational (first.sized_sub second), rational_180]
    exact below.not_gt
  have notUnder : ¬ stop - start ≤ -180.0 := by
    rw [(first.sized_sub second).le_iff_rational sized_neg_180, rational_neg_180]
    exact above.not_ge
  unfold turn
  exact (if_neg notOver).trans (if_neg notUnder)

theorem turn_of_beyond (beyond : 180 < rational (stop - start)) :
    turn start stop = stop - start - 360.0 := by
  refine if_pos ((sized_180.lt_iff_rational (first.sized_sub second)).2 ?_)
  rwa [rational_180]

theorem turn_of_under (under : rational (stop - start) ≤ -180) :
    turn start stop = stop - start + 360.0 := by
  have notOver : ¬ (180.0 : Float) < stop - start := by
    rw [sized_180.lt_iff_rational (first.sized_sub second), rational_180]
    linarith
  have least : stop - start ≤ -180.0 := by
    rwa [(first.sized_sub second).le_iff_rational sized_neg_180, rational_neg_180]
  exact (if_neg notOver).trans (if_pos least)

/-- The turn is rounded from the difference and at most one whole turn either way. -/
theorem roundsTo_turn : ∃ turns : ℤ, Sized (-40) (turn start stop) ∧
    RoundsTo (rational (stop - start) + 360 * turns) (turn start stop).toModel.unpack ∧
    |rational (stop - start) + 360 * turns| ≤ 180 := by
  have difference := first.sized_sub second
  have least := first.neg_le_sub second
  have greatest := first.sub_le second
  rcases lt_or_ge 180 (rational (stop - start)) with beyond | below
  · refine ⟨-1, ?_⟩
    have back : rational (stop - start) + 360 * (-1 : ℤ) =
        rational (stop - start) - rational 360.0 := by
      rw [rational_360]
      norm_num
      ring
    rw [first.turn_of_beyond second beyond, back]
    refine ⟨difference.sub sized_360 (by decide), difference.roundsTo_sub sized_360 (by decide), ?_⟩
    rw [rational_360, abs_le]
    constructor <;> linarith
  rcases lt_or_ge (-180) (rational (stop - start)) with above | under
  · refine ⟨0, ?_⟩
    rw [first.turn_of_inside second above below, Int.cast_zero, mul_zero, add_zero]
    exact ⟨difference.mono (by decide), difference.canonical.roundsTo, abs_le.2 ⟨above.le, below⟩⟩
  · refine ⟨1, ?_⟩
    have ahead : rational (stop - start) + 360 * (1 : ℤ) =
        rational (stop - start) + rational 360.0 := by
      rw [rational_360, Int.cast_one, mul_one]
    rw [first.turn_of_under second under, ahead]
    refine ⟨difference.add sized_360 (by decide), difference.roundsTo_add sized_360 (by decide), ?_⟩
    rw [rational_360, abs_le]
    constructor <;> linarith

/-- The turn is at most half a turn either way. -/
theorem direction_turn : Direction (turn start stop) := by
  obtain ⟨turns, sized, roundsTo, within⟩ := first.roundsTo_turn second
  obtain ⟨least, greatest⟩ := abs_le.1 within
  have above := roundsTo.ge sized_neg_180 (by rwa [rational_neg_180])
  have below := roundsTo.le sized_180 (by rwa [rational_180])
  refine ⟨?_, rational_neg_180 ▸ above, rational_180 ▸ below⟩
  refine (sized_neg_180.of_between sized_180 ?_ ?_).mono (by decide)
  · exact (sized_neg_180.le_iff_rational sized).2 above
  · exact (sized.le_iff_rational sized_180).2 below

/-- The turn is the difference of the directions and some whole turns, up to rounding. -/
theorem turn_near : ∃ turns : ℤ,
    |rational (turn start stop) - (rational stop - rational start + 360 * turns)| ≤
      2 * 2 ^ (-43 : ℤ) := by
  obtain ⟨turns, -, roundsTo, within⟩ := first.roundsTo_turn second
  refine ⟨turns, ?_⟩
  have half : |rational (stop - start) + 360 * turns| ≤ 2 ^ (-43 + 52 : ℤ) :=
    within.trans (by norm_num)
  have outer := roundsTo.near (by decide) half
  have whole : |rational stop - rational start| ≤ 2 ^ (-43 + 52 : ℤ) := by
    rw [abs_le]
    norm_num
    constructor <;> linarith [first.least, first.greatest, second.least, second.greatest]
  have inner := (first.roundsTo_sub second).near (by decide) whole
  rw [abs_le] at outer inner ⊢
  change -_ ≤ rational (turn start stop) - _ ∧ rational (turn start stop) - _ ≤ _ at outer
  change -_ ≤ rational (stop - start) - _ ∧ rational (stop - start) - _ ≤ _ at inner
  constructor <;> linarith

theorem rational_sub_swap : rational (start - stop) = -rational (stop - start) :=
  (second.sized.sub_swap first.sized (by decide)).value_eq

/-- Half a turn back counts as half a turn ahead. -/
theorem turn_of_half_back (half : rational (stop - start) = -180) :
    rational (turn start stop) = 180 := by
  have rounded := (first.sized_sub second).roundsTo_add sized_360 (by decide)
  rw [← first.turn_of_under second half.le, half, rational_360] at rounded
  have exactly : (-180 + 360 : ℚ) = rational 180.0 := by
    rw [rational_180]
    norm_num
  exact (rounded.eq sized_180.canonical exactly).trans rational_180

theorem opposite_turn_of_beyond (beyond : 180 < rational (stop - start)) :
    Opposite (turn start stop).toModel.unpack (turn stop start).toModel.unpack := by
  have negated := first.rational_sub_swap second
  rw [first.turn_of_beyond second beyond, second.turn_of_under first (by linarith)]
  exact (second.sized.sub_swap first.sized (by decide)).sub_add (first.sized_sub second)
    (second.sized_sub first) sized_360 (by decide) (by linarith)

/-- The turn between two directions reverses where they are exchanged, unless it is half a turn. -/
theorem turn_swap : Opposite (turn start stop).toModel.unpack (turn stop start).toModel.unpack ∨
    rational (turn start stop) = 180 ∧ rational (turn stop start) = 180 := by
  have negated := first.rational_sub_swap second
  -- Either difference may be the one that is moved; at half a turn only the negative one is.
  rcases lt_trichotomy (rational (stop - start)) (-180) with under | half | above
  · exact .inl (second.opposite_turn_of_beyond first (by linarith)).symm
  · refine .inr ⟨first.turn_of_half_back second half, ?_⟩
    rw [second.turn_of_inside first (by linarith) (by linarith), negated, half, neg_neg]
  rcases lt_trichotomy (rational (stop - start)) 180 with below | half | beyond
  · rw [first.turn_of_inside second above below.le,
      second.turn_of_inside first (by linarith) (by linarith)]
    exact .inl (second.sized.sub_swap first.sized (by decide))
  · refine .inr ⟨?_, second.turn_of_half_back first (by rw [negated, half])⟩
    rw [first.turn_of_inside second above half.le, half]
  · exact .inl (first.opposite_turn_of_beyond second beyond)

end Direction

end Plane

end FigureMarkup

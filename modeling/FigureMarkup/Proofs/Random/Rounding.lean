import FigureMarkup.Proofs.Random.Values

/-!
# Rounding

The result of an operation on doubles is the exact result, moved to a double without passing over
another one. So it stays between all doubles that the exact result lies between, is exact where that
is a double itself, and else is off by no more than the distance of the doubles around it.
-/

namespace FigureMarkup.Random

open Float.Model UnpackedFloat

/-- A number comes from an exact value by rounding that passes over no double. -/
def Rounds (exact : ℚ) (x : UnpackedFloat) : Prop :=
  ∀ bound, Canonical bound →
    (exact ≤ value bound → value x ≤ value bound) ∧ (value bound ≤ exact → value bound ≤ value x)

theorem Rounds.neg {exact : ℚ} {x : UnpackedFloat} (rounds : Rounds exact x) :
    Rounds (-exact) x.neg := by
  intro bound canonical
  have ⟨above, below⟩ := rounds bound.neg canonical.neg
  rw [value_neg] at above below ⊢
  exact ⟨fun le => by linarith [below (by linarith)], fun le => by linarith [above (by linarith)]⟩

/-- A result that is rounded and has the form of a double. -/
structure RoundsTo (exact : ℚ) (x : UnpackedFloat) : Prop where
  rounds : Rounds exact x
  canonical : Canonical x

theorem RoundsTo.neg {exact : ℚ} {x : UnpackedFloat} (roundsTo : RoundsTo exact x) :
    RoundsTo (-exact) x.neg :=
  ⟨roundsTo.rounds.neg, roundsTo.canonical.neg⟩

theorem Canonical.roundsTo {x : UnpackedFloat} (canonical : Canonical x) : RoundsTo (value x) x :=
  ⟨fun _ _ => ⟨id, id⟩, canonical⟩

theorem roundsTo_zero (sign : Sign) : RoundsTo 0 (.zero sign) :=
  (Canonical.zero sign).roundsTo

/-- Where the exact result is a double itself, nothing is rounded. -/
theorem RoundsTo.eq {exact : ℚ} {x bound : UnpackedFloat} (roundsTo : RoundsTo exact x)
    (canonical : Canonical bound) (same : exact = value bound) : value x = value bound :=
  le_antisymm ((roundsTo.rounds bound canonical).1 same.le)
    ((roundsTo.rounds bound canonical).2 same.ge)

/-! ## Mantissas -/

/-- A shift that drops nothing but zeros leaves an exact mantissa. -/
theorem shiftRight_of_dvd {mantissa places : Nat} (divides : 2 ^ places ∣ mantissa) :
    ExtendedMantissa.ofMantissaAndAccuracy mantissa .exact >>> places =
      ExtendedMantissa.ofMantissaAndAccuracy (mantissa / 2 ^ places) .exact := by
  change places.repeat ExtendedMantissa.shiftRightOne _ = _
  induction places with
  | zero => simp [Nat.repeat]
  | succ places ih =>
      obtain ⟨quotient, rfl⟩ := divides
      have split : 2 ^ (places + 1) * quotient = 2 ^ places * (2 * quotient) := by ring
      rw [Nat.repeat, ih ⟨2 * quotient, split⟩, split,
        Nat.mul_div_cancel_left _ (Nat.two_pow_pos places), ← split,
        Nat.mul_div_cancel_left _ (Nat.two_pow_pos (places + 1))]
      simp [ExtendedMantissa.ofMantissaAndAccuracy, ExtendedMantissa.shiftRightOne]

theorem roundedMantissa_of_dvd {mantissa places : Nat} (divides : 2 ^ places ∣ mantissa) :
    (ExtendedMantissa.ofMantissaAndAccuracy mantissa .exact >>> places).roundedMantissa =
      mantissa / 2 ^ places := by
  rw [shiftRight_of_dvd divides]
  rfl

/-- A mantissa as it is rounded after a shift: the next integer below or above the quotient, or the
quotient itself. -/
structure RoundedTo (mantissa places rounded : Nat) : Prop where
  below : mantissa / 2 ^ places ≤ rounded
  above : rounded ≤ mantissa / 2 ^ places + 1
  exact : 2 ^ places ∣ mantissa → rounded = mantissa / 2 ^ places

theorem roundedTo_roundedMantissa (mantissa places : Nat) :
    RoundedTo mantissa places
      (ExtendedMantissa.ofMantissaAndAccuracy mantissa .exact >>> places).roundedMantissa where
  below := by
    have := mantissa_le_roundedMantissa
      (ExtendedMantissa.ofMantissaAndAccuracy mantissa .exact >>> places)
    rwa [shiftRight_mantissa, ofMantissaAndAccuracy_mantissa] at this
  above := by
    have := roundedMantissa_le
      (ExtendedMantissa.ofMantissaAndAccuracy mantissa .exact >>> places)
    rwa [shiftRight_mantissa, ofMantissaAndAccuracy_mantissa] at this
  exact divides := roundedMantissa_of_dvd divides

/-- An integer above the exact quotient is above the rounded one. -/
theorem RoundedTo.le {mantissa places rounded bound : Nat}
    (roundedTo : RoundedTo mantissa places rounded) (above : mantissa ≤ bound * 2 ^ places) :
    rounded ≤ bound := by
  have positive := Nat.two_pow_pos places
  by_cases divides : 2 ^ places ∣ mantissa
  · rw [roundedTo.exact divides]
    exact Nat.div_le_of_le_mul (by rwa [Nat.mul_comm])
  · have different : mantissa ≠ bound * 2 ^ places := fun same => divides (same ▸ ⟨bound, by ring⟩)
    have below : mantissa / 2 ^ places < bound :=
      (Nat.div_lt_iff_lt_mul positive).2 (by omega)
    have := roundedTo.above
    omega

theorem RoundedTo.ge {mantissa places rounded bound : Nat}
    (roundedTo : RoundedTo mantissa places rounded) (below : bound * 2 ^ places ≤ mantissa) :
    bound ≤ rounded :=
  ((Nat.le_div_iff_mul_le (Nat.two_pow_pos places)).2 below).trans roundedTo.below

/-- A rounded mantissa that has filled up its places is shifted once more, without loss. -/
theorem shiftToTargetExponent_rounded {rounded : Nat} {exponent : Int} (fits : rounded ≤ 2 ^ 53)
    (least : -1074 ≤ exponent) :
    shiftToTargetExponent Format.binary64 rounded exponent .exact =
      if rounded = 2 ^ 53 then
        (ExtendedMantissa.ofMantissaAndAccuracy (2 ^ 52) .exact, exponent + 1)
      else (ExtendedMantissa.ofMantissaAndAccuracy rounded .exact, exponent) := by
  split
  case isTrue full =>
    rw [full, shiftToTargetExponent_eq 1 .exact Nat.log2_two_pow (by omega)]
    rfl
  case isFalse =>
    have width : rounded.log2 ≤ 52 := by
      by_cases zero : rounded = 0
      · simp [zero]
      · have := (Nat.log2_lt zero).2 (show rounded < 2 ^ 53 by omega)
        omega
    have stays : (Format.binary64.targetExponent (totalExponent rounded exponent) -
        exponent).toNat = 0 := by
      rw [targetExponent_eq, totalExponent]
      omega
    rw [shiftToTargetExponent, shiftToExponent, stays]
    simp only [Nat.cast_zero, add_zero]
    rfl

/-- The first shift leaves at most 53 places, and exactly as many unless it stops at the least
exponent. -/
theorem exists_shifted {mantissa : Nat} {exponent : Int} (positive : 0 < mantissa)
    (low : exponent ≤ Format.binary64.targetExponent (totalExponent mantissa exponent)) :
    ∃ places : Nat, -1074 ≤ exponent + places ∧ mantissa / 2 ^ places < 2 ^ 53 ∧
      (-1074 < exponent + places → 2 ^ 52 ≤ mantissa / 2 ^ places) ∧
      shiftToTargetExponent Format.binary64 mantissa exponent .exact =
        (ExtendedMantissa.ofMantissaAndAccuracy mantissa .exact >>> places, exponent + places) := by
  rw [targetExponent_eq, totalExponent] at low
  obtain ⟨places, reached⟩ : ∃ places : Nat,
      exponent + places = max ((mantissa.log2 : Int) + 1 + exponent - 53) (-1074) :=
    ⟨(max ((mantissa.log2 : Int) + 1 + exponent - 53) (-1074) - exponent).toNat, by omega⟩
  have lower := Nat.log2_self_le positive.ne'
  have upper := @Nat.lt_log2_self mantissa
  refine ⟨places, by omega, ?_, fun above => ?_, ?_⟩
  · rw [Nat.div_lt_iff_lt_mul (Nat.two_pow_pos places), ← Nat.pow_add]
    exact upper.trans_le (Nat.pow_le_pow_right (by decide) (by omega))
  · rw [Nat.le_div_iff_mul_le (Nat.two_pow_pos places), ← Nat.pow_add]
    exact (Nat.pow_le_pow_right (by decide) (by omega)).trans lower
  · have shift : (Format.binary64.targetExponent (totalExponent mantissa exponent) -
        exponent).toNat = places := by
      rw [targetExponent_eq, totalExponent]
      omega
    rw [shiftToTargetExponent, shiftToExponent, shift]

/-- What rounding a positive number makes of its mantissa. The exponent reached is the least one, or
the mantissa is full. -/
theorem exists_rounded {mantissa : Nat} {exponent : Int} (positive : 0 < mantissa)
    (low : exponent ≤ Format.binary64.targetExponent (totalExponent mantissa exponent)) :
    ∃ places rounded, RoundedTo mantissa places rounded ∧
      (-1074 < exponent + places → 2 ^ 52 ≤ mantissa / 2 ^ places) ∧
      Canonical (roundWithAccuracy Format.binary64 .positive mantissa exponent .exact) ∧
      value (roundWithAccuracy Format.binary64 .positive mantissa exponent .exact) =
        rounded * 2 ^ (exponent + places) := by
  obtain ⟨places, least, small, full, first⟩ := exists_shifted positive low
  have roundedTo := roundedTo_roundedMantissa mantissa places
  refine ⟨places, _, roundedTo, full, ?_⟩
  generalize same : (ExtendedMantissa.ofMantissaAndAccuracy mantissa .exact >>>
    places).roundedMantissa = rounded at roundedTo ⊢
  have below := roundedTo.below
  have fits : rounded ≤ 2 ^ 53 := by
    have := roundedTo.above
    omega
  unfold roundWithAccuracy
  simp only [first, same, shiftToTargetExponent_rounded fits least]
  by_cases carried : rounded = 2 ^ 53
  · simp only [if_pos carried, ofMantissaAndAccuracy_mantissa]
    refine ⟨.finite _ (by decide) (by omega) fun _ => le_rfl, ?_⟩
    have whole : (rounded : ℚ) = 2 * (2 ^ 52 : Nat) := by
      rw [carried]
      norm_num
    change ((2 ^ 52 : Nat) : ℚ) * 2 ^ (exponent + (places : Int) + 1) = _
    rw [whole, zpow_add_one₀ (by norm_num)]
    ring
  · simp only [if_neg carried, ofMantissaAndAccuracy_mantissa]
    by_cases zero : rounded = 0
    · simp only [dif_pos zero]
      exact ⟨.zero _, by simp [zero, value]⟩
    · simp only [dif_neg zero]
      exact ⟨.finite _ (by omega) least fun above => (full above).trans below, rfl⟩

theorem scaled_eq (mantissa places : Nat) (exponent : Int) :
    (mantissa : ℚ) * 2 ^ (exponent + (places : Int)) =
      (mantissa * 2 ^ places : Nat) * 2 ^ exponent := by
  rw [zpow_add₀ (by norm_num), zpow_natCast]
  push_cast
  ring

theorem scaled_le_iff {m n : Nat} {exponent : Int} :
    (m : ℚ) * 2 ^ exponent ≤ n * 2 ^ exponent ↔ m ≤ n := by
  rw [mul_le_mul_iff_left₀ (two_zpow_pos exponent), Nat.cast_le]

theorem roundsTo_positive {mantissa : Nat} {exponent : Int} (positive : 0 < mantissa)
    (low : exponent ≤ Format.binary64.targetExponent (totalExponent mantissa exponent)) :
    RoundsTo (mantissa * 2 ^ exponent)
      (roundWithAccuracy Format.binary64 .positive mantissa exponent .exact) := by
  obtain ⟨places, rounded, roundedTo, full, canonical, same⟩ := exists_rounded positive low
  refine ⟨fun bound bounding => ?_, canonical⟩
  have exactPositive : (0 : ℚ) < mantissa * 2 ^ exponent :=
    mul_pos (by exact_mod_cast positive) (two_zpow_pos exponent)
  have roundedNonneg : (0 : ℚ) ≤ rounded * 2 ^ (exponent + (places : Int)) :=
    mul_nonneg (by positivity) (two_zpow_pos _).le
  rw [same]
  cases bounding with
  | zero => exact ⟨fun le => absurd le exactPositive.not_ge, fun _ => roundedNonneg⟩
  | @finite sign m e mantissaPositive small least _ =>
      have boundPositive : (0 : ℚ) < m * 2 ^ e :=
        mul_pos (by exact_mod_cast mantissaPositive) (two_zpow_pos e)
      cases sign with
      | negative =>
          have negative : value (.finite .negative m e mantissaPositive) = -(m * 2 ^ e) := rfl
          rw [negative]
          exact ⟨fun le => by linarith, fun _ => by linarith⟩
      | positive =>
          have same : value (.finite .positive m e mantissaPositive) = m * 2 ^ e := rfl
          rw [same]
          by_cases aligned : exponent + (places : Int) ≤ e
          · -- The bound is a multiple of the unit of the rounded mantissa.
            obtain ⟨more, rfl⟩ : ∃ more : Nat, e = exponent + places + more :=
              ⟨(e - (exponent + places)).toNat, by omega⟩
            rw [scaled_eq m more, scaled_le_iff, scaled_le_iff, scaled_eq, scaled_le_iff,
              scaled_le_iff]
            exact ⟨roundedTo.le, roundedTo.ge⟩
          · -- The bound has a smaller exponent, and lies below all full mantissas.
            have below : e < exponent + (places : Int) := by omega
            have full := full (by omega)
            refine ⟨fun le => absurd le (not_le.2 ?_),
              fun _ => (magnitude_lt small (full.trans roundedTo.below) below).le⟩
            refine (magnitude_lt small full below).trans_le ?_
            rw [scaled_eq, scaled_le_iff]
            exact Nat.div_mul_le_self ..

/-! ## Signs -/

theorem roundWithAccuracy_neg (mantissa : Nat) (exponent : Int) :
    roundWithAccuracy Format.binary64 .negative mantissa exponent .exact =
      (roundWithAccuracy Format.binary64 .positive mantissa exponent .exact).neg := by
  unfold roundWithAccuracy
  dsimp only
  split <;> rfl

theorem log2_shiftLeft {mantissa : Nat} (positive : 0 < mantissa) (places : Nat) :
    (mantissa <<< places).log2 = mantissa.log2 + places := by
  have power := Nat.two_pow_pos places
  rw [Nat.shiftLeft_eq]
  apply log2_eq
  · rw [Nat.pow_add]
    exact Nat.mul_le_mul_right _ (Nat.log2_self_le positive.ne')
  · rw [Nat.add_right_comm, Nat.pow_add]
    exact Nat.mul_lt_mul_of_pos_right Nat.lt_log2_self power

/-- Rounding passes over no double. -/
theorem roundsTo_roundWithAccuracy (sign : Sign) {mantissa : Nat} {exponent : Int}
    (positive : 0 < mantissa)
    (low : exponent ≤ Format.binary64.targetExponent (totalExponent mantissa exponent)) :
    RoundsTo ((sign.apply mantissa : Int) * 2 ^ exponent)
      (roundWithAccuracy Format.binary64 sign mantissa exponent .exact) := by
  have magnitude := roundsTo_positive positive low
  cases sign with
  | positive => exact magnitude
  | negative =>
      have negated : ((Sign.negative.apply mantissa : Int) : ℚ) * 2 ^ exponent =
          -(mantissa * 2 ^ exponent) := by
        simp [Sign.apply]
      rw [negated, roundWithAccuracy_neg]
      exact magnitude.neg

/-- A mantissa that is moved to a smaller exponent. -/
theorem apply_shiftLeft (sign : Sign) (mantissa places : Nat) (exponent : Int) :
    ((sign.apply (mantissa <<< places : Nat) : Int) : ℚ) * 2 ^ exponent =
      (sign.apply mantissa : Int) * 2 ^ (exponent + places) := by
  rw [Nat.shiftLeft_eq, zpow_add₀ (by norm_num), zpow_natCast]
  cases sign <;>
    · simp only [Sign.apply]
      push_cast
      ring

theorem roundsTo_round (sign : Sign) {mantissa : Nat} (exponent : Int) (positive : 0 < mantissa) :
    RoundsTo ((sign.apply mantissa : Int) * 2 ^ exponent)
      (UnpackedFloat.round Format.binary64 sign mantissa exponent) := by
  let places := (exponent - Format.binary64.targetExponent (totalExponent mantissa exponent)).toNat
  have kept : totalExponent (mantissa <<< places) (exponent - places) =
      totalExponent mantissa exponent := by
    rw [totalExponent, totalExponent, log2_shiftLeft positive]
    push_cast
    omega
  have low : exponent - (places : Int) ≤
      Format.binary64.targetExponent (totalExponent (mantissa <<< places) (exponent - places)) := by
    rw [kept]
    omega
  have shifted : 0 < mantissa <<< places := by
    rw [Nat.shiftLeft_eq]
    exact Nat.mul_pos positive (Nat.two_pow_pos places)
  have rounded := roundsTo_roundWithAccuracy sign shifted low
  rw [apply_shiftLeft, Int.sub_add_cancel] at rounded
  exact rounded

theorem round_neg (mantissa : Nat) (exponent : Int) :
    UnpackedFloat.round Format.binary64 .negative mantissa exponent =
      (UnpackedFloat.round Format.binary64 .positive mantissa exponent).neg :=
  roundWithAccuracy_neg ..

theorem roundsTo_normalize (mantissa exponent : Int) (zero : Sign) :
    RoundsTo (mantissa * 2 ^ exponent)
      (UnpackedFloat.normalize Format.binary64 mantissa exponent zero) := by
  unfold UnpackedFloat.normalize
  cases order : compare mantissa 0 with
  | lt =>
    rw [Int.compare_eq_lt] at order
    have rounded := roundsTo_round .negative exponent (show 0 < (-mantissa).toNat by omega)
    rwa [Sign.apply, show -((-mantissa).toNat : Int) = mantissa by omega] at rounded
  | eq =>
    rw [Int.compare_eq_eq] at order
    rw [order, Int.cast_zero, zero_mul]
    exact roundsTo_zero zero
  | gt =>
    rw [Int.compare_eq_gt] at order
    have rounded := roundsTo_round .positive exponent (show 0 < mantissa.toNat by omega)
    rwa [Sign.apply, show (mantissa.toNat : Int) = mantissa by omega] at rounded

theorem unpacked_neg_neg (x : UnpackedFloat) : x.neg.neg = x := by
  rcases x with ⟨_ | _⟩ | _ | ⟨_ | _⟩ | ⟨_ | _, _, _⟩ <;> rfl

theorem normalize_neg {mantissa : Int} (exponent : Int) (zero : Sign) (nonzero : mantissa ≠ 0) :
    UnpackedFloat.normalize Format.binary64 (-mantissa) exponent zero =
      (UnpackedFloat.normalize Format.binary64 mantissa exponent zero).neg := by
  unfold UnpackedFloat.normalize
  rcases lt_or_gt_of_ne nonzero with below | above
  · rw [Int.compare_eq_lt.2 below, Int.compare_eq_gt.2 (by omega)]
    simp only [round_neg, unpacked_neg_neg]
  · rw [Int.compare_eq_gt.2 above, Int.compare_eq_lt.2 (by omega)]
    simp only [round_neg, Int.neg_neg]

/-! ## Errors -/

/-- A small multiple of a power of two is a double. -/
theorem exists_multiple {n exponent : Int} (small : n.natAbs < 2 ^ 53) (least : -1022 ≤ exponent) :
    ∃ bound, Canonical bound ∧ value bound = n * 2 ^ exponent := by
  by_cases zero : n = 0
  · exact ⟨.zero .positive, .zero _, by simp [zero]⟩
  · have positive : 0 < n.natAbs := by omega
    have width : n.natAbs.log2 ≤ 52 := by
      have := (Nat.log2_lt positive.ne').2 small
      omega
    obtain ⟨sign, same⟩ : ∃ sign : Sign, sign.apply n.natAbs = n := by
      rcases le_total 0 n with nonneg | nonpos
      · exact ⟨.positive, Int.natAbs_of_nonneg nonneg⟩
      · exact ⟨.negative, by rw [Sign.apply, Int.ofNat_natAbs_of_nonpos nonpos, Int.neg_neg]⟩
    let places := 52 - n.natAbs.log2
    have full : (n.natAbs <<< places).log2 = 52 := by
      rw [log2_shiftLeft positive]
      omega
    have shifted : 0 < n.natAbs <<< places := by
      rw [Nat.shiftLeft_eq]
      exact Nat.mul_pos positive (Nat.two_pow_pos places)
    refine ⟨.finite sign (n.natAbs <<< places) (exponent - places) shifted,
      .finite shifted ((Nat.log2_lt shifted.ne').1 (by omega)) (by omega)
        fun _ => full ▸ Nat.log2_self_le shifted.ne', ?_⟩
    rw [value_finite, apply_shiftLeft, same, Int.sub_add_cancel]

/-- Rounding moves a number by no more than the distance of the doubles around it. -/
theorem RoundsTo.near {exact : ℚ} {x : UnpackedFloat} (roundsTo : RoundsTo exact x)
    {exponent : Int} (least : -1022 ≤ exponent) (small : |exact| ≤ 2 ^ (exponent + 52)) :
    |value x - exact| ≤ 2 ^ exponent := by
  have scale := two_zpow_pos exponent
  let n := ⌊exact / 2 ^ exponent⌋
  have below : n * 2 ^ exponent ≤ exact := (le_div_iff₀ scale).1 (Int.floor_le _)
  have above : exact ≤ (n + 1 : Int) * 2 ^ exponent := by
    rw [Int.cast_add, Int.cast_one]
    exact ((div_lt_iff₀ scale).1 (Int.lt_floor_add_one _)).le
  have fits : n.natAbs ≤ 2 ^ 52 := by
    have quotient : |exact / 2 ^ exponent| ≤ 2 ^ 52 := by
      rwa [abs_div, abs_of_pos scale, div_le_iff₀ scale, ← zpow_natCast 2 52,
        ← zpow_add₀ (by norm_num), add_comm]
    obtain ⟨low, high⟩ := abs_le.1 quotient
    have least : -2 ^ 52 ≤ n := Int.le_floor.2 (by exact_mod_cast low)
    have greatest : n ≤ 2 ^ 52 := by exact_mod_cast (Int.floor_le _).trans high
    omega
  obtain ⟨low, lowCanonical, lowSame⟩ := exists_multiple (n := n) (by omega) least
  obtain ⟨high, highCanonical, highSame⟩ := exists_multiple (n := n + 1) (by omega) least
  have least := (roundsTo.rounds low lowCanonical).2 (lowSame ▸ below)
  have greatest := (roundsTo.rounds high highCanonical).1 (highSame ▸ above)
  rw [lowSame] at least
  rw [highSame, Int.cast_add, Int.cast_one, add_mul, one_mul] at greatest
  rw [Int.cast_add, Int.cast_one, add_mul, one_mul] at above
  rw [abs_le]
  constructor <;> linarith

end FigureMarkup.Random

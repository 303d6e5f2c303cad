import FigureMarkup.Proofs.Random.Lawful

/-!
# Ranges of draws

A number is drawn from a range only if the range is not empty. The parameter of a point on a
segment is drawn between a padding and one less the padding. A padding below a half leaves such a
range, also after the difference is rounded.
-/

namespace FigureMarkup.Random

open Float.Model UnpackedFloat

/-! ## Rounding numbers from a half to one -/

theorem mantissa_le_roundedMantissa (em : ExtendedMantissa) :
    em.mantissa ≤ em.roundedMantissa := by
  rcases em with ⟨mantissa, _ | _, _ | _⟩ <;>
    simp only [ExtendedMantissa.roundedMantissa, ExtendedMantissa.accuracy,
      Accuracy.roundToNearestEven] <;> omega

theorem log2_eq {n k : Nat} (lower : 2 ^ k ≤ n) (upper : n < 2 ^ (k + 1)) : n.log2 = k := by
  have positive : n ≠ 0 := by
    have := Nat.two_pow_pos k
    omega
  exact (Nat.log2_eq_iff positive).2 ⟨lower, upper⟩

/-- A normal number with an exponent from which on numbers are at least a half. -/
inductive AtLeastHalf : UnpackedFloat → Prop
  | finite {mantissa : Nat} {exponent : Int} (positive : 0 < mantissa) (normal : 2 ^ 52 ≤ mantissa)
      (small : mantissa < 2 ^ 53) (enough : -53 ≤ exponent) (limited : exponent ≤ 0) :
      AtLeastHalf (.finite .positive mantissa exponent positive)

theorem targetExponent_totalExponent {mantissa size : Nat} {exponent : Int}
    (width : mantissa.log2 = size) (normal : -1074 ≤ (size : Int) + exponent - 52) :
    Format.binary64.targetExponent (totalExponent mantissa exponent) =
      (size : Int) + exponent - 52 := by
  rw [targetExponent_eq, totalExponent, width]
  omega

theorem shiftToTargetExponent_eq (places : Nat) {mantissa : Nat} {exponent : Int}
    (accuracy : Accuracy) (width : mantissa.log2 = 52 + places)
    (enough : -1074 ≤ exponent + places) :
    shiftToTargetExponent Format.binary64 mantissa exponent accuracy =
      (ExtendedMantissa.ofMantissaAndAccuracy mantissa accuracy >>> places, exponent + places) := by
  have target : Format.binary64.targetExponent (totalExponent mantissa exponent) =
      exponent + places := by
    rw [targetExponent_totalExponent width (by omega)]
    omega
  have shift : (exponent + places - exponent).toNat = places := by omega
  rw [shiftToTargetExponent, target, shiftToExponent, shift]

/-- A number with at least 53 places is rounded to one with 53 places, which has its exponent or
the next one. -/
theorem roundWithAccuracy_normal (sign : Sign) {mantissa places : Nat} (exponent : Int)
    (accuracy : Accuracy) (lower : 2 ^ (52 + places) ≤ mantissa)
    (upper : mantissa < 2 ^ (53 + places)) (enough : -1074 ≤ exponent + places) :
    ∃ (rounded carried : Nat) (positive : 0 < rounded), 2 ^ 52 ≤ rounded ∧ rounded < 2 ^ 53 ∧
      carried ≤ 1 ∧ roundWithAccuracy Format.binary64 sign mantissa exponent accuracy =
        .finite sign rounded (exponent + places + carried) positive := by
  have width : mantissa.log2 = 52 + places :=
    log2_eq lower (by rwa [show 52 + places + 1 = 53 + places by omega])
  let shifted := ExtendedMantissa.ofMantissaAndAccuracy mantissa accuracy >>> places
  have quotient : 2 ^ 52 ≤ shifted.mantissa ∧ shifted.mantissa < 2 ^ 53 := by
    rw [shiftRight_mantissa, ofMantissaAndAccuracy_mantissa,
      Nat.le_div_iff_mul_le (Nat.two_pow_pos places),
      Nat.div_lt_iff_lt_mul (Nat.two_pow_pos places), ← Nat.pow_add, ← Nat.pow_add]
    exact ⟨lower, upper⟩
  have above := mantissa_le_roundedMantissa shifted
  have below := roundedMantissa_le shifted
  unfold roundWithAccuracy
  rw [shiftToTargetExponent_eq places accuracy width enough]
  dsimp only
  -- Rounding may fill up all places, so that the second shift adds one to the exponent.
  by_cases full : shifted.roundedMantissa = 2 ^ 53
  · rw [full, shiftToTargetExponent_eq 1 .exact Nat.log2_two_pow (by omega)]
    exact ⟨2 ^ 52, 1, by decide, by decide, by decide, by decide, rfl⟩
  · have normal : 2 ^ 52 ≤ shifted.roundedMantissa ∧ shifted.roundedMantissa < 2 ^ 53 := by omega
    rw [shiftToTargetExponent_eq 0 .exact (log2_eq normal.1 normal.2) (by simpa)]
    refine ⟨shifted.roundedMantissa, 0, by omega, normal.1, normal.2, by decide, ?_⟩
    exact dif_neg (by rw [shiftRight_mantissa, ofMantissaAndAccuracy_mantissa]; omega)

theorem round_normal (sign : Sign) {mantissa places : Nat} (exponent : Int)
    (lower : 2 ^ (52 + places) ≤ mantissa) (upper : mantissa < 2 ^ (53 + places))
    (enough : -1074 ≤ exponent + places) :
    ∃ (rounded carried : Nat) (positive : 0 < rounded), 2 ^ 52 ≤ rounded ∧ rounded < 2 ^ 53 ∧
      carried ≤ 1 ∧ UnpackedFloat.round Format.binary64 sign mantissa exponent =
        .finite sign rounded (exponent + places + carried) positive := by
  have width : mantissa.log2 = 52 + places :=
    log2_eq lower (by rwa [show 52 + places + 1 = 53 + places by omega])
  have target : Format.binary64.targetExponent (totalExponent mantissa exponent) =
      exponent + places := by
    rw [targetExponent_totalExponent width (by omega)]
    omega
  have kept : (exponent - (exponent + places)).toNat = 0 := by omega
  unfold UnpackedFloat.round
  simp only [decreaseExponent, target, kept, Nat.shiftLeft_zero, Nat.cast_zero, Int.sub_zero]
  exact roundWithAccuracy_normal sign exponent .exact lower upper enough

/-- A positive finite number whose exponent is at least a bound. -/
inductive High (least : Int) : UnpackedFloat → Prop
  | finite {mantissa : Nat} {exponent : Int} (positive : 0 < mantissa) (high : least ≤ exponent) :
      High least (.finite .positive mantissa exponent positive)

/-- Rounding a number from a half to one leaves a number that is at least a half. -/
theorem atLeastHalf_round {mantissa : Nat} {places : Nat} (lower : 2 ^ (52 + places) ≤ mantissa)
    (upper : mantissa < 2 ^ (53 + places)) :
    AtLeastHalf (UnpackedFloat.round Format.binary64 .positive mantissa (-53 - places)) := by
  obtain ⟨rounded, carried, positive, normal, small, once, same⟩ :=
    round_normal .positive (-53 - places) lower upper (by omega)
  rw [same]
  exact .finite positive normal small (by omega) (by omega)

/-- One less a number below a half is at least a half. -/
theorem atLeastHalf_one_sub {mantissa : Nat} {exponent : Int} (positive : 0 < mantissa)
    (small : mantissa < 2 ^ 53) (low : exponent ≤ -54) :
    AtLeastHalf (UnpackedFloat.sub Format.binary64 (.finite .positive (2 ^ 52) (-52) (by decide))
      (.finite .positive mantissa exponent positive)) := by
  obtain ⟨places, rfl⟩ : ∃ places : Nat, exponent = -53 - places :=
    ⟨(-53 - exponent).toNat, by omega⟩
  have least : min (-52) (-53 - (places : Int)) = -53 - places := by omega
  have raised : (-52 - (-53 - (places : Int))).toNat = places + 1 := by omega
  have one : 2 ^ 52 <<< (places + 1) = 2 ^ (53 + places) := by
    rw [Nat.shiftLeft_eq, ← Nat.pow_add]
    congr 1
    omega
  have doubled : 2 ^ (53 + places) = 2 * 2 ^ (52 + places) := by
    rw [← Nat.pow_succ']
    congr 1
    omega
  have half : 2 ^ 53 ≤ 2 ^ (52 + places) := Nat.pow_le_pow_right (by decide) (by omega)
  simp only [UnpackedFloat.sub, decreaseExponent, least, raised, one, Int.sub_self,
    Int.toNat_zero, Nat.shiftLeft_zero, Sign.apply]
  unfold UnpackedFloat.normalize
  generalize order : compare _ (0 : Int) = relation
  cases relation with
  | lt =>
      rw [Int.compare_eq_lt] at order
      omega
  | eq =>
      rw [Int.compare_eq_eq] at order
      omega
  | gt => exact atLeastHalf_round (by omega) (by omega)

theorem unpack_pack_normal (sign : Sign) {mantissa : Nat} {exponent : Int}
    (positive : 0 < mantissa) (normal : 2 ^ 52 ≤ mantissa) (small : mantissa < 2 ^ 53)
    (enough : -1074 ≤ exponent) (limited : exponent ≤ 971) :
    UnpackedFloat.unpack Format.binary64
        (UnpackedFloat.pack Format.binary64 (.finite sign mantissa exponent positive)) =
      .finite sign mantissa exponent positive := by
  have biased : (exponent + Format.binary64.exponentBias + (52 : Nat)).toNat =
      (exponent + 1075).toNat := by
    rw [Int.add_assoc]
    rfl
  have unlimited : ¬ 2 ^ 11 ≤ (exponent + 1075).toNat + 1 := by omega
  let field := BitVec.ofNat 11 (exponent + 1075).toNat
  have value : field.toNat = (exponent + 1075).toNat := by
    rw [BitVec.toNat_ofNat]
    omega
  have notFull : field ≠ -1#11 := fun full => by
    have := congrArg BitVec.toNat full
    rw [value] at this
    simp at this
    omega
  have notZero : field ≠ 0#11 := fun zero => by
    have := congrArg BitVec.toNat zero
    rw [value] at this
    simp at this
    omega
  have packed : UnpackedFloat.pack Format.binary64 (.finite sign mantissa exponent positive) =
      packComponents Format.binary64 sign field (BitVec.ofNat 52 mantissa) := by
    unfold UnpackedFloat.pack
    dsimp only
    rw [biased, if_neg unlimited, if_pos (by rw [log2_eq normal small]; rfl)]
  have whole : (1#1 ++ BitVec.ofNat 52 mantissa).toNat = mantissa := by
    rw [BitVec.toNat_append,
      ← Nat.shiftLeft_add_eq_or_of_lt (BitVec.isLt _), Nat.shiftLeft_eq]
    simp only [BitVec.toNat_ofNat]
    omega
  rw [packed, UnpackedFloat.unpack]
  simp only [unpackExponent_packComponents, unpackMantissa_packComponents,
    unpackSign_packComponents, ofBitVec_toBitVec, if_neg notFull, if_neg notZero, value, whole]
  congr 1
  change ((exponent + 1075).toNat : Int) - 1075 = exponent
  omega

theorem high_unpack_pack {number : UnpackedFloat} (half : AtLeastHalf number) :
    High (-53)
      (UnpackedFloat.unpack Format.binary64 (UnpackedFloat.pack Format.binary64 number)) := by
  cases half with
  | finite positive normal small enough limited =>
      rw [unpack_pack_normal .positive positive normal small (by omega) (by omega)]
      exact .finite positive enough

theorem unpack_049 :
    (0.49 : Float).toModel.unpack = .finite .positive 8827055269646172 (-54) (by decide) := by
  have bits : (0.49 : Float).toModel.toBits = 0x3FDF5C28F5C28F5C := by decide
  rw [Float.Model.unpack, bits]
  rfl

theorem unpack_one :
    (1.0 : Float).toModel.unpack = .finite .positive (2 ^ 52) (-52) (by decide) := by
  have bits : (1.0 : Float).toModel.toBits = 0x3FF0000000000000 := by decide
  rw [Float.Model.unpack, bits]
  rfl

theorem unpack_zero : (0.0 : Float).toModel.unpack = .zero .positive := by
  have bits : (0.0 : Float).toModel.toBits = 0 := by decide
  rw [Float.Model.unpack, bits]
  rfl

/-- A positive number of at most 0.49 is finite, with the exponent of 0.49 or a smaller one. -/
theorem unpack_of_small {number : Float} (positive : 0.0 < number) (small : ¬ 0.49 < number) :
    ∃ mantissa exponent above, mantissa < 2 ^ 53 ∧ exponent ≤ -54 ∧
      number.toModel.unpack = .finite .positive mantissa exponent above := by
  have above : (0.0 : Float).toModel.unpack.lt number.toModel.unpack = true :=
    of_decide_eq_true (show Float.lt _ _ = true from positive)
  have below : (0.49 : Float).toModel.unpack.lt number.toModel.unpack ≠ true := fun greater =>
    small (show Float.lt _ _ = true from decide_eq_true greater)
  rw [unpack_zero] at above
  rw [unpack_049] at below
  have cases := unpack_cases number.toModel.toBits.toBitVec
  change number.toModel.unpack = _ ∨ (∃ sign, number.toModel.unpack = _) ∨
    ∃ sign, Bounded sign 971 number.toModel.unpack at cases
  generalize number.toModel.unpack = unpacked at above below cases
  rcases cases with rfl | ⟨sign, rfl⟩ | ⟨sign, bounded⟩
  · cases above
  · cases sign with
    | positive => exact absurd rfl below
    | negative => cases above
  · cases bounded with
    | zero => cases sign <;> cases above
    | @finite mantissa exponent positive fits low =>
        cases sign with
        | negative => cases above
        | positive =>
            refine ⟨mantissa, exponent, positive, fits, ?_, rfl⟩
            by_contra high
            have less : compare (-54) exponent = .lt := by
              rw [Int.compare_eq_lt]
              omega
            simp [UnpackedFloat.lt, UnpackedFloat.compare, less] at below

/-- A positive number of at most 0.49 lies below one less itself. -/
theorem lt_one_sub {number : Float} (positive : 0.0 < number) (small : ¬ 0.49 < number) :
    number < 1.0 - number := by
  obtain ⟨mantissa, exponent, above, fits, low, unpacked⟩ := unpack_of_small positive small
  have difference : High (-53) (1.0 - number).toModel.unpack := by
    change High (-53) (Float.Model.pack (UnpackedFloat.sub Format.binary64
      (1.0 : Float).toModel.unpack number.toModel.unpack)).unpack
    rw [unpack_pack, unpack_one, unpacked]
    exact high_unpack_pack (atLeastHalf_one_sub above fits low)
  have below : number.toModel.unpack.lt (1.0 - number).toModel.unpack = true := by
    rw [unpacked]
    generalize (1.0 - number).toModel.unpack = rest at difference
    cases difference with
    | @finite other higher _ high =>
        have less : compare exponent higher = .lt := by
          rw [Int.compare_eq_lt]
          omega
        simp [UnpackedFloat.lt, UnpackedFloat.compare, less]
  exact (decide_eq_true below : Float.lt _ _ = true)

/-- At most 0.49 of a padding counts. -/
theorem clamp_eq_or_small (padding : Float) :
    Scalar.clamp padding 0.0 0.49 = 0.49 ∨ ¬ 0.49 < Scalar.clamp padding 0.0 0.49 := by
  unfold Scalar.clamp
  dsimp only
  generalize (if padding < 0.0 then 0.0 else padding) = raised
  by_cases large : 0.49 < raised
  · rw [if_pos large]
    exact .inl rfl
  · rw [if_neg large]
    exact .inr large

/-- A padding of which at most 0.49 counts leaves a range to draw from. -/
theorem clamp_lt_one_sub (padding : Float) (positive : 0.0 < Scalar.clamp padding 0.0 0.49) :
    Scalar.clamp padding 0.0 0.49 < 1.0 - Scalar.clamp padding 0.0 0.49 := by
  rcases clamp_eq_or_small padding with most | small
  · rw [most]
    decide
  · exact lt_one_sub positive small

theorem zero_lt_tau : (0.0 : Float) < Scalar.tau := by
  decide

end FigureMarkup.Random

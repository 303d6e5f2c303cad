import FigureMarkup.Random.Source
import Mathlib

/-!
# Doubles of bounded exponent

Drawing a number between two ends first divides their distance, which has to stay finite. The
exponent of a double grows by at most one when it is rounded, so the distance of two doubles with
small exponents, divided by a number close to one, has a small exponent too.
-/

namespace FigureMarkup.Random

open Float.Model UnpackedFloat

/-- A zero, or a finite number whose exponent is at most a bound. -/
inductive Bounded (sign : Sign) (most : Int) : UnpackedFloat → Prop
  | zero : Bounded sign most (.zero sign)
  | finite {mantissa : Nat} {exponent : Int} (positive : 0 < mantissa)
      (small : mantissa < 2 ^ 53) (low : exponent ≤ most) :
      Bounded sign most (.finite sign mantissa exponent positive)

/-- A zero, or a finite number with a low exponent and a mantissa that still has to be packed. -/
inductive Low (sign : Sign) (most : Int) : UnpackedFloat → Prop
  | zero : Low sign most (.zero sign)
  | finite {mantissa : Nat} {exponent : Int} (positive : 0 < mantissa) (low : exponent ≤ most) :
      Low sign most (.finite sign mantissa exponent positive)

/-! ## Rounding -/

theorem shiftRight_mantissa (em : ExtendedMantissa) (places : Nat) :
    (em >>> places).mantissa = em.mantissa / 2 ^ places := by
  change (places.repeat ExtendedMantissa.shiftRightOne em).mantissa = _
  induction places with
  | zero => simp [Nat.repeat]
  | succ places ih =>
      rw [Nat.repeat, ExtendedMantissa.shiftRightOne, ih, Nat.div_div_eq_div_mul, Nat.pow_succ]

theorem roundedMantissa_le (em : ExtendedMantissa) : em.roundedMantissa ≤ em.mantissa + 1 := by
  rcases em with ⟨mantissa, _ | _, _ | _⟩ <;>
    simp only [ExtendedMantissa.roundedMantissa, ExtendedMantissa.accuracy,
      Accuracy.roundToNearestEven] <;> omega

theorem ofMantissaAndAccuracy_mantissa (mantissa : Nat) (accuracy : Accuracy) :
    (ExtendedMantissa.ofMantissaAndAccuracy mantissa accuracy).mantissa = mantissa := by
  rcases accuracy with _ | _ | _ | _ <;> rfl

theorem log2_le_of_le_two_pow {n k : Nat} (bounded : n ≤ 2 ^ k) : n.log2 ≤ k := by
  by_cases zero : n = 0
  · simp [zero]
  · have below : n < 2 ^ (k + 1) := by
      rw [Nat.pow_succ]
      have : 0 < 2 ^ k := Nat.two_pow_pos k
      omega
    have := (Nat.log2_lt zero).2 below
    omega

theorem shiftLeft_lt {n size places : Nat} (small : n < 2 ^ size) :
    n <<< places < 2 ^ (size + places) := by
  rw [Nat.shiftLeft_eq, Nat.pow_add]
  exact Nat.mul_lt_mul_of_pos_right small (Nat.two_pow_pos places)

theorem targetExponent_eq (total : Int) :
    Format.binary64.targetExponent total = max (total - 53) (-1074) := by
  rfl

/-- Rounding raises the bound on the exponent by one at most. -/
theorem low_roundWithAccuracy (sign : Sign) {mantissa : Nat} {exponent most : Int}
    (accuracy : Accuracy) (enough : -1074 ≤ most) (low : exponent ≤ most)
    (small : mantissa < 2 ^ (most + 53 - exponent).toNat) :
    Low sign (most + 1) (roundWithAccuracy Format.binary64 sign mantissa exponent accuracy) := by
  have logarithm : (mantissa.log2 : Int) + 1 + exponent - 53 ≤ most := by
    by_cases zero : mantissa = 0
    · simp only [zero, Nat.log2_zero]
      omega
    · have := (Nat.log2_lt zero).2 small
      omega
  -- The first shift brings the exponent to at most the bound.
  let places := (max ((mantissa.log2 : Int) + 1 + exponent - 53) (-1074) - exponent).toNat
  have first : exponent + places ≤ most := by omega
  let rounded :=
    (ExtendedMantissa.ofMantissaAndAccuracy mantissa accuracy >>> places).roundedMantissa
  have fits : rounded ≤ 2 ^ ((most + 53 - exponent).toNat - places) := by
    have above : rounded ≤ mantissa / 2 ^ places + 1 := by
      have := roundedMantissa_le
        (ExtendedMantissa.ofMantissaAndAccuracy mantissa accuracy >>> places)
      rwa [shiftRight_mantissa, ofMantissaAndAccuracy_mantissa] at this
    have split : 2 ^ (most + 53 - exponent).toNat =
        2 ^ places * 2 ^ ((most + 53 - exponent).toNat - places) := by
      rw [← Nat.pow_add]
      congr 1
      omega
    have := Nat.div_lt_of_lt_mul (split ▸ small)
    omega
  -- Rounding may fill up all places, so that the second shift adds one to the exponent.
  have again : (rounded.log2 : Int) + 1 + (exponent + places) - 53 ≤ most + 1 := by
    have := log2_le_of_le_two_pow fits
    omega
  have final : exponent + places +
      ((max ((rounded.log2 : Int) + 1 + (exponent + places) - 53) (-1074) -
        (exponent + places)).toNat : Nat) ≤ most + 1 := by
    omega
  unfold roundWithAccuracy
  dsimp only [shiftToTargetExponent, shiftToExponent, totalExponent, targetExponent_eq]
  split
  · exact .zero
  · exact .finite _ final

theorem low_round (sign : Sign) {mantissa : Nat} {exponent most : Int} (enough : -1074 ≤ most)
    (low : exponent ≤ most) (small : mantissa < 2 ^ (most + 53 - exponent).toNat) :
    Low sign (most + 1) (UnpackedFloat.round Format.binary64 sign mantissa exponent) := by
  let places := (exponent - Format.binary64.targetExponent (totalExponent mantissa exponent)).toNat
  have wider : (most + 53 - (exponent - places)).toNat =
      (most + 53 - exponent).toNat + places := by
    omega
  have shifted : mantissa <<< places < 2 ^ (most + 53 - (exponent - places)).toNat := by
    rw [wider]
    exact shiftLeft_lt small
  exact low_roundWithAccuracy sign .exact enough (by omega) shifted

theorem low_normalize {mantissa exponent most : Int} (enough : -1074 ≤ most)
    (low : exponent ≤ most) (small : mantissa.natAbs < 2 ^ (most + 53 - exponent).toNat) :
    ∃ sign, Low sign (most + 1)
      (UnpackedFloat.normalize Format.binary64 mantissa exponent .positive) := by
  unfold UnpackedFloat.normalize
  split
  · exact ⟨.negative, low_round .negative enough low (by omega)⟩
  · exact ⟨.positive, .zero⟩
  · exact ⟨.positive, low_round .positive enough low (by omega)⟩

theorem low_normalize_natCast {mantissa : Nat} {exponent most : Int} (enough : -1074 ≤ most)
    (low : exponent ≤ most) (small : mantissa < 2 ^ (most + 53 - exponent).toNat) :
    Low .positive (most + 1)
      (UnpackedFloat.normalize Format.binary64 mantissa exponent .positive) := by
  unfold UnpackedFloat.normalize
  cases order : compare (mantissa : Int) 0 with
  | lt =>
      rw [Int.compare_eq_lt] at order
      omega
  | eq => exact .zero
  | gt => exact low_round .positive enough low small

/-! ## Sums, differences and quotients -/

/-- A mantissa that is aligned with a smaller exponent. -/
theorem aligned_lt {mantissa : Nat} {exponent least most : Int} (small : mantissa < 2 ^ 53)
    (low : exponent ≤ most) (above : least ≤ exponent) :
    mantissa <<< (exponent - least).toNat < 2 ^ (most + 53 - least).toNat :=
  Nat.lt_of_lt_of_le (shiftLeft_lt small) (Nat.pow_le_pow_right (by omega) (by omega))

theorem double_aligned {least most : Int} (inside : least ≤ most) :
    2 ^ (most + 1 + 53 - least).toNat = 2 * 2 ^ (most + 53 - least).toNat := by
  rw [← Nat.pow_succ']
  congr 1
  omega

/-- A sum of two numbers that are not negative is not negative either, and has an exponent that is
larger by two at most. -/
theorem low_add_positive {first second : UnpackedFloat} {most : Int} (enough : -1074 ≤ most)
    (boundedFirst : Bounded .positive most first) (boundedSecond : Bounded .positive most second) :
    Low .positive (most + 2) (UnpackedFloat.add Format.binary64 first second) := by
  cases boundedFirst with
  | zero =>
      cases boundedSecond with
      | zero => exact .zero
      | finite positive small low => exact .finite positive (by omega)
  | @finite m₁ e₁ positive₁ small₁ low₁ =>
      cases boundedSecond with
      | zero => exact .finite positive₁ (by omega)
      | @finite m₂ e₂ positive₂ small₂ low₂ =>
          have first := aligned_lt small₁ low₁ (Int.min_le_left e₁ e₂)
          have second := aligned_lt small₂ low₂ (Int.min_le_right e₁ e₂)
          have doubled := double_aligned (show min e₁ e₂ ≤ most by omega)
          have together : m₁ <<< (e₁ - min e₁ e₂).toNat + m₂ <<< (e₂ - min e₁ e₂).toNat <
              2 ^ (most + 1 + 53 - min e₁ e₂).toNat := by
            rw [doubled, Nat.two_mul]
            exact Nat.add_lt_add first second
          have raised : most + 1 + 1 = most + 2 := by omega
          exact raised ▸ low_normalize_natCast (by omega) (by omega) together

theorem natAbs_apply (sign : Sign) (n : Nat) : (sign.apply n).natAbs = n := by
  cases sign <;> simp [Sign.apply]

/-- A difference has an exponent that is larger by two at most. -/
theorem low_sub {first second : UnpackedFloat} {firstSign secondSign : Sign} {most : Int}
    (enough : -1074 ≤ most) (boundedFirst : Bounded firstSign most first)
    (boundedSecond : Bounded secondSign most second) :
    ∃ sign, Low sign (most + 2) (UnpackedFloat.sub Format.binary64 first second) := by
  cases boundedFirst with
  | zero =>
      cases boundedSecond with
      | zero =>
          by_cases opposite : (firstSign == -secondSign) = true
          · exact ⟨firstSign, by simpa [UnpackedFloat.sub, opposite] using .zero⟩
          · exact ⟨.positive, by simpa [UnpackedFloat.sub, opposite] using .zero⟩
      | finite positive small low => exact ⟨_, .finite positive (by omega)⟩
  | @finite m₁ e₁ positive₁ small₁ low₁ =>
      cases boundedSecond with
      | zero => exact ⟨_, .finite positive₁ (by omega)⟩
      | @finite m₂ e₂ positive₂ small₂ low₂ =>
          have first := aligned_lt small₁ low₁ (Int.min_le_left e₁ e₂)
          have second := aligned_lt small₂ low₂ (Int.min_le_right e₁ e₂)
          have doubled := double_aligned (show min e₁ e₂ ≤ most by omega)
          have together := Int.natAbs_sub_le
            (firstSign.apply (m₁ <<< (e₁ - min e₁ e₂).toNat : Nat))
            (secondSign.apply (m₂ <<< (e₂ - min e₁ e₂).toNat : Nat))
          rw [natAbs_apply, natAbs_apply] at together
          have small : (firstSign.apply (m₁ <<< (e₁ - min e₁ e₂).toNat : Nat) -
              secondSign.apply (m₂ <<< (e₂ - min e₁ e₂).toNat : Nat)).natAbs <
                2 ^ (most + 1 + 53 - min e₁ e₂).toNat := by
            omega
          have raised : most + 1 + 1 = most + 2 := by omega
          exact raised ▸ low_normalize (by omega) (by omega) small

/-- A quotient by a normal number has an exponent that is larger by two at most than that of the
quotient of the mantissas. -/
theorem low_div {number : UnpackedFloat} {sign other : Sign} {most exponent : Int} (least : Int)
    {divisor : Nat} (enough : -1074 ≤ most - least - 53) (bounded : Bounded sign most number)
    (positive : 0 < divisor) (normal : 2 ^ 52 ≤ divisor) (small : divisor < 2 ^ 53)
    (high : least ≤ exponent) :
    ∃ sign, Low sign (most - least - 51)
      (UnpackedFloat.div Format.binary64 number (.finite other divisor exponent positive)) := by
  cases bounded with
  | zero => exact ⟨_, .zero⟩
  | @finite mantissa own above fits low =>
      have full : divisor.log2 = 52 := by
        have lower := (Nat.le_log2 (by omega)).2 normal
        have upper := (Nat.log2_lt (by omega)).2 small
        omega
      have width := (Nat.log2_lt (by omega)).2 fits
      let target := min (own - exponent) (Format.binary64.targetExponent
        (totalExponent mantissa own - totalExponent divisor exponent))
      have near : target ≤ most - least - 53 := by
        simp only [target, targetExponent_eq, totalExponent, full]
        omega
      let places := (own - exponent - target).toNat
      have below : mantissa <<< places / divisor <
          2 ^ (most - least - 52 + 53 - target).toNat := by
        have quotient : mantissa <<< places / divisor < 2 ^ (places + 1) := by
          refine Nat.div_lt_of_lt_mul ?_
          calc
            mantissa <<< places < 2 ^ (53 + places) := shiftLeft_lt fits
            _ = 2 ^ 52 * 2 ^ (places + 1) := by
              rw [← Nat.pow_add]
              congr 1
              omega
            _ ≤ divisor * 2 ^ (places + 1) := Nat.mul_le_mul_right _ normal
        exact Nat.lt_of_lt_of_le quotient (Nat.pow_le_pow_right (by omega) (by omega))
      have raised : most - least - 52 + 1 = most - least - 51 := by omega
      exact ⟨_, raised ▸ low_roundWithAccuracy _ _ (by omega) (by omega) below⟩

/-! ## Packing -/

@[simp]
theorem unpackSign_packComponents {spec : Float.Model.Format} {sign exponent mantissa} :
    unpackSign (packComponents spec sign exponent mantissa) = sign.toBitVec := by
  ext i inside
  have place : spec.mantissaBitsWithoutImplicit + spec.exponentBits + i -
      spec.mantissaBitsWithoutImplicit - spec.exponentBits = i := by
    omega
  simp only [unpackSign, packComponents, BitVec.getElem_cast, BitVec.getLsbD_append,
    BitVec.extractLsb, BitVec.getElem_extractLsb']
  rw [if_neg (by omega), if_neg (by omega), place, BitVec.getLsbD_eq_getElem]

@[simp]
theorem ofBitVec_toBitVec (sign : Sign) : Sign.ofBitVec sign.toBitVec = sign := by
  cases sign <;> rfl

/-- What is packed without infinite exponent unpacks to a zero or to a finite number. -/
theorem bounded_unpack_packComponents (sign : Sign) {exponent : BitVec 11} (mantissa : BitVec 52)
    {most : Int} (enough : -1074 ≤ most) (low : (exponent.toNat : Int) - 1075 ≤ most)
    (finite : exponent ≠ -1#11) :
    Bounded sign most (UnpackedFloat.unpack Format.binary64
      (packComponents Format.binary64 sign exponent mantissa)) := by
  unfold UnpackedFloat.unpack
  simp only [unpackExponent_packComponents, unpackMantissa_packComponents,
    unpackSign_packComponents, ofBitVec_toBitVec, if_neg finite]
  split
  case isTrue subnormal =>
    split
    · exact .zero
    · refine .finite _ ?_ ?_
      · have := mantissa.isLt
        omega
      · rw [subnormal]
        exact enough
  case isFalse =>
    refine .finite _ ?_ low
    exact (1#1 ++ mantissa).isLt

theorem unpack_pack_zero (sign : Sign) :
    UnpackedFloat.unpack Format.binary64 (UnpackedFloat.pack Format.binary64 (.zero sign)) =
      .zero sign := by
  cases sign <;> rfl

theorem bounded_unpack_pack {sign : Sign} {number : UnpackedFloat} {most : Int}
    (low : Low sign most number) (enough : -1074 ≤ most) (limited : most ≤ 971) :
    Bounded sign most
      (UnpackedFloat.unpack Format.binary64 (UnpackedFloat.pack Format.binary64 number)) := by
  cases low with
  | zero =>
      exact bounded_unpack_packComponents sign 0 enough (by simp; omega) (by decide)
  | @finite mantissa exponent positive low =>
      have bias : (Format.binary64.exponentBias : Int) = 1023 := rfl
      have unlimited :
          ¬ 2 ^ 11 ≤ (exponent + Format.binary64.exponentBias + (52 : Nat)).toNat + 1 := by
        omega
      unfold UnpackedFloat.pack
      dsimp only
      rw [if_neg unlimited]
      split
      · have fits : (exponent + Format.binary64.exponentBias + (52 : Nat)).toNat % 2 ^ 11 =
            (exponent + Format.binary64.exponentBias + (52 : Nat)).toNat :=
          Nat.mod_eq_of_lt (by omega)
        refine bounded_unpack_packComponents sign _ enough ?_ ?_
        · rw [BitVec.toNat_ofNat]
          omega
        · intro full
          have := congrArg BitVec.toNat full
          rw [BitVec.toNat_ofNat] at this
          simp at this
          omega
      · exact bounded_unpack_packComponents sign _ enough (by simp; omega) (by decide)

/-- The biased exponent among the bits of a double. -/
def exponentField (bits : BitVec 64) : Nat := bits.toNat / 2 ^ 52 % 2 ^ 11

theorem toNat_unpackExponent (bits : BitVec 64) :
    (@unpackExponent Format.binary64 bits).toNat = exponentField bits := by
  simp [unpackExponent, exponentField, BitVec.extractLsb, BitVec.extractLsb'_toNat,
    Nat.shiftRight_eq_div_pow]

theorem toNat_unpackMantissa (bits : BitVec 64) :
    (@unpackMantissa Format.binary64 bits).toNat = bits.toNat % 2 ^ 52 := by
  simp [unpackMantissa, BitVec.extractLsb, BitVec.extractLsb'_toNat]

theorem unpackExponent_eq_iff {bits : BitVec 64} {field : BitVec 11} :
    @unpackExponent Format.binary64 bits = field ↔ exponentField bits = field.toNat := by
  rw [← toNat_unpackExponent, BitVec.toNat_inj]

/-- What the bits of a double say. -/
inductive Fields (bits : BitVec 64) : UnpackedFloat → Prop
  | special {number : UnpackedFloat} (full : exponentField bits = 2047)
      (infinite : number.isFinite = false) : Fields bits number
  | zero (sign : Sign) (empty : bits.toNat % 2 ^ 63 = 0) : Fields bits (.zero sign)
  | subnormal (sign : Sign) (positive : 0 < bits.toNat % 2 ^ 52)
      (empty : exponentField bits = 0) :
      Fields bits (.finite sign (bits.toNat % 2 ^ 52) (-1074) positive)
  | normal (sign : Sign) (positive : 0 < 2 ^ 52 + bits.toNat % 2 ^ 52)
      (raised : 0 < exponentField bits) (rest : exponentField bits < 2047) :
      Fields bits (.finite sign (2 ^ 52 + bits.toNat % 2 ^ 52) (exponentField bits - 1075) positive)

theorem fields_unpack (bits : BitVec 64) :
    Fields bits (UnpackedFloat.unpack Format.binary64 bits) := by
  have below : exponentField bits < 2 ^ 11 := Nat.mod_lt _ (Nat.two_pow_pos 11)
  unfold UnpackedFloat.unpack
  dsimp only
  split
  case isTrue full =>
    have full := unpackExponent_eq_iff.1 full
    split <;> exact .special full rfl
  case isFalse rest =>
    have rest := mt unpackExponent_eq_iff.2 rest
    split
    case isTrue empty =>
      have exponentZero := unpackExponent_eq_iff.1 empty
      split
      case isTrue zero =>
        have zero := congrArg BitVec.toNat zero
        rw [toNat_unpackMantissa] at zero
        refine .zero _ ?_
        simp only [exponentField, BitVec.toNat_ofNat] at exponentZero zero
        omega
      case isFalse =>
        have raised : ((@unpackExponent Format.binary64 bits).toNat : Int) -
            (Format.binary64.exponentBias + (52 : Nat)) + 1 = -1074 := by
          rw [toNat_unpackExponent, exponentZero]
          rfl
        simp only [raised, toNat_unpackMantissa]
        exact .subnormal _ _ exponentZero
    case isFalse exponentNonzero =>
      have exponentNonzero := mt unpackExponent_eq_iff.2 exponentNonzero
      have biased : ((@unpackExponent Format.binary64 bits).toNat : Int) -
          (Format.binary64.exponentBias + (52 : Nat)) = exponentField bits - 1075 := by
        rw [toNat_unpackExponent]
        rfl
      have whole : (1#1 ++ @unpackMantissa Format.binary64 bits).toNat =
          2 ^ 52 + bits.toNat % 2 ^ 52 := by
        rw [BitVec.toNat_append, ← Nat.shiftLeft_add_eq_or_of_lt (BitVec.isLt _),
          toNat_unpackMantissa]
        rfl
      simp only [biased, whole]
      refine .normal _ _ (Nat.pos_of_ne_zero exponentNonzero) ?_
      change ¬ exponentField bits = 2047 at rest
      omega

/-- Every double is no number, or infinite, or has a bounded exponent. -/
theorem unpack_cases (bits : BitVec 64) :
    UnpackedFloat.unpack Format.binary64 bits = .notANumber ∨
      (∃ sign, UnpackedFloat.unpack Format.binary64 bits = .infinity sign) ∨
      ∃ sign, Bounded sign 971 (UnpackedFloat.unpack Format.binary64 bits) := by
  have fields := fields_unpack bits
  generalize UnpackedFloat.unpack Format.binary64 bits = number at fields ⊢
  cases fields with
  | special full infinite =>
      cases number with
      | notANumber => exact .inl rfl
      | infinity sign => exact .inr (.inl ⟨sign, rfl⟩)
      | zero => cases infinite
      | finite => cases infinite
  | zero sign => exact .inr (.inr ⟨sign, .zero⟩)
  | subnormal sign positive =>
      refine .inr (.inr ⟨sign, .finite positive ?_ (by decide)⟩)
      omega
  | normal sign positive =>
      refine .inr (.inr ⟨sign, .finite positive ?_ ?_⟩) <;> omega

theorem unpack_notANumber :
    UnpackedFloat.unpack Format.binary64 (UnpackedFloat.pack Format.binary64 .notANumber) =
      .notANumber :=
  rfl

theorem unpack_infinity (sign : Sign) :
    UnpackedFloat.unpack Format.binary64 (UnpackedFloat.pack Format.binary64 (.infinity sign)) =
      .infinity sign := by
  cases sign <;> rfl

theorem unpack_pack (number : UnpackedFloat) :
    (Float.Model.pack number).unpack =
      UnpackedFloat.unpack Format.binary64 (UnpackedFloat.pack Format.binary64 number) :=
  rfl

/-! ## Sizes -/

theorem Bounded.low_abs {sign : Sign} {most : Int} {number : UnpackedFloat}
    (bounded : Bounded sign most number) : Low .positive most number.abs := by
  cases bounded with
  | zero => exact .zero
  | finite positive small low => exact .finite positive low

theorem Bounded.low_neg {sign : Sign} {most : Int} {number : UnpackedFloat}
    (bounded : Bounded sign most number) : Low (-sign) most number.neg := by
  cases bounded with
  | zero => exact .zero
  | finite positive small low => exact .finite positive low

/-- The size of a double is no number, or infinite, or has a bounded exponent. -/
theorem unpack_abs_cases (number : Float) :
    number.abs.toModel.unpack = .notANumber ∨
      number.abs.toModel.unpack = .infinity .positive ∨
      Bounded .positive 971 number.abs.toModel.unpack := by
  change (Float.Model.pack number.toModel.unpack.abs).unpack = _ ∨
    (Float.Model.pack number.toModel.unpack.abs).unpack = _ ∨
    Bounded _ _ (Float.Model.pack number.toModel.unpack.abs).unpack
  rw [unpack_pack]
  rcases unpack_cases number.toModel.toBits.toBitVec with nan | ⟨sign, infinite⟩ | ⟨sign, bounded⟩
  · rw [Float.Model.unpack, nan]
    exact .inl unpack_notANumber
  · rw [Float.Model.unpack, infinite]
    exact .inr (.inl (unpack_infinity .positive))
  · exact .inr (.inr (bounded_unpack_pack bounded.low_abs (by decide) (by decide)))

theorem unpack_e300 :
    (1e300 : Float).toModel.unpack = .finite .positive 6724873095247260 944 (by decide) := by
  have bits : (1e300 : Float).toModel.toBits = 0x7E37E43C8800759C := by decide +kernel
  rw [Float.Model.unpack, bits]
  rfl

/-- A size of at most `1e300` has a small exponent. -/
theorem bounded_abs {number : Float} (small : number.abs ≤ 1e300) :
    Bounded .positive 944 number.abs.toModel.unpack := by
  have below : number.abs.toModel.unpack.le (1e300 : Float).toModel.unpack = true :=
    of_decide_eq_true (show Float.le _ _ = true from small)
  rw [unpack_e300] at below
  rcases unpack_abs_cases number with nan | infinite | bounded
  · rw [nan] at below
    cases below
  · rw [infinite] at below
    cases below
  · generalize number.abs.toModel.unpack = unpacked at below bounded
    cases bounded with
    | zero => exact .zero
    | @finite mantissa exponent positive fits low =>
        refine .finite positive fits ?_
        by_contra above
        have greater : compare exponent 944 = .gt := by
          rw [Int.compare_eq_gt]
          omega
        simp [UnpackedFloat.le, UnpackedFloat.compare, greater] at below

theorem neg_le_of_bounded {number : Float} {most : Int} (limited : most ≤ 971)
    (enough : -1074 ≤ most) (bounded : Bounded .positive most number.toModel.unpack) :
    -number ≤ number := by
  have negative : Bounded .negative most (-number).toModel.unpack :=
    bounded_unpack_pack bounded.low_neg enough limited
  have below : (-number).toModel.unpack.le number.toModel.unpack = true := by
    generalize (-number).toModel.unpack = first at negative
    generalize number.toModel.unpack = second at bounded
    cases negative <;> cases bounded <;> rfl
  exact (decide_eq_true below : Float.le _ _ = true)

/-- The distance from one end to the other of a square that a bound of at most `1e300` gives can
be drawn from. -/
theorem isFinite_scale {number : Float} (small : number.abs ≤ 1e300) :
    ((number.abs - -number.abs) / Keystream.coarseTop).isFinite = true := by
  have positive := bounded_abs small
  have negative : Bounded .negative 944 (-number.abs).toModel.unpack :=
    bounded_unpack_pack positive.low_neg (by decide) (by decide)
  obtain ⟨sign, difference⟩ := low_sub (by decide) positive negative
  have distance : Bounded sign 946 (number.abs - -number.abs).toModel.unpack :=
    bounded_unpack_pack difference (by decide) (by decide)
  have top : Keystream.coarseTop.toModel.unpack =
      .finite .positive (2 ^ 53 - 2) (-53) (by decide) := by
    rfl
  obtain ⟨sign, quotient⟩ : ∃ sign, Low sign 948 (UnpackedFloat.div Format.binary64
      (number.abs - -number.abs).toModel.unpack Keystream.coarseTop.toModel.unpack) := by
    have normal : 2 ^ 52 ≤ 2 ^ 53 - 2 := by decide
    have small : 2 ^ 53 - 2 < 2 ^ 53 := by decide
    rw [top]
    exact low_div (-53) (by decide) distance _ normal small (Int.le_refl _)
  have scale : Bounded sign 948
      ((number.abs - -number.abs) / Keystream.coarseTop).toModel.unpack :=
    bounded_unpack_pack quotient (by decide) (by decide)
  change UnpackedFloat.isFinite _ = true
  generalize ((number.abs - -number.abs) / Keystream.coarseTop).toModel.unpack = unpacked at scale
  cases scale <;> rfl

end FigureMarkup.Random

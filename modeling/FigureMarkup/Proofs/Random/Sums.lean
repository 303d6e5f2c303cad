import FigureMarkup.Proofs.Random.Sizes

/-!
# Signs of sums

A sum has the sign of the larger one of two numbers, also after it is rounded. So a number to which
a small one is added without the sum being negative is not far below zero. This bounds the
parameters of a common part of two segments, which are compared with a tolerance only.
-/

namespace FigureMarkup.Random

open Float.Model UnpackedFloat

theorem unpack_pack_large (sign : Sign) {mantissa : Nat} {exponent : Int}
    (positive : 0 < mantissa) (large : 971 < exponent) :
    UnpackedFloat.unpack Format.binary64
        (UnpackedFloat.pack Format.binary64 (.finite sign mantissa exponent positive)) =
      .infinity sign := by
  have unlimited :
      2 ^ 11 ≤ (exponent + Format.binary64.exponentBias + (52 : Nat)).toNat + 1 := by
    have bias : (Format.binary64.exponentBias : Int) = 1023 := rfl
    omega
  unfold UnpackedFloat.pack
  dsimp only
  rw [if_pos unlimited]
  exact unpack_infinity sign

theorem neg_of_normal {mantissa : Nat} {exponent : Int} (positive : 0 < mantissa)
    (normal : 2 ^ 52 ≤ mantissa) (small : mantissa < 2 ^ 53) (enough : -1074 ≤ exponent) :
    (UnpackedFloat.unpack Format.binary64 (UnpackedFloat.pack Format.binary64
      (.finite .negative mantissa exponent positive))).lt (.zero .positive) = true := by
  by_cases limited : exponent ≤ 971
  · rw [unpack_pack_normal .negative positive normal small enough limited]
    rfl
  · rw [unpack_pack_large .negative positive (by omega)]
    rfl

theorem exists_places {mantissa : Nat} (full : 2 ^ 52 ≤ mantissa) :
    ∃ places, 2 ^ (52 + places) ≤ mantissa ∧ mantissa < 2 ^ (53 + places) := by
  have nonzero : mantissa ≠ 0 := by omega
  have width : 52 ≤ mantissa.log2 := (Nat.le_log2 nonzero).2 full
  refine ⟨mantissa.log2 - 52, ?_, ?_⟩
  · rw [Nat.add_sub_cancel' width]
    exact Nat.log2_self_le nonzero
  · rw [show 53 + (mantissa.log2 - 52) = mantissa.log2 + 1 by omega]
    exact Nat.lt_log2_self

theorem lt_zero_of_dominated {mantissa other : Nat} {exponent lower : Int} (positive : 0 < mantissa)
    (alsoPositive : 0 < other) (normal : 2 ^ 52 ≤ mantissa) (small : other < 2 ^ 53)
    (enough : -1074 ≤ lower) (apart : lower + 2 ≤ exponent) :
    (UnpackedFloat.unpack Format.binary64 (UnpackedFloat.pack Format.binary64
      (UnpackedFloat.add Format.binary64 (.finite .negative mantissa exponent positive)
        (.finite .positive other lower alsoPositive)))).lt (.zero .positive) = true := by
  have least : min exponent lower = lower := by omega
  have big : 2 ^ 54 ≤ mantissa <<< (exponent - lower).toNat := by
    calc
      2 ^ 54 = 2 ^ 52 * 2 ^ 2 := by decide
      _ ≤ mantissa * 2 ^ (exponent - lower).toNat :=
        Nat.mul_le_mul normal (Nat.pow_le_pow_right (by decide) (by omega))
      _ = mantissa <<< (exponent - lower).toNat := (Nat.shiftLeft_eq ..).symm
  simp only [UnpackedFloat.add, decreaseExponent, least, Int.sub_self, Int.toNat_zero,
    Nat.shiftLeft_zero, Sign.apply]
  generalize mantissa <<< (exponent - lower).toNat = aligned at big
  unfold UnpackedFloat.normalize
  generalize order : compare _ (0 : Int) = relation
  cases relation with
  | lt =>
    let rest := (-(-(aligned : Int) + other)).toNat
    obtain ⟨places, atLeast, below⟩ := exists_places (show 2 ^ 52 ≤ rest by omega)
    obtain ⟨rounded, carried, above, full, fits, -, rounding⟩ :=
      round_normal .negative lower atLeast below (by omega)
    change (UnpackedFloat.unpack Format.binary64 (UnpackedFloat.pack Format.binary64
      (UnpackedFloat.round Format.binary64 .negative rest lower))).lt _ = true
    rw [rounding]
    exact neg_of_normal above full fits (by omega)
  | eq =>
    rw [Int.compare_eq_eq] at order
    omega
  | gt =>
    rw [Int.compare_eq_gt] at order
    omega

/-- A sum is negative if the negative number is the larger one. -/
theorem add_neg_of_dominated {x y : Float} {mantissa : Nat} {exponent : Int}
    {positive : 0 < mantissa}
    (same : x.toModel.unpack = .finite .negative mantissa exponent positive)
    (large : -50 ≤ exponent) (small : Sized (-52) y) (nonneg : 0.0 ≤ y) : x + y < 0.0 := by
  obtain ⟨-, fits, full⟩ := canonical same
  have normal := full (by omega)
  obtain ⟨sign, small⟩ := small
  rw [le_iff, unpack_zero] at nonneg
  rw [lt_iff, unpack_zero, unpack_add, same]
  generalize also : y.toModel.unpack = number at small nonneg
  cases small with
  | zero => exact neg_of_normal positive normal fits (by omega)
  | finite alsoPositive alsoSmall low =>
      cases sign with
      | negative => cases nonneg
      | positive =>
          have enough := (canonical also).1
          exact lt_zero_of_dominated positive alsoPositive normal alsoSmall enough (by omega)

theorem lt_of_neg_of_nonneg {x z : Float} (neg : x < 0.0) (nonneg : 0.0 ≤ z) : x < z := by
  rw [lt_iff, unpack_zero] at neg
  rw [le_iff, unpack_zero] at nonneg
  rw [lt_iff]
  generalize x.toModel.unpack = number at neg ⊢
  generalize z.toModel.unpack = other at nonneg ⊢
  rcases number with ⟨_ | _⟩ | _ | _ | ⟨_ | _, _, _⟩ <;> cases neg <;>
    rcases other with ⟨_ | _⟩ | _ | _ | ⟨_ | _, _, _⟩ <;> cases nonneg <;> rfl

/-- A number is not far below zero if adding a small one makes it no longer negative. -/
theorem sized_of_add_nonneg {x y : Float} (limited : x ≤ 1.0) (small : Sized (-52) y)
    (nonneg : 0.0 ≤ y) (raised : ¬ x + y < 0.0) : Sized (-50) x := by
  rw [le_iff, unpack_one] at limited
  rcases float_cases x with nan | ⟨sign, infinite⟩ | ⟨sign, bounded⟩
  · rw [nan] at limited
    cases limited
  · rw [infinite] at limited
    cases sign with
    | positive => cases limited
    | negative =>
        refine absurd ?_ raised
        obtain ⟨sign, bounded⟩ := small
        have sum : UnpackedFloat.add Format.binary64 (.infinity .negative) y.toModel.unpack =
            .infinity .negative := by
          generalize y.toModel.unpack = number at bounded
          cases bounded <;> rfl
        rw [lt_iff, unpack_zero, unpack_add, infinite, sum, unpack_infinity]
        rfl
  · refine ⟨sign, ?_⟩
    generalize same : x.toModel.unpack = number at bounded limited
    cases bounded with
    | zero => exact .zero
    | @finite mantissa exponent positive fits =>
        refine .finite positive fits ?_
        cases sign with
        | positive =>
            have least := exponent_le_of_le limited
            omega
        | negative =>
            by_contra large
            exact raised (add_neg_of_dominated same (by omega) small nonneg)

/-- The ends of the part that two parallel segments have in common are not far from the parameters
of the first one, unless they are out of order. -/
theorem sized_overlap {low high tolerance : Float} (nonneg : 0.0 ≤ low) (limited : high ≤ 1.0)
    (least : 0.0 ≤ tolerance) (greatest : tolerance ≤ 1.0) (meets : ¬ high + tolerance < low) :
    Sized (-48) low ∧ Sized (-50) high := by
  have small : Sized (-52) tolerance := (sized_zero _).of_between sized_one least greatest
  have raised : ¬ high + tolerance < 0.0 := fun neg => meets (lt_of_neg_of_nonneg neg nonneg)
  have sizedHigh := sized_of_add_nonneg limited small least raised
  have sum : Sized (-48) (high + tolerance) := sizedHigh.add small (by decide)
  have below := le_of_not_lt (isNumber_of_le nonneg) sum.isNumber meets
  exact ⟨(sized_zero _).of_between sum nonneg below, sizedHigh⟩

end FigureMarkup.Random

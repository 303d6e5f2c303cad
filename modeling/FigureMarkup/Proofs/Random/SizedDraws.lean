import FigureMarkup.Proofs.Random.Sizes

/-!
# Sizes of drawn numbers

A draw is a product of a whole number of at most 53 bits with a small step, so every number that is
drawn from a range is hardly larger than the ends of the range. The scale of a range that includes
its ends is decreased bit by bit, and never past zero.
-/

namespace FigureMarkup.Random

open Float.Model UnpackedFloat

theorem Fields.nonzero {bits : BitVec 64} {number : UnpackedFloat} (fields : Fields bits number)
    (filled : ∀ sign, number ≠ .zero sign) : bits.toNat % 2 ^ 63 ≠ 0 := by
  intro empty
  have exponentZero : exponentField bits = 0 := by
    unfold exponentField
    omega
  cases fields with
  | special full => omega
  | zero sign => exact filled sign rfl
  | subnormal sign positive => omega
  | normal sign positive more => omega

/-- The double whose bits are one less, of a number that is not zero, is no larger in size. -/
theorem Sized.ofBits_pred {most : Int} {x : Float} (range : -1074 ≤ most ∧ most ≤ 971)
    (sized : Sized most x) (filled : ∀ sign, x.toModel.unpack ≠ .zero sign) :
    Sized most (Float.ofBits (x.toBits - 1)) := by
  have nonzero := (fields_unpack x.toModel.toBits.toBitVec).nonzero filled
  have pred : (x.toBits - 1).toBitVec.toNat = x.toModel.toBits.toBitVec.toNat - 1 := by
    have whole : (1 : UInt64) ≤ x.toBits := by
      rw [UInt64.le_iff_toNat_le]
      change 1 ≤ x.toModel.toBits.toBitVec.toNat
      omega
    exact UInt64.toNat_sub_of_le _ _ whole
  have smaller : exponentField (x.toBits - 1).toBitVec ≤
      exponentField x.toModel.toBits.toBitVec := by
    unfold exponentField
    rw [pred]
    omega
  obtain ⟨rest, low⟩ := (sized_iff range.1).1 sized
  obtain ⟨sign, bounded⟩ := (bounded_unpack_iff (x.toBits - 1).toBitVec range.1).2
    ⟨smaller.trans_lt rest, by omega⟩
  exact sized_of_low bounded.low range rfl

/-! ## Draws -/

theorem sized_toFloat {n : UInt64} (small : n.toNat < 2 ^ 53) : Sized 1 n.toFloat := by
  have low : Low .positive (0 + 1) (UnpackedFloat.normalize Format.binary64 n.toNat 0 .positive) :=
    low_normalize_natCast (by decide) (by decide) small
  exact sized_of_low low (by decide) rfl

namespace Keystream

/-- A random word without its lowest bits, times a step. -/
theorem sized_scaled {step : Float} (sized : Sized (-104) step) (word : UInt64) {places : UInt64}
    (enough : 11 ≤ places.toNat % 64) : Sized (-49) ((word >>> places).toFloat * step) := by
  have whole : Sized 1 (word >>> places).toFloat := by
    refine sized_toFloat ?_
    rw [UInt64.toNat_shiftRight, Nat.shiftRight_eq_div_pow]
    refine Nat.div_lt_of_lt_mul (Nat.lt_of_lt_of_le word.toNat_lt ?_)
    calc
      2 ^ 64 = 2 ^ 11 * 2 ^ 53 := by decide
      _ ≤ 2 ^ (places.toNat % 64) * 2 ^ 53 :=
        Nat.mul_le_mul_right _ (Nat.pow_le_pow_right (by decide) enough)
  exact whole.mul sized (by decide)

theorem sized_coarse (stream : Keystream) : Sized (-49) stream.coarse.1 :=
  sized_scaled ((sized_iff (by decide)).2 (by decide)) stream.next64.1 (by decide)

theorem sized_fine (stream : Keystream) : Sized (-49) stream.fine.1 :=
  sized_scaled ((sized_iff (by decide)).2 (by decide)) stream.next64.1 (by decide)

theorem sized_below {most k : Int} {low high : Float} (sizedLow : Sized most low)
    (sizedHigh : Sized most high) (fits : most + 9 ≤ k ∧ -900 ≤ most ∧ k ≤ 971) (draws : Nat)
    (stream : Keystream) : Sized k (stream.below low high draws).1 := by
  induction draws generalizing stream with
  | zero => exact sizedLow.mono (by omega)
  | succ draws ih =>
      rw [below]
      have width : Sized (most + 2) (high - low) := sizedHigh.sub sizedLow (by omega)
      have scaled : Sized (most + 7) (stream.coarse.1 * (high - low)) :=
        stream.sized_coarse.mul width (by omega)
      have drawn : Sized k (stream.coarse.1 * (high - low) + low) := scaled.add sizedLow (by omega)
      dsimp only
      split
      · exact ih _
      · exact drawn

theorem unpack_coarseTop :
    coarseTop.toModel.unpack = .finite .positive (2 ^ 53 - 2) (-53) (by decide) := by
  rfl

/-- A scale of zero needs no fitting to a range about zero. -/
theorem not_lt_of_scale_zero {most : Int} {low high scale : Float} {sign : Sign}
    (range : -1074 ≤ most ∧ most ≤ 971)
    (boundedLow : Bounded .negative most low.toModel.unpack)
    (boundedHigh : Bounded .positive most high.toModel.unpack)
    (zero : scale.toModel.unpack = .zero sign) : ¬ high < scale * coarseTop + low := by
  have product : (scale * coarseTop).toModel.unpack = .zero (sign * .positive) := by
    rw [unpack_mul, zero, unpack_coarseTop]
    exact unpack_pack_zero _
  have sum : (∃ other, (scale * coarseTop + low).toModel.unpack = .zero other) ∨
      Bounded .negative most (scale * coarseTop + low).toModel.unpack := by
    rw [unpack_add, product]
    generalize low.toModel.unpack = number at boundedLow
    cases boundedLow with
    | zero =>
        left
        unfold UnpackedFloat.add
        dsimp only
        split <;> exact ⟨_, unpack_pack_zero _⟩
    | finite positive small low =>
        exact .inr (bounded_unpack_pack (.finite positive low) range.1 range.2)
  rw [lt_iff]
  generalize (scale * coarseTop + low).toModel.unpack = number at sum
  generalize high.toModel.unpack = other at boundedHigh
  rcases sum with ⟨_, rfl⟩ | bounded
  · cases boundedHigh <;>
      · intro less
        cases less
  · cases boundedHigh <;> cases bounded <;>
      · intro less
        cases less

theorem sized_fitScale {most : Int} {low high : Float} (range : -1074 ≤ most ∧ most ≤ 971)
    (boundedLow : Bounded .negative most low.toModel.unpack)
    (boundedHigh : Bounded .positive most high.toModel.unpack) {scale : Float} {m : Int}
    (within : -1074 ≤ m ∧ m ≤ 971) (sized : Sized m scale) (steps : Nat) :
    Sized m (fitScale low high steps scale) := by
  induction steps generalizing scale with
  | zero => exact sized
  | succ steps ih =>
      rw [fitScale]
      split
      case isTrue above =>
        refine ih (sized.ofBits_pred within fun sign zero => ?_)
        exact not_lt_of_scale_zero range boundedLow boundedHigh zero above
      case isFalse => exact sized

/-- A number that is drawn between a bound of at most `1e300` and its negative. -/
theorem sized_between? {bound drawn : Float} (small : bound.abs ≤ 1e300)
    {stream later : Keystream}
    (found : between? (-bound.abs) bound.abs stream = some (drawn, later)) :
    Sized 955 drawn := by
  have positive := bounded_abs small
  have negative : Bounded .negative 944 (-bound.abs).toModel.unpack :=
    bounded_unpack_pack positive.low_neg (by decide) (by decide)
  have top : Ample (-53) coarseTop :=
    .normal _ (by decide) (by decide) (Int.le_refl _) unpack_coarseTop
  have width : Sized 946 (bound.abs - -bound.abs) :=
    Sized.sub ⟨_, positive⟩ ⟨_, negative⟩ (by decide)
  have scale : Sized 948 ((bound.abs - -bound.abs) / coarseTop) := width.div top (by decide)
  unfold between? at found
  dsimp only at found
  split at found
  · cases found
    have fitted := sized_fitScale (by decide) negative positive (by decide) scale mostDraws
    have scaled : Sized 953 (stream.coarse.1 *
        fitScale (-bound.abs) bound.abs mostDraws ((bound.abs - -bound.abs) / coarseTop)) :=
      stream.sized_coarse.mul fitted (by decide)
    exact scaled.add ⟨_, negative⟩ (by decide)
  · cases found

end Keystream

/-- A padding of which at most 0.49 counts. -/
theorem sized_clamp {padding : Float} (positive : 0.0 < Scalar.clamp padding 0.0 0.49) :
    Sized (-54) (Scalar.clamp padding 0.0 0.49) := by
  rcases clamp_eq_or_small padding with most | small
  · rw [most]
    exact (sized_iff (by decide)).2 (by decide)
  · obtain ⟨mantissa, exponent, above, fits, low, unpacked⟩ := unpack_of_small positive small
    refine ⟨.positive, ?_⟩
    rw [unpacked]
    exact .finite above fits low

end FigureMarkup.Random

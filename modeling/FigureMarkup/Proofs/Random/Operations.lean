import FigureMarkup.Proofs.Random.Rounding

/-!
# Operations on doubles

Differences, sums and products of doubles are the exact ones, rounded. A difference changes its
sign, and nothing else, where its operands are exchanged or both change their signs.
-/

namespace FigureMarkup.Random

open Float.Model UnpackedFloat

/-! ## Differences -/

theorem apply_aligned (sign : Sign) (mantissa : Nat) {exponent least : Int}
    (above : least ≤ exponent) :
    ((sign.apply (mantissa <<< (exponent - least).toNat : Nat) : Int) : ℚ) * 2 ^ least =
      (sign.apply mantissa : Int) * 2 ^ exponent := by
  rw [apply_shiftLeft, Int.toNat_of_nonneg (by omega), add_sub_cancel]

theorem sub_zeros (sign other : Sign) :
    ∃ result, UnpackedFloat.sub Format.binary64 (.zero sign) (.zero other) = .zero result := by
  cases sign <;> cases other <;> exact ⟨_, rfl⟩

/-- The difference of two doubles is the exact one, rounded. -/
theorem roundsTo_sub {x y : UnpackedFloat} (first : Canonical x) (second : Canonical y) :
    RoundsTo (value x - value y) (UnpackedFloat.sub Format.binary64 x y) := by
  cases first with
  | zero sign =>
      rw [value_zero, zero_sub]
      cases second with
      | zero other =>
          obtain ⟨result, same⟩ := sub_zeros sign other
          rw [same, value_zero, neg_zero]
          exact roundsTo_zero result
      | finite positive small least full =>
          exact (Canonical.finite positive small least full).roundsTo.neg
  | @finite sign m e positive small least full =>
      cases second with
      | zero other =>
          rw [value_zero, sub_zero]
          exact (Canonical.finite positive small least full).roundsTo
      | @finite other n f =>
          rw [value_finite, value_finite, ← apply_aligned sign m (min_le_left e f),
            ← apply_aligned other n (min_le_right e f), ← sub_mul, ← Int.cast_sub]
          exact roundsTo_normalize _ (min e f) .positive

/-- Numbers with opposite signs, or zeros. -/
def Opposite (x y : UnpackedFloat) : Prop := y = x.neg ∨ value x = 0 ∧ value y = 0

theorem Opposite.value_eq {x y : UnpackedFloat} (opposed : Opposite x y) : value y = -value x := by
  obtain same | ⟨zero, alsoZero⟩ := opposed
  · rw [same, value_neg]
  · rw [zero, alsoZero, neg_zero]

theorem Opposite.symm {x y : UnpackedFloat} (opposed : Opposite x y) : Opposite y x := by
  obtain same | ⟨zero, alsoZero⟩ := opposed
  · exact .inl (same ▸ (unpacked_neg_neg x).symm)
  · exact .inr ⟨alsoZero, zero⟩

theorem normalize_opposite (mantissa exponent : Int) (zero : Sign) :
    Opposite (UnpackedFloat.normalize Format.binary64 mantissa exponent zero)
      (UnpackedFloat.normalize Format.binary64 (-mantissa) exponent zero) := by
  by_cases vanishes : mantissa = 0
  · rw [vanishes]
    exact .inr ⟨rfl, rfl⟩
  · exact .inl (normalize_neg exponent zero vanishes)

/-- Exchanging the operands of a difference exchanges its sign. -/
theorem sub_swap {x y : UnpackedFloat} (first : Canonical x) (second : Canonical y) :
    Opposite (UnpackedFloat.sub Format.binary64 x y) (UnpackedFloat.sub Format.binary64 y x) := by
  cases first with
  | zero sign =>
      cases second with
      | zero other =>
          obtain ⟨result, same⟩ := sub_zeros sign other
          obtain ⟨result', same'⟩ := sub_zeros other sign
          rw [same, same']
          exact .inr ⟨rfl, rfl⟩
      | @finite sign m e positive => exact .inl (unpacked_neg_neg (.finite sign m e positive)).symm
  | @finite sign m e positive =>
      cases second with
      | zero other => exact .inl rfl
      | @finite other n f =>
          unfold UnpackedFloat.sub
          simp only [decreaseExponent]
          rw [min_comm f e, ← neg_sub (sign.apply _)]
          exact normalize_opposite ..

theorem apply_neg (sign : Sign) (n : Int) : (-sign).apply n = -sign.apply n := by
  cases sign
  · exact (Int.neg_neg n).symm
  · rfl

/-- Exchanging the signs of both operands of a difference exchanges its sign. -/
theorem sub_neg_neg {x y : UnpackedFloat} (first : Canonical x) (second : Canonical y) :
    Opposite (UnpackedFloat.sub Format.binary64 x y)
      (UnpackedFloat.sub Format.binary64 x.neg y.neg) := by
  cases first with
  | zero sign =>
      cases second with
      | zero other =>
          obtain ⟨result, same⟩ := sub_zeros sign other
          obtain ⟨result', same'⟩ := sub_zeros (-sign) (-other)
          rw [same]
          exact .inr ⟨rfl, congrArg value same'⟩
      | finite => exact .inl rfl
  | @finite sign m e positive =>
      cases second with
      | zero other => exact .inl rfl
      | @finite other n f =>
          simp only [UnpackedFloat.sub, UnpackedFloat.neg, decreaseExponent, apply_neg]
          rw [neg_sub_neg, ← neg_sub (sign.apply _)]
          exact normalize_opposite ..

/-! ## Products -/

/-- The exponent of a product of doubles does not have to be lowered for rounding. -/
theorem low_product {m n : Nat} {e f : Int} (positive : 0 < m) (other : 0 < n)
    (least : -1074 ≤ e) (full : -1074 < e → 2 ^ 52 ≤ m)
    (alsoLeast : -1074 ≤ f) (alsoFull : -1074 < f → 2 ^ 52 ≤ n) :
    e + f ≤ Format.binary64.targetExponent (totalExponent (m * n) (e + f)) := by
  rw [targetExponent_eq, totalExponent]
  by_cases tiny : e + f ≤ -1074
  · omega
  · have wide : 2 ^ 52 ≤ m * n := by
      by_cases normal : -1074 < e
      · exact (full normal).trans (Nat.le_mul_of_pos_right m other)
      · exact (alsoFull (by omega)).trans (Nat.le_mul_of_pos_left n positive)
    have := (Nat.le_log2 (by omega)).2 wide
    omega

theorem apply_mul (sign other : Sign) (m n : Nat) :
    (sign * other).apply (m * n : Nat) = sign.apply m * other.apply n := by
  rw [Nat.cast_mul]
  cases sign <;> cases other
  · exact (neg_mul_neg (m : Int) n).symm
  · exact (neg_mul (m : Int) n).symm
  · exact (mul_neg (m : Int) n).symm
  · rfl

/-- The product of two doubles is the exact one, rounded. -/
theorem roundsTo_mul {x y : UnpackedFloat} (first : Canonical x) (second : Canonical y) :
    RoundsTo (value x * value y) (UnpackedFloat.mul Format.binary64 x y) := by
  cases first with
  | zero =>
      rw [value_zero, zero_mul]
      cases second with
      | zero => exact roundsTo_zero _
      | finite => exact roundsTo_zero _
  | @finite sign m e positive _ least full =>
      cases second with
      | zero =>
          rw [value_zero, mul_zero]
          exact roundsTo_zero _
      | @finite other n f alsoPositive _ alsoLeast alsoFull =>
          have low := low_product positive alsoPositive least full alsoLeast alsoFull
          have product : value (.finite sign m e positive) *
              value (.finite other n f alsoPositive) =
                ((sign * other).apply (m * n : Nat) : Int) * 2 ^ (e + f) := by
            rw [value_finite, value_finite, zpow_add₀ (by norm_num), apply_mul, Int.cast_mul]
            ring
          rw [product]
          exact roundsTo_roundWithAccuracy _ (Nat.mul_pos positive alsoPositive) low

/-! ## Doubles -/

/-- The rational number that a double stands for. -/
def rational (x : Float) : ℚ := value x.toModel.unpack

@[simp]
theorem rational_zero : rational 0.0 = 0 := by
  rw [rational, unpack_zero, value_zero]

/-- A result that packing does not change. -/
theorem unpack_of_low {sign : Sign} {number : UnpackedFloat} {x : Float}
    (canonical : Canonical number) (low : Low sign 971 number)
    (same : x.toModel = Float.Model.pack number) : x.toModel.unpack = number := by
  rw [same, Random.unpack_pack]
  exact canonical.unpack_pack low

theorem Sized.unpack_neg {m : Int} {x : Float} (sized : Sized m x) (range : m ≤ 971) :
    (-x).toModel.unpack = x.toModel.unpack.neg := by
  have canonical := sized.canonical.neg
  obtain ⟨sign, bounded⟩ := sized
  exact unpack_of_low canonical (bounded.low_neg.mono range) rfl

theorem Sized.rational_neg {m : Int} {x : Float} (sized : Sized m x) (range : m ≤ 971) :
    rational (-x) = -rational x := by
  rw [rational, sized.unpack_neg range, value_neg, rational]

namespace Sized

variable {m n : Int} {x y : Float} (first : Sized m x) (second : Sized n y)

include first second

theorem le_iff_rational : x ≤ y ↔ rational x ≤ rational y :=
  le_iff.trans (unpacked_le_iff first.canonical second.canonical)

theorem lt_iff_rational : x < y ↔ rational x < rational y :=
  lt_iff.trans (unpacked_lt_iff first.canonical second.canonical)

theorem beq_iff_rational : (x == y) = true ↔ rational x = rational y :=
  unpacked_beq_iff first.canonical second.canonical

theorem rational_ne_of_beq (unequal : (x == y) = false) : rational x ≠ rational y := fun same => by
  rw [(first.beq_iff_rational second).2 same] at unequal
  cases unequal

variable (fits : m ≤ 969 ∧ n ≤ 969)

include fits

theorem unpack_sub :
    (x - y).toModel.unpack =
      UnpackedFloat.sub Format.binary64 x.toModel.unpack y.toModel.unpack := by
  have canonical := (roundsTo_sub first.canonical second.canonical).canonical
  obtain ⟨firstSign, first⟩ := first.mono fits.1
  obtain ⟨secondSign, second⟩ := second.mono fits.2
  obtain ⟨sign, low⟩ := low_sub (by decide) first second
  exact unpack_of_low canonical low rfl

theorem unpack_add :
    (x + y).toModel.unpack =
      UnpackedFloat.sub Format.binary64 x.toModel.unpack y.toModel.unpack.neg := by
  have canonical := (roundsTo_sub first.canonical second.canonical.neg).canonical
  obtain ⟨firstSign, first⟩ := first.mono fits.1
  obtain ⟨secondSign, second⟩ := second.mono fits.2
  obtain ⟨sign, low⟩ := low_sub (by decide) first second.neg
  refine unpack_of_low canonical low ?_
  rw [sub_neg_eq_add]
  rfl

theorem roundsTo_sub : RoundsTo (rational x - rational y) (x - y).toModel.unpack := by
  rw [first.unpack_sub second fits]
  exact Random.roundsTo_sub first.canonical second.canonical

theorem roundsTo_add : RoundsTo (rational x + rational y) (x + y).toModel.unpack := by
  have exactly : rational x + rational y = rational x - value y.toModel.unpack.neg := by
    rw [value_neg, rational, rational]
    ring
  rw [first.unpack_add second fits, exactly]
  exact Random.roundsTo_sub first.canonical second.canonical.neg

/-- Exchanging the operands of a difference of doubles exchanges its sign. -/
theorem sub_swap : Opposite (x - y).toModel.unpack (y - x).toModel.unpack := by
  rw [first.unpack_sub second fits, second.unpack_sub first fits.symm]
  exact Random.sub_swap first.canonical second.canonical

omit fits in
theorem roundsTo_mul (fits : -1074 ≤ m + n + 53 ∧ m + n + 54 ≤ 971) :
    RoundsTo (rational x * rational y) (x * y).toModel.unpack := by
  have rounded := Random.roundsTo_mul first.canonical second.canonical
  obtain ⟨firstSign, first⟩ := first
  obtain ⟨secondSign, second⟩ := second
  have low := low_mul fits.1 first second
  have kept : (x * y).toModel.unpack =
      UnpackedFloat.mul Format.binary64 x.toModel.unpack y.toModel.unpack :=
    unpack_of_low rounded.canonical (low.mono fits.2) rfl
  rwa [kept]

end Sized

/-- A rounded result is at most a double that the exact one is at most. -/
theorem RoundsTo.le {exact : ℚ} {m : Int} {x bound : Float}
    (roundsTo : RoundsTo exact x.toModel.unpack) (sized : Sized m bound)
    (le : exact ≤ rational bound) : rational x ≤ rational bound :=
  (roundsTo.rounds _ sized.canonical).1 le

theorem RoundsTo.ge {exact : ℚ} {m : Int} {x bound : Float}
    (roundsTo : RoundsTo exact x.toModel.unpack) (sized : Sized m bound)
    (ge : rational bound ≤ exact) : rational bound ≤ rational x :=
  (roundsTo.rounds _ sized.canonical).2 ge

section Opposite

variable {m n k : Int} {x opposite y : Float} (first : Sized m x) (alsoFirst : Sized k opposite)
  (second : Sized n y) (fits : m ≤ 969 ∧ n ≤ 969 ∧ k ≤ 969)
  (opposed : Opposite x.toModel.unpack opposite.toModel.unpack)

include first alsoFirst second fits opposed

/-- A difference and the sum with the opposite number are opposite themselves. -/
theorem Opposite.sub_add (nonzero : rational x ≠ 0) :
    Opposite (x - y).toModel.unpack (opposite + y).toModel.unpack := by
  rw [first.unpack_sub second ⟨fits.1, fits.2.1⟩, alsoFirst.unpack_add second ⟨fits.2.2, fits.2.1⟩]
  obtain same | zeros := opposed
  · rw [same]
    exact sub_neg_neg first.canonical second.canonical
  · exact absurd zeros.1 nonzero

/-- Subtracting a number comes to the same as adding the opposite one. -/
theorem Opposite.add_eq_sub : rational (y + opposite) = rational (y - x) := by
  obtain same | ⟨zero, alsoZero⟩ := opposed
  · rw [rational, rational, second.unpack_add alsoFirst ⟨fits.2.1, fits.2.2⟩,
      second.unpack_sub first ⟨fits.2.1, fits.1⟩, same, unpacked_neg_neg]
  · have difference := (second.roundsTo_sub first ⟨fits.2.1, fits.1⟩).eq second.canonical
      (by rw [rational, rational, zero, sub_zero])
    have sum := (second.roundsTo_add alsoFirst ⟨fits.2.1, fits.2.2⟩).eq second.canonical
      (by rw [rational, rational, alsoZero, add_zero])
    exact sum.trans difference.symm

end Opposite

end FigureMarkup.Random

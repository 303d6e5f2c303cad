import FigureMarkup.Proofs.Random.Sizes

/-!
# Values of doubles

A finite double stands for a rational number. Every such number has one form only: its mantissa is
full unless its exponent is the least one. So comparing exponents first and mantissas next compares
the numbers, and packing a number of that form loses nothing.
-/

namespace FigureMarkup.Random

open Float.Model UnpackedFloat

/-- The rational number that a finite number stands for. -/
def value : UnpackedFloat → ℚ
  | .finite .positive mantissa exponent _ => mantissa * 2 ^ exponent
  | .finite .negative mantissa exponent _ => -(mantissa * 2 ^ exponent)
  | _ => 0

@[simp]
theorem value_zero (sign : Sign) : value (.zero sign) = 0 := rfl

theorem value_finite (sign : Sign) {mantissa : Nat} (exponent : Int) (positive : 0 < mantissa) :
    value (.finite sign mantissa exponent positive) =
      (sign.apply mantissa : Int) * 2 ^ exponent := by
  cases sign with
  | positive => rfl
  | negative =>
      change -((mantissa : ℚ) * 2 ^ exponent) = ((-mantissa : Int) : ℚ) * 2 ^ exponent
      rw [Int.cast_neg, Int.cast_natCast, neg_mul]

/-- A zero, or a finite number in the one form that doubles have. -/
inductive Canonical : UnpackedFloat → Prop
  | zero (sign : Sign) : Canonical (.zero sign)
  | finite {sign : Sign} {mantissa : Nat} {exponent : Int} (positive : 0 < mantissa)
      (small : mantissa < 2 ^ 53) (least : -1074 ≤ exponent)
      (full : -1074 < exponent → 2 ^ 52 ≤ mantissa) :
      Canonical (.finite sign mantissa exponent positive)

theorem Sized.canonical {most : Int} {x : Float} (sized : Sized most x) :
    Canonical x.toModel.unpack := by
  obtain ⟨sign, bounded⟩ := sized
  generalize same : x.toModel.unpack = number at bounded
  cases bounded with
  | zero => exact .zero sign
  | finite positive =>
      obtain ⟨least, small, full⟩ := Random.canonical same
      exact .finite positive small least full

theorem Canonical.neg {x : UnpackedFloat} (canonical : Canonical x) : Canonical x.neg := by
  cases canonical with
  | zero sign => exact .zero (-sign)
  | finite positive small least full => exact .finite positive small least full

theorem value_neg (x : UnpackedFloat) : value x.neg = -value x := by
  rcases x with _ | _ | _ | ⟨_ | _, mantissa, exponent, positive⟩
  · exact neg_zero.symm
  · exact neg_zero.symm
  · exact neg_zero.symm
  · exact (neg_neg _).symm
  · rfl

/-! ## Order -/

theorem two_zpow_pos (exponent : Int) : (0 : ℚ) < 2 ^ exponent :=
  zpow_pos (by norm_num) exponent

/-- A mantissa with a smaller exponent makes a smaller number, as the other mantissa is full. -/
theorem magnitude_lt {m n : Nat} {e f : Int} (small : m < 2 ^ 53) (full : 2 ^ 52 ≤ n)
    (lower : e < f) : (m : ℚ) * 2 ^ e < n * 2 ^ f := by
  have small' : (m : ℚ) < 2 ^ 53 := by exact_mod_cast small
  have full' : (2 ^ 52 : ℚ) ≤ n := by exact_mod_cast full
  calc
    (m : ℚ) * 2 ^ e < 2 ^ 53 * 2 ^ e := mul_lt_mul_of_pos_right small' (two_zpow_pos e)
    _ = 2 ^ 52 * 2 ^ (e + 1) := by
      rw [zpow_add_one₀ (by norm_num)]
      ring
    _ ≤ 2 ^ 52 * 2 ^ f := by
      gcongr
      · norm_num
      · omega
    _ ≤ n * 2 ^ f := mul_le_mul_of_nonneg_right full' (two_zpow_pos f).le

/-- An order of two numbers that agrees with the order of their values. -/
def Agrees (order : Ordering) (x y : ℚ) : Prop :=
  match order with
  | .lt => x < y
  | .eq => x = y
  | .gt => y < x

theorem agrees_magnitude {m n : Nat} {e f : Int} (firstSmall : m < 2 ^ 53) (least : -1074 ≤ e)
    (firstFull : -1074 < e → 2 ^ 52 ≤ m) (secondSmall : n < 2 ^ 53) (alsoLeast : -1074 ≤ f)
    (secondFull : -1074 < f → 2 ^ 52 ≤ n) :
    Agrees ((compare e f).then (compare m n)) ((m : ℚ) * 2 ^ e) (n * 2 ^ f) := by
  rcases lt_trichotomy e f with lower | rfl | higher
  · rw [Int.compare_eq_lt.2 lower]
    exact magnitude_lt firstSmall (secondFull (by omega)) lower
  · rw [Int.compare_eq_eq.2 rfl]
    have scale := two_zpow_pos e
    rcases lt_trichotomy m n with less | rfl | more
    · rw [Nat.compare_eq_lt.2 less]
      exact mul_lt_mul_of_pos_right (by exact_mod_cast less) scale
    · rw [Nat.compare_eq_eq.2 rfl]
      exact rfl
    · rw [Nat.compare_eq_gt.2 more]
      exact mul_lt_mul_of_pos_right (by exact_mod_cast more) scale
  · rw [Int.compare_eq_gt.2 higher]
    exact magnitude_lt secondSmall (firstFull (by omega)) higher

theorem Agrees.neg {order : Ordering} {x y : ℚ} (agrees : Agrees order x y) :
    Agrees order.swap (-x) (-y) := by
  cases order with
  | lt => exact neg_lt_neg agrees
  | eq => exact congrArg _ agrees
  | gt => exact neg_lt_neg agrees

/-- Comparing finite numbers compares their values. -/
theorem agrees_compare {x y : UnpackedFloat} (first : Canonical x) (second : Canonical y) :
    ∃ order, x.compare y = some order ∧ Agrees order (value x) (value y) := by
  have positive {m : Nat} (e : Int) (filled : 0 < m) : (0 : ℚ) < m * 2 ^ e :=
    mul_pos (by exact_mod_cast filled) (two_zpow_pos e)
  cases first with
  | zero =>
      cases second with
      | zero => exact ⟨.eq, rfl, rfl⟩
      | @finite sign _ exponent filled =>
          cases sign with
          | positive => exact ⟨.lt, rfl, positive exponent filled⟩
          | negative => exact ⟨.gt, rfl, neg_neg_of_pos (positive exponent filled)⟩
  | @finite sign _ exponent filled small least full =>
      cases second with
      | zero =>
          cases sign with
          | positive => exact ⟨.gt, rfl, positive exponent filled⟩
          | negative => exact ⟨.lt, rfl, neg_neg_of_pos (positive exponent filled)⟩
      | @finite other _ otherExponent alsoFilled alsoSmall alsoLeast alsoFull =>
          have agrees := agrees_magnitude small least full alsoSmall alsoLeast alsoFull
          cases sign <;> cases other
          · exact ⟨_, rfl, agrees.neg⟩
          · exact ⟨.lt, rfl, (neg_neg_of_pos (positive exponent filled)).trans
              (positive otherExponent alsoFilled)⟩
          · exact ⟨.gt, rfl, (neg_neg_of_pos (positive otherExponent alsoFilled)).trans
              (positive exponent filled)⟩
          · exact ⟨_, rfl, agrees⟩

section Order

variable {x y : UnpackedFloat} (first : Canonical x) (second : Canonical y)

include first second

theorem unpacked_le_iff : x.le y = true ↔ value x ≤ value y := by
  obtain ⟨order, compared, agrees⟩ := agrees_compare first second
  rw [UnpackedFloat.le, compared]
  cases order with
  | lt => exact iff_of_true rfl (show value x < value y from agrees).le
  | eq => exact iff_of_true rfl (show value x = value y from agrees).le
  | gt => exact iff_of_false Bool.false_ne_true (show value y < value x from agrees).not_ge

theorem unpacked_lt_iff : x.lt y = true ↔ value x < value y := by
  obtain ⟨order, compared, agrees⟩ := agrees_compare first second
  rw [UnpackedFloat.lt, compared]
  cases order with
  | lt => exact iff_of_true rfl agrees
  | eq => exact iff_of_false Bool.false_ne_true (show value x = value y from agrees).not_lt
  | gt => exact iff_of_false Bool.false_ne_true (show value y < value x from agrees).not_gt

theorem unpacked_beq_iff : x.beq y = true ↔ value x = value y := by
  obtain ⟨order, compared, agrees⟩ := agrees_compare first second
  rw [UnpackedFloat.beq, compared]
  cases order with
  | lt => exact iff_of_false Bool.false_ne_true (show value x < value y from agrees).ne
  | eq => exact iff_of_true rfl agrees
  | gt => exact iff_of_false Bool.false_ne_true (show value y < value x from agrees).ne'

end Order

/-! ## Packing -/

theorem unpack_pack_subnormal (sign : Sign) {mantissa : Nat} (positive : 0 < mantissa)
    (small : mantissa < 2 ^ 52) :
    UnpackedFloat.unpack Format.binary64
        (UnpackedFloat.pack Format.binary64 (.finite sign mantissa (-1074) positive)) =
      .finite sign mantissa (-1074) positive := by
  have unlimited : ¬ 2 ^ 11 ≤
      ((-1074 : Int) + Format.binary64.exponentBias + (52 : Nat)).toNat + 1 := by
    decide
  have width : ¬ mantissa.log2 + 1 = Format.binary64.mantissaBits := by
    have below := (Nat.log2_lt (by omega)).2 small
    change ¬ mantissa.log2 + 1 = 53
    omega
  have value : (BitVec.ofNat 52 mantissa).toNat = mantissa := by
    rw [BitVec.toNat_ofNat]
    exact Nat.mod_eq_of_lt small
  have nonzero : BitVec.ofNat 52 mantissa ≠ 0#52 := fun zero => by
    have := congrArg BitVec.toNat zero
    rw [value] at this
    simp at this
    omega
  have packed : UnpackedFloat.pack Format.binary64 (.finite sign mantissa (-1074) positive) =
      packComponents Format.binary64 sign 0#11 (BitVec.ofNat 52 mantissa) := by
    unfold UnpackedFloat.pack
    dsimp only
    rw [if_neg unlimited, if_neg width]
  have notFull : 0#11 ≠ -1#11 := by decide
  rw [packed, UnpackedFloat.unpack]
  simp only [unpackExponent_packComponents, unpackMantissa_packComponents,
    unpackSign_packComponents, ofBitVec_toBitVec, if_neg notFull, if_true, dif_neg nonzero, value]
  rfl

/-- Packing keeps numbers that doubles have, if their exponents are not too large. -/
theorem Canonical.unpack_pack {x : UnpackedFloat} (canonical : Canonical x) {sign : Sign}
    (low : Low sign 971 x) :
    UnpackedFloat.unpack Format.binary64 (UnpackedFloat.pack Format.binary64 x) = x := by
  cases canonical with
  | zero sign => exact unpack_pack_zero sign
  | @finite _ mantissa exponent positive small least full =>
      cases low with
      | finite _ limited =>
          by_cases normal : 2 ^ 52 ≤ mantissa
          · exact unpack_pack_normal _ positive normal small least limited
          · obtain rfl : exponent = -1074 := by
              have notAbove : ¬ -1074 < exponent := fun above => normal (full above)
              omega
            exact unpack_pack_subnormal _ positive (by omega)

end FigureMarkup.Random

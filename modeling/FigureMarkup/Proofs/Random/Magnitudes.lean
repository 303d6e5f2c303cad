import FigureMarkup.Proofs.Random.Operations
import FigureMarkup.Proofs.Random.Sums

/-!
# Roots of sums of squares

A square is never negative, and neither is a sum of squares or its root. Squares and sums can
overflow, and a square can vanish where its root does not. But taking a root loses nothing of that
kind: it is finite and positive exactly where its operand is.
-/

namespace FigureMarkup.Random

open Float.Model UnpackedFloat

/-- A number that is not negative, which may be infinite. -/
inductive Magnitude : UnpackedFloat → Prop
  | finite {number : UnpackedFloat} (bounded : Bounded .positive 971 number) : Magnitude number
  | infinite : Magnitude (.infinity .positive)

/-- A result that has been rounded stays what it is when it is packed, or becomes infinite. -/
theorem unpack_pack_of_low {sign : Sign} {most : Int} {number : UnpackedFloat}
    (low : Low sign most number) :
    Bounded sign 971
        (UnpackedFloat.unpack Format.binary64 (UnpackedFloat.pack Format.binary64 number)) ∨
      UnpackedFloat.unpack Format.binary64 (UnpackedFloat.pack Format.binary64 number) =
        .infinity sign := by
  cases low with
  | zero => exact .inl (bounded_unpack_pack .zero (by decide) (by decide))
  | @finite mantissa exponent positive =>
      by_cases limited : exponent ≤ 971
      · exact .inl (bounded_unpack_pack (.finite positive limited) (by decide) (by decide))
      · exact .inr (unpack_pack_large sign positive (by omega))

theorem magnitude_of_low {most : Int} {number : UnpackedFloat} (low : Low .positive most number) :
    Magnitude
      (UnpackedFloat.unpack Format.binary64 (UnpackedFloat.pack Format.binary64 number)) := by
  rcases unpack_pack_of_low low with bounded | infinite
  · exact .finite bounded
  · rw [infinite]
    exact .infinite

/-! ## Differences, squares and sums -/

theorem isFinite_eq (x : Float) : x.isFinite = UnpackedFloat.isFinite x.toModel.unpack := rfl

theorem Sized.of_isFinite {x : Float} (finite : x.isFinite = true) : Sized 971 x := by
  rw [isFinite_eq] at finite
  rcases float_cases x with nan | ⟨sign, infinite⟩ | sized
  · rw [nan] at finite
    cases finite
  · rw [infinite] at finite
    cases finite
  · exact sized

/-- Finite doubles have a difference, though it may be infinite. -/
theorem sub_isNumber {x y : Float} (first : Sized 971 x) (second : Sized 971 y) :
    (x - y).toModel.unpack ≠ .notANumber := by
  obtain ⟨firstSign, first⟩ := first
  obtain ⟨secondSign, second⟩ := second
  obtain ⟨sign, low⟩ := low_sub (by decide) first second
  change UnpackedFloat.unpack Format.binary64 (UnpackedFloat.pack Format.binary64 _) ≠ _
  rcases unpack_pack_of_low low with bounded | infinite
  · intro nan
    rw [nan] at bounded
    cases bounded
  · rw [infinite]
    exact nofun

theorem mul_sign_self (sign : Sign) : sign * sign = .positive := by
  cases sign <;> rfl

theorem magnitude_square {x : Float} (number : x.toModel.unpack ≠ .notANumber) :
    Magnitude (x * x).toModel.unpack := by
  rw [unpack_mul]
  rcases float_cases x with nan | ⟨sign, infinite⟩ | ⟨sign, bounded⟩
  · exact absurd nan number
  · have square : UnpackedFloat.mul Format.binary64 (.infinity sign) (.infinity sign) =
        .infinity .positive := by
      cases sign <;> rfl
    rw [infinite, square, unpack_infinity]
    exact .infinite
  · have low := low_mul (by decide) bounded bounded
    rw [mul_sign_self] at low
    exact magnitude_of_low low

theorem magnitude_add {x y : Float} (first : Magnitude x.toModel.unpack)
    (second : Magnitude y.toModel.unpack) : Magnitude (x + y).toModel.unpack := by
  rw [unpack_add]
  generalize x.toModel.unpack = number at first ⊢
  generalize y.toModel.unpack = other at second ⊢
  cases first with
  | infinite =>
      have sum : UnpackedFloat.add Format.binary64 (.infinity .positive) other =
          .infinity .positive := by
        cases second with
        | infinite => rfl
        | finite bounded => cases bounded <;> rfl
      rw [sum, unpack_infinity]
      exact .infinite
  | finite bounded =>
      cases second with
      | infinite =>
          have sum : UnpackedFloat.add Format.binary64 number (.infinity .positive) =
              .infinity .positive := by
            cases bounded <;> rfl
          rw [sum, unpack_infinity]
          exact .infinite
      | finite alsoBounded =>
          exact magnitude_of_low (low_add_positive (by decide) bounded alsoBounded)

/-! ## Roots -/

/-- The root of a positive number is positive and finite. -/
theorem sqrt_normal {mantissa : Nat} {exponent : Int} (positive : 0 < mantissa)
    (small : mantissa < 2 ^ 53) (least : -1074 ≤ exponent) (limited : exponent ≤ 971) :
    ∃ root above, ∃ rootPositive : 0 < root,
      UnpackedFloat.unpack Format.binary64 (UnpackedFloat.pack Format.binary64
        (UnpackedFloat.sqrt Format.binary64 (.finite .positive mantissa exponent positive))) =
        .finite .positive root above rootPositive := by
  have low := low_sqrt 459 (by decide) (by decide) (.finite positive small limited)
  let target := min (exponent.ediv 2)
    (Format.binary64.targetExponent ((totalExponent mantissa exponent + 1).ediv 2))
  let places := (exponent - 2 * target).toNat
  have width := (Nat.log2_lt (by omega)).2 small
  have halved (n : Int) : n.ediv 2 = n / 2 := rfl
  -- The operand is shifted so far that the root fills a mantissa.
  have wide : 104 ≤ mantissa.log2 + places := by
    simp only [places, target, targetExponent_eq, totalExponent, halved]
    omega
  have full : 2 ^ 52 ≤ Nat.sqrt (mantissa <<< places) := by
    rw [Nat.le_sqrt', ← Nat.pow_mul, Nat.shiftLeft_eq]
    calc
      2 ^ (52 * 2) ≤ 2 ^ (mantissa.log2 + places) := Nat.pow_le_pow_right (by decide) wide
      _ = 2 ^ mantissa.log2 * 2 ^ places := Nat.pow_add ..
      _ ≤ mantissa * 2 ^ places := Nat.mul_le_mul_right _ (Nat.log2_self_le positive.ne')
  have enough : -1074 ≤ target := by
    simp only [target, targetExponent_eq, totalExponent, halved]
    omega
  obtain ⟨more, lower, upper⟩ := exists_places full
  obtain ⟨root, carried, rootPositive, normal, fits, -, same⟩ :=
    roundWithAccuracy_normal .positive target
      (UnpackedFloat.sqrtCore Format.binary64 mantissa exponent).2.2 lower upper (by omega)
  have result : UnpackedFloat.sqrt Format.binary64 (.finite .positive mantissa exponent positive) =
      .finite .positive root (target + more + carried) rootPositive := same
  rw [result] at low ⊢
  cases low with
  | finite _ limited =>
      exact ⟨_, _, rootPositive,
        unpack_pack_normal .positive rootPositive normal fits (by omega) (by omega)⟩

theorem unpack_sqrt (x : Float) : x.sqrt.toModel.unpack =
    UnpackedFloat.unpack Format.binary64 (UnpackedFloat.pack Format.binary64
      (UnpackedFloat.sqrt Format.binary64 x.toModel.unpack)) :=
  rfl

/-- A root is finite or positive exactly if its operand is. -/
theorem sqrt_of_magnitude {x : Float} (magnitude : Magnitude x.toModel.unpack) :
    0.0 ≤ x.sqrt ∧ x.sqrt.isFinite = x.isFinite ∧ (0.0 < x.sqrt ↔ 0.0 < x) := by
  rw [le_iff, lt_iff, lt_iff, isFinite_eq, isFinite_eq, unpack_zero, unpack_sqrt]
  generalize same : x.toModel.unpack = number at magnitude
  cases magnitude with
  | infinite =>
      rw [UnpackedFloat.sqrt, unpack_infinity]
      exact ⟨rfl, rfl, .rfl⟩
  | finite bounded =>
      cases bounded with
      | zero =>
          rw [UnpackedFloat.sqrt, unpack_pack_zero]
          exact ⟨rfl, rfl, .rfl⟩
      | finite positive small limited =>
          obtain ⟨root, above, rootPositive, result⟩ :=
            sqrt_normal positive small (canonical same).1 limited
          rw [result]
          exact ⟨rfl, rfl, .rfl⟩

/-! ## Squares that do not vanish -/

theorem sized_em150 : Sized (-551) (1e-150 : Float) :=
  (sized_iff (by decide)).2 (by decide +kernel)

theorem unpack_em150 : (1e-150 : Float).toModel.unpack =
    .finite .positive 7371020360979573 (-551) (by decide) := by
  have bits : (1e-150 : Float).toModel.toBits = 0x20CA2FE76A3F9475 := by decide +kernel
  rw [Float.Model.unpack, bits]
  rfl

theorem two_pow_le_em150 : (2 ^ (-511 : Int) : ℚ) ≤ rational 1e-150 := by
  rw [rational, unpack_em150]
  change (2 ^ (-511 : Int) : ℚ) ≤ (7371020360979573 : Nat) * 2 ^ (-551 : Int)
  have split : (2 ^ (-511 : Int) : ℚ) = 2 ^ 40 * 2 ^ (-551 : Int) := by
    rw [← zpow_natCast, ← zpow_add₀ (by norm_num)]
    rfl
  rw [split]
  exact mul_le_mul_of_nonneg_right (by norm_num) (two_zpow_pos _).le

section Squares

variable {m : Int} {x y : Float}

/-- The square of a double is at least what any double below the exact square is. -/
theorem Sized.le_square (sized : Sized m x) (fits : -1127 ≤ 2 * m ∧ 2 * m ≤ 917)
    {bound : UnpackedFloat} (canonical : Canonical bound)
    (below : value bound ≤ rational x * rational x) : value bound ≤ rational (x * x) :=
  ((sized.roundsTo_mul sized (by omega)).rounds bound canonical).2 below

theorem Sized.square_nonneg (sized : Sized m x) (fits : -1127 ≤ 2 * m ∧ 2 * m ≤ 917) :
    0 ≤ rational (x * x) :=
  sized.le_square fits (.zero .positive) (mul_self_nonneg _)

/-- The square of a number that is not too close to zero does not vanish. -/
theorem Sized.square_pos (sized : Sized m x) (fits : -1127 ≤ 2 * m ∧ 2 * m ≤ 917)
    (apart : 1e-150 ≤ x ∨ x ≤ -1e-150) : 0 < rational (x * x) := by
  obtain ⟨least, canonical, same⟩ := @exists_multiple 1 (-1022) (by decide) (by decide)
  rw [Int.cast_one, one_mul] at same
  have scale := two_pow_le_em150
  have far : (2 ^ (-511 : Int) : ℚ) ≤ |rational x| := by
    rcases apart with above | below
    · rw [sized_em150.le_iff_rational sized] at above
      exact (scale.trans above).trans (le_abs_self _)
    · rw [sized.le_iff_rational (sized_em150.neg (by decide)),
        sized_em150.rational_neg (by decide)] at below
      exact scale.trans ((le_neg.1 below).trans (neg_le_abs _))
  have below : value least ≤ rational x * rational x := by
    calc
      value least = 2 ^ (-511 : Int) * 2 ^ (-511 : Int) := by
        rw [same, ← zpow_add₀ (by norm_num)]
        rfl
      _ ≤ |rational x| * |rational x| := mul_self_le_mul_self (two_zpow_pos _).le far
      _ = rational x * rational x := abs_mul_abs_self _
  refine lt_of_lt_of_le ?_ (sized.le_square fits canonical below)
  rw [same]
  exact two_zpow_pos _

/-- A sum of squares is finite if the numbers are not too large, and positive if one of them is not
too close to zero. -/
theorem squares_of_sized (first : Sized 448 x) (second : Sized 448 y)
    (apart : (1e-150 ≤ x ∨ x ≤ -1e-150) ∨ 1e-150 ≤ y ∨ y ≤ -1e-150) :
    (x * x + y * y).isFinite = true ∧ 0.0 < x * x + y * y := by
  have squareX : Sized 950 (x * x) := first.mul first (by decide)
  have squareY : Sized 950 (y * y) := second.mul second (by decide)
  have sum : Sized 952 (x * x + y * y) := squareX.add squareY (by decide)
  refine ⟨sum.isFinite, ((sized_zero 0).lt_iff_rational sum).2 ?_⟩
  have rounded := (squareX.roundsTo_add squareY (by decide)).rounds
  have nonnegX := first.square_nonneg (by decide)
  have nonnegY := second.square_nonneg (by decide)
  rw [rational_zero]
  rcases apart with apartX | apartY
  · refine lt_of_lt_of_le (first.square_pos (by decide) apartX) ?_
    exact (rounded _ squareX.canonical).2 (le_add_of_nonneg_right nonnegY)
  · refine lt_of_lt_of_le (second.square_pos (by decide) apartY) ?_
    exact (rounded _ squareY.canonical).2 (le_add_of_nonneg_left nonnegX)

end Squares

end FigureMarkup.Random

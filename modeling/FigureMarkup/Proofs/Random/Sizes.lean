import FigureMarkup.Proofs.Random.Ranges

/-!
# Sizes of doubles

A bound on the exponents of two doubles gives one on the exponent of the result of an operation on
them. So a chain of operations stays finite if it starts from numbers far below the largest double.
Quotients need a divisor that is not too small, and square roots a number that is not negative.
-/

namespace FigureMarkup.Random

open Float.Model UnpackedFloat

/-! ## Bounds on doubles -/

theorem Bounded.mono {sign : Sign} {most more : Int} {number : UnpackedFloat}
    (bounded : Bounded sign most number) (wider : most ≤ more) : Bounded sign more number := by
  cases bounded with
  | zero => exact .zero
  | finite positive small low => exact .finite positive small (by omega)

theorem Bounded.low {sign : Sign} {most : Int} {number : UnpackedFloat}
    (bounded : Bounded sign most number) : Low sign most number := by
  cases bounded with
  | zero => exact .zero
  | finite positive small low => exact .finite positive low

theorem Low.mono {sign : Sign} {most more : Int} {number : UnpackedFloat}
    (low : Low sign most number) (wider : most ≤ more) : Low sign more number := by
  cases low with
  | zero => exact .zero
  | finite positive low => exact .finite positive (by omega)

/-- A finite double whose exponent is at most a bound. -/
def Sized (most : Int) (x : Float) : Prop := ∃ sign, Bounded sign most x.toModel.unpack

/-- Every double is no number, infinite or finite. -/
theorem float_cases (x : Float) : x.toModel.unpack = .notANumber ∨
    (∃ sign, x.toModel.unpack = .infinity sign) ∨ Sized 971 x :=
  unpack_cases x.toModel.toBits.toBitVec

theorem unpack_add (x y : Float) : (x + y).toModel.unpack =
    UnpackedFloat.unpack Format.binary64 (UnpackedFloat.pack Format.binary64
      (UnpackedFloat.add Format.binary64 x.toModel.unpack y.toModel.unpack)) :=
  rfl

theorem unpack_mul (x y : Float) : (x * y).toModel.unpack =
    UnpackedFloat.unpack Format.binary64 (UnpackedFloat.pack Format.binary64
      (UnpackedFloat.mul Format.binary64 x.toModel.unpack y.toModel.unpack)) :=
  rfl

theorem sized_of_low {sign : Sign} {most : Int} {number : UnpackedFloat} {x : Float}
    (low : Low sign most number) (range : -1074 ≤ most ∧ most ≤ 971)
    (same : x.toModel = Float.Model.pack number) : Sized most x :=
  ⟨sign, same ▸ bounded_unpack_pack low range.1 range.2⟩

namespace Sized

variable {most : Int} {x y : Float}

theorem mono {more : Int} (sized : Sized most x) (wider : most ≤ more) : Sized more x := by
  obtain ⟨sign, bounded⟩ := sized
  exact ⟨sign, bounded.mono wider⟩

theorem isFinite (sized : Sized most x) : x.isFinite = true := by
  obtain ⟨sign, bounded⟩ := sized
  change UnpackedFloat.isFinite x.toModel.unpack = true
  generalize x.toModel.unpack = number at bounded
  cases bounded <;> rfl

end Sized

theorem bounded_unpack_iff {most : Int} (bits : BitVec 64) (enough : -1074 ≤ most) :
    (∃ sign, Bounded sign most (UnpackedFloat.unpack Format.binary64 bits)) ↔
      exponentField bits < 2047 ∧ (exponentField bits : Int) - 1075 ≤ most := by
  have fields := fields_unpack bits
  generalize UnpackedFloat.unpack Format.binary64 bits = number at fields
  constructor
  · rintro ⟨sign, bounded⟩
    cases fields with
    | special full infinite => cases bounded <;> cases infinite
    | zero _ empty =>
        unfold exponentField
        omega
    | subnormal _ positive empty => omega
    | normal _ positive raised rest =>
        cases bounded with
        | finite _ _ low => exact ⟨rest, low⟩
  · rintro ⟨rest, low⟩
    cases fields with
    | special full infinite => omega
    | zero sign => exact ⟨sign, .zero⟩
    | subnormal sign positive =>
        refine ⟨sign, .finite positive ?_ enough⟩
        omega
    | normal sign positive =>
        refine ⟨sign, .finite positive ?_ low⟩
        omega

/-- The size of a double can be read off its bits. -/
theorem sized_iff {most : Int} {x : Float} (enough : -1074 ≤ most) :
    Sized most x ↔ exponentField x.toModel.toBits.toBitVec < 2047 ∧
      (exponentField x.toModel.toBits.toBitVec : Int) - 1075 ≤ most :=
  bounded_unpack_iff _ enough

theorem sized_zero (most : Int) : Sized most (0.0 : Float) :=
  ⟨.positive, unpack_zero ▸ .zero⟩

theorem sized_one : Sized (-52) (1.0 : Float) :=
  (sized_iff (by decide)).2 (by decide)

/-! ## Operations -/

theorem sub_neg_eq_add (first second : UnpackedFloat) :
    UnpackedFloat.sub Format.binary64 first second.neg =
      UnpackedFloat.add Format.binary64 first second := by
  have twice (sign : Sign) : - -sign = sign := by cases sign <;> rfl
  have minus (sign : Sign) (n : Int) : (-sign).apply n = -sign.apply n := by
    cases sign
    · exact (Int.neg_neg n).symm
    · rfl
  cases first <;> cases second <;>
    grind [UnpackedFloat.sub, UnpackedFloat.add, UnpackedFloat.neg]

theorem Bounded.neg {sign : Sign} {most : Int} {number : UnpackedFloat}
    (bounded : Bounded sign most number) : Bounded (-sign) most number.neg := by
  cases bounded with
  | zero => exact .zero
  | finite positive small low => exact .finite positive small low

theorem low_mul {first second : UnpackedFloat} {sign other : Sign} {most more : Int}
    (enough : -1074 ≤ most + more + 53) (bounded : Bounded sign most first)
    (alsoBounded : Bounded other more second) :
    Low (sign * other) (most + more + 54) (UnpackedFloat.mul Format.binary64 first second) := by
  cases bounded with
  | zero => cases alsoBounded <;> exact .zero
  | @finite m₁ e₁ positive₁ small₁ low₁ =>
      cases alsoBounded with
      | zero => exact .zero
      | @finite m₂ e₂ positive₂ small₂ low₂ =>
          have product : m₁ * m₂ < 2 ^ (most + more + 53 + 53 - (e₁ + e₂)).toNat := by
            calc
              m₁ * m₂ < 2 ^ 53 * 2 ^ 53 := Nat.mul_lt_mul'' small₁ small₂
              _ = 2 ^ 106 := by rw [← Nat.pow_add]
              _ ≤ _ := Nat.pow_le_pow_right (by decide) (by omega)
          have raised : most + more + 53 + 1 = most + more + 54 := by omega
          exact raised ▸ low_roundWithAccuracy _ .exact enough (by omega) product

/-- The root has about half the exponent. -/
theorem low_sqrt {number : UnpackedFloat} {most : Int} (half : Int) (enough : -1074 ≤ half)
    (wide : most ≤ 2 * half + 53) (bounded : Bounded .positive most number) :
    Low .positive (half + 1) (UnpackedFloat.sqrt Format.binary64 number) := by
  cases bounded with
  | zero => exact .zero
  | @finite mantissa exponent positive small low =>
      let target := min (exponent.ediv 2)
        (Format.binary64.targetExponent ((totalExponent mantissa exponent + 1).ediv 2))
      have width := (Nat.log2_lt (by omega)).2 small
      have near : target ≤ half := by
        have halved (n : Int) : n.ediv 2 = n / 2 := rfl
        simp only [target, targetExponent_eq, totalExponent, halved]
        omega
      let places := (exponent - 2 * target).toNat
      have root : Nat.sqrt (mantissa <<< places) < 2 ^ (half + 53 - target).toNat := by
        rw [Nat.sqrt_lt', ← Nat.pow_mul]
        refine Nat.lt_of_lt_of_le (shiftLeft_lt small) (Nat.pow_le_pow_right (by decide) ?_)
        omega
      exact low_roundWithAccuracy _ _ enough near root

namespace Sized

variable {m n k : Int} {x y : Float}

theorem neg (sized : Sized m x) (range : -1074 ≤ m ∧ m ≤ 971) : Sized m (-x) := by
  obtain ⟨sign, bounded⟩ := sized
  exact sized_of_low bounded.low_neg range rfl

theorem sub (first : Sized m x) (second : Sized n y)
    (fits : m + 2 ≤ k ∧ n + 2 ≤ k ∧ -1072 ≤ k ∧ k ≤ 971) : Sized k (x - y) := by
  obtain ⟨firstSign, first⟩ := first.mono (show m ≤ k - 2 by omega)
  obtain ⟨secondSign, second⟩ := second.mono (show n ≤ k - 2 by omega)
  obtain ⟨sign, low⟩ := low_sub (by omega) first second
  exact sized_of_low (low.mono (by omega)) (by omega) rfl

theorem add (first : Sized m x) (second : Sized n y)
    (fits : m + 2 ≤ k ∧ n + 2 ≤ k ∧ -1072 ≤ k ∧ k ≤ 971) : Sized k (x + y) := by
  obtain ⟨firstSign, first⟩ := first.mono (show m ≤ k - 2 by omega)
  obtain ⟨secondSign, second⟩ := second.mono (show n ≤ k - 2 by omega)
  obtain ⟨sign, low⟩ := low_sub (by omega) first second.neg
  rw [sub_neg_eq_add] at low
  exact sized_of_low (low.mono (by omega)) (by omega) rfl

theorem mul (first : Sized m x) (second : Sized n y)
    (fits : m + n + 54 ≤ k ∧ -1073 ≤ m + n + 54 ∧ k ≤ 971) : Sized k (x * y) := by
  obtain ⟨firstSign, first⟩ := first
  obtain ⟨secondSign, second⟩ := second
  have low := low_mul (by omega) first second
  exact sized_of_low (low.mono fits.1) (by omega) rfl

end Sized

/-- A normal number whose exponent is at least a bound, and not too large. -/
inductive Ample (least : Int) (x : Float) : Prop
  | normal {sign : Sign} {mantissa : Nat} {exponent : Int} (positive : 0 < mantissa)
      (normal : 2 ^ 52 ≤ mantissa) (small : mantissa < 2 ^ 53) (high : least ≤ exponent)
      (same : x.toModel.unpack = .finite sign mantissa exponent positive)

theorem Sized.div {m l k : Int} {x y : Float} (sized : Sized m x) (ample : Ample l y)
    (fits : m - l - 51 ≤ k ∧ -1072 ≤ m - l - 51 ∧ k ≤ 971) : Sized k (x / y) := by
  obtain ⟨sign, bounded⟩ := sized
  obtain ⟨positive, normal, small, high, same⟩ := ample
  obtain ⟨other, low⟩ := low_div l (by omega) bounded positive normal small high
  rw [← same] at low
  exact sized_of_low (low.mono fits.1) (by omega) rfl

/-! ## Comparisons -/

theorem le_iff {x y : Float} : x ≤ y ↔ x.toModel.unpack.le y.toModel.unpack = true :=
  ⟨fun le => of_decide_eq_true (show Float.le x y = true from le),
    fun le => show Float.le x y = true from decide_eq_true le⟩

theorem lt_iff {x y : Float} : x < y ↔ x.toModel.unpack.lt y.toModel.unpack = true :=
  ⟨fun lt => of_decide_eq_true (show Float.lt x y = true from lt),
    fun lt => show Float.lt x y = true from decide_eq_true lt⟩

theorem le_of_lt {x y : Float} (lt : x < y) : x ≤ y := by
  rw [lt_iff] at lt
  rw [le_iff]
  unfold UnpackedFloat.lt at lt
  unfold UnpackedFloat.le
  generalize x.toModel.unpack.compare y.toModel.unpack = order at lt ⊢
  cases order with
  | none => cases lt
  | some order => cases order <;> simp_all

theorem compare_swap (first second : UnpackedFloat) :
    second.compare first = (first.compare second).map Ordering.swap := by
  have exponents (m n : Int) : (compare m n).swap = compare n m := Int.compare_swap m n
  have mantissas (m n : Nat) : (compare m n).swap = compare n m := Nat.compare_swap m n
  rcases first with ⟨_ | _⟩ | _ | _ | ⟨_ | _, _, _⟩ <;>
    rcases second with ⟨_ | _⟩ | _ | _ | ⟨_ | _, _, _⟩ <;>
      simp [UnpackedFloat.compare, Ordering.swap_then, exponents, mantissas] <;> rfl

theorem Sized.isNumber {m : Int} {x : Float} (sized : Sized m x) :
    x.toModel.unpack ≠ .notANumber := by
  obtain ⟨sign, bounded⟩ := sized
  intro nan
  rw [nan] at bounded
  cases bounded

theorem isNumber_of_le {x y : Float} (le : x ≤ y) : y.toModel.unpack ≠ .notANumber := by
  rw [le_iff] at le
  intro nan
  rw [nan] at le
  cases same : x.toModel.unpack <;> rw [same] at le <;> cases le

/-- Of two doubles that are numbers one is at most the other. -/
theorem le_of_not_lt {x y : Float} (first : x.toModel.unpack ≠ .notANumber)
    (second : y.toModel.unpack ≠ .notANumber) (notLess : ¬ y < x) : x ≤ y := by
  rw [lt_iff] at notLess
  rw [le_iff]
  generalize x.toModel.unpack = number at first notLess ⊢
  generalize y.toModel.unpack = other at second notLess ⊢
  have comparable : number.compare other ≠ none := by
    rcases number with ⟨_ | _⟩ | _ | _ | ⟨_ | _, _, _⟩ <;>
      rcases other with ⟨_ | _⟩ | _ | _ | ⟨_ | _, _, _⟩ <;>
        simp_all [UnpackedFloat.compare]
  unfold UnpackedFloat.lt at notLess
  unfold UnpackedFloat.le
  rw [compare_swap] at notLess
  generalize number.compare other = order at comparable notLess ⊢
  cases order with
  | none => exact absurd rfl comparable
  | some order => cases order <;> simp_all

/-- Of two numbers with one sign the larger one has the larger exponent. -/
theorem exponent_le_of_le {sign : Sign} {m₁ m₂ : Nat} {e₁ e₂ : Int} {positive₁ : 0 < m₁}
    {positive₂ : 0 < m₂}
    (le : (UnpackedFloat.finite .positive m₁ e₁ positive₁).le (.finite sign m₂ e₂ positive₂) =
      true) : e₁ ≤ e₂ := by
  by_contra above
  have greater : compare e₁ e₂ = .gt := Int.compare_eq_gt.2 (by omega)
  cases sign <;> simp [UnpackedFloat.le, UnpackedFloat.compare, greater] at le

theorem exponent_le_of_neg_le {sign : Sign} {m₁ m₂ : Nat} {e₁ e₂ : Int} {positive₁ : 0 < m₁}
    {positive₂ : 0 < m₂}
    (le : (UnpackedFloat.finite sign m₁ e₁ positive₁).le (.finite .negative m₂ e₂ positive₂) =
      true) : e₂ ≤ e₁ := by
  by_contra above
  have less : compare e₁ e₂ = .lt := Int.compare_eq_lt.2 (by omega)
  cases sign <;> simp [UnpackedFloat.le, UnpackedFloat.compare, less] at le

/-- What lies between two numbers has no larger exponent than both. -/
theorem Sized.of_between {most : Int} {low high x : Float} (below : Sized most low)
    (above : Sized most high) (least : low ≤ x) (greatest : x ≤ high) : Sized most x := by
  obtain ⟨lowSign, below⟩ := below
  obtain ⟨highSign, above⟩ := above
  rw [le_iff] at least greatest
  have cases := float_cases x
  unfold Sized at cases ⊢
  generalize x.toModel.unpack = number at least greatest cases ⊢
  generalize low.toModel.unpack = bottom at below least
  generalize high.toModel.unpack = top at above greatest
  rcases cases with rfl | ⟨sign, rfl⟩ | ⟨sign, bounded⟩
  · cases below <;> cases least
  · cases sign with
    | positive => cases above <;> cases greatest
    | negative => cases below <;> cases least
  · refine ⟨sign, ?_⟩
    cases bounded with
    | zero => exact .zero
    | finite positive small =>
        refine .finite positive small ?_
        cases sign with
        | positive =>
            cases above with
            | zero => cases greatest
            | finite _ _ low => exact (exponent_le_of_le greatest).trans low
        | negative =>
            cases below with
            | zero => cases least
            | finite _ _ low => exact (exponent_le_of_neg_le least).trans low

/-! ## Signs -/

theorem not_lt_zero_of_bounded {most : Int} {x : Float}
    (bounded : Bounded .positive most x.toModel.unpack) : ¬ x < 0.0 := by
  rw [lt_iff, unpack_zero]
  generalize x.toModel.unpack = number at bounded
  cases bounded <;>
    · intro less
      cases less

namespace Sized

variable {m n k : Int} {x y : Float}

theorem sqrt (sized : Sized m x) (nonneg : ¬ x < 0.0)
    (fits : m ≤ 2 * k + 51 ∧ -1073 ≤ k ∧ k ≤ 971) : Sized k x.sqrt := by
  obtain ⟨sign, bounded⟩ := sized
  have low : ∃ other, Low other k (UnpackedFloat.sqrt Format.binary64 x.toModel.unpack) := by
    rw [lt_iff, unpack_zero] at nonneg
    generalize x.toModel.unpack = number at bounded nonneg
    cases sign with
    | positive =>
        exact ⟨_, (low_sqrt (k - 1) (by omega) (by omega) bounded).mono (by omega)⟩
    | negative =>
        cases bounded with
        | zero => exact ⟨_, .zero⟩
        | finite => exact absurd rfl nonneg
  obtain ⟨other, low⟩ := low
  exact sized_of_low low (by omega) rfl

end Sized

theorem bounded_square {m : Int} {x : Float} (sized : Sized m x)
    (range : -1073 ≤ 2 * m + 54 ∧ 2 * m + 54 ≤ 971) :
    Bounded .positive (2 * m + 54) (x * x).toModel.unpack := by
  obtain ⟨sign, bounded⟩ := sized
  have low := low_mul (by omega) bounded bounded
  rw [show sign * sign = .positive by cases sign <;> rfl,
    show m + m + 54 = 2 * m + 54 by omega] at low
  exact bounded_unpack_pack low (by omega) (by omega)

/-- A sum of squares is no larger than the squares make it, and not negative. -/
theorem Sized.squares {m k : Int} {x y : Float} (first : Sized m x) (second : Sized m y)
    (fits : 2 * m + 56 ≤ k ∧ -1073 ≤ 2 * m + 54 ∧ k ≤ 971) :
    Sized k (x * x + y * y) ∧ ¬ x * x + y * y < 0.0 := by
  have low := low_add_positive (by omega) (bounded_square first (by omega))
    (bounded_square second (by omega))
  have bounded : Bounded .positive k (x * x + y * y).toModel.unpack :=
    bounded_unpack_pack (low.mono (by omega)) (by omega) fits.2.2
  exact ⟨⟨_, bounded⟩, not_lt_zero_of_bounded bounded⟩

/-! ## Numbers that are not too small -/

/-- A number above one that is not too small is not too small either. -/
theorem High.of_le {least m : Int} {x y : Float} (high : High least x.toModel.unpack)
    (sized : Sized m y) (le : x ≤ y) : High least y.toModel.unpack := by
  obtain ⟨sign, bounded⟩ := sized
  rw [le_iff] at le
  generalize x.toModel.unpack = number at high le
  generalize y.toModel.unpack = other at bounded le ⊢
  cases high with
  | finite positive high =>
      cases bounded with
      | zero => cases le
      | finite above =>
          cases sign with
          | positive => exact .finite above (high.trans (exponent_le_of_le le))
          | negative => cases le

/-- All exponents are at least the least one, and above it all mantissas are full. -/
theorem canonical {x : Float} {sign : Sign} {mantissa : Nat} {exponent : Int}
    {positive : 0 < mantissa} (same : x.toModel.unpack = .finite sign mantissa exponent positive) :
    -1074 ≤ exponent ∧ mantissa < 2 ^ 53 ∧ (-1074 < exponent → 2 ^ 52 ≤ mantissa) := by
  have fields := fields_unpack x.toModel.toBits.toBitVec
  change Fields _ x.toModel.unpack at fields
  rw [same] at fields
  cases fields with
  | special full infinite => cases infinite
  | subnormal => omega
  | normal => omega

theorem High.ample {least : Int} {x : Float} (high : High least x.toModel.unpack)
    (normal : -1074 < least) : Ample least x := by
  generalize same : x.toModel.unpack = number at high
  cases high with
  | finite positive high =>
      obtain ⟨-, small, full⟩ := canonical same
      exact .normal positive (full (by omega)) small high same

theorem unpack_two :
    (2.0 : Float).toModel.unpack = .finite .positive (2 ^ 52) (-51) (by decide) := by
  have bits : (2.0 : Float).toModel.toBits = 0x4000000000000000 := by decide
  rw [Float.Model.unpack, bits]
  rfl

/-- A product with two is not too small if the other factor is not. -/
theorem High.ample_double {least m : Int} {x : Float} (high : High least x.toModel.unpack)
    (sized : Sized m x) (range : -1074 < least ∧ m ≤ 969) : Ample (least + 1) (2.0 * x) := by
  obtain @⟨sign, mantissa, exponent, positive, normal, small, above, same⟩ := high.ample range.1
  obtain ⟨_, bounded⟩ := sized
  rw [same] at bounded
  cases bounded with
  | @finite _ exponent _ _ low =>
      have lower : 2 ^ (52 + 52) ≤ 2 ^ 52 * mantissa := by omega
      have upper : 2 ^ 52 * mantissa < 2 ^ (53 + 52) := by omega
      obtain ⟨rounded, carried, alsoPositive, full, fits, once, rounding⟩ :=
        roundWithAccuracy_normal (.positive * sign) (-51 + exponent) .exact lower upper (by omega)
      have doubled : (2.0 * x).toModel.unpack = .finite (.positive * sign) rounded
          (-51 + exponent + (52 : Nat) + carried) alsoPositive := by
        rw [unpack_mul, unpack_two, same]
        change UnpackedFloat.unpack Format.binary64 (UnpackedFloat.pack Format.binary64
          (roundWithAccuracy Format.binary64 _ (2 ^ 52 * mantissa) (-51 + exponent) .exact)) = _
        rw [rounding]
        exact unpack_pack_normal _ alsoPositive full fits (by omega) (by omega)
      exact .normal alsoPositive full fits (by omega) doubled

/-! ## The larger and the smaller of two numbers -/

theorem zero_le_max (x : Float) : 0.0 ≤ Scalar.max 0.0 x := by
  unfold Scalar.max
  split
  · exact le_of_lt ‹_›
  · rw [if_pos (by decide)]
    decide

theorem min_le_one (x : Float) : Scalar.min 1.0 x ≤ 1.0 := by
  unfold Scalar.min
  split
  · exact le_of_lt ‹_›
  · rw [if_pos (by decide)]
    decide

theorem sized_max_zero {m : Int} {x : Float} (sized : Sized m x) :
    Sized m (Scalar.max x 0.0) ∧ ¬ Scalar.max x 0.0 < 0.0 := by
  unfold Scalar.max
  split
  case isTrue => exact ⟨sized_zero m, by decide⟩
  case isFalse nonneg =>
    split
    · exact ⟨sized, nonneg⟩
    · exact ⟨sized_zero m, by decide⟩

end FigureMarkup.Random

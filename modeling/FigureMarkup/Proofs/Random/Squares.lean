import FigureMarkup.Proofs.Random.Operations

/-!
# Squares of differences

Exchanging the operands of a difference of doubles changes its sign, if it changes anything. So the
square of the difference stays the same, also where the difference overflows or is no number.
-/

namespace FigureMarkup.Random

open Float.Model UnpackedFloat

/-- A number and the same number with the other sign, or two zeros. -/
inductive Mirrored : UnpackedFloat → UnpackedFloat → Prop
  | neg (x : UnpackedFloat) : Mirrored x x.neg
  | zeros (sign other : Sign) : Mirrored (.zero sign) (.zero other)

theorem mirrored_normalize (mantissa exponent : Int) :
    Mirrored (UnpackedFloat.normalize Format.binary64 mantissa exponent .positive)
      (UnpackedFloat.normalize Format.binary64 (-mantissa) exponent .positive) := by
  by_cases zero : mantissa = 0
  · rw [zero]
    exact .zeros .positive .positive
  · rw [normalize_neg exponent .positive zero]
    exact .neg _

/-- Exchanging the operands of a difference mirrors it. -/
theorem mirrored_sub (x y : UnpackedFloat) :
    Mirrored (UnpackedFloat.sub Format.binary64 x y) (UnpackedFloat.sub Format.binary64 y x) := by
  have twice {x y : UnpackedFloat} (same : y.neg = x) : Mirrored x y := by
    rw [← same]
    have := Mirrored.neg y.neg
    rwa [unpacked_neg_neg] at this
  cases x with
  | notANumber => cases y <;> exact .neg .notANumber
  | infinity sign =>
      cases y with
      | notANumber => exact .neg .notANumber
      | infinity other => cases sign <;> cases other <;> exact .neg _
      | zero => exact .neg (.infinity sign)
      | finite => exact .neg (.infinity sign)
  | zero sign =>
      cases y with
      | notANumber => exact .neg .notANumber
      | infinity other => exact twice rfl
      | zero other => cases sign <;> cases other <;> exact .zeros _ _
      | finite => exact twice rfl
  | finite sign m e positive =>
      cases y with
      | notANumber => exact .neg .notANumber
      | infinity other => exact twice rfl
      | zero other => exact .neg _
      | finite other n f =>
          unfold UnpackedFloat.sub
          simp only [decreaseExponent]
          rw [min_comm f e, ← neg_sub (sign.apply _)]
          exact mirrored_normalize ..

theorem unpack_packComponents_neg (sign : Sign) (exponent : BitVec 11) (mantissa : BitVec 52) :
    UnpackedFloat.unpack Format.binary64
        (packComponents Format.binary64 (-sign) exponent mantissa) =
      (UnpackedFloat.unpack Format.binary64
        (packComponents Format.binary64 sign exponent mantissa)).neg := by
  unfold UnpackedFloat.unpack
  simp only [unpackExponent_packComponents, unpackMantissa_packComponents,
    unpackSign_packComponents, ofBitVec_toBitVec]
  split_ifs <;> rfl

/-- Packing keeps the sign of a number apart from its size. -/
theorem unpack_pack_neg (x : UnpackedFloat) :
    UnpackedFloat.unpack Format.binary64 (UnpackedFloat.pack Format.binary64 x.neg) =
      (UnpackedFloat.unpack Format.binary64 (UnpackedFloat.pack Format.binary64 x)).neg := by
  cases x with
  | notANumber => rfl
  | infinity sign => rw [UnpackedFloat.neg, unpack_infinity, unpack_infinity]; rfl
  | zero sign => cases sign <;> rfl
  | finite sign m e positive =>
      unfold UnpackedFloat.pack UnpackedFloat.neg
      dsimp only
      split_ifs
      · exact (unpack_infinity (-sign)).trans
          (congrArg UnpackedFloat.neg (unpack_infinity sign)).symm
      · exact unpack_packComponents_neg ..
      · exact unpack_packComponents_neg ..

theorem Mirrored.unpack_pack {x y : UnpackedFloat} (mirrored : Mirrored x y) :
    Mirrored (UnpackedFloat.unpack Format.binary64 (UnpackedFloat.pack Format.binary64 x))
      (UnpackedFloat.unpack Format.binary64 (UnpackedFloat.pack Format.binary64 y)) := by
  cases mirrored with
  | neg =>
      rw [unpack_pack_neg]
      exact .neg _
  | zeros sign other => cases sign <;> cases other <;> exact .zeros _ _

/-- Mirrored numbers have the same square. -/
theorem Mirrored.square_eq {x y : UnpackedFloat} (mirrored : Mirrored x y) :
    UnpackedFloat.mul Format.binary64 x x = UnpackedFloat.mul Format.binary64 y y := by
  cases mirrored with
  | neg =>
      cases x with
      | notANumber => rfl
      | infinity sign => cases sign <;> rfl
      | zero sign => cases sign <;> rfl
      | finite sign => cases sign <;> rfl
  | zeros sign other => cases sign <;> cases other <;> rfl

/-- The square of a difference of doubles does not depend on the order of its operands. -/
theorem square_sub_swap (x y : Float) : (x - y) * (x - y) = (y - x) * (y - x) := by
  have mirrored := (mirrored_sub x.toModel.unpack y.toModel.unpack).unpack_pack
  exact congrArg (fun square => Float.ofModel (Float.Model.pack square)) mirrored.square_eq

end FigureMarkup.Random

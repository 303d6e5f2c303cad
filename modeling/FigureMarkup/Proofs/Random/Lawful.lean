import FigureMarkup.Proofs.Random.Doubles
import FigureMarkup.Scalar

/-!
# Lawful sources

What placement relies on of a source of random numbers: an index is one of those that were asked
for, and a number up to a size of `1e300` can be drawn. The keystream is lawful.
-/

namespace FigureMarkup.Random

/-- A source keeps the promises that placement relies on. -/
class Lawful (σ : Type) {α : outParam Type} [Scalar α] [Source σ α] : Prop where
  index_lt (count : Nat) (source : σ) (positive : 0 < count) :
    (Source.index (α := α) count source).1 < count
  between?_isSome (bound : α) (source : σ) (small : Scalar.abs bound ≤ 1e300) :
    (Source.between? (-Scalar.abs bound) (Scalar.abs bound) source).isSome = true

/-- A lawful source chooses from every list that is not empty. -/
theorem choose_eq_none_iff {σ α β : Type} [Scalar α] [Source σ α] [Lawful σ]
    {choices : List β} {source : σ} : (choose choices source).1 = none ↔ choices = [] := by
  unfold choose
  cases choices with
  | nil => simp
  | cons first rest =>
      have inside := Lawful.index_lt (σ := σ) (first :: rest).length source (by simp)
      simp only [List.isEmpty_cons, Bool.false_eq_true, if_false, List.getElem?_eq_none_iff]
      simp only [reduceCtorEq, iff_false]
      omega

namespace Keystream

theorem index_lt {count : Nat} (positive : 0 < count) (zone : UInt64) (draws : Nat)
    (stream : Keystream) : (stream.index (UInt32.ofNat count) zone draws).1 < count := by
  induction draws generalizing stream with
  | zero => exact positive
  | succ draws ih =>
      rw [Keystream.index]
      dsimp only
      split
      · generalize stream.next32.1 = word
        have wordLt : word.toNat < 2 ^ 32 := word.toNat_lt
        have reduced : (UInt32.ofNat count).toNat = count % 2 ^ 32 := by simp
        have product : (word.toUInt64 * (UInt32.ofNat count).toUInt64).toNat =
            word.toNat * (count % 2 ^ 32) := by
          rw [UInt64.toNat_mul, UInt32.toNat_toUInt64, UInt32.toNat_toUInt64, reduced]
          refine Nat.mod_eq_of_lt ?_
          calc
            word.toNat * (count % 2 ^ 32) ≤ word.toNat * 2 ^ 32 :=
              Nat.mul_le_mul_left _ (Nat.le_of_lt (Nat.mod_lt count (Nat.two_pow_pos 32)))
            _ < 2 ^ 32 * 2 ^ 32 := Nat.mul_lt_mul_of_pos_right wordLt (by decide)
            _ = 2 ^ 64 := rfl
        have high : ((word.toUInt64 * (UInt32.ofNat count).toUInt64) >>> 32).toNat =
            word.toNat * (count % 2 ^ 32) / 2 ^ 32 := by
          rw [UInt64.toNat_shiftRight, product, Nat.shiftRight_eq_div_pow]
          rfl
        rw [high]
        -- A count that is a multiple of `2 ^ 32` always gives the first index.
        by_cases wraps : count % 2 ^ 32 = 0
        · rw [wraps, Nat.mul_zero, Nat.zero_div]
          exact positive
        · calc
            word.toNat * (count % 2 ^ 32) / 2 ^ 32 < count % 2 ^ 32 := by
              refine Nat.div_lt_of_lt_mul ?_
              exact Nat.mul_lt_mul_of_pos_right wordLt (Nat.pos_of_ne_zero wraps)
            _ ≤ count := Nat.mod_le ..
      · exact ih _

end Keystream

instance : Lawful Keystream where
  index_lt count source positive := Keystream.index_lt positive _ _ source
  between?_isSome bound source small := by
    change ((Keystream.between? (-bound.abs) bound.abs source).isSome = true)
    have ordered : -bound.abs ≤ bound.abs :=
      neg_le_of_bounded (by decide) (by decide) (bounded_abs small)
    have finite := isFinite_scale small
    simp [Keystream.between?, ordered, finite]

end FigureMarkup.Random

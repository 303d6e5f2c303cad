import FigureMarkup.Proofs.Plane.Exact
import FigureMarkup.Proofs.Random.Lawful

/-!
# Random real numbers

Placement asks a source for numbers in ranges. In exact arithmetic every number lies in its range,
whatever the source draws. The keystream gives such a source when its words are taken as fractions
and scaled to the ranges without rounding.
-/

namespace FigureMarkup.Random

/-- A source of real numbers draws each number from the range that it is asked for. -/
class Ranged (σ : Type) [Source σ ℝ] : Prop where
  below_mem {low high : ℝ} (proper : low < high) (source : σ) :
    (Source.below low high source).1 ∈ Set.Ico low high
  between?_mem {low high x : ℝ} {source later : σ}
    (drawn : Source.between? low high source = some (x, later)) : x ∈ Set.Icc low high
  fraction_mem (source : σ) : (Source.fraction source).1 ∈ Set.Ico (0 : ℝ) 1

theorem mem_of_choose {σ α β : Type} [Source σ α] {choices : List β} {source later : σ} {choice : β}
    (chosen : choose choices source = (some choice, later)) : choice ∈ choices := by
  unfold choose at chosen
  split at chosen
  · cases chosen
  · exact List.mem_of_getElem? (congrArg Prod.fst chosen)

/-! ## The keystream -/

/-- A keystream whose words are taken for exact fractions. -/
structure ExactKeystream where
  stream : Keystream

namespace ExactKeystream

/-- The first bits of two words as a fraction of all numbers with so many bits. -/
noncomputable def part (bits : Nat) (source : ExactKeystream) : ℝ × ExactKeystream :=
  let (word, stream) := source.stream.next64
  ((word.toNat / 2 ^ (64 - bits) : Nat) / (2 ^ bits : Nat), ⟨stream⟩)

theorem part_mem {bits : Nat} (few : bits ≤ 64) (source : ExactKeystream) :
    0 ≤ (source.part bits).1 ∧ (source.part bits).1 ≤ 1 - 1 / (2 ^ bits : Nat) := by
  have positive : (0 : ℝ) < (2 ^ bits : Nat) := by positivity
  refine ⟨by unfold part; positivity, ?_⟩
  have limited : source.stream.next64.1.toNat / 2 ^ (64 - bits) < 2 ^ bits := by
    refine Nat.div_lt_of_lt_mul ?_
    rw [← Nat.pow_add, Nat.sub_add_cancel few]
    exact source.stream.next64.1.toNat_lt
  change ((source.stream.next64.1.toNat / 2 ^ (64 - bits) : Nat) : ℝ) / (2 ^ bits : Nat) ≤ _
  rw [div_le_iff₀ positive, sub_mul, one_mul, div_mul_cancel₀ 1 positive.ne', le_sub_iff_add_le]
  exact_mod_cast limited

theorem part_lt_one {bits : Nat} (few : bits ≤ 64) (source : ExactKeystream) :
    (source.part bits).1 < 1 := by
  have positive : (0 : ℝ) < 1 / (2 ^ bits : Nat) := by positivity
  linarith [(source.part_mem few).2]

/-- Draw a number from a range of which both ends count: the greatest fraction gives the upper
end. -/
noncomputable def between? (low high : ℝ) (source : ExactKeystream) : Option (ℝ × ExactKeystream) :=
  if low ≤ high then
    let (part, source) := source.part 52
    some (part * ((high - low) / (1 - 1 / (2 ^ 52 : Nat))) + low, source)
  else
    none

theorem between?_mem {low high x : ℝ} {source later : ExactKeystream}
    (drawn : between? low high source = some (x, later)) : x ∈ Set.Icc low high := by
  obtain ⟨positive, limited⟩ := source.part_mem (show 52 ≤ 64 by decide)
  unfold between? at drawn
  split at drawn
  case isTrue ordered =>
    have same : (source.part 52).1 * ((high - low) / (1 - 1 / (2 ^ 52 : Nat))) + low = x :=
      congrArg Prod.fst (Option.some.inj drawn)
    have top : (0 : ℝ) < 1 - 1 / (2 ^ 52 : Nat) := by norm_num
    have scaled : (source.part 52).1 * ((high - low) / (1 - 1 / (2 ^ 52 : Nat))) ≤ high - low := by
      rw [mul_div_assoc', div_le_iff₀ top, mul_comm]
      exact mul_le_mul_of_nonneg_left limited (sub_nonneg.2 ordered)
    have raised : 0 ≤ (source.part 52).1 * ((high - low) / (1 - 1 / (2 ^ 52 : Nat))) :=
      mul_nonneg positive (div_nonneg (sub_nonneg.2 ordered) top.le)
    rw [← same]
    exact ⟨by linarith, by linarith⟩
  case isFalse => cases drawn

end ExactKeystream

noncomputable instance : Source ExactKeystream ℝ where
  below low high source :=
    let (part, source) := source.part 52
    (part * (high - low) + low, source)
  between? := ExactKeystream.between?
  fraction := ExactKeystream.part 53
  index count source :=
    let (index, stream) := source.stream.index (UInt32.ofNat count) (Keystream.indexZone count)
      Keystream.mostDraws
    (index, ⟨stream⟩)

instance : Lawful ExactKeystream where
  index_lt count source positive := Keystream.index_lt positive _ _ source.stream
  between?_isSome bound source _ := by
    have ordered : -Scalar.abs bound ≤ Scalar.abs bound := by
      rw [Scalar.real_abs]
      linarith [abs_nonneg bound]
    change (ExactKeystream.between? (-Scalar.abs bound) (Scalar.abs bound) source).isSome = true
    rw [ExactKeystream.between?, if_pos ordered]
    rfl

instance : Ranged ExactKeystream where
  below_mem {low high} proper source := by
    change (source.part 52).1 * (high - low) + low ∈ Set.Ico low high
    have positive := (source.part_mem (show 52 ≤ 64 by decide)).1
    have fraction := source.part_lt_one (show 52 ≤ 64 by decide)
    constructor <;> nlinarith
  between?_mem := ExactKeystream.between?_mem
  fraction_mem source :=
    ⟨(source.part_mem (show 53 ≤ 64 by decide)).1, source.part_lt_one (show 53 ≤ 64 by decide)⟩

end FigureMarkup.Random

import FigureMarkup.Placement.Position
import FigureMarkup.Proofs.Random.Ranges

/-!
# Strict draws

Placement draws numbers from ranges and elements from lists, and clamps numbers between two ends. A
range that is empty, a list that is cut short, or ends that are out of order have no result. With
doubles and a bound of ordinary size this does not happen, whatever the padding and the tolerance
are.
-/

namespace FigureMarkup.Strict

open Plane Placement FigureMarkup.Random

/-! ## Draws -/

section Draws

variable {σ α : Type} [Scalar α]

/-- Clamp a number between two ends in order. -/
def clamp (x low high : α) : Option α := if low ≤ high then some (Scalar.clamp x low high) else none

variable [Source σ α]

/-- Draw a number below the upper end of a range that is not empty. -/
def below (low high : α) (source : σ) : Option (α × σ) :=
  if low < high then some (Source.below low high source) else none

def choose {β : Type} (choices : List β) (source : σ) : Option (Option β × σ) :=
  if choices.isEmpty then
    some (none, source)
  else do
    let (i, source) := Source.index (α := α) choices.length source
    let choice ← choices[i]?
    return (some choice, source)

def randomOnSegment (a b : Vec α) (padding : α) (source : σ) : Option (Vec α × σ) := do
  let padding ← clamp padding 0.0 0.49
  let (t, source) ←
    if 0.0 < padding then below padding (1.0 - padding) source else some (Source.fraction source)
  return (a.lerp b t, source)

def randomOnCircle (center : Vec α) (radius : α) (source : σ) : Option (Vec α × σ) := do
  let (theta, source) ← below 0.0 Scalar.tau source
  return (center + Vec.mk (Scalar.cos theta) (Scalar.sin theta) * radius, source)

def randomPoint (shape : Shape α) (padding : α) (source : σ) : Option (Vec α × σ) :=
  match shape with
  | .segment a b => randomOnSegment a b padding source
  | .circle center radius => randomOnCircle center radius source
  | .polygon vertices => do
      match ← choose shape.edges source with
      | (some (a, b), source) => randomOnSegment a b padding source
      | (none, source) => return (vertices.headD .zero, source)

/-- The common points of shapes. Whether a point lies on a segment is told by a parameter that is
clamped between zero and one. -/
def intersectAll (shapes : List (Shape α)) (tolerance : α) : Option (List (Vec α)) :=
  (clamp (0.0 : α) 0.0 1.0).map fun _ => Plane.intersectAll shapes tolerance

/-- All ranges that placement draws from are filled. -/
structure Filled (σ : Type) {α : Type} [Scalar α] [Source σ α] (settings : Settings α) :
    Prop where
  unit : (0.0 : α) ≤ 1.0
  capped : (0.0 : α) ≤ 0.49
  padded : 0.0 < Scalar.clamp settings.padding 0.0 0.49 →
    Scalar.clamp settings.padding 0.0 0.49 < 1.0 - Scalar.clamp settings.padding 0.0 0.49
  turn : (0.0 : α) < Scalar.tau
  square : ∀ source : σ, (Source.between? (-Scalar.abs settings.bound) (Scalar.abs settings.bound)
    source).isSome = true
  index : ∀ (count : Nat) (source : σ), 0 < count →
    (Source.index (α := α) count source).1 < count

end Draws

/-- The ranges are filled for every padding and every tolerance. -/
theorem filled_of_bounded {settings : Settings Float} (bounded : settings.bound.abs ≤ 1e300) :
    Filled Keystream settings where
  unit := by decide +kernel
  capped := by decide +kernel
  padded := clamp_lt_one_sub settings.padding
  turn := zero_lt_tau
  square source := Lawful.between?_isSome settings.bound source bounded
  index count source positive := Lawful.index_lt count source positive

section

variable {σ α : Type} [Scalar α] [Source σ α] {settings : Settings α}

theorem choose_eq (filled : Filled σ settings) {β : Type} (choices : List β) (source : σ) :
    choose choices source = some (Random.choose choices source) := by
  unfold choose Random.choose
  cases choices with
  | nil => rfl
  | cons first rest =>
      have inside := filled.index (first :: rest).length source (by simp)
      rcases drawn : Source.index (α := α) (first :: rest).length source with ⟨i, later⟩
      rw [drawn] at inside
      simp only [List.isEmpty_cons, Bool.false_eq_true, if_false,
        List.getElem?_eq_getElem inside]
      rfl

theorem randomOnSegment_eq (filled : Filled σ settings) (a b : Vec α) (source : σ) :
    randomOnSegment a b settings.padding source =
      some (Plane.randomOnSegment a b settings.padding source) := by
  unfold randomOnSegment Plane.randomOnSegment
  rw [clamp, if_pos filled.capped]
  dsimp only [Option.bind_eq_bind, Option.bind_some]
  split
  case isTrue positive =>
    rw [below, if_pos (filled.padded positive)]
    rfl
  case isFalse => rfl

theorem randomPoint_eq (filled : Filled σ settings) (shape : Shape α) (source : σ) :
    randomPoint shape settings.padding source =
      some (shape.randomPoint settings.padding source) := by
  cases shape with
  | segment a b => exact randomOnSegment_eq filled a b source
  | circle center radius =>
      simp [randomPoint, randomOnCircle, below, filled.turn, Shape.randomPoint,
        Plane.randomOnCircle]
  | polygon vertices =>
      rw [randomPoint, choose_eq filled, Shape.randomPoint]
      rcases Random.choose (Shape.polygon vertices).edges source with ⟨_ | ⟨a, b⟩, later⟩
      · rfl
      · exact randomOnSegment_eq filled a b later

theorem intersectAll_eq (filled : Filled σ settings) (shapes : List (Shape α)) (tolerance : α) :
    intersectAll shapes tolerance = some (Plane.intersectAll shapes tolerance) := by
  rw [intersectAll, clamp, if_pos filled.unit]
  rfl

end

end FigureMarkup.Strict

import FigureMarkup.Random.Keystream

/-!
# Random numbers

What the placement of points needs of randomness, as operations on the state of a source, and
how a keystream gives doubles. Draws that miss their range are repeated a limited number of
times, far beyond what any keystream is known to need.
-/

namespace FigureMarkup.Random

/-- A source of random numbers: each draw gives a number and the source to go on with. -/
class Source (σ : Type) (α : outParam Type) where
  /-- Draw a number from the first end up to, but not including, the second. -/
  below : α → α → σ → α × σ
  /-- Draw a number between two ends, both included, unless they are out of order or too far
  apart. -/
  between? : α → α → σ → Option (α × σ)
  /-- Draw a number from zero up to, but not including, one. -/
  fraction : σ → α × σ
  /-- Draw one of the first natural numbers, of which there is at least one. -/
  index : Nat → σ → Nat × σ

/-- Draw an element of a list, unless it is empty. An empty list draws nothing. -/
def choose {σ α β : Type} [Source σ α] (choices : List β) (source : σ) : Option β × σ :=
  if choices.isEmpty then
    (none, source)
  else
    let (i, source) := Source.index (α := α) choices.length source
    (choices[i]?, source)

namespace Keystream

def mostDraws : Nat := 1024

/-- The distance between the doubles that `coarse` draws. -/
def coarseStep : Float := 2.220446049250313e-16

/-- The distance between the doubles that `fine` draws. -/
def fineStep : Float := 1.1102230246251565e-16

/-- Draw a double from zero up to one, in multiples of `coarseStep`. -/
def coarse (stream : Keystream) : Float × Keystream :=
  let (word, stream) := stream.next64
  ((word >>> 12).toFloat * coarseStep, stream)

/-- Draw a double from zero up to one, in multiples of `fineStep`. -/
def fine (stream : Keystream) : Float × Keystream :=
  let (word, stream) := stream.next64
  ((word >>> 11).toFloat * fineStep, stream)

/-- Draw a double below an end, repeating draws that rounding moves up to the end. -/
def below (low high : Float) : Nat → Keystream → Float × Keystream
  | 0, stream => (low, stream)
  | draws + 1, stream =>
      let (part, stream) := stream.coarse
      let x := part * (high - low) + low
      if high ≤ x then below low high draws stream else (x, stream)

/-- The largest number that `coarse` draws. -/
def coarseTop : Float := 1.0 - coarseStep

/-- Shrink a scale until no draw is scaled beyond the upper end. -/
def fitScale (low high : Float) : Nat → Float → Float
  | 0, scale => scale
  | steps + 1, scale =>
      if high < scale * coarseTop + low then
        fitScale low high steps (Float.ofBits (scale.toBits - 1))
      else
        scale

/-- Draw a double between two ends, both included. -/
def between? (low high : Float) (stream : Keystream) : Option (Float × Keystream) :=
  let scale := (high - low) / coarseTop
  if low ≤ high && scale.isFinite then
    let (part, stream) := stream.coarse
    some (part * fitScale low high mostDraws scale + low, stream)
  else
    none

/-- Draw an index below a count, repeating draws of words that would favour some indices. -/
def index (count : UInt32) (zone : UInt64) : Nat → Keystream → Nat × Keystream
  | 0, stream => (0, stream)
  | draws + 1, stream =>
      let (word, stream) := stream.next32
      let product := word.toUInt64 * count.toUInt64
      if product.toUInt32.toUInt64 ≤ zone then ((product >>> 32).toNat, stream)
      else index count zone draws stream

/-- The largest low half of a product that an index below a count may come from. -/
def indexZone (count : Nat) : UInt64 :=
  let shift := 31 - Nat.log2 count
  UInt64.ofNat ((count <<< shift) % UInt32.size - 1)

end Keystream

instance : Source Keystream Float where
  below low high stream := stream.below low high Keystream.mostDraws
  between? := Keystream.between?
  fraction := Keystream.fine
  index count stream :=
    stream.index (UInt32.ofNat count) (Keystream.indexZone count) Keystream.mostDraws

end FigureMarkup.Random

/-!
# The keystream

Random numbers are drawn from the ChaCha stream cipher with twelve rounds: an endless sequence of
32-bit words that a key of eight words fixes. A keystream is a key with the number of words
already drawn, so equal keystreams go on equally.
-/

namespace FigureMarkup.Random

abbrev Block := Vector UInt32 16

def rotateLeft (x : UInt32) (places : UInt32) : UInt32 :=
  (x <<< places) ||| (x >>> (32 - places))

def quarterRound (block : Block) (a b c d : Fin 16) : Block :=
  let wa := block[a] + block[b]
  let wd := rotateLeft (block[d] ^^^ wa) 16
  let wc := block[c] + wd
  let wb := rotateLeft (block[b] ^^^ wc) 12
  let wa := wa + wb
  let wd := rotateLeft (wd ^^^ wa) 8
  let wc := wc + wd
  let wb := rotateLeft (wb ^^^ wc) 7
  (((block.set a wa).set b wb).set c wc).set d wd

def doubleRound (block : Block) : Block :=
  let block := quarterRound block 0 4 8 12
  let block := quarterRound block 1 5 9 13
  let block := quarterRound block 2 6 10 14
  let block := quarterRound block 3 7 11 15
  let block := quarterRound block 0 5 10 15
  let block := quarterRound block 1 6 11 12
  let block := quarterRound block 2 7 8 13
  quarterRound block 3 4 9 14

abbrev Key := Vector UInt32 8

/-- The block with a number before it is mixed: constants, key, number and an empty nonce. -/
def initialBlock (key : Key) (number : Nat) : Block :=
  #v[0x61707865, 0x3320646e, 0x79622d32, 0x6b206574,
    key[0], key[1], key[2], key[3], key[4], key[5], key[6], key[7],
    UInt32.ofNat number, UInt32.ofNat (number >>> 32), 0, 0]

/-- The block with a number: six double rounds, added to what they started from. -/
def keyBlock (key : Key) (number : Nat) : Block :=
  let initial := initialBlock key number
  let mixed := (List.range 6).foldl (fun block _ => doubleRound block) initial
  mixed.zipWith (· + ·) initial

structure Keystream where
  key : Key
  drawn : Nat

namespace Keystream

def stretch (state : UInt64) : UInt64 := state * 6364136223846793005 + 11634580027462260723

/-- The word of a key that a state of the stretching sequence gives. -/
def stretchedWord (state : UInt64) : UInt32 :=
  let x := (((state >>> 18) ^^^ state) >>> 27).toUInt32
  let places := (state >>> 59).toUInt32
  (x >>> places) ||| (x <<< ((32 - places) % 32))

def stretchedState (seed : UInt64) : Nat → UInt64
  | 0 => seed
  | steps + 1 => stretch (stretchedState seed steps)

def ofSeed (seed : UInt64) : Keystream :=
  ⟨Vector.ofFn fun i => stretchedWord (stretchedState seed (i.val + 1)), 0⟩

def next32 (stream : Keystream) : UInt32 × Keystream :=
  let block := keyBlock stream.key (stream.drawn / 16)
  (block.get ⟨stream.drawn % 16, Nat.mod_lt _ (by decide)⟩,
    { stream with drawn := stream.drawn + 1 })

/-- Draw two words as one, the low half first. -/
def next64 (stream : Keystream) : UInt64 × Keystream :=
  let (low, stream) := stream.next32
  let (high, stream) := stream.next32
  (low.toUInt64 ||| (high.toUInt64 <<< 32), stream)

end Keystream

end FigureMarkup.Random

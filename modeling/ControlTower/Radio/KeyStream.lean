/-!
# A stream of pseudo-random words

The words are those of the ChaCha stream cipher with eight rounds, under a key made from a seed and
with a nonce of zero. A block of sixteen words is made from the key and the number of the block, and
the blocks follow one another; the stream begins again after `2 ^ 64` blocks.
-/

namespace ControlTower.Radio

abbrev Block := Vector UInt32 16

def rotateLeft (x amount : UInt32) : UInt32 := (x <<< amount) ||| (x >>> (32 - amount))

def mix (a b d : Fin 16) (amount : UInt32) (block : Block) : Block :=
  let sum := block[a] + block[b]
  (block.set a sum).set d (rotateLeft (block[d] ^^^ sum) amount)

def quarterRound (a b c d : Fin 16) (block : Block) : Block :=
  mix c d b 7 (mix a b d 8 (mix c d b 12 (mix a b d 16 block)))

def doubleRound (block : Block) : Block :=
  let columns := quarterRound 3 7 11 15 (quarterRound 2 6 10 14
    (quarterRound 1 5 9 13 (quarterRound 0 4 8 12 block)))
  quarterRound 3 4 9 14 (quarterRound 2 7 8 13 (quarterRound 1 6 11 12
    (quarterRound 0 5 10 15 columns)))

def initialBlock (key : Vector UInt32 8) (number : UInt64) : Block :=
  (#v[0x61707865, 0x3320646e, 0x79622d32, 0x6b206574] : Vector UInt32 4) ++ key ++
    (#v[number.toUInt32, (number >>> 32).toUInt32, 0, 0] : Vector UInt32 4)

def keyBlock (key : Vector UInt32 8) (number : UInt64) : Block :=
  let initial := initialBlock key number
  let final := doubleRound (doubleRound (doubleRound (doubleRound initial)))
  Vector.ofFn fun i => final[i] + initial[i]

def nextSeed (seed : UInt64) : UInt64 := seed * 6364136223846793005 + 11634580027462260723

/-- The word that a seed gives: its upper bits mixed, and rotated to the right by the uppermost
five. -/
def seedWord (seed : UInt64) : UInt32 :=
  let mixed : UInt32 := (((seed >>> 18) ^^^ seed) >>> 27).toUInt32
  let amount : UInt32 := (seed >>> 59).toUInt32
  rotateLeft mixed (32 - amount)

/-- The key made from a seed: the words given by the eight seeds that follow it. -/
def keyOfSeed (seed : UInt64) : Vector UInt32 8 :=
  Vector.ofFn fun i => seedWord (Nat.repeat nextSeed (i.val + 1) seed)

structure KeyStream where
  key : Vector UInt32 8
  /-- How many words have been drawn. -/
  drawn : Nat
deriving Repr, DecidableEq

namespace KeyStream

def ofSeed (seed : UInt64) : KeyStream := ⟨keyOfSeed seed, 0⟩

def period : Nat := 1 <<< 68

def word (stream : KeyStream) (place : Nat) : UInt32 :=
  (keyBlock stream.key (UInt64.ofNat (place / 16)))[Fin.ofNat 16 place]

def next (stream : KeyStream) : UInt32 × KeyStream :=
  (stream.word stream.drawn, { stream with drawn := stream.drawn + 1 })

/-- The index below `size` that a word stands for. The words are cut into `size` parts of equal
length, and those too near the end of a part stand for no index, so that all indices are equally
likely. -/
def index? (size : Nat) (word : UInt32) : Option Nat :=
  let product := word.toNat * size
  let zone := size <<< (31 - size.log2) - 1
  if product % 0x100000000 ≤ zone then some (product / 0x100000000) else none

def chooseWithin (size : Nat) : Nat → KeyStream → Option Nat × KeyStream
  | 0, stream => (none, stream)
  | limit + 1, stream =>
    let (word, stream) := stream.next
    match index? size word with
    | some index => (some index, stream)
    | none => chooseWithin size limit stream

/-- Draws words until one of them stands for an index below `size`. When a whole period holds no
such word, there is none. -/
def choose (size : Nat) (stream : KeyStream) : Option Nat × KeyStream :=
  stream.chooseWithin size period

end KeyStream

end ControlTower.Radio

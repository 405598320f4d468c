import Chip8.Random.ChaCha

/-!
# Random bytes

Each seed has one fixed stream of bytes.  A generator is a seed and the number
of bytes already drawn, so two generators that agree in both yield the same
bytes for ever.
-/

namespace Chip8

/-- A seed and how many bytes of its stream were drawn. -/
structure Random where
  seed : UInt64
  position : Nat := 0
  deriving DecidableEq

namespace Random

/-- One step of the congruential generator that spreads a seed over a key. -/
def advanceSeed (state : UInt64) : UInt64 :=
  state * 6364136223846793005 + 11634580027462260723

/-- The state after a number of such steps. -/
def seedState (seed : UInt64) : Nat → UInt64
  | 0 => seed
  | count + 1 => advanceSeed (seedState seed count)

/-- The word that a state yields: its middle bits, rotated right by its top
five bits. -/
def wordOfState (state : UInt64) : UInt32 :=
  let middle := (((state >>> 18) ^^^ state) >>> 27).toUInt32
  let count := (state >>> 59).toUInt32
  (middle >>> count) ||| (middle <<< (32 - count))

/-- Word `position` of the key of a seed. -/
def keyWord (seed : UInt64) (position : Nat) : UInt32 :=
  wordOfState (seedState seed (position + 1))

def cipherKey (seed : UInt64) : ChaCha.CipherKey where
  upper := ⟨keyWord seed 0, keyWord seed 1, keyWord seed 2, keyWord seed 3⟩
  lower := ⟨keyWord seed 4, keyWord seed 5, keyWord seed 6, keyWord seed 7⟩

/-- Byte `position` of the stream of a seed: the low byte of that word of the
cipher's output, of which each block yields sixteen. -/
def stream (seed : UInt64) (position : Nat) : UInt8 :=
  ((ChaCha.block (cipherKey seed) (position / 16)).getD (position % 16) 0).toUInt8

/-- The next byte, and the generator moved past it. -/
def next (random : Random) : UInt8 × Random :=
  (stream random.seed random.position, { random with position := random.position + 1 })

def take (random : Random) (count : Nat) : List UInt8 × Random :=
  ((List.range count).map fun offset => stream random.seed (random.position + offset),
    { random with position := random.position + count })

end Random

end Chip8

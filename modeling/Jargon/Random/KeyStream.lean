import Jargon.Random.Draw

/-!
# A seeded stream of words

The stream is the output of the block function ChaCha with twelve rounds under a key that is
spread from a 64-bit seed.  The block counter takes 64 bits and starts at zero; a 64-bit word is
made of two consecutive output words, the low one first.
-/

namespace Jargon

namespace ChaCha

abbrev State := Vector UInt32 16

def rotateLeft (x : UInt32) (n : UInt32) : UInt32 := (x <<< n) ||| (x >>> (32 - n))

def quarterRound (a b c d : Fin 16) (s : State) : State :=
  let s := s.set a (s[a] + s[b])
  let s := s.set d (rotateLeft (s[d] ^^^ s[a]) 16)
  let s := s.set c (s[c] + s[d])
  let s := s.set b (rotateLeft (s[b] ^^^ s[c]) 12)
  let s := s.set a (s[a] + s[b])
  let s := s.set d (rotateLeft (s[d] ^^^ s[a]) 8)
  let s := s.set c (s[c] + s[d])
  s.set b (rotateLeft (s[b] ^^^ s[c]) 7)

/-- the four columns -/
def columnRound (s : State) : State :=
  quarterRound 3 7 11 15 <| quarterRound 2 6 10 14 <| quarterRound 1 5 9 13 <|
    quarterRound 0 4 8 12 s

/-- the four diagonals -/
def diagonalRound (s : State) : State :=
  quarterRound 3 4 9 14 <| quarterRound 2 7 8 13 <| quarterRound 1 6 11 12 <|
    quarterRound 0 5 10 15 s

def doubleRounds : Nat → State → State
  | 0, s => s
  | n + 1, s => doubleRounds n (diagonalRound (columnRound s))

/-- the constant words, the key, the block counter, and a nonce of zero -/
def start (key : Vector UInt32 8) (counter : UInt64) : State :=
  #v[0x61707865, 0x3320646e, 0x79622d32, 0x6b206574,
    key[0], key[1], key[2], key[3], key[4], key[5], key[6], key[7],
    counter.toUInt32, (counter >>> 32).toUInt32, 0, 0]

/-- one block of output words -/
def block (key : Vector UInt32 8) (counter : UInt64) : State :=
  let s := start key counter
  Vector.zipWith (· + ·) (doubleRounds 6 s) s

/-- a block as 64-bit words -/
def words (key : Vector UInt32 8) (counter : UInt64) : Vector UInt64 8 :=
  let b := block key counter
  Vector.ofFn fun i : Fin 8 =>
    (b[2 * i.val]).toUInt64 ||| ((b[2 * i.val + 1]).toUInt64 <<< 32)

end ChaCha

/-! ### Spreading the seed -/

namespace SeedSpread

/-- one step of the linear congruential generator -/
def advance (s : UInt64) : UInt64 := s * 6364136223846793005 + 11634580027462260723

/-- the word of a state: its high bits folded, then turned by the five highest -/
def output (s : UInt64) : UInt32 :=
  let folded := (((s >>> 18) ^^^ s) >>> 27).toUInt32
  let turn := (s >>> 59).toUInt32
  (folded >>> turn) ||| (folded <<< ((32 - turn) % 32))

/-- the state after `n` steps -/
def iterate (seed : UInt64) : Nat → UInt64
  | 0 => seed
  | n + 1 => advance (iterate seed n)

/-- the words of the first eight steps -/
def key (seed : UInt64) : Vector UInt32 8 :=
  Vector.ofFn fun i : Fin 8 => output (iterate seed (i.val + 1))

end SeedSpread

/-! ### The stream -/

/-- a key, and the block that is being read -/
structure KeyStream where
  key : Vector UInt32 8
  counter : UInt64
  held : Vector UInt64 8
  position : Fin 8
  deriving DecidableEq, Repr

namespace KeyStream

/-- at the first word of a block -/
def atBlock (key : Vector UInt32 8) (counter : UInt64) : KeyStream :=
  ⟨key, counter, ChaCha.words key counter, 0⟩

def ofSeed (seed : UInt64) : KeyStream := atBlock (SeedSpread.key seed) 0

def next (s : KeyStream) : UInt64 × KeyStream :=
  (s.held[s.position],
    if h : s.position.val + 1 < 8 then { s with position := ⟨s.position.val + 1, h⟩ }
    else atBlock s.key (s.counter + 1))

instance : WordSource KeyStream := ⟨next⟩

end KeyStream

end Jargon

/-!
# Random Bytes

Random bytes come from the ChaCha stream cipher with twelve rounds. A 64-bit
seed is stretched into the eight key words, and the words of the key stream
are handed out one after another, each giving its low byte. The state is the
key and the number of words drawn so far, so the word that comes next is a
function of these alone.

The cipher and the stretching of seeds belong to no console, and two things are
assumed of them wherever random bytes are spoken of. A byte takes one whole word of
32 bits, of which it is the lowest eight, so that no word gives two bytes and none
is left out (`Generator.draw`). And the words depend on the seed and on their place
in the stream, and on nothing else (`Generator.ofSeed`, `Generator.word`). Nothing
is proved that needs to know which words they are.

## Main definitions

* `Generator`: A key and a number of words drawn.
* `Generator.ofSeed`: The generator of a seed.
* `Generator.word`: The key stream of a key, by position.
* `Generator.draw`: The next random byte.
-/

namespace ChipEight

/-- A source of random bytes. -/
structure Generator where
  key : Vector UInt32 8
  /-- The words of the key stream used up so far. -/
  drawn : Nat := 0
  deriving DecidableEq, Repr

namespace Generator

/-- The bits of a word moved right around the word. -/
def rotateRight (w : UInt32) (k : UInt32) : UInt32 :=
  w >>> k ||| w <<< (32 - k)

/-- The bits of a word moved left around the word. -/
def rotateLeft (w : UInt32) (k : UInt32) : UInt32 :=
  w <<< k ||| w >>> (32 - k)

/-- One step of the generator that stretches seeds: the state advances by a
    linear congruence, and its bits are mixed into one word. -/
def stretch (state : UInt64) : UInt32 × UInt64 :=
  let state := state * 6364136223846793005 + 11634580027462260723
  let mixed := (((state >>> 18) ^^^ state) >>> 27).toUInt32
  (rotateRight mixed (state >>> 59).toUInt32, state)

/-- The words stretched from a seed, one after another. -/
def stretchAll : Nat → UInt64 → List UInt32
  | 0, _ => []
  | n + 1, state =>
    let (word, state) := stretch state
    word :: stretchAll n state

/-- The generator of a seed. -/
def ofSeed (seed : UInt64) : Generator :=
  let words := stretchAll 8 seed
  { key := .ofFn fun k => words.getD k.val 0 }

/-- The sixteen words that a block is computed in. -/
abbrev Block := Vector UInt32 16

/-- Mixes four words of a block. -/
def quarterRound (s : Block) (a b c d : Fin 16) : Block :=
  let s := s.set a (s[a] + s[b])
  let s := s.set d (rotateLeft (s[d] ^^^ s[a]) 16)
  let s := s.set c (s[c] + s[d])
  let s := s.set b (rotateLeft (s[b] ^^^ s[c]) 12)
  let s := s.set a (s[a] + s[b])
  let s := s.set d (rotateLeft (s[d] ^^^ s[a]) 8)
  let s := s.set c (s[c] + s[d])
  s.set b (rotateLeft (s[b] ^^^ s[c]) 7)

/-- A round down the columns and a round along the diagonals. -/
def doubleRound (s : Block) : Block :=
  let s := quarterRound s 0 4 8 12
  let s := quarterRound s 1 5 9 13
  let s := quarterRound s 2 6 10 14
  let s := quarterRound s 3 7 11 15
  let s := quarterRound s 0 5 10 15
  let s := quarterRound s 1 6 11 12
  let s := quarterRound s 2 7 8 13
  quarterRound s 3 4 9 14

/-- The block a key stream is computed from: four constants, the key, the
    number of the block in 64 bits, and a nonce of zero. -/
def initialBlock (key : Vector UInt32 8) (number : Nat) : Block :=
  let constants : Vector UInt32 4 := #v[0x61707865, 0x3320646E, 0x79622D32, 0x6B206574]
  let position : Vector UInt32 4 := #v[UInt32.ofNat number, UInt32.ofNat (number >>> 32), 0, 0]
  constants ++ key ++ position

/-- A block of the key stream: twelve rounds, added to the block they began
    with. -/
def block (key : Vector UInt32 8) (number : Nat) : Block :=
  let first := initialBlock key number
  let last := Nat.repeat doubleRound 6 first
  first.zipWith (· + ·) last

/-- A word of the key stream, by position. -/
def word (key : Vector UInt32 8) (position : Nat) : UInt32 :=
  (block key (position / 16))[Fin.ofNat 16 position]

/-- The next random byte: the low byte of the next word, which is used up by it. -/
def draw (g : Generator) : UInt8 × Generator :=
  ((word g.key g.drawn).toUInt8, { g with drawn := g.drawn + 1 })

end Generator

end ChipEight

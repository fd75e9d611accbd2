/-!
# Random draws

A reproducible stream of random words from a seed, by the stream cipher ChaCha with twelve rounds,
and uniform draws from ranges of words. What is drawn from is known by its draws alone, so that
another generator can take the place of the stream.
-/

namespace ClusterSim

/-! ### The cipher -/

namespace Cipher

/-- The sixteen words that a block is made from and of. -/
abbrev Words := Array UInt32

/-- A word rotated to the left. -/
def rotateLeft (x : UInt32) (n : UInt32) : UInt32 := (x <<< n) ||| (x >>> (32 - n))

/-- One step of a quarter round: adds the word at `b` to that at `a`, mixes the sum into the word at
`d` and rotates that. -/
def mix (words : Words) (a b d : Nat) (rotation : UInt32) : Words :=
  let sum := words.getD a 0 + words.getD b 0
  (words.setIfInBounds a sum).setIfInBounds d
    (rotateLeft (words.getD d 0 ^^^ sum) rotation)

/-- A quarter round on four words. -/
def quarterRound (words : Words) (a b c d : Nat) : Words :=
  mix (mix (mix (mix words a b d 16) c d b 12) a b d 8) c d b 7

/-- A round on the columns and a round on the diagonals. -/
def doubleRound (words : Words) : Words :=
  [(0, 4, 8, 12), (1, 5, 9, 13), (2, 6, 10, 14), (3, 7, 11, 15),
   (0, 5, 10, 15), (1, 6, 11, 12), (2, 7, 8, 13), (3, 4, 9, 14)].foldl
    (fun words (a, b, c, d) => quarterRound words a b c d) words

/-- The first words of every block. -/
def constants : List UInt32 := [0x61707865, 0x3320646e, 0x79622d32, 0x6b206574]

/-- The block of a number under a key of eight words. -/
def block (key : List UInt32) (number : UInt64) : List UInt32 :=
  let initial : Words :=
    (constants ++ key ++ [number.toUInt32, (number >>> 32).toUInt32, 0, 0]).toArray
  let mixed := (List.range 6).foldl (fun words _ => doubleRound words) initial
  (initial.zipWith (· + ·) mixed).toList

end Cipher

/-! ### The stream of words -/

/-- An endless stream of random words. -/
structure WordStream where
  key : List UInt32
  /-- The number of the next block. -/
  nextBlock : UInt64
  /-- The words of the last block that have not been taken. -/
  pending : List UInt32
deriving DecidableEq

namespace WordStream

/-- The next state of the generator that spreads a seed over the key. -/
def spreadNext (state : UInt64) : UInt64 := state * 6364136223846793005 + 11634580027462260723

/-- The word that a state of that generator gives. -/
def spreadWord (state : UInt64) : UInt32 :=
  let x := (((state >>> 18) ^^^ state) >>> 27).toUInt32
  let n := (state >>> 59).toUInt32
  (x >>> n) ||| (x <<< ((32 - n) % 32))

/-- So many words of the key. -/
def spread : Nat → UInt64 → List UInt32
  | 0, _ => []
  | count + 1, state =>
    let state := spreadNext state
    spreadWord state :: spread count state

/-- The stream of a seed. -/
def ofSeed (seed : UInt64) : WordStream :=
  { key := spread 8 seed, nextBlock := 0, pending := [] }

/-- The next word. -/
def next32 (stream : WordStream) : UInt32 × WordStream :=
  match stream.pending with
  | word :: pending => (word, { stream with pending })
  | [] =>
    let words := Cipher.block stream.key stream.nextBlock
    (words.headD 0, { stream with nextBlock := stream.nextBlock + 1, pending := words.drop 1 })

/-- The next two words as one of twice the width, the first one low. -/
def next64 (stream : WordStream) : UInt64 × WordStream :=
  let (low, stream) := stream.next32
  let (high, stream) := stream.next32
  (high.toUInt64 <<< 32 ||| low.toUInt64, stream)

end WordStream

/-! ### Uniform draws -/

/-- A draw below `size` from words of `width` bits: the high half of a word times the size. Where
the low half leaves the outcome open, a second word decides whether it is the next number. -/
def drawBelow (width : Nat) (next : WordStream → Nat × WordStream) (size : Nat)
    (stream : WordStream) : Nat × WordStream :=
  let limit := Nat.pow 2 width
  let (first, stream) := next stream
  let high := first * size / limit
  let low := first * size % limit
  if limit - size < low then
    let (second, stream) := next stream
    (if limit ≤ low + second * size / limit then high + 1 else high, stream)
  else (high, stream)

/-- A uniform draw from the numbers of 64 bits between two bounds, both included. -/
def drawBetween (least greatest : UInt64) (stream : WordStream) : UInt64 × WordStream :=
  let size := greatest - least + 1
  if size = 0 then stream.next64
  else
    let (offset, stream) := drawBelow 64
      (fun stream => let (word, stream) := stream.next64; (word.toNat, stream)) size.toNat stream
    (least + .ofNat offset, stream)

/-- A uniform draw of a position in a sequence of the given length. -/
def drawIndex (length : Nat) (stream : WordStream) : Nat × WordStream :=
  drawBelow 32 (fun stream => let (word, stream) := stream.next32; (word.toNat, stream)) length
    stream

/-! ### Generators -/

/-- A type of generators of random numbers, by the two kinds of draws that are made from them. -/
class Generator (γ : Type) where
  /-- A draw from the numbers of 64 bits between two bounds, both included. -/
  between : UInt64 → UInt64 → γ → UInt64 × γ
  /-- A draw of a position in a sequence of the given length. -/
  index : Nat → γ → Nat × γ

instance : Generator WordStream where
  between := drawBetween
  index := drawIndex

end ClusterSim

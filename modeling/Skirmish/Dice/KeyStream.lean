/-!
# A stream of random words

The ChaCha stream with 12 rounds under a 256-bit key, read as 32-bit words: block after block,
counted from zero by a 64-bit counter, the nonce being zero. A `KeyStream` remembers what is left
of the block it is in.

A key is made of a 64-bit seed by a small generator, so that near seeds give unrelated keys
(`Key.ofSeed`).
-/

namespace Skirmish

/-! ## Keys -/

/-- The eight words of a 256-bit key. -/
abbrev Key := Vector UInt32 8

/-- The bits of `w` rotated right by `n ≤ 32` places. -/
def rotateRight (w : UInt32) (n : UInt32) : UInt32 :=
  (w >>> n) ||| (w <<< (32 - n))

/-- The bits of `w` rotated left by `n ≤ 32` places. -/
def rotateLeft (w : UInt32) (n : UInt32) : UInt32 :=
  (w <<< n) ||| (w >>> (32 - n))

/-- One step of the linear congruential generator of `seed_from_u64`. -/
def Seed.step (s : UInt64) : UInt64 :=
  s * 6364136223846793005 + 11634580027462260723

/-- The output of the generator in state `s`: `((s >>> 18) ^^^ s) >>> 27` rotated right by the five
top bits of `s`. -/
def Seed.word (s : UInt64) : UInt32 :=
  rotateRight (((s >>> 18) ^^^ s) >>> 27).toUInt32 (s >>> 59).toUInt32

/-- The outputs of the next `n` states after `s`. -/
def Seed.words (s : UInt64) : (n : Nat) → List UInt32
  | 0 => []
  | n + 1 => Seed.word (Seed.step s) :: Seed.words (Seed.step s) n

theorem Seed.length_words (s : UInt64) (n : Nat) : (Seed.words s n).length = n := by
  induction n generalizing s with
  | zero => rfl
  | succ n ih => simp [Seed.words, ih]

/-- `seed_from_u64`: the key whose words are `Seed.words seed 8`. -/
def Key.ofSeed (seed : UInt64) : Key :=
  ⟨(Seed.words seed 8).toArray, by simp [Seed.length_words]⟩

/-! ## Blocks -/

/-- The sixteen words of a ChaCha state. -/
abbrev Block := Vector UInt32 16

namespace Block

/-- The ChaCha quarter round on the words `a`, `b`, `c` and `d`. -/
def quarterRound (s : Block) (a b c d : Fin 16) : Block :=
  let s := s.set a (s[a] + s[b])
  let s := s.set d (rotateLeft (s[d] ^^^ s[a]) 16)
  let s := s.set c (s[c] + s[d])
  let s := s.set b (rotateLeft (s[b] ^^^ s[c]) 12)
  let s := s.set a (s[a] + s[b])
  let s := s.set d (rotateLeft (s[d] ^^^ s[a]) 8)
  let s := s.set c (s[c] + s[d])
  s.set b (rotateLeft (s[b] ^^^ s[c]) 7)

/-- `quarterRound` on the four columns and then on the four diagonals. -/
def doubleRound (s : Block) : Block :=
  let s := s.quarterRound 0 4 8 12
  let s := s.quarterRound 1 5 9 13
  let s := s.quarterRound 2 6 10 14
  let s := s.quarterRound 3 7 11 15
  let s := s.quarterRound 0 5 10 15
  let s := s.quarterRound 1 6 11 12
  let s := s.quarterRound 2 7 8 13
  s.quarterRound 3 4 9 14

/-- `n` times `doubleRound`. -/
def doubleRounds : (n : Nat) → Block → Block
  | 0, s => s
  | n + 1, s => doubleRounds n s.doubleRound

/-- The state before the rounds: four constant words, the key, the 64-bit counter with its low half
first, and a nonce of zero. -/
def initial (key : Key) (counter : UInt64) : Block :=
  #v[0x61707865, 0x3320646E, 0x79622D32, 0x6B206574,
     key[0], key[1], key[2], key[3], key[4], key[5], key[6], key[7],
     counter.toUInt32, (counter >>> 32).toUInt32, 0, 0]

/-- The sixteen words of the stream for one counter: six double rounds of `initial`, added to it
word by word. -/
def ofCounter (key : Key) (counter : UInt64) : Block :=
  let start := initial key counter
  (doubleRounds 6 start).zipWith (· + ·) start

end Block

/-! ## The stream -/

/-- A position in the word stream of `key`. -/
structure KeyStream where
  key : Key
  /-- The number of the next block. -/
  counter : UInt64
  /-- What is left of the block before it. -/
  left : List UInt32
deriving DecidableEq, Repr

/-- The first position of the stream of `Key.ofSeed seed`. -/
def KeyStream.ofSeed (seed : UInt64) : KeyStream :=
  ⟨Key.ofSeed seed, 0, []⟩

/-- `next_u32`: the next word of the stream and the position behind it. -/
def KeyStream.next (k : KeyStream) : UInt32 × KeyStream :=
  match k.left with
  | w :: rest => (w, { k with left := rest })
  | [] =>
    let block := Block.ofCounter k.key k.counter
    (block[0], ⟨k.key, k.counter + 1, block.toList.tail⟩)

end Skirmish

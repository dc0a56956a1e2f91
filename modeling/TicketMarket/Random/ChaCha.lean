/-! # The ChaCha block function and seeding from one number

ChaCha turns a 256-bit key and a 64-bit block counter into a block of sixteen 32-bit
words, the keystream for that counter. Its state is four constant words, the eight key
words, the counter as two words (low first) and two words of stream number, here zero.
A double round applies the quarter round to the four columns and then to the four
diagonals of the state read as a 4 × 4 matrix; after the rounds each word is added to
the word it started as. ChaCha12 takes six double rounds. The keystream is the blocks for
counters 0, 1, 2, …, each written as its words in little-endian byte order.

A key can also be made from one 64-bit number: a PCG32 generator started at that number
gives the eight key words, each output taken after advancing the generator once. -/
set_option autoImplicit false
namespace TicketMarket
namespace ChaCha

/-- The four constant words, the text "expand 32-byte k". -/
def constants : List UInt32 := [0x61707865, 0x3320646e, 0x79622d32, 0x6b206574]

/-- Rotate a word left by `n` bits, for `0 < n < 32`. -/
def rotl (x : UInt32) (n : UInt32) : UInt32 := (x <<< n) ||| (x >>> (32 - n))

/-- The quarter round on the words at positions `a`, `b`, `c` and `d` of the state. -/
def quarterRound (s : List UInt32) (a b c d : Nat) : List UInt32 :=
  let xa := s.getD a 0 + s.getD b 0
  let xd := rotl (s.getD d 0 ^^^ xa) 16
  let xc := s.getD c 0 + xd
  let xb := rotl (s.getD b 0 ^^^ xc) 12
  let xa := xa + xb
  let xd := rotl (xd ^^^ xa) 8
  let xc := xc + xd
  let xb := rotl (xb ^^^ xc) 7
  (((s.set a xa).set b xb).set c xc).set d xd

/-- One double round: the four columns, then the four diagonals. -/
def doubleRound (s : List UInt32) : List UInt32 :=
  let s := quarterRound s 0 4 8 12
  let s := quarterRound s 1 5 9 13
  let s := quarterRound s 2 6 10 14
  let s := quarterRound s 3 7 11 15
  let s := quarterRound s 0 5 10 15
  let s := quarterRound s 1 6 11 12
  let s := quarterRound s 2 7 8 13
  quarterRound s 3 4 9 14

/-- `n` double rounds. -/
def doubleRounds : Nat → List UInt32 → List UInt32
  | 0, s => s
  | n + 1, s => doubleRounds n (doubleRound s)

/-- The block for `counter` under the eight-word `key`, after `rounds` double rounds. -/
def block (rounds : Nat) (key : List UInt32) (counter : Nat) : List UInt32 :=
  let start := constants ++ key ++
    [counter.toUInt32, (counter / 4294967296).toUInt32, 0, 0]
  List.zipWith (· + ·) (doubleRounds rounds start) start

/-- The bytes of a word, least significant first. -/
def wordBytes (w : UInt32) : List Nat :=
  [w.toNat % 256, w.toNat / 256 % 256, w.toNat / 65536 % 256, w.toNat / 16777216]

/-- One step of the PCG32 generator's state. -/
def pcgAdvance (state : UInt64) : UInt64 := state * 6364136223846793005 + 11634580027462260723

/-- The PCG32 output of a state: a xorshift of its high bits, rotated right by its top
five bits. -/
def pcgOutput (state : UInt64) : UInt32 :=
  let shifted := (((state >>> 18) ^^^ state) >>> 27).toUInt32
  let rot := (state >>> 59).toUInt32
  (shifted >>> rot) ||| (shifted <<< (32 - rot))

/-- `n` PCG32 outputs from `state`, each after advancing the state. -/
def pcgWords : Nat → UInt64 → List UInt32
  | 0, _ => []
  | n + 1, state => pcgOutput (pcgAdvance state) :: pcgWords n (pcgAdvance state)

/-- The key a 64-bit number seeds: eight PCG32 outputs. -/
def seedKey (seed : UInt64) : List UInt32 := pcgWords 8 seed

end ChaCha
end TicketMarket

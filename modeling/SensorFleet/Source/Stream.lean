import SensorFleet.Number.Binary64
/-!
Streams of random words. A seed is stretched to a key by a small congruential generator; the key
and the number of a block of sixteen words determine that block, by twelve rounds of mixing.
-/
namespace SensorFleet.Stream

/-- Eight words derived from a seed, one from each new state of the generator. -/
def keyWords : Nat → UInt64 → List UInt32
  | 0, _ => []
  | n + 1, s =>
    let s := s * 6364136223846793005 + 11634580027462260723
    let x := (((s >>> 18) ^^^ s) >>> 27).toUInt32
    let r := (s >>> 59).toUInt32
    ((x >>> r) ||| (x <<< ((32 - r) % 32))) :: keyWords n s

def key (seed : UInt64) : Array UInt32 := (keyWords 8 seed).toArray

def rotateLeft (x r : UInt32) : UInt32 := (x <<< r) ||| (x >>> (32 - r))

/-- Mixes four words, given by their places in a block. -/
def quarter (s : Array UInt32) (a b c d : Nat) : Array UInt32 :=
  let x := s[a]! + s[b]!
  let w := rotateLeft (s[d]! ^^^ x) 16
  let z := s[c]! + w
  let y := rotateLeft (s[b]! ^^^ z) 12
  let x := x + y
  let w := rotateLeft (w ^^^ x) 8
  let z := z + w
  let y := rotateLeft (y ^^^ z) 7
  (((s.set! a x).set! b y).set! c z).set! d w

/-- One round down the columns and one along the diagonals. -/
def doubleRound (s : Array UInt32) : Array UInt32 :=
  let s := quarter s 0 4 8 12
  let s := quarter s 1 5 9 13
  let s := quarter s 2 6 10 14
  let s := quarter s 3 7 11 15
  let s := quarter s 0 5 10 15
  let s := quarter s 1 6 11 12
  let s := quarter s 2 7 8 13
  quarter s 3 4 9 14

def doubleRounds : Nat → Array UInt32 → Array UInt32
  | 0, s => s
  | n + 1, s => doubleRounds n (doubleRound s)

/-- The words of a block: its start, to which its mixture is added. -/
def block (key : Array UInt32) (number : Nat) : Array UInt32 :=
  let words : Array UInt32 := #[0x61707865, 0x3320646e, 0x79622d32, 0x6b206574]
  let start := words ++ key ++ #[number.toUInt32, (number >>> 32).toUInt32, 0, 0]
  Array.zipWith (· + ·) start (doubleRounds 6 start)

/-- The n-th number of the stream, uniform over the multiples of `2 ^ -52` below one: the upper
bits of a pair of words, of which the lower one comes first. -/
def sample (key : Array UInt32) (n : Nat) : Binary64 :=
  let words := block key (n / 8)
  let low := words[2 * (n % 8)]!.toNat
  let high := words[2 * (n % 8) + 1]!.toNat
  Binary64.ofRatio false ((high <<< 32 + low) >>> 12) Binary64.leadingBit

end SensorFleet.Stream

import Harvest.Url.Percent

/-!
The message digest MD5.

The message is padded to blocks of sixteen words of 32 bits, and four words of state are mixed with
the words of each block in sixty-four rounds.
-/

namespace Harvest.Digest

/-- How far each round turns a word; the four counts of a group of rounds come round again. -/
def turns (round : Nat) : UInt32 :=
  let counts : List UInt32 := match round / 16 with
    | 0 => [7, 12, 17, 22]
    | 1 => [5, 9, 14, 20]
    | 2 => [4, 11, 16, 23]
    | _ => [6, 10, 15, 21]
  counts.getD (round % 4) 0

/-- The number that each round adds: the integer part of the sine of the round, counted from one,
times two to the power of 32. -/
def addends : Array UInt32 := #[
  0xd76aa478, 0xe8c7b756, 0x242070db, 0xc1bdceee, 0xf57c0faf, 0x4787c62a, 0xa8304613, 0xfd469501,
  0x698098d8, 0x8b44f7af, 0xffff5bb1, 0x895cd7be, 0x6b901122, 0xfd987193, 0xa679438e, 0x49b40821,
  0xf61e2562, 0xc040b340, 0x265e5a51, 0xe9b6c7aa, 0xd62f105d, 0x02441453, 0xd8a1e681, 0xe7d3fbc8,
  0x21e1cde6, 0xc33707d6, 0xf4d50d87, 0x455a14ed, 0xa9e3e905, 0xfcefa3f8, 0x676f02d9, 0x8d2a4c8a,
  0xfffa3942, 0x8771f681, 0x6d9d6122, 0xfde5380c, 0xa4beea44, 0x4bdecfa9, 0xf6bb4b60, 0xbebfbc70,
  0x289b7ec6, 0xeaa127fa, 0xd4ef3085, 0x04881d05, 0xd9d4d039, 0xe6db99e5, 0x1fa27cf8, 0xc4ac5665,
  0xf4292244, 0x432aff97, 0xab9423a7, 0xfc93a039, 0x655b59c3, 0x8f0ccc92, 0xffeff47d, 0x85845dd1,
  0x6fa87e4f, 0xfe2ce6e0, 0xa3014314, 0x4e0811a1, 0xf7537e82, 0xbd3af235, 0x2ad7d2bb, 0xeb86d391]

structure State where
  a : UInt32
  b : UInt32
  c : UInt32
  d : UInt32

def State.initial : State := ⟨0x67452301, 0xefcdab89, 0x98badcfe, 0x10325476⟩

def rotateLeft (x n : UInt32) : UInt32 := (x <<< n) ||| (x >>> (32 - n))

/-- One round: three words are combined as the group of rounds says, and a word of the block is
added. -/
def State.step (block : Array UInt32) (s : State) (round : Nat) : State :=
  let (mixed, index) : UInt32 × Nat := match round / 16 with
    | 0 => ((s.b &&& s.c) ||| (~~~s.b &&& s.d), round)
    | 1 => ((s.d &&& s.b) ||| (~~~s.d &&& s.c), (5 * round + 1) % 16)
    | 2 => (s.b ^^^ s.c ^^^ s.d, (3 * round + 5) % 16)
    | _ => (s.c ^^^ (s.b ||| ~~~s.d), 7 * round % 16)
  let sum := s.a + mixed + addends.getD round 0 + block.getD index 0
  ⟨s.d, s.b + rotateLeft sum (turns round), s.b, s.c⟩

/-- Mixes a block into the state. -/
def State.absorb (s : State) (block : Array UInt32) : State :=
  let t := (List.range 64).foldl (State.step block) s
  ⟨s.a + t.a, s.b + t.b, s.c + t.c, s.d + t.d⟩

/-- A number as so many bytes, the lowest first. -/
def littleBytes (count n : Nat) : List Nat :=
  (List.range count).map fun i => n / Nat.pow 256 i % 256

/-- The message with a one bit, zeros up to eight bytes before the end of a block, and its length in
bits. -/
def padded (message : List Nat) : List Nat :=
  let zeros := (119 - message.length % 64) % 64
  message ++ 0x80 :: List.replicate zeros 0 ++ littleBytes 8 (message.length * 8)

/-- The words of a row of bytes, four to a word, the lowest first. -/
def wordsOf : List Nat → List UInt32
  | a :: b :: c :: d :: rest =>
    Nat.toUInt32 (a + b * 256 + c * 65536 + d * 16777216) :: wordsOf rest
  | _ => []

/-- The members in rows of sixteen. -/
def blocks (fuel : Nat) (ws : List UInt32) : List (Array UInt32) :=
  match fuel, ws with
  | 0, _ => []
  | _, [] => []
  | fuel + 1, ws => (ws.take 16).toArray :: blocks fuel (ws.drop 16)

def md5 (message : List Nat) : List Nat :=
  let ws := wordsOf (padded message)
  let s := (blocks ws.length ws).foldl State.absorb .initial
  [s.a, s.b, s.c, s.d].flatMap fun w => littleBytes 4 w.toNat

def md5Text (text : String) : String :=
  let bytes := text.toList.flatMap Url.utf8Bytes
  String.ofList ((md5 bytes).flatMap fun b =>
    [Url.hexChar false (b / 16), Url.hexChar false (b % 16)])

end Harvest.Digest

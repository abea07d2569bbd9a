/-!
# The MD5 digest

The digest of RFC 1321: the message is padded to blocks of sixteen 32-bit words, and each block runs
64 steps over a state of four words. `md5Hex` writes the sixteen bytes of the digest in hexadecimal.

* `length_md5Hex`: the digest has 32 digits.
-/

namespace StoryCatalog.Digest

/-- The four words of the running digest. -/
structure Md5State where
  a : UInt32
  b : UInt32
  c : UInt32
  d : UInt32

/-- The state before the first block. -/
def Md5State.initial : Md5State :=
  ⟨0x67452301, 0xefcdab89, 0x98badcfe, 0x10325476⟩

/-- What each of the 64 steps adds. -/
def sineTable : List UInt32 :=
  [0xd76aa478, 0xe8c7b756, 0x242070db, 0xc1bdceee, 0xf57c0faf, 0x4787c62a, 0xa8304613, 0xfd469501,
   0x698098d8, 0x8b44f7af, 0xffff5bb1, 0x895cd7be, 0x6b901122, 0xfd987193, 0xa679438e, 0x49b40821,
   0xf61e2562, 0xc040b340, 0x265e5a51, 0xe9b6c7aa, 0xd62f105d, 0x02441453, 0xd8a1e681, 0xe7d3fbc8,
   0x21e1cde6, 0xc33707d6, 0xf4d50d87, 0x455a14ed, 0xa9e3e905, 0xfcefa3f8, 0x676f02d9, 0x8d2a4c8a,
   0xfffa3942, 0x8771f681, 0x6d9d6122, 0xfde5380c, 0xa4beea44, 0x4bdecfa9, 0xf6bb4b60, 0xbebfbc70,
   0x289b7ec6, 0xeaa127fa, 0xd4ef3085, 0x04881d05, 0xd9d4d039, 0xe6db99e5, 0x1fa27cf8, 0xc4ac5665,
   0xf4292244, 0x432aff97, 0xab9423a7, 0xfc93a039, 0x655b59c3, 0x8f0ccc92, 0xffeff47d, 0x85845dd1,
   0x6fa87e4f, 0xfe2ce6e0, 0xa3014314, 0x4e0811a1, 0xf7537e82, 0xbd3af235, 0x2ad7d2bb, 0xeb86d391]

/-- By how many bits each step of a round rotates; the four amounts repeat. -/
def shiftAmounts : List (List UInt32) :=
  [[7, 12, 17, 22], [5, 9, 14, 20], [4, 11, 16, 23], [6, 10, 15, 21]]

/-- A word rotated to the left. -/
def rotateLeft (x n : UInt32) : UInt32 :=
  (x <<< n) ||| (x >>> (32 - n))

/-- The function that mixes three words in a round. -/
def mix (round : Nat) (b c d : UInt32) : UInt32 :=
  match round with
  | 0 => (b &&& c) ||| (~~~b &&& d)
  | 1 => (d &&& b) ||| (~~~d &&& c)
  | 2 => b ^^^ c ^^^ d
  | _ => c ^^^ (b ||| ~~~d)

/-- Which word of the block step `i` reads. -/
def wordIndex (i : Nat) : Nat :=
  match i / 16 with
  | 0 => i
  | 1 => (5 * i + 1) % 16
  | 2 => (3 * i + 5) % 16
  | _ => (7 * i) % 16

/-- Step `i` on a block, where `k` is the step's constant. -/
def md5Step (block : List UInt32) (s : Md5State) (step : UInt32 × Nat) : Md5State :=
  let (k, i) := step
  let shift := ((shiftAmounts.getD (i / 16) []).getD (i % 4) 0)
  let f := mix (i / 16) s.b s.c s.d + s.a + k + block.getD (wordIndex i) 0
  ⟨s.d, s.b + rotateLeft f shift, s.b, s.c⟩

/-- The state after a block. -/
def md5Block (s : Md5State) (block : List UInt32) : Md5State :=
  let t := sineTable.zipIdx.foldl (md5Step block) s
  ⟨s.a + t.a, s.b + t.b, s.c + t.c, s.d + t.d⟩

/-- The `n` lowest bytes of a number, least first. -/
def littleEndian (n value : Nat) : List UInt8 :=
  (List.range n).map fun i => UInt8.ofNat (value / Nat.pow 256 i)

/-- The message with a one bit, zeros up to eight bytes short of a block, and its length in bits. -/
def padded (bytes : List UInt8) : List UInt8 :=
  let zeros := (119 - bytes.length % 64) % 64
  bytes ++ [0x80] ++ List.replicate zeros 0 ++ littleEndian 8 (8 * bytes.length)

/-- The list in pieces of `n` elements; the last may be shorter. -/
def chunks {α : Type} (n : Nat) : Nat → List α → List (List α)
  | 0, _ => []
  | fuel + 1, xs => if xs.isEmpty then [] else xs.take n :: chunks n fuel (xs.drop n)

/-- The word of four bytes, least first. -/
def wordOfBytes (bytes : List UInt8) : UInt32 :=
  bytes.foldr (fun b acc => acc * 256 + b.toUInt32) 0

/-- The sixteen bytes of the digest of a message. -/
def md5 (bytes : List UInt8) : List UInt8 :=
  let message := padded bytes
  let words := (chunks 4 message.length message).map wordOfBytes
  let blocks := chunks 16 words.length words
  let s := blocks.foldl md5Block Md5State.initial
  [s.a, s.b, s.c, s.d].flatMap fun w => littleEndian 4 w.toNat

/-- A byte as two lower-case hexadecimal digits. -/
def hexByte (b : UInt8) : List Char :=
  [Nat.digitChar (b.toNat / 16), Nat.digitChar (b.toNat % 16)]

/-- The digest of a message in lower-case hexadecimal digits. -/
def md5Hex (bytes : List UInt8) : List Char :=
  (md5 bytes).flatMap hexByte

theorem length_md5Hex (bytes : List UInt8) : (md5Hex bytes).length = 32 := by
  simp [md5Hex, md5, hexByte, littleEndian, List.range_succ]

end StoryCatalog.Digest

/-!
# The MD5 digest

`Md5.digest` is the 128-bit digest of a sequence of octets. It serves here to derive identifiers
from names, which needs a fixed, well spread function and no secrecy.
-/

namespace HumidifierBridge.Md5

/-- The four words of a digest in progress. -/
structure State where
  a : UInt32
  b : UInt32
  c : UInt32
  d : UInt32

/-- The words before the first block. -/
def State.start : State := ⟨0x67452301, 0xefcdab89, 0x98badcfe, 0x10325476⟩

/-- The additive constants of the 64 steps: the first 32 bits of the fractional parts of the
absolute sines of 1 to 64. -/
def sines : List UInt32 :=
  [0xd76aa478, 0xe8c7b756, 0x242070db, 0xc1bdceee, 0xf57c0faf, 0x4787c62a,
    0xa8304613, 0xfd469501, 0x698098d8, 0x8b44f7af, 0xffff5bb1, 0x895cd7be,
    0x6b901122, 0xfd987193, 0xa679438e, 0x49b40821, 0xf61e2562, 0xc040b340,
    0x265e5a51, 0xe9b6c7aa, 0xd62f105d, 0x02441453, 0xd8a1e681, 0xe7d3fbc8,
    0x21e1cde6, 0xc33707d6, 0xf4d50d87, 0x455a14ed, 0xa9e3e905, 0xfcefa3f8,
    0x676f02d9, 0x8d2a4c8a, 0xfffa3942, 0x8771f681, 0x6d9d6122, 0xfde5380c,
    0xa4beea44, 0x4bdecfa9, 0xf6bb4b60, 0xbebfbc70, 0x289b7ec6, 0xeaa127fa,
    0xd4ef3085, 0x04881d05, 0xd9d4d039, 0xe6db99e5, 0x1fa27cf8, 0xc4ac5665,
    0xf4292244, 0x432aff97, 0xab9423a7, 0xfc93a039, 0x655b59c3, 0x8f0ccc92,
    0xffeff47d, 0x85845dd1, 0x6fa87e4f, 0xfe2ce6e0, 0xa3014314, 0x4e0811a1,
    0xf7537e82, 0xbd3af235, 0x2ad7d2bb, 0xeb86d391]

/-- The rotation of a step. -/
def rotation (step : Nat) : UInt32 :=
  match step / 16, step % 4 with
  | 0, 0 => 7 | 0, 1 => 12 | 0, 2 => 17 | 0, _ => 22
  | 1, 0 => 5 | 1, 1 => 9 | 1, 2 => 14 | 1, _ => 20
  | 2, 0 => 4 | 2, 1 => 11 | 2, 2 => 16 | 2, _ => 23
  | _, 0 => 6 | _, 1 => 10 | _, 2 => 15 | _, _ => 21

/-- Rotation to the left by less than 32 bits. -/
def rotateLeft (x n : UInt32) : UInt32 := (x <<< n) ||| (x >>> (32 - n))

/-- The mixing function of a step and the block word that it takes. -/
def mix (step : Nat) (s : State) : UInt32 × Nat :=
  match step / 16 with
  | 0 => ((s.b &&& s.c) ||| (~~~s.b &&& s.d), step)
  | 1 => ((s.d &&& s.b) ||| (~~~s.d &&& s.c), (5 * step + 1) % 16)
  | 2 => (s.b ^^^ s.c ^^^ s.d, (3 * step + 5) % 16)
  | _ => (s.c ^^^ (s.b ||| ~~~s.d), 7 * step % 16)

/-- One step on a block of sixteen words. -/
def step (block : List UInt32) (s : State) (stepSine : Nat × UInt32) : State :=
  let (f, word) := mix stepSine.1 s
  let sum := f + s.a + stepSine.2 + block.getD word 0
  ⟨s.d, s.b + rotateLeft sum (rotation stepSine.1), s.b, s.c⟩

/-- The digest in progress after a block of sixteen words. -/
def addBlock (s : State) (block : List UInt32) : State :=
  let t := ((List.range 64).zip sines).foldl (step block) s
  ⟨s.a + t.a, s.b + t.b, s.c + t.c, s.d + t.d⟩

/-- A number as octets, the lowest first. -/
def littleEndian : (count : Nat) → Nat → List UInt8
  | 0, _ => []
  | count + 1, n => UInt8.ofNat (n % 256) :: littleEndian count (n / 256)

/-- A message with its closing bit and its length in bits, which fill whole blocks. -/
def padded (message : List UInt8) : List UInt8 :=
  let n := message.length
  message ++ [0x80] ++ List.replicate ((119 - n % 64) % 64) 0 ++
    littleEndian 8 (8 * n % UInt64.size)

/-- Octets as words of four, the lowest octet first. -/
def words : List UInt8 → List UInt32
  | p :: q :: r :: s :: rest =>
    UInt32.ofNat (p.toNat + q.toNat * 256 + r.toNat * 65536 + s.toNat * 16777216) :: words rest
  | _ => []

/-- The digest in progress after the given number of blocks. -/
def addBlocks : (count : Nat) → State → List UInt32 → State
  | 0, s, _ => s
  | count + 1, s, ws => addBlocks count (addBlock s (ws.take 16)) (ws.drop 16)

/-- The sixteen octets of the digest of a message. -/
def digest (message : List UInt8) : List UInt8 :=
  let ws := words (padded message)
  let s := addBlocks (ws.length / 16) .start ws
  [s.a, s.b, s.c, s.d].flatMap fun w => littleEndian 4 w.toNat

theorem length_littleEndian (count n : Nat) : (littleEndian count n).length = count := by
  induction count generalizing n with
  | zero => rfl
  | succ count ih => simp [littleEndian, ih]

@[simp] theorem length_digest (message : List UInt8) : (digest message).length = 16 := by
  simp [digest, length_littleEndian]

end HumidifierBridge.Md5

import Cohort.Text.Letters

-- The 128-bit message digest of four little-endian words, and the 32-bit fingerprint cut from it.
namespace Cohort.Digest

structure Words where
  a : UInt32
  b : UInt32
  c : UInt32
  d : UInt32
deriving DecidableEq, Repr

def start : Words := ⟨0x67452301, 0xefcdab89, 0x98badcfe, 0x10325476⟩

def turns : List (List UInt32) := [[7, 12, 17, 22], [5, 9, 14, 20], [4, 11, 16, 23], [6, 10, 15, 21]]

-- The whole part of 2^32 · |sin k| for k = 1 … 64.
def sines : List UInt32 := [
  0xd76aa478, 0xe8c7b756, 0x242070db, 0xc1bdceee, 0xf57c0faf, 0x4787c62a, 0xa8304613, 0xfd469501,
  0x698098d8, 0x8b44f7af, 0xffff5bb1, 0x895cd7be, 0x6b901122, 0xfd987193, 0xa679438e, 0x49b40821,
  0xf61e2562, 0xc040b340, 0x265e5a51, 0xe9b6c7aa, 0xd62f105d, 0x02441453, 0xd8a1e681, 0xe7d3fbc8,
  0x21e1cde6, 0xc33707d6, 0xf4d50d87, 0x455a14ed, 0xa9e3e905, 0xfcefa3f8, 0x676f02d9, 0x8d2a4c8a,
  0xfffa3942, 0x8771f681, 0x6d9d6122, 0xfde5380c, 0xa4beea44, 0x4bdecfa9, 0xf6bb4b60, 0xbebfbc70,
  0x289b7ec6, 0xeaa127fa, 0xd4ef3085, 0x04881d05, 0xd9d4d039, 0xe6db99e5, 0x1fa27cf8, 0xc4ac5665,
  0xf4292244, 0x432aff97, 0xab9423a7, 0xfc93a039, 0x655b59c3, 0x8f0ccc92, 0xffeff47d, 0x85845dd1,
  0x6fa87e4f, 0xfe2ce6e0, 0xa3014314, 0x4e0811a1, 0xf7537e82, 0xbd3af235, 0x2ad7d2bb, 0xeb86d391]

def turnLeft (x n : UInt32) : UInt32 := (x <<< n) ||| (x >>> (32 - n))

def mix (i : Nat) (w : Words) : UInt32 :=
  match i / 16 with
  | 0 => (w.b &&& w.c) ||| (~~~w.b &&& w.d)
  | 1 => (w.d &&& w.b) ||| (~~~w.d &&& w.c)
  | 2 => w.b ^^^ w.c ^^^ w.d
  | _ => w.c ^^^ (w.b ||| ~~~w.d)

def taken (i : Nat) : Nat :=
  match i / 16 with
  | 0 => i
  | 1 => (5 * i + 1) % 16
  | 2 => (3 * i + 5) % 16
  | _ => (7 * i) % 16

def step (block : List UInt32) (w : Words) (entry : UInt32 × Nat) : Words :=
  let (sine, i) := entry
  let sum := w.a + mix i w + sine + (block[taken i]?).getD 0
  let turn := (((turns[i / 16]?).getD [])[i % 4]?).getD 0
  ⟨w.d, w.b + turnLeft sum turn, w.b, w.c⟩

def absorb (w : Words) (block : List UInt32) : Words :=
  let r := sines.zipIdx.foldl (step block) w
  ⟨w.a + r.a, w.b + r.b, w.c + r.c, w.d + r.d⟩

def byteAt (n : Nat) (i : Nat) : UInt8 := UInt8.ofNat (n >>> (8 * i))

def padding (size : Nat) : List UInt8 :=
  0x80 :: List.replicate ((119 - size % 64) % 64) 0 ++ (List.range 8).map (byteAt (8 * size))

def wordOf : List UInt8 → UInt32
  | [] => 0
  | b :: rest => b.toUInt32 ||| (wordOf rest <<< 8)

def chunks (width : Nat) : Nat → List α → List (List α)
  | 0, _ => []
  | count + 1, xs => xs.take width :: chunks width count (xs.drop width)

def blocks (message : List UInt8) : List (List UInt32) :=
  let padded := message ++ padding message.length
  (chunks 64 (padded.length / 64) padded).map fun block => (chunks 4 16 block).map wordOf

def digest (message : List UInt8) : Words := (blocks message).foldl absorb start

def fingerprint (text : String) : Nat :=
  let a := (digest text.toUTF8.data.toList).a.toNat
  ((byteAt a 0).toNat <<< 24) + ((byteAt a 1).toNat <<< 16) + ((byteAt a 2).toNat <<< 8) + (byteAt a 3).toNat

theorem fingerprint_lt (text : String) : fingerprint text < UInt32.size := by
  have h (n i : Nat) : (byteAt n i).toNat < 256 := UInt8.toNat_lt _
  simp only [fingerprint, Nat.shiftLeft_eq, UInt32.size]
  have h0 := h (digest text.toUTF8.data.toList).a.toNat 0
  have h1 := h (digest text.toUTF8.data.toList).a.toNat 1
  have h2 := h (digest text.toUTF8.data.toList).a.toNat 2
  have h3 := h (digest text.toUTF8.data.toList).a.toNat 3
  omega

end Cohort.Digest

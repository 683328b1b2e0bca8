namespace Chatline.Md5

structure Words where
  a : UInt32
  b : UInt32
  c : UInt32
  d : UInt32

def Words.init : Words :=
  ⟨0x67452301, 0xefcdab89, 0x98badcfe, 0x10325476⟩

def Words.add (v w : Words) : Words :=
  ⟨v.a + w.a, v.b + w.b, v.c + w.c, v.d + w.d⟩

def sines : Array UInt32 := #[
  0xd76aa478, 0xe8c7b756, 0x242070db, 0xc1bdceee, 0xf57c0faf, 0x4787c62a,
  0xa8304613, 0xfd469501, 0x698098d8, 0x8b44f7af, 0xffff5bb1, 0x895cd7be,
  0x6b901122, 0xfd987193, 0xa679438e, 0x49b40821, 0xf61e2562, 0xc040b340,
  0x265e5a51, 0xe9b6c7aa, 0xd62f105d, 0x02441453, 0xd8a1e681, 0xe7d3fbc8,
  0x21e1cde6, 0xc33707d6, 0xf4d50d87, 0x455a14ed, 0xa9e3e905, 0xfcefa3f8,
  0x676f02d9, 0x8d2a4c8a, 0xfffa3942, 0x8771f681, 0x6d9d6122, 0xfde5380c,
  0xa4beea44, 0x4bdecfa9, 0xf6bb4b60, 0xbebfbc70, 0x289b7ec6, 0xeaa127fa,
  0xd4ef3085, 0x04881d05, 0xd9d4d039, 0xe6db99e5, 0x1fa27cf8, 0xc4ac5665,
  0xf4292244, 0x432aff97, 0xab9423a7, 0xfc93a039, 0x655b59c3, 0x8f0ccc92,
  0xffeff47d, 0x85845dd1, 0x6fa87e4f, 0xfe2ce6e0, 0xa3014314, 0x4e0811a1,
  0xf7537e82, 0xbd3af235, 0x2ad7d2bb, 0xeb86d391]

def rotations : Array UInt32 :=
  #[7, 12, 17, 22, 5, 9, 14, 20, 4, 11, 16, 23, 6, 10, 15, 21]

def rotateLeft (x amount : UInt32) : UInt32 :=
  (x <<< amount) ||| (x >>> (32 - amount))

def mix (w : Words) (step : Nat) : UInt32 × Nat :=
  match step / 16 with
  | 0 => ((w.b &&& w.c) ||| (~~~w.b &&& w.d), step)
  | 1 => ((w.d &&& w.b) ||| (~~~w.d &&& w.c), (5 * step + 1) % 16)
  | 2 => (w.b ^^^ w.c ^^^ w.d, (3 * step + 5) % 16)
  | _ => (w.c ^^^ (w.b ||| ~~~w.d), (7 * step) % 16)

def step (message : Array UInt32) (w : Words) (i : Nat) : Words :=
  let (f, k) := mix w i
  let sum := w.a + f + sines.getD i 0 + message.getD k 0
  { a := w.d, b := w.b + rotateLeft sum (rotations.getD (4 * (i / 16) + i % 4) 0), c := w.b, d := w.c }

def groups {α : Type} (n : Nat) (pos : 0 < n) (xs : List α) : List (List α) :=
  if _h : xs = [] then [] else xs.take n :: groups n pos (xs.drop n)
termination_by xs.length
decreasing_by
  have := List.length_pos_iff.mpr _h
  simp only [List.length_drop]
  omega

def ofBytes (bytes : List UInt8) : Nat :=
  bytes.foldr (fun b n => b.toNat + 256 * n) 0

def toBytes : (count : Nat) → (n : Nat) → List UInt8
  | 0,         _ => []
  | count + 1, n => UInt8.ofNat n :: toBytes count (n / 256)

def pad (bytes : List UInt8) : List UInt8 :=
  bytes ++ 0x80 :: List.replicate ((119 - bytes.length % 64) % 64) 0 ++ toBytes 8 (8 * bytes.length)

def compress (w : Words) (block : List UInt8) : Words :=
  let message := ((groups 4 (by decide) block).map fun g => UInt32.ofNat (ofBytes g)).toArray
  w.add ((List.range 64).foldl (step message) w)

def digest (bytes : List UInt8) : List UInt8 :=
  let w := (groups 64 (by decide) (pad bytes)).foldl compress Words.init
  [w.a, w.b, w.c, w.d].flatMap fun x => toBytes 4 x.toNat

end Chatline.Md5

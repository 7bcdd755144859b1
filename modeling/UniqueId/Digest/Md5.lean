import UniqueId.Digest.Blocks

/-! The MD5 message digest of RFC 1321. -/
namespace UniqueId.Digest.Md5

/-- The four words that are carried from block to block. -/
structure State where
  a : UInt32
  b : UInt32
  c : UInt32
  d : UInt32
  deriving DecidableEq, Repr

def initial : State := ⟨0x67452301, 0xefcdab89, 0x98badcfe, 0x10325476⟩

/-- One constant for each step: the first 32 bits of the sines of 1, 2, … 64. -/
def sines : List UInt32 :=
  [0xd76aa478, 0xe8c7b756, 0x242070db, 0xc1bdceee, 0xf57c0faf, 0x4787c62a,
   0xa8304613, 0xfd469501, 0x698098d8, 0x8b44f7af, 0xffff5bb1, 0x895cd7be,
   0x6b901122, 0xfd987193, 0xa679438e, 0x49b40821, 0xf61e2562, 0xc040b340,
   0x265e5a51, 0xe9b6c7aa, 0xd62f105d, 0x02441453, 0xd8a1e681, 0xe7d3fbc8,
   0x21e1cde6, 0xc33707d6, 0xf4d50d87, 0x455a14ed, 0xa9e3e905, 0xfcefa3f8,
   0x676f02d9, 0x8d2a4c8a, 0xfffa3942, 0x8771f681, 0x6d9d6122, 0xfde5380c,
   0xa4beea44, 0x4bdecfa9, 0xf6bb4b60, 0xbebfbc70, 0x289b7ec6, 0xeaa127fa,
   0xd4ef3085, 0x04881d05, 0xd9d4d039, 0xe6db99e5, 0x1fa27cf8, 0xc4ac5665,
   0xf4292244, 0x432aff97, 0xab9423a7, 0xfc93a039, 0x655b59c3, 0x8f0ccc92,
   0xffeff47d, 0x85845dd1, 0x6fa87e4f, 0xfe2ce6e0, 0xa3014314, 0x4e0811a1,
   0xf7537e82, 0xbd3af235, 0x2ad7d2bb, 0xeb86d391]

/-- How far each step rotates; every round of sixteen steps goes through four amounts in turn. -/
def rotation (step : Nat) : UInt32 :=
  if step < 16 then [7, 12, 17, 22].getD (step % 4) 0
  else if step < 32 then [5, 9, 14, 20].getD (step % 4) 0
  else if step < 48 then [4, 11, 16, 23].getD (step % 4) 0
  else [6, 10, 15, 21].getD (step % 4) 0

/-- How each step mixes three of the words. -/
def mix (step : Nat) (s : State) : UInt32 :=
  if step < 16 then (s.b &&& s.c) ||| (~~~s.b &&& s.d)
  else if step < 32 then (s.d &&& s.b) ||| (~~~s.d &&& s.c)
  else if step < 48 then s.b ^^^ s.c ^^^ s.d
  else s.c ^^^ (s.b ||| ~~~s.d)

/-- Which word of the block each step takes. -/
def wordIndex (step : Nat) : Nat :=
  if step < 16 then step
  else if step < 32 then (5 * step + 1) % 16
  else if step < 48 then (3 * step + 5) % 16
  else 7 * step % 16

def round (block : List UInt32) (s : State) (step : Nat) (sine : UInt32) : State :=
  let sum := s.a + mix step s + sine + block.getD (wordIndex step) 0
  ⟨s.d, s.b + rotateLeft sum (rotation step), s.b, s.c⟩

/-- Absorbs one block. -/
def compress (s : State) (block : List UInt32) : State :=
  let t := sines.zipIdx.foldl (fun t k => round block t k.2 k.1) s
  ⟨s.a + t.a, s.b + t.b, s.c + t.c, s.d + t.d⟩

def State.octets (s : State) : List UInt8 :=
  [s.a, s.b, s.c, s.d].flatMap fun w => ByteOrder.littleEndian.octets 4 w.toNat

/-- The sixteen octets of the digest. -/
def digest (message : List UInt8) : Vector UInt8 16 :=
  ⟨((blocks .littleEndian message).foldl compress initial).octets.toArray, by
    simp [State.octets]⟩

end UniqueId.Digest.Md5

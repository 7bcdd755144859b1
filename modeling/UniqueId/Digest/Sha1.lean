import UniqueId.Digest.Blocks

/-! The SHA-1 message digest of RFC 3174. -/
namespace UniqueId.Digest.Sha1

/-- The five words that are carried from block to block. -/
structure State where
  a : UInt32
  b : UInt32
  c : UInt32
  d : UInt32
  e : UInt32
  deriving DecidableEq, Repr

def initial : State := ⟨0x67452301, 0xefcdab89, 0x98badcfe, 0x10325476, 0xc3d2e1f0⟩

/-- Extends a schedule, latest word first, by `count` words. -/
def extend : Nat → List UInt32 → List UInt32
  | 0, latest => latest
  | count + 1, latest =>
    let mixed := latest.getD 2 0 ^^^ latest.getD 7 0 ^^^ latest.getD 13 0 ^^^ latest.getD 15 0
    extend count (rotateLeft mixed 1 :: latest)

/-- The eighty words that the steps take, made from the sixteen of a block. -/
def schedule (block : List UInt32) : List UInt32 := (extend 64 block.reverse).reverse

/-- How each step mixes three of the words. -/
def mix (step : Nat) (s : State) : UInt32 :=
  if step < 20 then (s.b &&& s.c) ||| (~~~s.b &&& s.d)
  else if step < 40 then s.b ^^^ s.c ^^^ s.d
  else if step < 60 then (s.b &&& s.c) ||| (s.b &&& s.d) ||| (s.c &&& s.d)
  else s.b ^^^ s.c ^^^ s.d

def constant (step : Nat) : UInt32 :=
  if step < 20 then 0x5a827999
  else if step < 40 then 0x6ed9eba1
  else if step < 60 then 0x8f1bbcdc
  else 0xca62c1d6

def round (s : State) (step : Nat) (word : UInt32) : State :=
  ⟨rotateLeft s.a 5 + mix step s + s.e + word + constant step, s.a, rotateLeft s.b 30, s.c, s.d⟩

/-- Absorbs one block. -/
def compress (s : State) (block : List UInt32) : State :=
  let t := (schedule block).zipIdx.foldl (fun t w => round t w.2 w.1) s
  ⟨s.a + t.a, s.b + t.b, s.c + t.c, s.d + t.d, s.e + t.e⟩

def State.octets (s : State) : List UInt8 :=
  [s.a, s.b, s.c, s.d, s.e].flatMap fun w => ByteOrder.bigEndian.octets 4 w.toNat

/-- The twenty octets of the digest. -/
def digest (message : List UInt8) : Vector UInt8 20 :=
  ⟨((blocks .bigEndian message).foldl compress initial).octets.toArray, by
    simp [State.octets]⟩

end UniqueId.Digest.Sha1

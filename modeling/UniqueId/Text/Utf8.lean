/-! Reading octets as UTF-8 when they need not be UTF-8. The octets are taken one by one; wherever
they stop being the beginning of a character, one replacement character stands for the octets of
the beginning. -/
namespace UniqueId.Text.Utf8

/-- Stands for octets that are no character. -/
def replacement : Char := '\ufffd'

/-- A character whose first octets were read: the bits they carry, the number of octets still
owed, and the range in which the next one has to lie. -/
structure Pending where
  bits : Nat
  owed : Nat
  low : UInt8
  high : UInt8

/-- Takes the first octet of a character. -/
def start (b : UInt8) : List Char × Option Pending :=
  if b ≤ 0x7f then ([Char.ofNat b.toNat], none)
  else if 0xc2 ≤ b ∧ b ≤ 0xdf then ([], some ⟨b.toNat % 32, 1, 0x80, 0xbf⟩)
  else if b = 0xe0 then ([], some ⟨0, 2, 0xa0, 0xbf⟩)
  else if b = 0xed then ([], some ⟨13, 2, 0x80, 0x9f⟩)
  else if 0xe1 ≤ b ∧ b ≤ 0xef then ([], some ⟨b.toNat % 16, 2, 0x80, 0xbf⟩)
  else if b = 0xf0 then ([], some ⟨0, 3, 0x90, 0xbf⟩)
  else if 0xf1 ≤ b ∧ b ≤ 0xf3 then ([], some ⟨b.toNat % 8, 3, 0x80, 0xbf⟩)
  else if b = 0xf4 then ([], some ⟨4, 3, 0x80, 0x8f⟩)
  else ([replacement], none)

/-- Takes an octet that continues a character. -/
def Pending.extend (p : Pending) (b : UInt8) : List Char × Option Pending :=
  let bits := 64 * p.bits + b.toNat % 64
  if p.owed = 1 then ([Char.ofNat bits], none) else ([], some ⟨bits, p.owed - 1, 0x80, 0xbf⟩)

/-- Takes one octet: the characters that it completes, and the character that it leaves open. -/
def step : Option Pending → UInt8 → List Char × Option Pending
  | none, b => start b
  | some p, b =>
    if p.low ≤ b ∧ b ≤ p.high then p.extend b
    else (replacement :: (start b).1, (start b).2)

def decodeFrom : Option Pending → List UInt8 → List Char
  | none, [] => []
  | some _, [] => [replacement]
  | state, b :: bs => (step state b).1 ++ decodeFrom (step state b).2 bs

/-- The text that the octets are taken for. -/
def decodeLossy (bs : List UInt8) : String := String.ofList (decodeFrom none bs)

end UniqueId.Text.Utf8

import UniqueId.Text.Hex
import UniqueId.Text.Quoted
import UniqueId.Uuid.Basic
import UniqueId.Words.Octets

/-! The canonical text: 32 hexadecimal digits in groups of 8, 4, 4, 4 and 12, joined by hyphens.
The writer fills a buffer of 36 cells octet by octet; the reader takes digits of either case and
nothing else, and looks at octets, so that a text with other characters never passes. -/
namespace UniqueId.Uuid
open UniqueId.Text

/-- The number of characters in the canonical text. -/
def textLength : Nat := 36

/-- Octets that a hyphen follows. -/
def hyphenAfter (i : Nat) : Bool := i = 3 || i = 5 || i = 7 || i = 9

/-- Positions in the text that hold a hyphen. -/
def hyphenAt (i : Nat) : Bool := i = 8 || i = 13 || i = 18 || i = 23

/-- The next free cell of the buffer, and what was put where so far. -/
structure Pen where
  position : Nat
  placed : List (Nat × Char)

namespace Pen

def start : Pen := ⟨0, []⟩

def put (p : Pen) (c : Char) : Pen := ⟨p.position + 1, p.placed ++ [(p.position, c)]⟩

/-- The two digits of the octet with number `i`, and the hyphen that may follow them. -/
def putOctet (p : Pen) (i : Nat) (b : UInt8) : Pen :=
  let written := (Hex.octet b).foldl put p
  if hyphenAfter i then written.put '-' else written

/-- Fills the cells of the buffer in the order in which they were written. -/
def fill (p : Pen) (cells : List Char) : List Char :=
  p.placed.foldl (fun cells cell => cells.set cell.1 cell.2) cells

end Pen

/-- The pen after all sixteen octets. -/
def inscribe (o : Octets) : Pen :=
  o.toList.zipIdx.foldl (fun p b => p.putOctet b.2 b.1) .start

/-- The canonical text of an identifier. -/
def encode (u : Uuid) : String :=
  String.ofList ((inscribe u.words.toOctets).fill (List.replicate textLength '\x00'))

instance : ToString Uuid := ⟨encode⟩

/-- The canonical text of a 128-bit number, group by group. -/
def canonical (n : BitVec 128) : List Char :=
  Hex.digits 8 (n.toNat >>> 96) ++ '-' :: Hex.digits 4 (n.toNat >>> 80) ++
    '-' :: Hex.digits 4 (n.toNat >>> 64) ++ '-' :: Hex.digits 4 (n.toNat >>> 48) ++
    '-' :: Hex.digits 12 n.toNat

/-- A text that is not the canonical text of any identifier. -/
structure InvalidText where
  text : String
  deriving DecidableEq, Repr

def InvalidText.message (e : InvalidText) : String :=
  "invalid UUID string: " ++ Quoted.quote e.text

/-- Reads on from position `i`, where `n` is the number that the digits spelled so far. -/
def readFrom (i : Nat) (n : BitVec 128) : List UInt8 → Option (BitVec 128)
  | [] => some n
  | b :: bs =>
    if hyphenAt i then
      if b = 0x2d then readFrom (i + 1) n bs else none
    else
      match Hex.value? b with
      | some d => readFrom (i + 1) (n <<< 4 ||| d.setWidth 128) bs
      | none => none

/-- The number that the octets of a canonical text spell. -/
def readNumber? (bs : List UInt8) : Option (BitVec 128) :=
  if bs.length = textLength then readFrom 0 0 bs else none

/-- Reads a canonical text. -/
def parse (s : String) : Except InvalidText Uuid :=
  match readNumber? s.toUTF8.data.toList with
  | some n => .ok (ofWords (.ofNumber n))
  | none => .error ⟨s⟩

/-- Converts a text that is handed over. -/
def ofString (s : String) : Except InvalidText Uuid := parse s

/-- Converts a text that is a part of another. -/
def ofSlice (s : String.Slice) : Except InvalidText Uuid := parse s.copy

end UniqueId.Uuid

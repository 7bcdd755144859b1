import UniqueId.Text.Hex
import UniqueId.Word.ByteOrder

/-! Network addresses: Internet addresses of both versions in their textual forms, and hardware
addresses. An address is read strictly, from the whole text, and written in one canonical form. -/
namespace UniqueId
open UniqueId.Text

/-- The address of a network interface. -/
structure HardwareAddress where
  octets : Vector UInt8 6
  deriving DecidableEq, Repr

/-- Two uppercase digits for each octet, joined by colons. -/
def HardwareAddress.text (a : HardwareAddress) : String :=
  String.intercalate ":" <|
    a.octets.toList.map fun b => String.ofList ((Hex.octet b).map Char.toUpper)

inductive IpAddress where
  | v4 (octets : Vector UInt8 4)
  | v6 (groups : Vector UInt16 8)
  deriving DecidableEq, Repr

namespace IpAddress

/-- The pieces between the given character, of which there is always at least one. -/
def splitAt (sep : Char) : List Char → List (List Char)
  | [] => [[]]
  | c :: cs =>
    if c = sep then [] :: splitAt sep cs
    else
      match splitAt sep cs with
      | [] => [[c]]
      | piece :: pieces => (c :: piece) :: pieces

/-- The text before and after the first pair of colons. -/
def splitAtGap : List Char → Option (List Char × List Char)
  | ':' :: ':' :: rest => some ([], rest)
  | c :: rest => (splitAtGap rest).map fun halves => (c :: halves.1, halves.2)
  | [] => none

/-- A number up to 255 in at most three decimal digits, without leading zeros. -/
def decimalOctet? (cs : List Char) : Option UInt8 :=
  let n := cs.foldl (fun n c => 10 * n + (c.toNat - 0x30)) 0
  if cs.all Char.isDigit && 0 < cs.length && cs.length ≤ 3 && n ≤ 255 &&
      (cs.length = 1 || cs.head? ≠ some '0')
  then some (UInt8.ofNat n) else none

/-- Four decimal numbers, joined by dots. -/
def dotted? (cs : List Char) : Option (Vector UInt8 4) :=
  match (splitAt '.' cs).mapM decimalOctet? with
  | some [a, b, c, d] => some #v[a, b, c, d]
  | _ => none

/-- One to four hexadecimal digits. -/
def group? (cs : List Char) : Option UInt16 :=
  if 0 < cs.length && cs.length ≤ 4 then
    (cs.mapM fun c => if c.toNat < 128 then Hex.value? c.toNat.toUInt8 else none).map fun ds =>
      UInt16.ofNat (ds.foldl (fun n d => 16 * n + d.toNat) 0)
  else none

/-- The two groups that four octets fill. -/
def groupsOfDotted (o : Vector UInt8 4) : List UInt16 :=
  [UInt16.ofNat (256 * o[0].toNat + o[1].toNat), UInt16.ofNat (256 * o[2].toNat + o[3].toNat)]

/-- Groups joined by colons, the last of which may be written with dots where that is allowed. -/
def groupsIn? (dottedEnd : Bool) : List (List Char) → Option (List UInt16)
  | [] => some []
  | [last] =>
    match group? last with
    | some g => some [g]
    | none => if dottedEnd then (dotted? last).map groupsOfDotted else none
  | piece :: pieces => do return (← group? piece) :: (← groupsIn? dottedEnd pieces)

/-- Any number of groups, also none. -/
def groups? (dottedEnd : Bool) (cs : List Char) : Option (List UInt16) :=
  if cs.isEmpty then some [] else groupsIn? dottedEnd (splitAt ':' cs)

def ofGroups? (gs : List UInt16) : Option IpAddress :=
  if h : gs.length = 8 then some (v6 ⟨gs.toArray, by simpa using h⟩) else none

/-- Eight groups, or fewer with a gap that stands for at least one group of zeros. -/
def parseV6? (cs : List Char) : Option IpAddress :=
  match splitAtGap cs with
  | none => (groups? true cs).bind ofGroups?
  | some (before, after) => do
    let front ← groups? false before
    let back ← groups? true after
    let missing := 8 - (front.length + back.length)
    if missing = 0 then none else ofGroups? (front ++ List.replicate missing 0 ++ back)

/-- Reads an address of either version. -/
def parse? (s : String) : Option IpAddress :=
  match dotted? s.toList with
  | some o => some (v4 o)
  | none => parseV6? s.toList

def dottedText (o : Vector UInt8 4) : String :=
  String.intercalate "." (o.toList.map fun b => Nat.repr b.toNat)

/-- Lowercase digits without leading zeros. -/
def groupText (g : UInt16) : String := String.ofList (Nat.toDigits 16 g.toNat)

def joinGroups (gs : List UInt16) : String := String.intercalate ":" (gs.map groupText)

/-- The number of zeros at the start of a list. -/
def leadingZeros (gs : List UInt16) : Nat := (gs.takeWhile (· = 0)).length

/-- Where the longest run of zeros starts, and its length; the first of several. -/
def longestZeros : List UInt16 → Nat × Nat
  | [] => (0, 0)
  | g :: gs =>
    let later := longestZeros gs
    if later.2 ≤ leadingZeros (g :: gs) then (0, leadingZeros (g :: gs))
    else (later.1 + 1, later.2)

/-- The groups joined by colons, with the longest run of at least two zeros left out. -/
def groupsText (gs : List UInt16) : String :=
  let zeros := longestZeros gs
  if zeros.2 ≤ 1 then joinGroups gs
  else joinGroups (gs.take zeros.1) ++ "::" ++ joinGroups (gs.drop (zeros.1 + zeros.2))

/-- The canonical text. An address of version 4 that is mapped into version 6 keeps its dots. -/
def text : IpAddress → String
  | v4 o => dottedText o
  | v6 gs =>
    match gs.toList with
    | [0, 0, 0, 0, 0, 0xffff, a, b] =>
      "::ffff:" ++ String.intercalate "."
        ((ByteOrder.bigEndian.octets 2 a.toNat ++ ByteOrder.bigEndian.octets 2 b.toNat).map
          fun o => Nat.repr o.toNat)
    | groups => groupsText groups

end IpAddress
end UniqueId

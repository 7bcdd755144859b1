import UniqueId.Decimal.Numeral
import UniqueId.Decimal.Shortest
import UniqueId.Uuid.Text
import UniqueId.Word.ByteOrder

/-! Identifiers in data formats. A readable format carries the canonical text, a compact one the
sixteen octets, and each is asked for the one that it carries. Either is taken from whatever format
offers it, and everything else is refused. With another library identifiers are exchanged as
numbers. -/
namespace UniqueId
open UniqueId.Text

/-- What a data format is asked for. -/
inductive Hint where
  | text
  | octets
  deriving DecidableEq, Repr

/-- A value as a data format offers it. -/
inductive Token where
  | text (s : String)
  | octets (bs : List UInt8)
  | integer (n : Int)
  | floating (x : Float)
  | boolean (b : Bool)
  | null
  | unit
  | absent
  | sequence
  | mapping

namespace Token

def ofNumeral : Decimal.Numeral → Token
  | .integer n => integer n
  | .floating x => floating x

/-- What a format has to be asked for to give the value back. -/
def hint? : Token → Option Hint
  | text _ => some .text
  | octets _ => some .octets
  | _ => none

/-- What a value is called where another was expected. -/
def description : Token → String
  | text s => "string " ++ Quoted.quote s
  | octets _ => "byte array"
  | integer n => "integer `" ++ Int.repr n ++ "`"
  | floating x => "floating point `" ++ Decimal.text x ++ "`"
  | boolean b => "boolean `" ++ (if b then "true" else "false") ++ "`"
  | null => "null"
  | unit => "unit value"
  | absent => "Option value"
  | sequence => "sequence"
  | mapping => "map"

end Token

/-- A data format that is read from: whether it is a readable one, and what it offers when asked. -/
structure Source where
  readable : Bool
  offer : Hint → Token

namespace Source

/-- A format that describes what it holds, and offers that whatever it is asked for. -/
def describing (readable : Bool) (t : Token) : Source := ⟨readable, fun _ => t⟩

/-- A format that offers what it holds if it is asked for that kind of value. Asked for the other
kind it may offer anything. -/
def holding (readable : Bool) (t : Token) (other : Hint → Token) : Source :=
  ⟨readable, fun h => if t.hint? = some h then t else other h⟩

end Source

namespace Uuid

/-- Why a value is no identifier. -/
inductive DecodeError where
  | invalidText (e : InvalidText)
  | octetCount
  | unexpected (t : Token)

def DecodeError.message : DecodeError → String
  | invalidText e => e.message
  | octetCount => "could not convert slice to array"
  | unexpected t =>
    "invalid type: " ++ t.description ++ ", expected a canonical UUID string or 16 bytes"

/-- What a data format is given for an identifier. -/
def toToken (readable : Bool) (u : Uuid) : Token :=
  if readable then .text u.encode else .octets u.words.toOctets.toList

/-- What a data format is asked for when an identifier is to be taken from it. -/
def hint (readable : Bool) : Hint := if readable then .text else .octets

/-- Takes an identifier from what a data format offers, be it what was asked for or not. -/
def ofToken : Token → Except DecodeError Uuid
  | .text s =>
    match parse s with
    | .ok u => .ok u
    | .error e => .error (.invalidText e)
  | .octets bs =>
    if h : bs.length = 16 then .ok (ofWords (.ofOctets ⟨bs.toArray, by simpa using h⟩))
    else .error .octetCount
  | t => .error (.unexpected t)

/-- Takes an identifier from a data format. -/
def decode (source : Source) : Except DecodeError Uuid :=
  ofToken (source.offer (hint source.readable))

/-- Another library's type of identifiers, which are made from numbers and give them back. -/
structure Peer (α : Type) where
  ofNumber : BitVec 128 → α
  toNumber : α → BitVec 128

/-- Nothing is lost on the way there or on the way back. -/
structure Peer.Lawful {α : Type} (p : Peer α) : Prop where
  toNumber_ofNumber (n : BitVec 128) : p.toNumber (p.ofNumber n) = n
  ofNumber_toNumber (a : α) : p.ofNumber (p.toNumber a) = a

/-- The other library's identifier with the same number. -/
def toPeer {α : Type} (p : Peer α) (u : Uuid) : α := p.ofNumber u.words.toNumber

/-- The identifier with the number of the other library's. -/
def ofPeer {α : Type} (p : Peer α) (a : α) : Uuid := ofWords (.ofNumber (p.toNumber a))

end Uuid

/-- A token in a compact binary format: octets follow their number. -/
def Token.compact? : Token → Option (List UInt8)
  | octets bs => some (ByteOrder.littleEndian.octets 8 bs.length ++ bs)
  | _ => none

end UniqueId

/-! Numbers read from text that has the form of a number: an optional minus sign, digits, an
optional fraction and an optional exponent. A whole number that fits 64 bits stays an integer;
everything else becomes a double. -/
namespace UniqueId.Decimal

inductive Numeral where
  | integer (n : Int)
  | floating (x : Float)

/-- The digits that fit a 64-bit word, and the power of ten that scales them. -/
structure Significand where
  value : Nat
  exponent : Int

namespace Significand

def digitValue (c : Char) : Nat := c.toNat - 0x30

/-- Takes a digit, unless it or one before it finds no room any more. -/
def takeDigit (full : Bool) (s : Significand) (c : Char) : Bool × Significand :=
  let value := 10 * s.value + digitValue c
  if full || 0xffffffffffffffff < value then (true, s) else (false, { s with value })

/-- Takes the digits before the point; each one without room makes the others count for more. -/
def takeWhole : Bool → Significand → List Char → Bool × Significand
  | full, s, [] => (full, s)
  | full, s, c :: cs =>
    match takeDigit full s c with
    | (true, s) => takeWhole true { s with exponent := s.exponent + 1 } cs
    | (false, s) => takeWhole false s cs

/-- Takes the digits after the point; each one without room is dropped. -/
def takeFraction : Bool → Significand → List Char → Significand
  | _, s, [] => s
  | full, s, c :: cs =>
    match takeDigit full s c with
    | (true, s) => takeFraction true s cs
    | (false, s) => takeFraction false { s with exponent := s.exponent - 1 } cs

/-- A power of ten, rounded to a double. -/
def powerOfTen (n : Nat) : Float := Float.ofScientific 1 false n

/-- The double that the significand stands for: the digits are rounded first and scaled then, a
very small number in two steps. -/
def toFloat (s : Significand) : Float :=
  let x := Float.ofNat s.value
  if 0 ≤ s.exponent then x * powerOfTen s.exponent.toNat
  else if -308 ≤ s.exponent then x / powerOfTen (-s.exponent).toNat
  else x / powerOfTen 308 / powerOfTen (-s.exponent - 308).toNat

end Significand

/-- An exponent with its sign. -/
def exponentValue (cs : List Char) : Int :=
  let number (ds : List Char) : Nat := ds.foldl (fun n c => 10 * n + Significand.digitValue c) 0
  match cs with
  | '-' :: ds => -number ds
  | '+' :: ds => number ds
  | ds => number ds

/-- Reads text that has the form of a number. -/
def Numeral.ofText (s : String) : Numeral :=
  let negative := s.toList.head? = some '-'
  let body := if negative then s.toList.drop 1 else s.toList
  let whole := body.takeWhile Char.isDigit
  let afterWhole := body.dropWhile Char.isDigit
  let (full, significand) := Significand.takeWhole false ⟨0, 0⟩ whole
  let signed (x : Float) : Numeral := .floating (if negative then -x else x)
  match afterWhole with
  | [] =>
    if full then signed significand.toFloat
    else if negative then
      if 0 < significand.value ∧ significand.value ≤ 0x8000000000000000 then .integer (-significand.value)
      else signed significand.toFloat
    else .integer significand.value
  | mark :: rest =>
    let fraction := if mark = '.' then rest.takeWhile Char.isDigit else []
    let tail := if mark = '.' then rest.dropWhile Char.isDigit else mark :: rest
    let s := Significand.takeFraction full significand fraction
    signed { s with exponent := s.exponent + exponentValue (tail.drop 1) }.toFloat

end UniqueId.Decimal

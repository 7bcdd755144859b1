/-! The shortest decimal that reads back as a given binary number. A positive double is
`m * 2 ^ q`; the reals that round to it form an interval, and among the decimals with the fewest
digits in that interval the one nearest to the number is taken. All arithmetic is exact. -/
namespace UniqueId.Decimal

/-- The number `digits * 10 ^ exponent`. -/
structure Scientific where
  digits : Nat
  exponent : Int
  deriving DecidableEq, Repr

/-- The number `m * 2 ^ q`, given by a mantissa and an exponent. -/
structure Binary where
  m : Nat
  q : Int
  deriving DecidableEq, Repr

/-- A power of ten. -/
def tenTo (n : Nat) : Nat := Nat.pow 10 n

namespace Binary

/-- The leading bit of a mantissa, which the bits of a double leave out. -/
def hiddenBit : Nat := 0x10000000000000

/-- The absolute value of a finite double, from its bits. -/
def ofBits (bits : UInt64) : Binary :=
  let fraction := bits.toNat % hiddenBit
  let exponent := bits.toNat / hiddenBit % 2048
  if exponent = 0 then ⟨fraction, -1074⟩ else ⟨hiddenBit + fraction, exponent - 1075⟩

/-- How a decimal compares with `n * 2 ^ q`. -/
def compareScaled (d : Scientific) (n : Nat) (q : Int) : Ordering :=
  compare ((d.digits * tenTo d.exponent.toNat) <<< (-q).toNat)
    ((n * tenTo (-d.exponent).toNat) <<< q.toNat)

/-- Four times the distance from the number down to the end of its interval. Below a power of two
the doubles lie twice as close. -/
def lowerGap (b : Binary) : Nat := if b.m = hiddenBit ∧ -1074 < b.q then 1 else 2

/-- The decimal rounds to the number. The ends of the interval do so where the mantissa is
even. -/
def readsBack (b : Binary) (d : Scientific) : Bool :=
  let low := compareScaled d (4 * b.m - b.lowerGap) (b.q - 2)
  let high := compareScaled d (4 * b.m + 2) (b.q - 2)
  if b.m % 2 = 0 then low.isGE && high.isLE else low.isGT && high.isLT

/-- The exponent of the leading digit of a positive number, sought from the largest down. -/
def leadingExponent (b : Binary) : Int :=
  let fits (i : Nat) : Bool := (compareScaled ⟨1, 308 - i⟩ b.m b.q).isLE
  match (List.range 633).find? fits with
  | some i => 308 - i
  | none => -324

/-- The number in units of `10 ^ exponent`, rounded down. -/
def floorAt (b : Binary) (exponent : Int) : Nat :=
  ((b.m * tenTo (-exponent).toNat) <<< b.q.toNat) / (tenTo exponent.toNat <<< (-b.q).toNat)

/-- The upper of two neighbours on a decimal grid is the nearer one; halfway, the even one is. -/
def upperIsNearer (b : Binary) (exponent : Int) (floor : Nat) : Bool :=
  match compareScaled ⟨2 * floor + 1, exponent⟩ (2 * b.m) b.q with
  | .lt => true
  | .gt => false
  | .eq => floor % 2 = 1

/-- The decimal with the given number of digits that reads back and is nearest, if there is
one. -/
def onGrid? (b : Binary) (leading : Int) (count : Nat) : Option Scientific :=
  let exponent := leading + 1 - count
  let floor := b.floorAt exponent
  let lower : Scientific := ⟨floor, exponent⟩
  let upper : Scientific := ⟨floor + 1, exponent⟩
  let candidates := if b.upperIsNearer exponent floor then [upper, lower] else [lower, upper]
  candidates.find? b.readsBack

end Binary

/-- Removes up to `n` trailing zeros. -/
def Scientific.dropZeros : Nat → Scientific → Scientific
  | 0, d => d
  | n + 1, d =>
    if d.digits ≠ 0 ∧ d.digits % 10 = 0 then dropZeros n ⟨d.digits / 10, d.exponent + 1⟩ else d

/-- The shortest decimal of a positive number. Seventeen digits always suffice. -/
def Binary.shortest (b : Binary) : Scientific :=
  let leading := b.leadingExponent
  let found := (List.range 17).findSome? fun i => b.onGrid? leading (i + 1)
  (found.getD ⟨b.floorAt (leading - 16), leading - 16⟩).dropZeros 17

/-- Exponents of the leading digit that are written without an exponent lie in this range. -/
def positionalFrom : Int := -5

def positionalBelow : Int := 16

/-- A positive decimal as text. Whole numbers end in `.0`; an exponent has a sign, plus or minus,
and no leading zeros. -/
def Scientific.text (d : Scientific) : String :=
  let ds := (Nat.repr d.digits).toList
  let leading : Int := d.exponent + ds.length - 1
  if positionalFrom ≤ leading ∧ leading < positionalBelow then
    if 0 ≤ d.exponent then String.ofList (ds ++ List.replicate d.exponent.toNat '0' ++ ['.', '0'])
    else if 0 ≤ leading then
      String.ofList (ds.take (leading.toNat + 1) ++ '.' :: ds.drop (leading.toNat + 1))
    else String.ofList (['0', '.'] ++ List.replicate (-leading - 1).toNat '0' ++ ds)
  else
    let mantissa :=
      match ds with
      | first :: second :: rest => first :: '.' :: second :: rest
      | short => short
    let plus := if 0 ≤ leading then "+" else ""
    String.ofList mantissa ++ "e" ++ plus ++ Int.repr leading

/-- A double as text, with the fewest digits that read back. -/
def text (x : Float) : String :=
  let bits := x.toBits
  let sign := if bits < 0x8000000000000000 then "" else "-"
  let b := Binary.ofBits bits
  sign ++ if b.m = 0 then "0.0" else b.shortest.text

end UniqueId.Decimal

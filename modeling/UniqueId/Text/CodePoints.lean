/-! Sets of code points, given as ranges in increasing order. -/
namespace UniqueId.Text

/-- The first and last code point of each range. -/
abbrev CodePoints := List (Nat × Nat)

/-- Some range holds the character. -/
def CodePoints.has (s : CodePoints) (c : Char) : Bool :=
  s.any fun r => r.1 ≤ c.toNat && c.toNat ≤ r.2

end UniqueId.Text

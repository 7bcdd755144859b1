import UniqueId.Layout

/-! The 128 bits of an identifier as two words, and what can be told from the bits alone: the
version number and the layout family. -/
namespace UniqueId

/-- The layout family that the top bits of the low word announce, in the order of those bits. -/
inductive Variant where
  | ncs
  | standard
  | microsoft
  | reserved
  deriving DecidableEq, Repr, Ord

/-- The 128 bits of an identifier, in two halves. -/
@[ext] structure Words where
  high : UInt64
  low : UInt64
  deriving DecidableEq, Repr

namespace Words

/-- All bits clear. -/
def zero : Words := ⟨0, 0⟩

/-- The version number, which is four bits wide. -/
def version (w : Words) : UInt64 := Layout.HighWord.version.read w.high

/-- The layout family: `0xx`, `10x`, `110` and `111` in the three top bits of the low word. -/
def variant (w : Words) : Variant :=
  let f := Layout.LowWord.family.read w.low
  if f ≤ 0b011 then .ncs
  else if f ≤ 0b101 then .standard
  else if f = 0b110 then .microsoft
  else .reserved

/-- The words with the version number replaced. -/
def withVersion (w : Words) (n : UInt64) : Words :=
  { w with high := Layout.HighWord.version.write w.high n }

/-- The words with the two variant bits set for the layout defined here. -/
def withStandardVariant (w : Words) : Words :=
  { w with low := Layout.LowWord.variant.write w.low Layout.standardVariant }

/-- Words are ordered as the unsigned number that they spell. -/
instance : Ord Words where
  compare a b := (compare a.high b.high).then (compare a.low b.low)

@[simp] theorem version_zero : zero.version = 0 := by decide

@[simp] theorem version_withVersion (w : Words) (n : UInt64) :
    (w.withVersion n).version = n &&& 0xf := Layout.HighWord.version.read_write w.high n

@[simp] theorem version_withStandardVariant (w : Words) :
    w.withStandardVariant.version = w.version := rfl

end Words
end UniqueId

import UniqueId.Draws
import UniqueId.Uuid.Basic

/-! Random identifiers. Of 128 random bits six are replaced by the version and the variant; a
sequential random identifier has the seconds of its creation in its first 32 bits, so that it sorts
by them. -/
namespace UniqueId.RandomBased
open UniqueId.Layout

/-- The random identifier with the given bits, less the six that are fixed. -/
def ofWords (w : Words) : RandomBased where
  toWords := (w.withVersion 4).withStandardVariant
  version_eq := by
    rw [Words.version_withStandardVariant, Words.version_withVersion]
    decide

/-- Draws a random identifier. -/
def draw (ds : Draws) : Option RandomBased × Draws := (ds.words.1.map ofWords, ds.words.2)

/-- The identifier with its first 32 bits replaced. -/
def withSeconds (v : RandomBased) (seconds : UInt32) : RandomBased where
  high := HighWord.timeLow.write v.high seconds.toUInt64
  low := v.low
  version_eq := by
    change HighWord.version.read _ = 4
    rw [Field.read_write_of_disjoint (by decide)]
    exact v.version_eq

/-- Draws a random identifier that carries the given seconds. -/
def drawAt (seconds : UInt32) (ds : Draws) : Option RandomBased × Draws :=
  ((draw ds).1.map (·.withSeconds seconds), (draw ds).2)

/-- The first 32 bits, which are the POSIX seconds of a sequential random identifier. -/
def posixSeconds (v : RandomBased) : UInt32 := (HighWord.timeLow.read v.high).toUInt32

end UniqueId.RandomBased

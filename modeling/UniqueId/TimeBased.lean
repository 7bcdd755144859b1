import UniqueId.Gregorian
import UniqueId.Node.Identity
import UniqueId.Uuid.Basic

/-! Time-based identifiers. The timestamp is cut into three pieces, the lowest of which comes
first; the clock sequence lies beside the variant, and the node fills the rest. -/
namespace UniqueId.TimeBased
open UniqueId.Layout

/-- The identifier that a node makes at a tick. Bits of the tick above the sixtieth and of the
clock sequence above the fourteenth have no room and are lost. -/
def mint (id : NodeIdentity) (tick : UInt64) : TimeBased :=
  let sequence := id.clockSequence.toUInt64
  let reserved := ClockSequence.reserved.write sequence standardVariant
  { high :=
      HighWord.timeLow.write
        (HighWord.timeMid.write
          (HighWord.version.write (Timestamp.high.read tick) 1)
          (Timestamp.mid.read tick))
        (Timestamp.low.read tick)
    low :=
      LowWord.octet8.write
        (LowWord.octet9.write id.node (ClockSequence.low.read sequence))
        (ClockSequence.highAndReserved.read reserved)
    version_eq := by
      change HighWord.version.read _ = 1
      rw [Field.read_write_of_disjoint (by decide), Field.read_write_of_disjoint (by decide),
        Field.read_write]
      decide }

/-- The number of ticks since the start of the Gregorian calendar, sixty bits wide. -/
def timestamp (v : TimeBased) : UInt64 :=
  Timestamp.high.write
    (Timestamp.mid.write (HighWord.timeLow.read v.high) (HighWord.timeMid.read v.high))
    (HighWord.timeHigh.read v.high)

def unixMillis (v : TimeBased) : UInt64 := Gregorian.unixMillis v.timestamp

/-- The clock sequence, fourteen bits wide. -/
def clockSequence (v : TimeBased) : UInt16 := (LowWord.clockSequence.read v.low).toUInt16

/-- The node, 48 bits wide. -/
def node (v : TimeBased) : UInt64 := LowWord.node.read v.low

def timeLow (v : TimeBased) : UInt64 := Timestamp.low.read v.timestamp

def timeMid (v : TimeBased) : UInt64 := Timestamp.mid.read v.timestamp

def timeHigh (v : TimeBased) : UInt64 := Timestamp.high.read v.timestamp

def clockSequenceLow (v : TimeBased) : UInt64 :=
  ClockSequence.low.read v.clockSequence.toUInt64

def clockSequenceHigh (v : TimeBased) : UInt64 :=
  ClockSequence.high.read v.clockSequence.toUInt64

end UniqueId.TimeBased

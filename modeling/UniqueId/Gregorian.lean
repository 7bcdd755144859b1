/-! Gregorian ticks: intervals of 100 nanoseconds since the start of the Gregorian calendar on
1582-10-15. Arithmetic is on 64-bit words and wraps. -/
namespace UniqueId.Gregorian

/-- Ticks between the start of the Gregorian calendar and the Unix epoch. -/
def unixEpoch : UInt64 := 0x01b21dd213814000

def ticksPerMilli : UInt64 := 10000

/-- The tick with the given number inside a Unix millisecond. -/
def tick (millis counter : UInt64) : UInt64 := counter + unixEpoch + ticksPerMilli * millis

/-- The Unix millisecond that a tick falls into, or zero for ticks before the Unix epoch. -/
def unixMillis (tick : UInt64) : UInt64 :=
  if tick ≤ unixEpoch then 0 else (tick - unixEpoch) / ticksPerMilli

end UniqueId.Gregorian

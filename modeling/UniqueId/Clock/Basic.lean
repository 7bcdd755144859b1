import UniqueId.Gregorian
import UniqueId.Word.Bits

/-! A clock that never repeats a tick. Its state is one word: a Unix millisecond above a counter
of the ticks handed out in it. A pass looks at the wall clock once and says what becomes of the
state. -/
namespace UniqueId.Clock

/-- How many ticks a clock hands out in one millisecond. -/
def maxTicksPerMilli : UInt64 := 1000

/-- The width of the counter. -/
def counterBits : UInt64 := 10

def counterMask : UInt64 := 0x3ff

/-- The millisecond and the counter of a clock, in one word. -/
structure State where
  word : UInt64
  deriving DecidableEq, Repr

namespace State

/-- The state of a clock that was never used. -/
def initial : State := ⟨0⟩

/-- Puts a millisecond above a counter. The ten highest bits of the millisecond are lost. -/
def pack (millis counter : UInt64) : State := ⟨(millis <<< counterBits) ||| counter⟩

def millis (s : State) : UInt64 := s.word >>> counterBits

def counter (s : State) : UInt64 := s.word &&& counterMask

/-- The tick that a clock in this state handed out last. -/
def tick (s : State) : UInt64 := Gregorian.tick s.millis s.counter

private theorem bit_counterMask (i : Nat) : Word.bit counterMask i = decide (i < 10) := by
  by_cases h : i < 10
  · have all : ∀ j < 10, Word.bit counterMask j = true := by decide
    rw [all i h, decide_eq_true h]
  · rw [Word.bit_of_toNat_lt counterMask (k := 10) (by decide) (by omega), decide_eq_false h]

/-- A counter that fits its ten bits is found again. -/
theorem counter_pack (m : UInt64) {c : UInt64} (h : c.toNat < 1024) : (pack m c).counter = c := by
  apply Word.ext_bit
  intro i hi
  have hb : counterBits.toNat < 64 := by decide
  rw [counter, pack, Word.bit_and, Word.bit_or, Word.bit_shiftLeft m hb, bit_counterMask]
  by_cases h' : i < 10
  · simp [show i < counterBits.toNat from h', h']
  · have hc : Word.bit c i = false := Word.bit_of_toNat_lt c (k := 10) h (by omega)
    simp [h', hc]

/-- A millisecond is found again, less its ten highest bits. -/
theorem millis_pack (m : UInt64) {c : UInt64} (h : c.toNat < 1024) :
    (pack m c).millis.toNat = m.toNat % 0x40000000000000 := by
  have hb : counterBits.toNat % 64 = 10 := by decide
  have hc : c.toNat >>> 10 = 0 := by rw [Nat.shiftRight_eq_div_pow]; omega
  rw [millis, pack, UInt64.toNat_shiftRight, UInt64.toNat_or, UInt64.toNat_shiftLeft, hb,
    Nat.shiftRight_or_distrib, hc, Nat.or_zero, Nat.shiftLeft_eq, Nat.shiftRight_eq_div_pow]
  omega

end State

/-- What becomes of the state after a look at the wall clock. -/
inductive Pass where
  /-- The wall clock is ahead: its millisecond starts. -/
  | adopt (next : State)
  /-- The stored millisecond has room for another tick. -/
  | count (next : State)
  /-- The stored millisecond is full and the wall clock is behind: the next one starts. -/
  | carry (next : State)
  /-- The stored millisecond is full and not over: look again. -/
  | wait
  deriving DecidableEq, Repr

/-- The state to be stored, if there is one. -/
def Pass.next? : Pass → Option State
  | adopt next => some next
  | count next => some next
  | carry next => some next
  | wait => none

/-- One look at the wall clock, which shows `now`. -/
def State.pass (s : State) (now : UInt64) : Pass :=
  if s.millis < now then .adopt (.pack now 0)
  else if s.counter < maxTicksPerMilli - 1 then .count (.pack s.millis (s.counter + 1))
  else if now < s.millis then .carry (.pack (s.millis + 1) 0)
  else .wait

end UniqueId.Clock

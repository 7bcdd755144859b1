import UniqueId.Proofs.Clock.Reachable

/-! Where the words of a clock end. A state has room for 54 bits of a millisecond and a tick for 64
bits altogether. Up to these limits a clock moves on with every tick, and beyond them it falls back
in two ways only: a reading loses its highest bits, or the last millisecond carries. -/
namespace UniqueId

namespace Gregorian

/-- Neither sum nor product in the computation of a tick leaves 64 bits. -/
structure Fits (millis counter : UInt64) : Prop where
  start : counter.toNat + unixEpoch.toNat < 1 <<< 64
  product : ticksPerMilli.toNat * millis.toNat < 1 <<< 64
  sum : (counter + unixEpoch).toNat + (ticksPerMilli * millis).toNat < 1 <<< 64

/-- The number that a tick stands for. -/
def number (millis counter : UInt64) : Nat :=
  unixEpoch.toNat + ticksPerMilli.toNat * millis.toNat + counter.toNat

theorem number_lt_iff {millis counter : UInt64} (counter_le : counter.toNat ≤ 999) :
    number millis counter < 1 <<< 64 ↔ millis.toNat ≤ lastMillis := by
  have width : 1 <<< 64 = 18446744073709551616 := by decide
  rw [number, toNat_unixEpoch, toNat_ticksPerMilli, width, lastMillis]
  omega

theorem fits_iff {millis counter : UInt64} :
    Fits millis counter ↔ number millis counter < 1 <<< 64 := by
  have width : 1 <<< 64 = 18446744073709551616 := by decide
  have start := UInt64.toNat_add counter unixEpoch
  have product := UInt64.toNat_mul ticksPerMilli millis
  rw [number]
  constructor
  · rintro ⟨hstart, hproduct, hsum⟩
    omega
  · intro h
    exact ⟨by omega, by omega, by omega⟩

theorem toNat_tick_eq_iff {millis counter : UInt64} :
    (tick millis counter).toNat = number millis counter ↔ number millis counter < 1 <<< 64 := by
  have width : 1 <<< 64 = 18446744073709551616 := by decide
  have wraps : (tick millis counter).toNat = number millis counter % 18446744073709551616 := by
    rw [tick, number, UInt64.toNat_add, UInt64.toNat_add, UInt64.toNat_mul]
    omega
  rw [wraps, width]
  omega

end Gregorian

namespace Clock

namespace State

/-- The reading has bits for which a state has no room, and without them it is not ahead. -/
def DropsBits (s : State) (now : UInt64) : Prop :=
  1 <<< 54 ≤ now.toNat ∧ now.toNat % (1 <<< 54) ≤ s.millis.toNat

/-- The last millisecond for which a state has room is full, and the wall clock is behind. -/
def WrapsAround (s : State) (now : UInt64) : Prop :=
  s.millis.toNat = 1 <<< 54 - 1 ∧ s.counter.toNat = 999 ∧ now.toNat < s.millis.toNat

/-- A tick handed out moves the word up, but for two cases. -/
theorem word_lt_iff {s : State} (counter_le : s.counter.toNat ≤ 999) {now : UInt64} {i : Issue}
    (h : s.issue? now = some i) :
    s.word < i.state.word ↔ ¬ s.DropsBits now ∧ ¬ s.WrapsAround now := by
  have room : 1 <<< 54 = 0x40000000000000 := by decide
  have millis_lt := s.millis_lt
  rw [UInt64.lt_iff_toNat_lt, s.toNat_word, i.state.toNat_word, DropsBits, WrapsAround, room]
  obtain ⟨-, ⟨ahead, hp, -⟩ | ⟨behind, counts, hp, -⟩ | ⟨behind, full, hp, -⟩⟩ := issue?_cases h
  all_goals
    rw [hp.millis, hp.counter]
    omega

theorem pack_inverse {m c : UInt64} (counter_le : c.toNat ≤ 999)
    (fits : m.toNat ≤ Gregorian.lastMillis) : (pack m c).millis = m ∧ (pack m c).counter = c := by
  rw [Gregorian.lastMillis] at fits
  refine ⟨UInt64.toNat_inj.1 ?_, counter_pack m (by omega)⟩
  rw [millis_pack m (by omega)]
  omega

theorem tick_pack {m c : UInt64} (counter_le : c.toNat ≤ 999)
    (fits : m.toNat ≤ Gregorian.lastMillis) : (pack m c).tick = Gregorian.tick m c := by
  obtain ⟨millis, counter⟩ := pack_inverse counter_le fits
  rw [tick, millis, counter]

end State

/-- Whatever the wall clock shows, the counter of a clock stays below a thousand. A look has to wait
just at a full millisecond that it shows, and else hands out a tick. The word of the state then
moves up unless bits of the reading are lost and the rest is not ahead, or the last millisecond of
all carries. The tick fits 64 bits up to the last millisecond of the calendar, and up to there
states are found again in their words, which are ordered as their ticks. -/
theorem word_limits :
    (∀ s : State, s.Reachable →
      s.counter.toNat ≤ 999 ∧
      (∀ now, s.issue? now = none ↔ now = s.millis ∧ s.counter.toNat = 999) ∧
      ∀ now i, s.issue? now = some i →
        (s.word < i.state.word ↔ ¬ s.DropsBits now ∧ ¬ s.WrapsAround now) ∧
        (Gregorian.Fits i.state.millis i.state.counter ↔
          i.state.millis.toNat ≤ Gregorian.lastMillis) ∧
        (i.tick.toNat = Gregorian.number i.state.millis i.state.counter ↔
          i.state.millis.toNat ≤ Gregorian.lastMillis)) ∧
    ∀ m c n d : UInt64, c.toNat ≤ 999 → d.toNat ≤ 999 →
      m.toNat ≤ Gregorian.lastMillis → n.toNat ≤ Gregorian.lastMillis →
      (State.pack m c).millis = m ∧ (State.pack m c).counter = c ∧
      ((State.pack m c).word < (State.pack n d).word ↔
        Gregorian.tick m c < Gregorian.tick n d) := by
  constructor
  · intro s reachable
    refine ⟨reachable.counter_le, fun now => reachable.issue?_eq_none_iff, ?_⟩
    intro now i hi
    have counter_le := State.counter_le_of_issue? hi
    refine ⟨State.word_lt_iff reachable.counter_le hi, ?_, ?_⟩
    · rw [Gregorian.fits_iff, Gregorian.number_lt_iff counter_le]
    · rw [Issue.tick, State.tick, Gregorian.toNat_tick_eq_iff, Gregorian.number_lt_iff counter_le]
  · intro m c n d hc hd hm hn
    obtain ⟨millis, counter⟩ := State.pack_inverse hc hm
    obtain ⟨millis', -⟩ := State.pack_inverse hd hn
    refine ⟨millis, counter, ?_⟩
    rw [← State.tick_pack hc hm, ← State.tick_pack hd hn]
    exact (State.tick_lt_tick_iff (by rwa [millis]) (by rwa [millis'])).symm

/-- Two clocks that fall back. One reads a millisecond of 55 bits and is at millisecond 5 again, with
a tick that fits; the other carries from the last millisecond of all to the first. Beside them, two
states of the last millisecond of the calendar. -/
theorem word_limits_falls :
    (State.pack 5 0).Reachable ∧
    (State.pack 5 0).issue? 0x40000000000005 = some ⟨.pack 5 0, 0x40000000000005, []⟩ ∧
    (State.pack 5 0).DropsBits 0x40000000000005 ∧
    ¬ (State.pack 5 0).word < (State.pack 5 0).word ∧
    Gregorian.Fits (State.pack 5 0).millis (State.pack 5 0).counter ∧
    (State.pack 0x3fffffffffffff 999).Reachable ∧
    (State.pack 0x3fffffffffffff 999).issue? 0 =
      some ⟨.initial, 0, [.clockCarried 0 0x3fffffffffffff]⟩ ∧
    (State.pack 0x3fffffffffffff 999).WrapsAround 0 ∧
    ¬ (State.pack 0x3fffffffffffff 999).word < State.initial.word ∧
    Gregorian.tick 1832455114570955 998 < Gregorian.tick 1832455114570955 999 := by
  obtain ⟨limits, order⟩ := word_limits
  have new : (State.pack 5 0).Reachable := ⟨1, [5], by decide⟩
  have full : (State.pack 0x3fffffffffffff 999).Reachable :=
    ⟨1000, List.replicate 1000 0x3fffffffffffff, by decide +kernel⟩
  have adopted : (State.pack 5 0).issue? 0x40000000000005 =
      some ⟨.pack 5 0, 0x40000000000005, []⟩ := by decide
  have carried : (State.pack 0x3fffffffffffff 999).issue? 0 =
      some ⟨.initial, 0, [.clockCarried 0 0x3fffffffffffff]⟩ := by decide
  have drops : (State.pack 5 0).DropsBits 0x40000000000005 := ⟨by decide, by decide⟩
  have wraps : (State.pack 0x3fffffffffffff 999).WrapsAround 0 := ⟨by decide, by decide, by decide⟩
  obtain ⟨moved, fits, -⟩ := (limits _ new).2.2 _ _ adopted
  obtain ⟨moved', -, -⟩ := (limits _ full).2.2 _ _ carried
  obtain ⟨-, -, ordered⟩ := order 1832455114570955 998 1832455114570955 999 (by decide) (by decide)
    (by decide) (by decide)
  exact ⟨new, adopted, drops, fun up => (moved.1 up).1 drops, fits.2 (by decide), full, carried,
    wraps, fun up => (moved'.1 up).2 wraps, ordered.1 (by decide)⟩

end Clock
end UniqueId

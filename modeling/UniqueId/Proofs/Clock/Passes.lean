import UniqueId.Clock.Run

/-! What one look at the wall clock does to a state, in natural numbers. The state word is the
millisecond above the counter, so words are ordered as the ticks that they stand for; a tick handed
out moves the word up as long as no bit of a millisecond is lost. -/
namespace UniqueId

namespace Gregorian

/-- The last Unix millisecond whose ticks all fit 64 bits. -/
def lastMillis : Nat := 1832455114570955

theorem toNat_unixEpoch : unixEpoch.toNat = 122192928000000000 := by decide

theorem toNat_ticksPerMilli : ticksPerMilli.toNat = 10000 := by decide

theorem toNat_unixMillis (t : UInt64) :
    (unixMillis t).toNat = (t.toNat - unixEpoch.toNat) / 10000 := by
  rw [unixMillis]
  by_cases early : t ≤ unixEpoch
  · rw [if_pos early, Nat.sub_eq_zero_of_le (UInt64.le_iff_toNat_le.1 early)]
    rfl
  · rw [if_neg early, UInt64.toNat_div, toNat_ticksPerMilli,
      UInt64.toNat_sub_of_le _ _ (UInt64.le_of_lt (UInt64.not_le.1 early))]

end Gregorian

namespace Clock.State

theorem toNat_millis (s : State) : s.millis.toNat = s.word.toNat / 1024 := by
  have hb : counterBits.toNat % 64 = 10 := by decide
  rw [millis, UInt64.toNat_shiftRight, hb, Nat.shiftRight_eq_div_pow]

theorem toNat_counter (s : State) : s.counter.toNat = s.word.toNat % 1024 := by
  have hm : counterMask.toNat = 1 <<< 10 - 1 := by decide
  rw [counter, UInt64.toNat_and, hm, Nat.one_shiftLeft, Nat.and_two_pow_sub_one_eq_mod]

theorem toNat_word (s : State) : s.word.toNat = 1024 * s.millis.toNat + s.counter.toNat := by
  rw [toNat_millis, toNat_counter]
  omega

theorem counter_lt (s : State) : s.counter.toNat < 1024 := by
  rw [toNat_counter]
  omega

theorem millis_lt (s : State) : s.millis.toNat < 0x40000000000000 := by
  have h := s.word.toNat_lt
  rw [toNat_millis]
  omega

/-- The state of millisecond `m` and counter `c`. -/
structure Holds (s : State) (m c : Nat) : Prop where
  millis : s.millis.toNat = m
  counter : s.counter.toNat = c

theorem holds_pack (m : UInt64) {c : UInt64} (h : c.toNat < 1024) :
    (pack m c).Holds (m.toNat % 0x40000000000000) c.toNat :=
  ⟨millis_pack m h, by rw [counter_pack m h]⟩

private theorem toNat_add_one {w : UInt64} (h : w.toNat < 0x40000000000000) :
    (w + 1).toNat = w.toNat + 1 := by
  rw [UInt64.toNat_add, UInt64.toNat_one]
  omega

/-- All that a look at the wall clock can do when it hands out a tick. -/
theorem issue?_cases {s : State} {now : UInt64} {i : Issue} (h : s.issue? now = some i) :
    i.reading = now ∧
    ((s.millis.toNat < now.toNat ∧ i.state.Holds (now.toNat % 0x40000000000000) 0 ∧
        i.events = []) ∨
      (now.toNat ≤ s.millis.toNat ∧ s.counter.toNat < 999 ∧
        i.state.Holds s.millis.toNat (s.counter.toNat + 1) ∧ i.events = []) ∨
      (now.toNat < s.millis.toNat ∧ 999 ≤ s.counter.toNat ∧
        i.state.Holds ((s.millis.toNat + 1) % 0x40000000000000) 0 ∧
        i.events = [.clockCarried now s.millis])) := by
  have hmax : (maxTicksPerMilli - 1).toNat = 999 := by decide
  have hm := s.millis_lt
  rw [issue?, pass] at h
  by_cases ahead : s.millis < now
  · rw [if_pos ahead] at h
    cases h
    exact ⟨rfl, .inl ⟨UInt64.lt_iff_toNat_lt.1 ahead, holds_pack now (by decide), rfl⟩⟩
  rw [if_neg ahead] at h
  by_cases room : s.counter < maxTicksPerMilli - 1
  · rw [if_pos room] at h
    cases h
    rw [UInt64.lt_iff_toNat_lt, hmax] at room
    have hc := toNat_add_one (w := s.counter) (by omega)
    have hp := holds_pack s.millis (c := s.counter + 1) (by omega)
    rw [hc, Nat.mod_eq_of_lt hm] at hp
    exact ⟨rfl, .inr (.inl ⟨UInt64.le_iff_toNat_le.1 (UInt64.not_lt.1 ahead), room, hp, rfl⟩)⟩
  rw [if_neg room] at h
  rw [UInt64.lt_iff_toNat_lt, hmax] at room
  by_cases behind : now < s.millis
  · rw [if_pos behind] at h
    cases h
    have hp := holds_pack (s.millis + 1) (c := 0) (by decide)
    rw [toNat_add_one hm] at hp
    exact ⟨rfl, .inr (.inr ⟨UInt64.lt_iff_toNat_lt.1 behind, Nat.le_of_not_lt room, hp, rfl⟩)⟩
  · rw [if_neg behind] at h
    contradiction

/-- A counter is counted up only while it has room. -/
theorem counter_le_of_issue? {s : State} {now : UInt64} {i : Issue} (h : s.issue? now = some i) :
    i.state.counter.toNat ≤ 999 := by
  obtain ⟨-, ⟨-, hp, -⟩ | ⟨-, room, hp, -⟩ | ⟨-, -, hp, -⟩⟩ := issue?_cases h
  · rw [hp.counter]
    exact Nat.zero_le _
  · rw [hp.counter]
    exact room
  · rw [hp.counter]
    exact Nat.zero_le _

/-- A look hands out nothing only while a full millisecond lasts. -/
theorem issue?_eq_none_iff {s : State} {now : UInt64} :
    s.issue? now = none ↔ now = s.millis ∧ 999 ≤ s.counter.toNat := by
  have hmax : (maxTicksPerMilli - 1).toNat = 999 := by decide
  rw [issue?, pass]
  by_cases ahead : s.millis < now
  · rw [if_pos ahead]
    exact iff_of_false (by simp) fun h => UInt64.lt_irrefl _ (h.1 ▸ ahead)
  rw [if_neg ahead]
  by_cases room : s.counter < maxTicksPerMilli - 1
  · rw [if_pos room]
    rw [UInt64.lt_iff_toNat_lt, hmax] at room
    exact iff_of_false (by simp) fun h => Nat.not_le_of_lt room h.2
  rw [if_neg room]
  rw [UInt64.lt_iff_toNat_lt, hmax] at room
  by_cases behind : now < s.millis
  · rw [if_pos behind]
    exact iff_of_false (by simp) fun h => UInt64.lt_irrefl _ (h.1 ▸ behind)
  · rw [if_neg behind]
    exact iff_of_true rfl
      ⟨UInt64.le_antisymm (UInt64.not_lt.1 ahead) (UInt64.not_lt.1 behind), Nat.le_of_not_lt room⟩

/-- A tick handed out moves the word up, unless the highest bits of a millisecond are lost. -/
theorem word_lt_of_issue? {s : State} {now : UInt64} {i : Issue} (h : s.issue? now = some i)
    (hnow : now.toNat < 0x40000000000000) (hs : s.millis.toNat < 0x3fffffffffffff) :
    s.word < i.state.word := by
  have hc := s.counter_lt
  rw [UInt64.lt_iff_toNat_lt, s.toNat_word, i.state.toNat_word]
  obtain ⟨-, ⟨ahead, hp, -⟩ | ⟨-, -, hp, -⟩ | ⟨-, -, hp, -⟩⟩ := issue?_cases h
  all_goals
    rw [hp.millis, hp.counter]
    omega

/-- In the range of the calendar a tick is computed without leaving 64 bits. -/
theorem toNat_tick {s : State} (h : s.millis.toNat ≤ Gregorian.lastMillis) :
    s.tick.toNat =
      Gregorian.unixEpoch.toNat + 10000 * s.millis.toNat + s.counter.toNat := by
  have hc := s.counter_lt
  rw [Gregorian.lastMillis] at h
  rw [tick, Gregorian.tick, UInt64.toNat_add, UInt64.toNat_add, UInt64.toNat_mul,
    Gregorian.toNat_unixEpoch, Gregorian.toNat_ticksPerMilli]
  omega

/-- The millisecond is found again in a tick. -/
theorem unixMillis_tick {s : State} (h : s.millis.toNat ≤ Gregorian.lastMillis) :
    Gregorian.unixMillis s.tick = s.millis := by
  have hc := s.counter_lt
  apply UInt64.toNat_inj.1
  rw [Gregorian.toNat_unixMillis, toNat_tick h]
  omega

/-- Words are ordered as their ticks. -/
theorem tick_lt_tick_iff {s t : State} (hs : s.millis.toNat ≤ Gregorian.lastMillis)
    (ht : t.millis.toNat ≤ Gregorian.lastMillis) : s.tick < t.tick ↔ s.word < t.word := by
  have hcs := s.counter_lt
  have hct := t.counter_lt
  rw [UInt64.lt_iff_toNat_lt, UInt64.lt_iff_toNat_lt, toNat_tick hs, toNat_tick ht, s.toNat_word,
    t.toNat_word]
  omega

end Clock.State
end UniqueId

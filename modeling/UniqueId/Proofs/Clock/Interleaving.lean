import UniqueId.Clock.Shared
import UniqueId.Proofs.Clock.Succession

/-! Threads that share a clock. Whatever the interleaving, the successful calls in the order of
their replacements are what a single caller is handed out on the same deciding readings: a thread
that replaces the word has looked at the wall clock with that very word in hand. -/
namespace UniqueId.Clock

theorem State.issue?_of_next? {s next : State} {now : UInt64} (h : (s.pass now).next? = some next) :
    ∃ events, s.issue? now = some ⟨next, now, events⟩ := by
  rw [State.issue?]
  cases hp : s.pass now with
  | adopt n =>
    rw [hp] at h
    cases h
    exact ⟨[], rfl⟩
  | count n =>
    rw [hp] at h
    cases h
    exact ⟨[], rfl⟩
  | carry n =>
    rw [hp] at h
    cases h
    exact ⟨_, rfl⟩
  | wait =>
    rw [hp] at h
    contradiction

theorem State.next?_of_issue? {s : State} {now : UInt64} {i : Issue} (h : s.issue? now = some i) :
    (s.pass now).next? = some i.state := by
  cases hp : (s.pass now).next? with
  | some next =>
    obtain ⟨events, hi⟩ := State.issue?_of_next? hp
    cases h.symm.trans hi
    rfl
  | none =>
    cases hq : s.pass now with
    | wait =>
      rw [State.issue?, hq] at h
      contradiction
    | adopt n | count n | carry n =>
      rw [hq] at hp
      contradiction

/-- What a thread wants to store is what a look decided with the state it had seen. -/
def Phase.Decided : Phase → Prop
  | swapping seen now next => (seen.pass now).next? = some next
  | _ => True

/-- The call began in the past and has kept to its looks. -/
structure Thread.Coherent (wins : Nat) (t : Thread) : Prop where
  since_le : t.since ≤ wins
  decided : t.phase.Decided

theorem Thread.Coherent.mono {m n : Nat} {t : Thread} (h : t.Coherent m) (hmn : m ≤ n) :
    t.Coherent n := ⟨Nat.le_trans h.since_le hmn, h.decided⟩

namespace Shared

/-- What a clock and its threads keep to: the wins are a succession from the first state. -/
structure Linear (s : State) (c : Shared) : Prop where
  coherent : ∀ t ∈ c.threads, t.Coherent c.wins.length
  since_le : ∀ (k : Nat) (h : k < c.wins.length), c.wins[k].since ≤ k
  succession : ∃ is, s.Yields is ∧ c.state = s.after is ∧
    c.wins.map (fun w => (w.reading, w.state)) = is.map fun i => (i.reading, i.state)

theorem linear_start (s : State) (n : Nat) : Linear s (start s n) where
  coherent t ht := by
    obtain ⟨-, rfl⟩ := List.mem_replicate.1 ht
    exact ⟨Nat.zero_le _, trivial⟩
  since_le k h := absurd h (Nat.not_lt_zero k)
  succession := ⟨[], trivial, rfl, rfl⟩

/-- A step changes one thread and nothing else, unless it is a successful replacement. -/
theorem act?_cases {c d : Shared} {thread : Nat} {step : Step}
    (hc : ∀ t ∈ c.threads, t.Coherent c.wins.length) (h : c.act? thread step = some d) :
    (∃ t, t.Coherent c.wins.length ∧ d = c.put thread t) ∨
    ∃ since seen now next, c.threads[thread]? = some ⟨.swapping seen now next, since⟩ ∧
      c.state = seen ∧
      d = { c.put thread ⟨.idle, since⟩ with
        state := next
        wins := c.wins ++ [⟨thread, since, now, next⟩] } := by
  cases ht : c.threads[thread]? with
  | none => simp [act?, ht] at h
  | some t =>
    have hco := hc t (List.mem_of_getElem? ht)
    obtain ⟨phase, since⟩ := t
    have hs : since ≤ c.wins.length := hco.since_le
    cases phase with
    | idle =>
      cases step with
      | call =>
        simp only [act?, ht] at h
        cases h
        exact .inl ⟨⟨.loading, c.wins.length⟩, ⟨Nat.le_refl _, trivial⟩, rfl⟩
      | load | look now | swap spurious => simp [act?, ht] at h
    | loading =>
      cases step with
      | load =>
        simp only [act?, ht] at h
        cases h
        exact .inl ⟨⟨.looking c.state, since⟩, ⟨hs, trivial⟩, rfl⟩
      | call | look now | swap spurious => simp [act?, ht] at h
    | looking seen =>
      cases step with
      | look now =>
        simp only [act?, ht] at h
        cases hp : (seen.pass now).next? with
        | some next =>
          rw [hp] at h
          cases h
          exact .inl ⟨⟨.swapping seen now next, since⟩, ⟨hs, hp⟩, rfl⟩
        | none =>
          rw [hp] at h
          cases h
          exact .inl ⟨⟨.loading, since⟩, ⟨hs, trivial⟩, rfl⟩
      | call | load | swap spurious => simp [act?, ht] at h
    | swapping seen now next =>
      cases step with
      | swap spurious =>
        simp only [act?, ht] at h
        by_cases hw : c.state = seen ∧ spurious = false
        · rw [if_pos hw] at h
          exact .inr ⟨since, seen, now, next, rfl, hw.1, (Option.some.inj h).symm⟩
        · rw [if_neg hw] at h
          cases h
          exact .inl ⟨⟨.looking c.state, since⟩, ⟨hs, trivial⟩, rfl⟩
      | call | load | look now => simp [act?, ht] at h

theorem coherent_put {c : Shared} {n thread : Nat} {t : Thread}
    (hc : ∀ u ∈ c.threads, u.Coherent n) (ht : t.Coherent n) :
    ∀ u ∈ (c.put thread t).threads, u.Coherent n := by
  intro u hu
  rcases List.mem_or_eq_of_mem_set hu with hu | rfl
  · exact hc u hu
  · exact ht

theorem linear_act {s : State} {c d : Shared} {thread : Nat} {step : Step} (hc : Linear s c)
    (h : c.act? thread step = some d) : Linear s d := by
  obtain ⟨t, ht, rfl⟩ | ⟨since, seen, now, next, ht, rfl, rfl⟩ := act?_cases hc.coherent h
  · exact ⟨coherent_put hc.coherent ht, hc.since_le, hc.succession⟩
  have hco := hc.coherent _ (List.mem_of_getElem? ht)
  obtain ⟨is, hy, hs, hw⟩ := hc.succession
  obtain ⟨events, hi⟩ := State.issue?_of_next? hco.decided
  refine ⟨?_, ?_, is ++ [⟨next, now, events⟩], State.yields_concat hy (hs ▸ hi), by simp, ?_⟩
  · have hlt : c.wins.length ≤ (c.wins ++ [(⟨thread, since, now, next⟩ : Win)]).length := by simp
    exact coherent_put (fun u hu => (hc.coherent u hu).mono hlt)
      ⟨Nat.le_trans hco.since_le hlt, trivial⟩
  · intro k hk
    by_cases hlast : k < c.wins.length
    · rw [List.getElem_append_left hlast]
      exact hc.since_le k hlast
    · have hk' : k < c.wins.length + 1 := by simpa using hk
      have he : k = c.wins.length := by omega
      subst he
      simpa using hco.since_le
  · rw [List.map_append, List.map_append, hw]
    rfl

/-- What every step keeps to, a sequence of steps keeps to. -/
theorem run?_keeps {P : Shared → Prop}
    (keeps : ∀ {c d : Shared} {thread : Nat} {step : Step}, P c → c.act? thread step = some d → P d)
    {c d : Shared} {steps : List (Nat × Step)} (hc : P c) (h : c.run? steps = some d) : P d := by
  induction steps generalizing c with
  | nil =>
    cases h
    exact hc
  | cons a steps ih =>
    obtain ⟨e, he, hd⟩ := Option.bind_eq_some_iff.1 h
    exact ih (keeps hc he) hd

theorem linear_run {s : State} {c d : Shared} {steps : List (Nat × Step)} (hc : Linear s c)
    (h : c.run? steps = some d) : Linear s d := run?_keeps linear_act hc h

/-- Wins and issues that agree in the reading and the state agree in all that these two decide. -/
theorem map_agree {α : Type} (f : UInt64 × State → α) {wins : List Win} {is : List Issue}
    (h : wins.map (fun w => (w.reading, w.state)) = is.map fun i => (i.reading, i.state)) :
    wins.map (fun w => f (w.reading, w.state)) = is.map fun i => f (i.reading, i.state) := by
  have he := congrArg (List.map f) h
  rwa [List.map_map, List.map_map] at he

/-- The wins are a run on the readings that decided them. -/
theorem Linear.exists_run {s : State} {c : Shared} (h : Linear s c) :
    ∃ r, s.run c.wins.length (c.wins.map Win.reading) = (r, []) ∧ r.exhausted = false ∧
      r.ticks = c.wins.map Win.tick ∧ r.state = c.state := by
  obtain ⟨is, hy, hs, hw⟩ := h.succession
  have hreading : c.wins.map Win.reading = is.map Issue.reading := map_agree Prod.fst hw
  have htick : c.wins.map Win.tick = is.map Issue.tick := map_agree (fun p => p.2.tick) hw
  have hlength : c.wins.length = is.length := by simpa using congrArg List.length hw
  refine ⟨⟨is, s.after is, false⟩, ?_, rfl, htick.symm, hs.symm⟩
  rw [hlength, hreading, State.run_of_yields hy]

/-- The wins of any interleaving are the ticks that one caller is handed out on the deciding
readings, in the same order. Within the calendar none of them leaves 64 bits, they increase, and a
call that began after another had its tick gets a greater one. -/
theorem wins_eq_run (s : State) (n : Nat) {steps : List (Nat × Step)} {c : Shared}
    (h : (start s n).run? steps = some c) :
    (∃ r, s.run c.wins.length (c.wins.map Win.reading) = (r, []) ∧ r.exhausted = false ∧
      r.ticks = c.wins.map Win.tick ∧ r.state = c.state) ∧
    ((∀ w ∈ c.wins, w.reading.toNat ≤ Gregorian.lastMillis ∧
        w.state.millis.toNat ≤ Gregorian.lastMillis) →
      (∀ w ∈ c.wins, w.tick.toNat =
        Gregorian.unixEpoch.toNat + 10000 * w.state.millis.toNat + w.state.counter.toNat) ∧
      (c.wins.map Win.tick).Pairwise (· < ·) ∧
      ∀ (i j : Nat) (hi : i < c.wins.length) (hj : j < c.wins.length),
        i < c.wins[j].since → c.wins[i].tick < c.wins[j].tick) := by
  have hl := linear_run (linear_start s n) h
  refine ⟨hl.exists_run, ?_⟩
  obtain ⟨is, hy, -, hw⟩ := hl.succession
  have htick : c.wins.map Win.tick = is.map Issue.tick := map_agree (fun p => p.2.tick) hw
  intro hb
  have hwithin : ∀ i ∈ is, i.Within Gregorian.lastMillis := by
    intro i hi
    have hm := List.mem_map_of_mem (f := fun i => (i.reading, i.state)) hi
    rw [← hw] at hm
    obtain ⟨w, hwm, he⟩ := List.mem_map.1 hm
    obtain ⟨hr, hst⟩ := Prod.mk.inj he
    rw [Issue.Within, ← hr, ← hst]
    exact hb w hwm
  have hincreasing : (c.wins.map Win.tick).Pairwise (· < ·) := by
    rw [htick]
    exact State.tick_lt_of_yields hy hwithin
  refine ⟨fun w hwm => State.toNat_tick (hb w hwm).2, hincreasing, ?_⟩
  intro i j hi hj hij
  have hlt : i < j := Nat.lt_of_lt_of_le hij (hl.since_le j hj)
  have hp := List.pairwise_iff_getElem.1 hincreasing i j (by simpa using hi) (by simpa using hj) hlt
  rwa [List.getElem_map, List.getElem_map] at hp

/-- Two threads look at the same millisecond. The second wins; the first finds the word changed,
fails once more for no reason and sees the wall clock go back before it wins. -/
def contest : List (Nat × Step) :=
  [(0, .call), (0, .load), (1, .call), (1, .load), (0, .look 5), (1, .look 5), (1, .swap false),
    (0, .swap false), (0, .look 5), (0, .swap true), (0, .look 4), (0, .swap false),
    (1, .call), (1, .load), (1, .look 5), (1, .swap false)]

def contested : Shared where
  state := ⟨5122⟩
  threads := [⟨.idle, 0⟩, ⟨.idle, 2⟩]
  wins := [⟨1, 0, 5, ⟨5120⟩⟩, ⟨0, 0, 4, ⟨5121⟩⟩, ⟨1, 2, 5, ⟨5122⟩⟩]

theorem wins_eq_run_contest :
    (start .initial 2).run? contest = some contested ∧
      (contested.wins.map Win.tick).Pairwise (· < ·) ∧
      contested.wins[1].tick < contested.wins[2].tick := by
  have h : (start .initial 2).run? contest = some contested := by decide
  have increasing := ((wins_eq_run .initial 2 h).2 (by decide)).2
  exact ⟨h, increasing.1, increasing.2 1 2 (by decide) (by decide) (by decide)⟩

end Shared
end UniqueId.Clock

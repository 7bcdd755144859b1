import UniqueId.Proofs.Clock.Waiting
import UniqueId.Proofs.Clock.Readings

/-! One thread alone with a clock. A replacement of the word may still fail for no reason, and the
thread then looks again, with the same state in hand. So whatever fails, what the thread is handed
out is a run of a clock that has one caller, on the readings that decided; and every such run is
what the thread does when none of its replacements fails. -/
namespace UniqueId.Clock

namespace Shared

/-- The threads are as many as at the start, and every tick went to one of them. -/
structure Among (n : Nat) (c : Shared) : Prop where
  length_threads : c.threads.length = n
  thread_lt : ∀ w ∈ c.wins, w.thread < n

theorem among_start (s : State) (n : Nat) : Among n (start s n) :=
  ⟨List.length_replicate, fun _ mem => absurd mem List.not_mem_nil⟩

theorem among_act {s : State} {n : Nat} {c d : Shared} {thread : Nat} {step : Step}
    (hl : Linear s c) (hc : Among n c) (h : c.act? thread step = some d) : Among n d := by
  have same (t : Thread) : (c.put thread t).threads.length = n :=
    List.length_set.trans hc.length_threads
  obtain ⟨t, -, rfl⟩ | ⟨since, seen, now, next, ht, -, rfl⟩ := act?_cases hl.coherent h
  · exact ⟨same t, hc.thread_lt⟩
  obtain ⟨lt, -⟩ := List.getElem?_eq_some_iff.1 ht
  refine ⟨same _, ?_⟩
  intro w mem
  rcases List.mem_append.1 mem with mem | mem
  · exact hc.thread_lt w mem
  · cases List.mem_singleton.1 mem
    exact hc.length_threads ▸ lt

/-- Whatever the wall clock shows, and however often a replacement fails for no reason, a thread
that is alone with the clock is handed out a run of it. -/
theorem ticksOf_eq_run {s : State} {steps : List (Nat × Step)} {c : Shared}
    (h : (start s 1).run? steps = some c) :
    ∃ r, s.run c.wins.length (c.wins.map Win.reading) = (r, []) ∧ r.exhausted = false ∧
      r.ticks = c.ticksOf 0 ∧ r.state = c.state := by
  obtain ⟨linear, among⟩ : Linear s c ∧ Among 1 c :=
    run?_keeps (P := fun c => Linear s c ∧ Among 1 c)
      (fun hc hd => ⟨linear_act hc.1 hd, among_act hc.1 hc.2 hd⟩)
      ⟨linear_start s 1, among_start s 1⟩ h
  have all : c.ticksOf 0 = c.wins.map Win.tick := by
    rw [ticksOf, List.filter_eq_self.2]
    intro w mem
    exact decide_eq_true (Nat.lt_one_iff.1 (among.thread_lt w mem))
  rw [all]
  exact linear.exists_run

/-- A clock whose thread has just been handed out a tick, with the state that it stored. -/
def served (c : Shared) (thread since : Nat) (now : UInt64) (next : State) : Shared :=
  { c.put thread ⟨.idle, since⟩ with
    state := next
    wins := c.wins ++ [⟨thread, since, now, next⟩] }

theorem ticksOf_served (c : Shared) (thread since : Nat) (now : UInt64) (next : State) :
    (c.served thread since now next).ticksOf thread = c.ticksOf thread ++ [next.tick] := by
  simp [ticksOf, served, Win.tick]

/-- The readings that some steps look at. -/
def looks (steps : List (Nat × Step)) : List UInt64 :=
  steps.filterMap fun
    | (_, .look now) => some now
    | _ => none

@[simp] theorem looks_append (as bs : List (Nat × Step)) :
    looks (as ++ bs) = looks as ++ looks bs := List.filterMap_append

@[simp] theorem looks_spin (thread : Nat) (waited : List UInt64) :
    looks (spin thread waited) = waited := by
  induction waited with
  | nil => rfl
  | cons now waited ih =>
    rw [spin, List.flatMap_cons, looks_append]
    exact congrArg (now :: ·) ih

/-- No replacement fails for no reason. -/
def Undisturbed (steps : List (Nat × Step)) : Prop := ∀ thread, (thread, .swap true) ∉ steps

/-- A look that hands out a tick, and the replacement that succeeds. -/
theorem run?_stores {c : Shared} {thread since : Nat} {now : UInt64} {i : Issue}
    (at_load : c.threads[thread]? = some ⟨.loading, since⟩) (hi : c.state.issue? now = some i) :
    c.run? [(thread, .load), (thread, .look now), (thread, .swap false)] =
      some (c.served thread since now i.state) := by
  have loaded : c.act? thread .load = some (c.put thread ⟨.looking c.state, since⟩) := by
    simp only [act?, at_load]
  have looked : (c.put thread ⟨.looking c.state, since⟩).act? thread (.look now) =
      some (c.put thread ⟨.swapping c.state now i.state, since⟩) := by
    simp only [act?, getElem?_put at_load, State.next?_of_issue? hi, put_put]
  have stored : (c.put thread ⟨.swapping c.state now i.state, since⟩).act? thread (.swap false) =
      some (c.served thread since now i.state) := by
    simp only [act?, getElem?_put at_load, put_put]
    exact if_pos ⟨rfl, trivial⟩
  rw [run?, loaded, Option.bind_some, run?, looked, Option.bind_some, run?, stored]
  rfl

/-- The steps of a call that waits for some readings and gets its tick on the next one. -/
def calls (thread : Nat) (waited : List UInt64) (now : UInt64) : List (Nat × Step) :=
  (thread, .call) ::
    (spin thread waited ++ [(thread, .load), (thread, .look now), (thread, .swap false)])

theorem run?_call {c : Shared} {thread since : Nat}
    (at_rest : c.threads[thread]? = some ⟨.idle, since⟩) (steps : List (Nat × Step)) :
    c.run? ((thread, .call) :: steps) = (c.put thread ⟨.loading, c.wins.length⟩).run? steps := by
  rw [run?]
  simp only [act?, at_rest, Option.bind_some]

theorem run?_calls {c : Shared} {thread since : Nat} {waited : List UInt64} {now : UInt64}
    {i : Issue} (at_rest : c.threads[thread]? = some ⟨.idle, since⟩)
    (hw : ∀ now ∈ waited, c.state.issue? now = none) (hi : c.state.issue? now = some i) :
    c.run? (calls thread waited now) = some (c.served thread c.wins.length now i.state) := by
  have at_load := getElem?_put at_rest ⟨.loading, c.wins.length⟩
  rw [calls, run?_call at_rest, run?_append, run?_spin at_load hw, Option.bind_some,
    run?_stores at_load hi]
  rw [served, put_put]
  rfl

theorem looks_calls (thread : Nat) (waited : List UInt64) (now : UInt64) :
    looks (calls thread waited now) = waited ++ [now] := by
  refine (looks_append (spin thread waited) _).trans ?_
  rw [looks_spin]
  rfl

theorem undisturbed_calls (thread : Nat) (waited : List UInt64) (now : UInt64) :
    Undisturbed (calls thread waited now) := by
  simp [Undisturbed, calls, spin]

/-- Whatever run a clock is asked for, a thread at rest makes its calls without a replacement that
fails: it looks at the same readings, and is handed out the same ticks. -/
theorem exists_undisturbed {c : Shared} {thread since : Nat}
    (at_rest : c.threads[thread]? = some ⟨.idle, since⟩) (n : Nat) (readings : List UInt64) :
    ∃ steps d, c.run? steps = some d ∧ Undisturbed steps ∧
      looks steps = c.state.taken n readings ∧ d.state = (c.state.run n readings).1.state ∧
      d.ticksOf thread = c.ticksOf thread ++ (c.state.run n readings).1.ticks := by
  induction n generalizing c since readings with
  | zero =>
    refine ⟨[], c, rfl, fun _ => List.not_mem_nil, ?_, rfl, (List.append_nil _).symm⟩
    rw [State.taken_zero]
    rfl
  | succ n ih =>
    cases hn : c.state.next? readings with
    | none =>
      -- the call begins and never has a tick
      have waits := State.next?_eq_none_iff.1 hn
      refine ⟨(thread, .call) :: spin thread readings, c.put thread ⟨.loading, c.wins.length⟩,
        ?_, ?_, ?_, ?_, ?_⟩
      · rw [run?_call at_rest]
        exact run?_spin (getElem?_put at_rest _) waits
      · simp [Undisturbed, spin]
      · rw [State.taken_of_next?_eq_none hn]
        exact looks_spin thread readings
      · rw [State.run, hn]
        rfl
      · rw [State.run, hn]
        exact (List.append_nil _).symm
    | some r =>
      obtain ⟨i, rest⟩ := r
      obtain ⟨waited, rfl, hw, hi⟩ := State.next?_eq_some hn
      have first := run?_calls at_rest hw hi
      have rests : (c.served thread c.wins.length i.reading i.state).threads[thread]? =
          some ⟨.idle, c.wins.length⟩ := getElem?_put at_rest _
      obtain ⟨later, d, hd, calm, seen, ends, ticks⟩ := ih rests rest
      refine ⟨calls thread waited i.reading ++ later, d, ?_, ?_, ?_, ?_, ?_⟩
      · rw [run?_append, first]
        exact hd
      · intro other mem
        rcases List.mem_append.1 mem with mem | mem
        · exact undisturbed_calls thread waited i.reading other mem
        · exact calm other mem
      · rw [looks_append, looks_calls, seen, State.taken_succ hn, List.append_assoc]
        rfl
      · rw [ends, State.run, hn]
        rfl
      · rw [ticks, ticksOf_served, State.run, hn, List.append_assoc]
        rfl

end Shared
end UniqueId.Clock

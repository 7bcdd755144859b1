import UniqueId.Clock.Run

/-! A wall clock that may stand still for long. Its readings are given in spans, each of one
millisecond and a number of looks. A clock that has to wait skips what is left of a span, since
every look in it shows the same; `next?_readings` and `run_readings` say that it hands out what it
would hand out look by look. -/
namespace UniqueId.Clock

/-- A number of looks at the wall clock that all show one millisecond. -/
structure Span where
  millis : UInt64
  looks : Nat
  deriving DecidableEq, Repr

/-- What the wall clock is going to show, span after span. -/
abbrev Timeline := List Span

namespace Timeline

/-- The readings, look by look. -/
def readings (t : Timeline) : List UInt64 := t.flatMap fun s => List.replicate s.looks s.millis

@[simp] theorem readings_nil : readings [] = [] := rfl

@[simp] theorem readings_cons (s : Span) (t : Timeline) :
    readings (s :: t) = List.replicate s.looks s.millis ++ readings t := rfl

end Timeline

/-- Looks at the wall clock until a tick can be handed out, a whole span at a time while waiting. -/
def State.nextAlong? (s : State) : Timeline → Option (Issue × Timeline)
  | [] => none
  | ⟨_, 0⟩ :: later => s.nextAlong? later
  | ⟨now, looks + 1⟩ :: later =>
    match s.issue? now with
    | some i => some (i, ⟨now, looks⟩ :: later)
    | none => s.nextAlong? later

/-- Calls the clock up to `n` times after the calls in `done`, of which the last comes first. -/
def State.runAfter (done : List Issue) (s : State) : Nat → Timeline → Run × Timeline
  | 0, t => (⟨done.reverse, s, false⟩, t)
  | n + 1, t =>
    match s.nextAlong? t with
    | none => (⟨done.reverse, s, true⟩, [])
    | some (i, rest) => runAfter (i :: done) i.state n rest

/-- Calls the clock up to `n` times, stopping where the timeline ends. -/
def State.runAlong (s : State) (n : Nat) (t : Timeline) : Run × Timeline := s.runAfter [] n t

namespace State

/-- Where one look has to wait, so have any number of them. -/
theorem next?_replicate_append (s : State) {now : UInt64} (h : s.issue? now = none) (n : Nat)
    (rest : List UInt64) : s.next? (List.replicate n now ++ rest) = s.next? rest := by
  induction n with
  | zero => rfl
  | succ n ih => rw [List.replicate_succ, List.cons_append, next?_cons, h, ih]; rfl

/-- One call along a timeline does what it does on the readings. -/
theorem next?_readings (s : State) (t : Timeline) :
    s.next? t.readings = (s.nextAlong? t).map fun r => (r.1, Timeline.readings r.2) := by
  induction t with
  | nil => rfl
  | cons span later ih =>
    obtain ⟨now, looks⟩ := span
    cases looks with
    | zero => simpa [nextAlong?] using ih
    | succ looks =>
      rw [nextAlong?, Timeline.readings_cons, List.replicate_succ, List.cons_append, next?_cons]
      cases h : s.issue? now with
      | some i => rfl
      | none => simpa [s.next?_replicate_append h] using ih

theorem runAfter_eq (s : State) (done : List Issue) (n : Nat) (t : Timeline) :
    s.runAfter done n t =
      ({ (s.runAlong n t).1 with issues := done.reverse ++ (s.runAlong n t).1.issues },
        (s.runAlong n t).2) := by
  induction n generalizing s done t with
  | zero => simp [runAlong, runAfter]
  | succ n ih =>
    rw [runAlong, runAfter, runAfter]
    cases s.nextAlong? t with
    | none => simp
    | some r =>
      simp only
      rw [ih r.1.state (r.1 :: done), ih r.1.state [r.1]]
      simp

/-- Calls along a timeline hand out what they hand out on the readings. -/
theorem run_readings (s : State) (n : Nat) (t : Timeline) :
    s.run n t.readings = ((s.runAlong n t).1, Timeline.readings (s.runAlong n t).2) := by
  induction n generalizing s t with
  | zero => rfl
  | succ n ih =>
    rw [run, next?_readings, runAlong, runAfter]
    cases s.nextAlong? t with
    | none => rfl
    | some r =>
      simp only [Option.map_some]
      rw [ih, runAfter_eq]
      rfl

end State
end UniqueId.Clock

import UniqueId.Clock.Basic
import UniqueId.Event

/-! A clock used by one caller. The readings of the wall clock are a list; every look takes one of
them. A call that runs out of readings has no result and leaves the state alone.

A reading is a number of milliseconds since the Unix epoch. A wall clock that is set before the
epoch ends the program, and no reading stands for it.

Nobody else stores a state, so a replacement of the word is taken to succeed at once. A replacement
may fail for no reason all the same, and the call then looks again: such failures are steps of
`Shared`, where `ticksOf_eq_run` and `exists_undisturbed` say what one thread is handed out. -/
namespace UniqueId.Clock

/-- A tick handed out: the state after it, the reading that decided, and what was reported. -/
structure Issue where
  state : State
  reading : UInt64
  events : List Event
  deriving DecidableEq, Repr

def Issue.tick (i : Issue) : UInt64 := i.state.tick

/-- What one look at the wall clock hands out; nothing if it has to wait. -/
def State.issue? (s : State) (now : UInt64) : Option Issue :=
  match s.pass now with
  | .adopt next => some ⟨next, now, []⟩
  | .count next => some ⟨next, now, []⟩
  | .carry next => some ⟨next, now, [.clockCarried now s.millis]⟩
  | .wait => none

/-- Looks at the wall clock until a tick can be handed out, and stores its state at the first try.
The readings that are left come with it. -/
def State.next? (s : State) : List UInt64 → Option (Issue × List UInt64)
  | [] => none
  | now :: rest =>
    match s.issue? now with
    | some i => some (i, rest)
    | none => s.next? rest

/-- Several calls in a row: what they handed out, the state afterwards, and whether the readings
ran out. -/
structure Run where
  issues : List Issue
  state : State
  exhausted : Bool
  deriving DecidableEq, Repr

namespace Run

def ticks (r : Run) : List UInt64 := r.issues.map Issue.tick

def events (r : Run) : List Event := r.issues.flatMap Issue.events

/-- The run with a call before it. -/
def cons (i : Issue) (r : Run) : Run := { r with issues := i :: r.issues }

end Run

/-- Calls the clock up to `n` times, stopping where the readings run out. The readings that are
left come with the run. -/
def State.run (s : State) : Nat → List UInt64 → Run × List UInt64
  | 0, readings => (⟨[], s, false⟩, readings)
  | n + 1, readings =>
    match s.next? readings with
    | none => (⟨[], s, true⟩, [])
    | some (i, rest) =>
      let later := i.state.run n rest
      (later.1.cons i, later.2)

@[simp] theorem State.next?_nil (s : State) : s.next? [] = none := rfl

/-- A look that hands out nothing leads to the next look. -/
theorem State.next?_cons (s : State) (now : UInt64) (rest : List UInt64) :
    s.next? (now :: rest) = ((s.issue? now).map (·, rest)).or (s.next? rest) := by
  rw [State.next?]
  cases s.issue? now <;> rfl

@[simp] theorem State.run_zero (s : State) (readings : List UInt64) :
    s.run 0 readings = (⟨[], s, false⟩, readings) := rfl

end UniqueId.Clock

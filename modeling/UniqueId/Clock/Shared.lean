import UniqueId.Clock.Basic

/-! A clock used by several threads at once. The threads share the state word and nothing else.
Each call loads the word, looks at the wall clock, and tries to replace the word it saw; the try
fails if the word has changed, and may fail for no reason. Every interleaving of these steps is a
list of actions. -/
namespace UniqueId.Clock

/-- How far a thread is with its call. -/
inductive Phase where
  /-- Not in a call. -/
  | idle
  /-- About to load the state. -/
  | loading
  /-- About to look at the wall clock, having seen a state. -/
  | looking (seen : State)
  /-- About to replace the state that was seen, after a look that showed `now`. -/
  | swapping (seen : State) (now : UInt64) (next : State)
  deriving DecidableEq, Repr

/-- A step of one thread. -/
inductive Step where
  | call
  | load
  /-- The wall clock shows `now`. -/
  | look (now : UInt64)
  /-- A spurious failure is one for no reason. -/
  | swap (spurious : Bool)
  deriving DecidableEq, Repr

/-- A thread, and how many calls had succeeded when its current call began. -/
structure Thread where
  phase : Phase
  since : Nat
  deriving DecidableEq, Repr

/-- A successful call: the thread, how many calls had succeeded when it began, the deciding
reading, and the state that it stored. -/
structure Win where
  thread : Nat
  since : Nat
  reading : UInt64
  state : State
  deriving DecidableEq, Repr

def Win.tick (w : Win) : UInt64 := w.state.tick

/-- The shared state, the threads, and the successful calls in the order of their replacements. -/
structure Shared where
  state : State
  threads : List Thread
  wins : List Win
  deriving DecidableEq, Repr

namespace Shared

/-- A clock in a given state and `n` threads outside any call. -/
def start (s : State) (n : Nat) : Shared := ⟨s, List.replicate n ⟨.idle, 0⟩, []⟩

/-- The thread with the given number is now another. -/
def put (c : Shared) (thread : Nat) (t : Thread) : Shared :=
  { c with threads := c.threads.set thread t }

/-- One step of one thread; none if the thread is not at such a step. -/
def act? (c : Shared) (thread : Nat) (step : Step) : Option Shared :=
  match c.threads[thread]?, step with
  | some ⟨.idle, _⟩, .call => some (c.put thread ⟨.loading, c.wins.length⟩)
  | some ⟨.loading, since⟩, .load => some (c.put thread ⟨.looking c.state, since⟩)
  | some ⟨.looking seen, since⟩, .look now =>
    match (seen.pass now).next? with
    | some next => some (c.put thread ⟨.swapping seen now next, since⟩)
    | none => some (c.put thread ⟨.loading, since⟩)
  | some ⟨.swapping seen now next, since⟩, .swap spurious =>
    if c.state = seen ∧ spurious = false then
      some { c.put thread ⟨.idle, since⟩ with
        state := next
        wins := c.wins ++ [⟨thread, since, now, next⟩] }
    else some (c.put thread ⟨.looking c.state, since⟩)
  | _, _ => none

/-- A sequence of steps, each of some thread; none if one of them is not possible. -/
def run? (c : Shared) : List (Nat × Step) → Option Shared
  | [] => some c
  | (thread, step) :: rest => (c.act? thread step).bind fun d => d.run? rest

/-- What a thread was handed out, in order. -/
def ticksOf (c : Shared) (thread : Nat) : List UInt64 :=
  (c.wins.filter fun w => w.thread = thread).map Win.tick

/-- The steps of one undisturbed call while the wall clock stands at `now`. -/
def turn (now : UInt64) (thread : Nat) : List (Nat × Step) :=
  [.call, .load, .look now, .swap false].map fun step => (thread, step)

/-- Every thread makes a call in its turn, and so round by round. -/
def turns (threads rounds : Nat) (now : UInt64) : List (Nat × Step) :=
  (List.replicate rounds ((List.range threads).flatMap (turn now))).flatten

/-- The threads take turns on a new clock; none if the wall clock stands still for too many
calls. -/
def takeTurns? (threads rounds : Nat) (now : UInt64) : Option Shared :=
  (start .initial threads).run? (turns threads rounds now)

@[simp] theorem run?_nil (c : Shared) : c.run? [] = some c := rfl

theorem run?_append (c : Shared) (as bs : List (Nat × Step)) :
    c.run? (as ++ bs) = (c.run? as).bind fun d => d.run? bs := by
  induction as generalizing c with
  | nil => rfl
  | cons a as ih =>
    simp only [List.cons_append, run?]
    cases c.act? a.1 a.2 with
    | none => rfl
    | some d => exact ih d

end Shared
end UniqueId.Clock

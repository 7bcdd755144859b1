import UniqueId.Clock.Run
import UniqueId.Node.Derivation
import UniqueId.RandomBased
import UniqueId.TimeBased

/-! A running program that makes identifiers: its surroundings, which may change between calls, the
clock that all its calls share, and the identity that it derived, once it has one. A failed
derivation is not kept, so the next call tries again. -/
namespace UniqueId

/-- The surroundings of a program, the random words and the readings of the wall clock that lie
ahead of it, and what it keeps: the state of its clock and its identity. The readings are
milliseconds since the Unix epoch. A wall clock that is set before the epoch is left out: it ends
the program at the first look. -/
structure Generator where
  network : Network
  draws : Draws
  readings : List UInt64
  clock : Clock.State
  identity : Option NodeIdentity
  deriving DecidableEq, Repr

/-- The parts of the surroundings that change; the others stay as they are. -/
structure Change where
  hostName : Option String := none
  known : Option (Option (List IpAddress)) := none
  interfaces : Option (Option (List HardwareAddress)) := none
  draws : Option Draws := none
  readings : Option (List UInt64) := none
  deriving DecidableEq, Repr

/-- The result of a call, the program after it, and what was reported. -/
structure Outcome (α : Type) where
  result : Except Failure α
  generator : Generator
  events : List Event

namespace Outcome

/-- Goes on with the result of a call that had one. -/
def andThen {α β : Type} (o : Outcome α) (f : α → Generator → Outcome β) : Outcome β :=
  match o.result with
  | .ok a =>
    let next := f a o.generator
    { next with events := o.events ++ next.events }
  | .error e => ⟨.error e, o.generator, o.events⟩

def map {α β : Type} (f : α → β) (o : Outcome α) : Outcome β :=
  ⟨o.result.map f, o.generator, o.events⟩

def mapFailure {α : Type} (f : Failure → Failure) (o : Outcome α) : Outcome α :=
  ⟨o.result.mapError f, o.generator, o.events⟩

end Outcome

namespace Generator

/-- A program that has just started, in surroundings where nothing can be found out. -/
def start : Generator := ⟨.isolated, [], [], .initial, none⟩

/-- The same program in changed surroundings. -/
def change (g : Generator) (c : Change) : Generator :=
  { g with
    network :=
      { hostName := c.hostName.getD g.network.hostName
        known := c.known.getD g.network.known
        interfaces := c.interfaces.getD g.network.interfaces }
    draws := c.draws.getD g.draws
    readings := c.readings.getD g.readings }

/-- An attempt to derive an identity from the host and a draw. -/
def deriveIdentity (g : Generator) : Outcome NodeIdentity :=
  let d := NodeIdentity.deriveFromHost g.network.host g.draws
  ⟨d.result, { g with draws := d.draws }, d.events⟩

/-- The identity that is kept or, if there is none, the outcome of an attempt to make one.

This is what the library expects of the cell that keeps the identity, and is not a part of it. A
full cell gives what it holds, makes no attempt and is never emptied. An empty one makes one
attempt, and is filled if that succeeds and left empty if it fails. Of several callers at once one
makes the attempt and the others wait for it, so the calls can be put one after another. -/
def identityOr (g : Generator) (attempt : Generator → Outcome NodeIdentity) :
    Outcome NodeIdentity :=
  match g.identity with
  | some id => ⟨.ok id, g, []⟩
  | none =>
    let o := attempt g
    match o.result with
    | .ok id => { o with generator := { o.generator with identity := some id } }
    | .error _ => o

/-- The identity of the program, derived by the first call that can. -/
def currentIdentity (g : Generator) : Outcome NodeIdentity := g.identityOr deriveIdentity

/-- The next tick of the shared clock. Without a reading that decides there is none yet: the call
would go on waiting. -/
def tick (g : Generator) : Outcome UInt64 :=
  match g.clock.next? g.readings with
  | some (i, rest) => ⟨.ok i.tick, { g with clock := i.state, readings := rest }, i.events⟩
  | none => ⟨.error .readingsExhausted, { g with readings := [] }, []⟩

/-- A time-based identifier for a given identity. -/
def mintFor (id : NodeIdentity) (g : Generator) : Outcome TimeBased :=
  g.tick.map (TimeBased.mint id)

/-- A time-based identifier for the identity of the program. -/
def mint (g : Generator) : Outcome TimeBased :=
  g.currentIdentity.andThen fun id g => g.mintFor id

/-- A time-based identifier; without an identity the program ends. -/
def mintOrAbort (g : Generator) : Outcome TimeBased :=
  g.mint.mapFailure fun
    | .unavailable why => .aborted why
    | e => e

/-- A random identifier. -/
def drawRandom (g : Generator) : Outcome RandomBased :=
  match RandomBased.draw g.draws with
  | (some v, rest) => ⟨.ok v, { g with draws := rest }, []⟩
  | (none, rest) => ⟨.error .drawsExhausted, { g with draws := rest }, []⟩

/-- What can be asked of a program. -/
inductive Call where
  | currentIdentity
  | mint
  | mintOrAbort
  | mintFor (id : NodeIdentity)
  | tick
  | drawRandom
  deriving DecidableEq, Repr

/-- What a call has as its result. -/
inductive Answer where
  | identity (id : NodeIdentity)
  | minted (v : TimeBased)
  | tick (t : UInt64)
  | drawn (v : RandomBased)
  deriving DecidableEq, Repr

/-- Does what is asked. -/
def call (g : Generator) : Call → Outcome Answer
  | .currentIdentity => g.currentIdentity.map .identity
  | .mint => g.mint.map .minted
  | .mintOrAbort => g.mintOrAbort.map .minted
  | .mintFor id => (g.mintFor id).map .minted
  | .tick => g.tick.map .tick
  | .drawRandom => g.drawRandom.map .drawn

/-- A change of the surroundings and the call that follows it, time and again. -/
def run (g : Generator) : List (Change × Call) → List (Outcome Answer)
  | [] => []
  | (c, request) :: rest =>
    let o := (g.change c).call request
    o :: o.generator.run rest

end Generator
end UniqueId

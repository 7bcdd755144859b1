import UniqueId.Generator
import UniqueId.Proofs.Clock.Succession
import UniqueId.Proofs.Node.Derivation
import UniqueId.Proofs.TimeBased.Fields

/-! What each call of a program depends on and what it changes. A call that asks for the identity
first finds it, in the cache or by a derivation, and then proceeds under it; proceeding takes a
tick at most and never looks at the network, the draws or the cache. -/
namespace UniqueId

/-- The clock of a program in another program: the network, the draws and the cache differ. -/
def Generator.transplant (g : Generator) (network : Network) (draws : Draws)
    (identity : Option NodeIdentity) : Generator :=
  { g with network := network, draws := draws, identity := identity }

def Outcome.transplant {α : Type} (o : Outcome α) (network : Network) (draws : Draws)
    (identity : Option NodeIdentity) : Outcome α :=
  { o with generator := o.generator.transplant network draws identity }

namespace Generator

/-- The call is made under the identity of the program. -/
def Call.AsksIdentity (q : Call) : Prop := q = .currentIdentity ∨ q = .mint ∨ q = .mintOrAbort

/-- What a call does once the identity is there. -/
def Call.proceed (q : Call) (id : NodeIdentity) (g : Generator) : Outcome Answer :=
  match q with
  | .mint | .mintOrAbort => (g.mintFor id).map .minted
  | _ => ⟨.ok (.identity id), g, []⟩

/-- How a call fails for want of an identity. -/
def Call.refusal : Call → Failure → Failure
  | .mintOrAbort, .unavailable why => .aborted why
  | _, e => e

/-- The answer was given under an identity. -/
def Answer.Under (id : NodeIdentity) : Answer → Prop
  | .identity i => i = id
  | .minted v => (∃ tick, v = TimeBased.mint id tick) ∧ v.node = id.node ∧
      v.clockSequence.toNat = id.clockSequence.toNat % 0x4000
  | _ => False

/-- The call took nothing but a tick: the draws and the cache are as they were, what was reported
came from the clock, and nothing but the wall clock can have failed. -/
structure TookTick {α : Type} (g : Generator) (o : Outcome α) : Prop where
  identity : o.generator.identity = g.identity
  draws : o.generator.draws = g.draws
  events : ∀ e ∈ o.events, ∃ now millis, e = .clockCarried now millis
  error : ∀ e, o.result = .error e → e = .readingsExhausted

theorem TookTick.map {α β : Type} {g : Generator} {o : Outcome α} (h : TookTick g o) (f : α → β) :
    TookTick g (o.map f) := by
  refine ⟨h.identity, h.draws, h.events, ?_⟩
  intro e he
  rw [Outcome.map] at he
  cases ho : o.result with
  | ok a => simp [ho, Except.map] at he
  | error e' =>
    rw [ho] at he
    cases he
    exact h.error e ho

theorem events_of_next? {s : Clock.State} {readings rest : List UInt64} {i : Clock.Issue}
    (h : s.next? readings = some (i, rest)) :
    ∀ e ∈ i.events, ∃ now millis, e = .clockCarried now millis := by
  obtain ⟨-, -, -, hi⟩ := Clock.State.next?_eq_some h
  intro e he
  obtain ⟨-, ⟨-, -, hn⟩ | ⟨-, -, -, hn⟩ | ⟨-, -, -, hn⟩⟩ := Clock.State.issue?_cases hi
  · simp [hn] at he
  · simp [hn] at he
  · rw [hn] at he
    exact ⟨_, _, List.mem_singleton.1 he⟩

theorem tookTick_tick (g : Generator) : TookTick g g.tick := by
  rw [tick]
  cases h : g.clock.next? g.readings with
  | none => exact ⟨rfl, rfl, by simp, fun e he => by cases he; rfl⟩
  | some r => exact ⟨rfl, rfl, events_of_next? h, fun e he => by cases he⟩

/-- A tick does not depend on anything but the clock. -/
theorem tick_transplant (g : Generator) (network : Network) (draws : Draws)
    (identity : Option NodeIdentity) :
    (g.transplant network draws identity).tick = g.tick.transplant network draws identity := by
  rw [tick, tick, transplant]
  cases g.clock.next? g.readings with
  | none => rfl
  | some r => rfl

theorem tookTick_proceed (q : Call) (id : NodeIdentity) (g : Generator) :
    TookTick g (q.proceed id g) := by
  have hminted := ((tookTick_tick g).map (TimeBased.mint id)).map Answer.minted
  cases q with
  | mint | mintOrAbort => exact hminted
  | _ => exact ⟨rfl, rfl, by simp [Call.proceed], fun e he => by cases he⟩

theorem proceed_transplant (q : Call) (id : NodeIdentity) (g : Generator) (network : Network)
    (draws : Draws) (identity : Option NodeIdentity) :
    q.proceed id (g.transplant network draws identity) =
      (q.proceed id g).transplant network draws identity := by
  cases q with
  | mint | mintOrAbort =>
    rw [Call.proceed, Call.proceed, mintFor, mintFor, tick_transplant]
    rfl
  | _ => rfl

theorem under_mint (id : NodeIdentity) (tick : UInt64) :
    (Answer.minted (TimeBased.mint id tick)).Under id :=
  ⟨⟨tick, rfl⟩, TimeBased.node_mint id tick, TimeBased.toNat_clockSequence_mint id tick⟩

theorem under_of_proceed {q : Call} {id : NodeIdentity} {g : Generator} {a : Answer}
    (h : (q.proceed id g).result = .ok a) : a.Under id := by
  have hminted : ((g.mintFor id).map Answer.minted).result = .ok a → a.Under id := by
    intro hm
    rw [mintFor, Outcome.map, Outcome.map] at hm
    cases ht : g.tick.result with
    | error e => simp [ht, Except.map] at hm
    | ok t =>
      rw [ht] at hm
      cases hm
      exact under_mint id t
  cases q with
  | mint | mintOrAbort => exact hminted h
  | _ =>
    cases h
    rfl

/-- With a reading that decides a call for an identifier proceeds to one. -/
theorem proceed_of_next? {q : Call} (id : NodeIdentity) {g : Generator} {i : Clock.Issue}
    {rest : List UInt64} (hq : q = .mint ∨ q = .mintOrAbort)
    (h : g.clock.next? g.readings = some (i, rest)) :
    (q.proceed id g).result = .ok (.minted (.mint id i.tick)) := by
  have hmint : ((g.mintFor id).map Answer.minted).result = .ok (.minted (.mint id i.tick)) := by
    rw [mintFor, tick, h]
    rfl
  rcases hq with rfl | rfl <;> exact hmint

/-- With the identity found a call proceeds under it. -/
theorem call_of_ok {g g' : Generator} {q : Call} {id : NodeIdentity} {es : List Event}
    (hq : q.AsksIdentity) (h : g.currentIdentity = ⟨.ok id, g', es⟩) :
    g.call q = { q.proceed id g' with events := es ++ (q.proceed id g').events } := by
  rcases hq with rfl | rfl | rfl
  · rw [call, h]
    simp [Outcome.map, Except.map, Call.proceed]
  · rw [call, mint, h]
    rfl
  · rw [call, mintOrAbort, mint, h]
    have herror := (tookTick_tick g').map (TimeBased.mint id)
    rw [← mintFor] at herror
    simp only [Outcome.andThen, Outcome.mapFailure, Outcome.map, Call.proceed]
    cases hm : (mintFor id g').result with
    | ok v => rfl
    | error e =>
      obtain rfl := herror.error e hm
      rfl

/-- Without an identity a call is refused and does nothing more. -/
theorem call_of_error {g g' : Generator} {q : Call} {e : Failure} {es : List Event}
    (hq : q.AsksIdentity) (h : g.currentIdentity = ⟨.error e, g', es⟩) :
    g.call q = ⟨.error (q.refusal e), g', es⟩ := by
  rcases hq with rfl | rfl | rfl
  · rw [call, h]
    rfl
  · rw [call, mint, h]
    rfl
  · rw [call, mintOrAbort, mint, h]
    cases e <;> rfl

end Generator
end UniqueId

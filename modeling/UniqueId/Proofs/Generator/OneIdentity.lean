import UniqueId.Proofs.Generator.Calls

/-! A program has one identity. In every run there is at most one derivation that succeeds; until
then the program stays as it was, and from then on every call uses what was derived, whatever
becomes of the surroundings. -/
namespace UniqueId.Generator
open NodeIdentity

/-- A call as it is made, with the program before it. -/
structure Turn where
  before : Generator
  call : Call

def Turn.outcome (t : Turn) : Outcome Answer := t.before.call t.call

/-- The turns of a run. -/
def turns (g : Generator) : List (Change × Call) → List Turn
  | [] => []
  | (c, q) :: rest => ⟨g.change c, q⟩ :: ((g.change c).call q).generator.turns rest

theorem map_outcome_turns (g : Generator) (steps : List (Change × Call)) :
    (g.turns steps).map Turn.outcome = g.run steps := by
  induction steps generalizing g with
  | nil => rfl
  | cons step steps ih =>
    rw [turns, List.map_cons, ih, run]
    rfl

namespace Turn

/-- The call asks for the identity and is not refused it. A call that still waits for the wall
clock has its identity. -/
def Granted (t : Turn) : Prop :=
  t.call.AsksIdentity ∧ ∀ e, t.outcome.result = .error e → e = .readingsExhausted

/-- The derivation that the surroundings at this turn allow. -/
def derivation (t : Turn) : Derivation :=
  deriveFromHost t.before.network.host t.before.draws

/-- The call has its answer as soon as the wall clock allows it. A call for the identity itself does
not look at the wall clock. -/
structure Answered (id : NodeIdentity) (t : Turn) : Prop where
  identity : t.call = .currentIdentity → t.outcome.result = .ok (.identity id)
  minted : t.call = .mint ∨ t.call = .mintOrAbort → ∀ i rest,
    t.before.clock.next? t.before.readings = some (i, rest) →
      t.outcome.result = .ok (.minted (.mint id i.tick))

/-- The call neither consults the host nor draws, and reports nothing but what the clock does. -/
structure Settled (t : Turn) : Prop where
  draws : t.outcome.generator.draws = t.before.draws
  events : ∀ e ∈ t.outcome.events, ∃ now millis, e = .clockCarried now millis
  surroundings : ∀ network draws,
    (t.before.transplant network draws t.before.identity).call t.call =
      t.outcome.transplant network draws t.before.identity

variable {t : Turn} {id : NodeIdentity}

theorem outcome_of_cached (hq : t.call.AsksIdentity) (h : t.before.identity = some id) :
    t.outcome = t.call.proceed id t.before := by
  have hc : t.before.currentIdentity = ⟨.ok id, t.before, []⟩ := by
    rw [currentIdentity, identityOr, h]
  rw [outcome, call_of_ok hq hc]
  rfl

theorem outcome_of_derived (hq : t.call.AsksIdentity) (h : t.before.identity = none)
    (hd : t.derivation.result = .ok id) :
    ∃ o, o = t.call.proceed id { t.before with draws := t.derivation.draws, identity := some id } ∧
      t.outcome = { o with events := t.derivation.events ++ o.events } := by
  refine ⟨_, rfl, ?_⟩
  rw [outcome]
  apply call_of_ok hq
  rw [derivation] at hd
  rw [currentIdentity, identityOr, h, derivation]
  simp only [deriveIdentity, hd]

theorem outcome_of_refused {e : Failure} (hq : t.call.AsksIdentity) (h : t.before.identity = none)
    (hd : t.derivation.result = .error e) :
    t.outcome = ⟨.error (t.call.refusal e), t.before, t.derivation.events⟩ := by
  rw [derivation] at hd
  have hdraws := (deriveFromHost_error hd).1
  rw [outcome]
  apply call_of_error hq
  rw [currentIdentity, identityOr, h, derivation]
  simp only [deriveIdentity, hd, hdraws]

theorem answered_of_proceed {g : Generator} (ho : t.outcome.result = (t.call.proceed id g).result)
    (clock : g.clock = t.before.clock) (readings : g.readings = t.before.readings) :
    t.Answered id := by
  constructor
  · intro hq
    rw [ho, hq]
    rfl
  · intro hq i rest decides
    rw [← clock, ← readings] at decides
    rw [ho]
    exact proceed_of_next? id hq decides

theorem refusal_ne {q : Call} {e : Failure} (h : e ≠ .readingsExhausted) :
    q.refusal e ≠ .readingsExhausted := by
  cases q with
  | mintOrAbort => cases e <;> simp_all [Call.refusal]
  | _ => exact h

theorem granted_of_cached (hq : t.call.AsksIdentity) (h : t.before.identity = some id) :
    t.Granted := by
  refine ⟨hq, ?_⟩
  rw [outcome_of_cached hq h]
  exact (tookTick_proceed t.call id t.before).error

theorem granted_iff (hq : t.call.AsksIdentity) (h : t.before.identity = none) :
    t.Granted ↔ ∃ id, t.derivation.result = .ok id := by
  constructor
  · intro hg
    cases hd : t.derivation.result with
    | ok id => exact ⟨id, rfl⟩
    | error e =>
      have he := hg.2 (t.call.refusal e) (by rw [outcome_of_refused hq h hd])
      exact absurd he (refusal_ne (deriveFromHost_error hd).2)
  · rintro ⟨id, hd⟩
    obtain ⟨o, rfl, ho⟩ := outcome_of_derived hq h hd
    refine ⟨hq, ?_⟩
    rw [ho]
    exact (tookTick_proceed t.call id _).error

/-- A refused call leaves the program as it was. -/
theorem generator_of_not_granted (hq : t.call.AsksIdentity) (h : t.before.identity = none)
    (hg : ¬ t.Granted) :
    t.outcome.generator = t.before ∧ ∃ e, t.derivation.result = .error e ∧
      t.outcome.result = .error (t.call.refusal e) := by
  cases hd : t.derivation.result with
  | ok id => exact absurd ((granted_iff hq h).2 ⟨id, hd⟩) hg
  | error e =>
    rw [outcome_of_refused hq h hd]
    exact ⟨rfl, e, rfl, rfl⟩

/-- A granted call without a cached identity derives one, with one draw, keeps it and uses it. -/
theorem derived_of_granted (h : t.before.identity = none) (hg : t.Granted) :
    ∃ id d, t.derivation.result = .ok id ∧ t.before.draws = d :: t.outcome.generator.draws ∧
      t.outcome.generator.identity = some id ∧ t.Answered id ∧
      ∀ a, t.outcome.result = .ok a → a.Under id := by
  obtain ⟨id, hd⟩ := (granted_iff hg.1 h).1 hg
  obtain ⟨d, hdraw⟩ := deriveFromHost_ok hd
  obtain ⟨o, rfl, ho⟩ := outcome_of_derived hg.1 h hd
  let g : Generator := { t.before with draws := t.derivation.draws, identity := some id }
  have htick := tookTick_proceed t.call id g
  have hanswered : t.Answered id := answered_of_proceed (g := g) (by rw [ho]) rfl rfl
  rw [ho]
  refine ⟨id, d, hd, ?_, htick.identity, hanswered, fun a ha => under_of_proceed ha⟩
  rw [htick.draws]
  exact hdraw

/-- With a cached identity a call uses that one and lets everything but the clock alone. -/
theorem settled_of_cached (hq : t.call.AsksIdentity) (h : t.before.identity = some id) :
    t.Settled ∧ t.Answered id ∧ ∀ a, t.outcome.result = .ok a → a.Under id := by
  have htick := tookTick_proceed t.call id t.before
  have ho := outcome_of_cached hq h
  refine ⟨⟨?_, ?_, ?_⟩, answered_of_proceed (congrArg Outcome.result ho) rfl rfl, ?_⟩
  · rw [ho]
    exact htick.draws
  · rw [ho]
    exact htick.events
  · intro network draws
    rw [ho, ← proceed_transplant]
    exact outcome_of_cached
      (t := ⟨t.before.transplant network draws t.before.identity, t.call⟩) hq h
  · rw [ho]
    exact fun a ha => under_of_proceed ha

/-- Ticks and identifiers for a given identity depend on nothing but the clock. -/
theorem outcome_transplant (hq : t.call = .tick ∨ ∃ id, t.call = .mintFor id) (network : Network)
    (draws : Draws) (identity : Option NodeIdentity) :
    (t.before.transplant network draws identity).call t.call =
      t.outcome.transplant network draws identity := by
  rw [outcome]
  obtain hc | ⟨id, hc⟩ := hq
  · rw [hc, Generator.call, Generator.call, tick_transplant]
    rfl
  · rw [hc, Generator.call, Generator.call, mintFor, mintFor, tick_transplant]
    rfl

/-- Random identifiers depend on nothing but the draws. -/
theorem outcome_transplant_of_drawRandom (hq : t.call = .drawRandom) (network : Network)
    (identity : Option NodeIdentity) :
    (t.before.transplant network t.before.draws identity).call t.call =
      t.outcome.transplant network t.outcome.generator.draws identity := by
  rw [outcome, hq, Generator.call, Generator.call, drawRandom, drawRandom, transplant]
  cases RandomBased.draw t.before.draws with
  | mk v rest => cases v <;> rfl

/-- A random identifier takes two draws; there is none if one is missing. -/
theorem outcome_drawRandom (hq : t.call = .drawRandom) :
    (∃ a b, t.before.draws = a :: b :: t.outcome.generator.draws ∧
      t.outcome.result = .ok (.drawn (RandomBased.ofWords ⟨a, b⟩))) ∨
    (t.before.draws.length < 2 ∧ t.outcome.result = .error .drawsExhausted) := by
  rw [outcome, hq, Generator.call, drawRandom, RandomBased.draw]
  cases t.before.draws with
  | nil => exact .inr ⟨by simp, rfl⟩
  | cons a rest =>
    cases rest with
    | nil => exact .inr ⟨by simp, rfl⟩
    | cons b rest => exact .inl ⟨a, b, rfl, rfl⟩

theorem identity_of_not_asks (hq : ¬ t.call.AsksIdentity) :
    t.outcome.generator.identity = t.before.identity := by
  have hidentity {o p : Outcome Answer} (h : o = p) :
      o.generator.identity = p.generator.identity := by rw [h]
  cases hc : t.call with
  | currentIdentity | mint | mintOrAbort => exact absurd (by simp [Call.AsksIdentity, hc]) hq
  | mintFor id =>
    exact hidentity (outcome_transplant (.inr ⟨id, hc⟩) t.before.network t.before.draws _)
  | tick => exact hidentity (outcome_transplant (.inl hc) t.before.network t.before.draws _)
  | drawRandom =>
    exact hidentity (outcome_transplant_of_drawRandom hc t.before.network t.before.identity)

theorem identity_kept (h : t.before.identity = some id) :
    t.outcome.generator.identity = some id := by
  by_cases hq : t.call.AsksIdentity
  · rw [outcome_of_cached hq h, (tookTick_proceed t.call id t.before).identity, h]
  · rw [identity_of_not_asks hq, h]

theorem identity_none_of_not_granted (h : t.before.identity = none) (hg : ¬ t.Granted) :
    t.outcome.generator.identity = none := by
  by_cases hq : t.call.AsksIdentity
  · rw [(generator_of_not_granted hq h hg).1, h]
  · rw [identity_of_not_asks hq, h]

end Turn

theorem identity_of_mem_turns {g : Generator} {id : NodeIdentity} {steps : List (Change × Call)}
    (h : g.identity = some id) : ∀ t ∈ g.turns steps, t.before.identity = some id := by
  induction steps generalizing g with
  | nil => simp [turns]
  | cons step steps ih =>
    have hkept := Turn.identity_kept (t := ⟨g.change step.1, step.2⟩) h
    intro t ht
    rcases List.mem_cons.1 ht with rfl | ht
    · exact h
    · exact ih hkept t ht

/-- The turns after a turn are those of the program that it left. -/
theorem turns_append {g : Generator} {steps : List (Change × Call)} {pre post : List Turn}
    {t : Turn} (h : g.turns steps = pre ++ t :: post) :
    ∃ rest, post = t.outcome.generator.turns rest := by
  induction pre generalizing g steps with
  | nil =>
    cases steps with
    | nil => contradiction
    | cons step steps =>
      cases h
      exact ⟨steps, rfl⟩
  | cons u pre ih =>
    cases steps with
    | nil => contradiction
    | cons step steps => exact ih (List.cons.inj h).2

/-- As long as no call is granted the identity, there is none. -/
theorem identity_none_of_turns {g : Generator} {steps : List (Change × Call)} {pre post : List Turn}
    {t : Turn} (hg : g.identity = none) (h : g.turns steps = pre ++ t :: post)
    (hpre : ∀ u ∈ pre, ¬ u.Granted) : t.before.identity = none := by
  induction pre generalizing g steps with
  | nil =>
    cases steps with
    | nil => contradiction
    | cons step steps =>
      cases h
      exact hg
  | cons u pre ih =>
    cases steps with
    | nil => contradiction
    | cons step steps =>
      obtain ⟨rfl, htail⟩ := List.cons.inj h
      have hnone := Turn.identity_none_of_not_granted (t := ⟨g.change step.1, step.2⟩) hg
        (hpre _ List.mem_cons_self)
      exact ih hnone htail fun v hv => hpre v (List.mem_cons_of_mem _ hv)

/-- One identity for the whole run. Up to the first call that is granted it a call that asks for it
changes nothing and fails as the derivation does that its surroundings allow. That first call
derives it with one draw, and every later call that asks for it uses it without a look at the host
or the draws. From that first call on each such call has its answer on the first reading that
decides. The other calls have nothing to do with it. -/
theorem turns_one_identity (steps : List (Change × Call)) :
    (start.turns steps).map Turn.outcome = start.run steps ∧
    (∀ pre t post, start.turns steps = pre ++ t :: post → (∀ u ∈ pre, ¬ u.Granted) →
      t.call.AsksIdentity →
      (¬ t.Granted → t.before.identity = none ∧ t.outcome.generator = t.before ∧
        ∃ e, t.derivation.result = .error e ∧ t.outcome.result = .error (t.call.refusal e)) ∧
      (t.Granted → ∃ id d, t.derivation.result = .ok id ∧
        t.before.draws = d :: t.outcome.generator.draws ∧
        (∀ u ∈ t :: post, u.call.AsksIdentity → ∀ a, u.outcome.result = .ok a → a.Under id) ∧
        (∀ u ∈ t :: post, u.call.AsksIdentity → u.Answered id) ∧
        ∀ u ∈ post, u.call.AsksIdentity → u.Granted ∧ u.Settled)) ∧
    ∀ t ∈ start.turns steps,
      (t.call = .tick ∨ (∃ id, t.call = .mintFor id) → ∀ network draws identity,
        (t.before.transplant network draws identity).call t.call =
          t.outcome.transplant network draws identity) ∧
      (t.call = .drawRandom →
        (∀ network identity,
          (t.before.transplant network t.before.draws identity).call t.call =
            t.outcome.transplant network t.outcome.generator.draws identity) ∧
        ((∃ a b, t.before.draws = a :: b :: t.outcome.generator.draws ∧
            t.outcome.result = .ok (.drawn (RandomBased.ofWords ⟨a, b⟩))) ∨
          (t.before.draws.length < 2 ∧ t.outcome.result = .error .drawsExhausted))) := by
  refine ⟨map_outcome_turns start steps, ?_, ?_⟩
  · intro pre t post h hpre hq
    have hnone := identity_none_of_turns rfl h hpre
    refine ⟨fun hg => ⟨hnone, Turn.generator_of_not_granted hq hnone hg⟩, fun hg => ?_⟩
    obtain ⟨id, d, hd, hdraws, hcached, hanswered, hunder⟩ := Turn.derived_of_granted hnone hg
    obtain ⟨rest, rfl⟩ := turns_append h
    have hlater : ∀ u ∈ t.outcome.generator.turns rest, u.before.identity = some id :=
      identity_of_mem_turns hcached
    have huses : ∀ u ∈ t :: t.outcome.generator.turns rest, u.call.AsksIdentity →
        u.Answered id ∧ ∀ a, u.outcome.result = .ok a → a.Under id := by
      intro u hu hqu
      rcases List.mem_cons.1 hu with rfl | hu
      · exact ⟨hanswered, hunder⟩
      · exact (Turn.settled_of_cached hqu (hlater u hu)).2
    refine ⟨id, d, hd, hdraws, fun u hu hqu => (huses u hu hqu).2,
      fun u hu hqu => (huses u hu hqu).1, fun u hu hqu => ?_⟩
    exact ⟨Turn.granted_of_cached hqu (hlater u hu),
      (Turn.settled_of_cached hqu (hlater u hu)).1⟩
  · intro t _
    exact ⟨Turn.outcome_transplant, fun hq =>
      ⟨Turn.outcome_transplant_of_drawRandom hq, Turn.outcome_drawRandom hq⟩⟩

/-! A host that cannot be described, then one that can, then again one that cannot. -/
namespace Relocation

def nowhere : Change := { draws := some [7, 9], readings := some [5, 5] }

def home : Change where
  hostName := some "host"
  known := some (some [.v4 #v[10, 0, 0, 1]])
  interfaces := some (some [])

def lost : Change := { known := some none, interfaces := some none }

def first : Turn := ⟨start.change nowhere, .mint⟩

def second : Turn := ⟨first.outcome.generator.change home, .mintOrAbort⟩

def third : Turn := ⟨second.outcome.generator.change lost, .currentIdentity⟩

/-- The second call mints on the first reading, and the third is answered with the same identity. -/
theorem turns_one_identity_relocation :
    start.turns [(nowhere, .mint), (home, .mintOrAbort), (lost, .currentIdentity)] =
      [first, second, third] ∧
    ¬ first.Granted ∧ first.outcome.generator = first.before ∧ second.Granted ∧ third.Settled ∧
    ∃ id, second.outcome.result = .ok (.minted (.mint id (Gregorian.tick 5 0))) ∧
      third.outcome.result = .ok (.identity id) := by
  have refused : ¬ first.Granted := by
    intro h
    have he := h.2 (.unavailable (.unresolved "" .unknownName)) rfl
    contradiction
  have granted : second.Granted := (Turn.granted_iff (.inr (.inr rfl)) rfl).2 ⟨_, rfl⟩
  have run := (turns_one_identity
    [(nowhere, .mint), (home, .mintOrAbort), (lost, .currentIdentity)]).2.1
  have unchanged := (run [] first [second, third] rfl (by simp) (.inr (.inl rfl))).1 refused
  obtain ⟨id, -, -, -, -, answered, later⟩ :=
    (run [first] second [third] rfl (by simpa using refused) (.inr (.inr rfl))).2 granted
  have minted := (answered second List.mem_cons_self (.inr (.inr rfl))).minted (.inr rfl)
    ⟨.pack 5 0, 5, []⟩ [5] rfl
  have same := (answered third (by simp) (.inl rfl)).identity rfl
  exact ⟨rfl, refused, unchanged.2.1, granted, (later third List.mem_cons_self (.inl rfl)).2, id,
    minted, same⟩

end Relocation
end UniqueId.Generator

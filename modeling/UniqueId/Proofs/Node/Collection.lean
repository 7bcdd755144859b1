import UniqueId.Proofs.Node.Derivation

/-! When a host can be described, and what is left of an attempt. The description rests on two
lookups that can both fail, and needs an address from one of them. Whatever stands in its way, the
first obstacle is named, and by then nothing has been drawn and nothing reported. -/
namespace UniqueId
open NodeIdentity

/-- The place of a cause among those that a description can fail for. -/
def Unavailable.rank : Unavailable → Nat
  | unresolved _ _ => 0
  | unlisted _ => 1
  | noAddress _ => 2
  | reported _ => 3

namespace Host

variable {name : String} {addresses : Except LookupFailure (List IpAddress)}
  {interfaces : Except ListingFailure (List HardwareAddress)}

/-- What stands in the way of a description. A failed lookup has no address to offer, so there can
be several obstacles at once. -/
inductive Obstacle (name : String) (addresses : Except LookupFailure (List IpAddress))
    (interfaces : Except ListingFailure (List HardwareAddress)) : Unavailable → Prop
  | unresolved {why : LookupFailure} (h : addresses = .error why) :
      Obstacle name addresses interfaces (.unresolved name why)
  | unlisted {why : ListingFailure} (h : interfaces = .error why) :
      Obstacle name addresses interfaces (.unlisted why)
  | noAddress (known : ∀ a as, addresses ≠ .ok (a :: as))
      (listed : ∀ m ms, interfaces ≠ .ok (m :: ms)) :
      Obstacle name addresses interfaces (.noAddress name)

/-- The obstacle is there, and so is none that is named before it. -/
structure FirstObstacle (name : String) (addresses : Except LookupFailure (List IpAddress))
    (interfaces : Except ListingFailure (List HardwareAddress)) (why : Unavailable) : Prop where
  obstacle : Obstacle name addresses interfaces why
  rank_le : ∀ other, Obstacle name addresses interfaces other → why.rank ≤ other.rank

theorem Obstacle.eq_of_rank_eq {c d : Unavailable} (hc : Obstacle name addresses interfaces c)
    (hd : Obstacle name addresses interfaces d) (same : c.rank = d.rank) : c = d := by
  cases hc with
  | unresolved h =>
    cases hd with
    | unresolved h' => cases h.symm.trans h'; rfl
    | unlisted | noAddress => simp [Unavailable.rank] at same
  | unlisted h =>
    cases hd with
    | unlisted h' => cases h.symm.trans h'; rfl
    | unresolved | noAddress => simp [Unavailable.rank] at same
  | noAddress =>
    cases hd with
    | noAddress => rfl
    | unresolved | unlisted => simp [Unavailable.rank] at same

theorem FirstObstacle.eq {c d : Unavailable} (hc : FirstObstacle name addresses interfaces c)
    (hd : FirstObstacle name addresses interfaces d) : c = d :=
  hc.obstacle.eq_of_rank_eq hd.obstacle
    (Nat.le_antisymm (hc.rank_le d hd.obstacle) (hd.rank_le c hc.obstacle))

/-- Two lookups show a host with an address and nothing in the way, or the first obstacle. -/
theorem ofLookups_cases (name : String) (addresses : Except LookupFailure (List IpAddress))
    (interfaces : Except ListingFailure (List HardwareAddress)) :
    (∃ as ms, addresses = .ok as ∧ interfaces = .ok ms ∧ (as ≠ [] ∨ ms ≠ []) ∧
      ofLookups name addresses interfaces = .ok ⟨name, as, ms⟩) ∨
    ∃ why, FirstObstacle name addresses interfaces why ∧
      ofLookups name addresses interfaces = .error why := by
  cases addresses with
  | error why =>
    exact .inr ⟨_, ⟨.unresolved rfl, fun _ _ => Nat.zero_le _⟩, rfl⟩
  | ok as =>
    cases interfaces with
    | error why =>
      refine .inr ⟨_, ⟨.unlisted rfl, fun other h => ?_⟩, rfl⟩
      cases h with
      | unresolved h => contradiction
      | unlisted | noAddress => simp [Unavailable.rank]
    | ok ms =>
      cases as with
      | cons a as => exact .inl ⟨_, _, rfl, rfl, .inl (by simp), by simp [ofLookups]⟩
      | nil =>
        cases ms with
        | cons m ms => exact .inl ⟨_, _, rfl, rfl, .inr (by simp), rfl⟩
        | nil =>
          refine .inr ⟨_, ⟨.noAddress (by simp) (by simp), fun other h => ?_⟩, rfl⟩
          cases h with
          | unresolved h | unlisted h => contradiction
          | noAddress => simp [Unavailable.rank]

/-- Nothing is in the way of a host with an address. -/
theorem not_obstacle {as : List IpAddress} {ms : List HardwareAddress} (found : as ≠ [] ∨ ms ≠ [])
    (why : Unavailable) : ¬ Obstacle name (.ok as) (.ok ms) why := by
  rintro (h | h | ⟨known, listed⟩)
  · contradiction
  · contradiction
  · rcases found with found | found
    · obtain ⟨a, as, rfl⟩ := List.exists_cons_of_ne_nil found
      exact known a as rfl
    · obtain ⟨m, ms, rfl⟩ := List.exists_cons_of_ne_nil found
      exact listed m ms rfl

theorem ofLookups_eq_error_iff (why : Unavailable) :
    ofLookups name addresses interfaces = .error why ↔
      FirstObstacle name addresses interfaces why := by
  obtain ⟨as, ms, rfl, rfl, found, result⟩ | ⟨first, h, result⟩ :=
    ofLookups_cases name addresses interfaces
  · rw [result]
    constructor
    · intro refused
      contradiction
    · intro h
      exact absurd h.obstacle (not_obstacle found why)
  · rw [result, Except.error.injEq]
    constructor
    · rintro rfl
      exact h
    · intro h'
      exact h.eq h'

theorem ofLookups_eq_ok_iff (h : Host) :
    ofLookups name addresses interfaces = .ok h ↔
      h.name = name ∧ addresses = .ok h.addresses ∧ interfaces = .ok h.interfaces ∧
        (h.addresses ≠ [] ∨ h.interfaces ≠ []) := by
  obtain ⟨as, ms, rfl, rfl, found, result⟩ | ⟨first, ho, result⟩ :=
    ofLookups_cases name addresses interfaces
  · rw [result, Except.ok.injEq]
    constructor
    · rintro rfl
      exact ⟨rfl, rfl, rfl, found⟩
    · rintro ⟨rfl, ⟨⟩, ⟨⟩, -⟩
      rfl
  · rw [result]
    constructor
    · intro described
      contradiction
    · rintro ⟨-, rfl, rfl, found⟩
      exact absurd ho.obstacle (not_obstacle found first)

theorem length_descriptors (h : Host) :
    h.descriptors.length = 6 + h.addresses.length + h.interfaces.length := by
  simp only [descriptors, constants, Build.texts, List.length_append, List.length_cons,
    List.length_map, List.length_nil]
  omega

/-- A host is described just if both lookups succeed and one of them finds an address; otherwise the
first obstacle is named. The texts that describe it are the five constants, a text for each address,
the name, and a text for each interface, in this order and with all repetitions. An identity derived
from them takes one draw, and reports the description and then the derivation, with the number of
all texts. For want of a description nothing is drawn and nothing reported. -/
theorem describes_or_leaves_nothing (name : String)
    (addresses : Except LookupFailure (List IpAddress))
    (interfaces : Except ListingFailure (List HardwareAddress)) :
    ((∃ h, ofLookups name addresses interfaces = .ok h) ↔
      ∃ as ms, addresses = .ok as ∧ interfaces = .ok ms ∧ (as ≠ [] ∨ ms ≠ [])) ∧
    (∀ why, ofLookups name addresses interfaces = .error why ↔
      FirstObstacle name addresses interfaces why) ∧
    (∀ as ms, addresses = .ok as → interfaces = .ok ms → (as ≠ [] ∨ ms ≠ []) →
      ∃ h, ofLookups name addresses interfaces = .ok h ∧
        h.descriptors = [Build.current.package, Build.current.version, Build.current.family,
            Build.current.system, Build.current.architecture] ++
          as.map (fun a => name ++ "/" ++ a.text) ++ [name] ++ ms.map (fun m => "mac " ++ m.text) ∧
        h.descriptors.length = 6 + as.length + ms.length ∧
        ∀ draw rest,
          deriveFromHost (ofLookups name addresses interfaces) (draw :: rest) =
            ⟨.ok (ofDraw draw h.descriptors), rest,
              [.hostDescribed name as.length ms.length,
                .identityDerived (ofDraw draw h.descriptors) (6 + as.length + ms.length)]⟩) ∧
    ∀ why draws, ofLookups name addresses interfaces = .error why →
      deriveFromHost (ofLookups name addresses interfaces) draws =
        ⟨.error (.unavailable why), draws, []⟩ := by
  refine ⟨?described, ofLookups_eq_error_iff, ?texts, ?nothing⟩
  case described =>
    constructor
    · rintro ⟨h, described⟩
      obtain ⟨-, known, listed, found⟩ := (ofLookups_eq_ok_iff h).1 described
      exact ⟨_, _, known, listed, found⟩
    · rintro ⟨as, ms, known, listed, found⟩
      exact ⟨⟨name, as, ms⟩, (ofLookups_eq_ok_iff _).2 ⟨rfl, known, listed, found⟩⟩
  case texts =>
    intro as ms known listed found
    have described := (ofLookups_eq_ok_iff ⟨name, as, ms⟩).2 ⟨rfl, known, listed, found⟩
    refine ⟨_, described, ?_, length_descriptors _, fun draw rest => ?_⟩
    · simp [descriptors, constants, Build.texts]
    · rw [described, deriveFromHost_cons, length_descriptors]
      rfl
  case nothing =>
    intro why draws refused
    rw [refused]
    rfl

/-- A name with one address twice and one interface, and a name for which both lookups fail. -/
theorem describes_or_leaves_nothing_twice :
    (∃ h, ofLookups "host" (.ok [.v4 #v[127, 0, 0, 1], .v4 #v[127, 0, 0, 1]])
        (.ok [⟨#v[1, 2, 3, 4, 5, 6]⟩]) = .ok h ∧ h.descriptors.length = 9 ∧
      (deriveFromHost (.ok h) [7, 9]).draws = [9]) ∧
    (deriveFromHost (ofLookups "host" (.error (.other "try again")) (.error .internal)) [7, 9]).draws =
      [7, 9] := by
  constructor
  · obtain ⟨-, -, texts, -⟩ := describes_or_leaves_nothing "host"
      (.ok [.v4 #v[127, 0, 0, 1], .v4 #v[127, 0, 0, 1]]) (.ok [⟨#v[1, 2, 3, 4, 5, 6]⟩])
    obtain ⟨h, described, -, count, derived⟩ := texts _ _ rfl rfl (.inl (by simp))
    refine ⟨h, described, count, ?_⟩
    rw [← described, derived]
  · obtain ⟨-, -, -, nothing⟩ := describes_or_leaves_nothing "host"
      (.error (.other "try again")) (.error .internal)
    rw [nothing _ [7, 9] rfl]

end Host
end UniqueId

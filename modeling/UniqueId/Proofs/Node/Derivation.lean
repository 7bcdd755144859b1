import UniqueId.Node.Derivation

/-! When a derivation has an identity as its result, and what it takes from the source of
randomness. -/
namespace UniqueId.NodeIdentity

/-- The identity that a draw and some descriptors give. -/
def ofDraw (draw : UInt64) (descriptors : List String) : NodeIdentity :=
  truncate (Draws.pick maxClockSequence.toUInt64 draw).toUInt16 (fingerprint descriptors)

/-- With a draw at hand any descriptors give an identity. -/
theorem derive_cons (descriptors : List String) (draw : UInt64) (rest : Draws) :
    derive (.ok descriptors) (draw :: rest) =
      ⟨.ok (ofDraw draw descriptors), rest,
        [.identityDerived (ofDraw draw descriptors) descriptors.length]⟩ := rfl

/-- What a host reports of itself comes before what the derivation reports. -/
theorem deriveFromHost_cons (h : Host) (draw : UInt64) (rest : Draws) :
    deriveFromHost (.ok h) (draw :: rest) =
      ⟨.ok (ofDraw draw h.descriptors), rest,
        h.events ++ [.identityDerived (ofDraw draw h.descriptors) h.descriptors.length]⟩ := by
  simp only [deriveFromHost, derive_cons]

/-- A derivation succeeds with one draw, or fails and takes none. -/
theorem deriveFromHost_cases (host : Except Unavailable Host) (draws : Draws) :
    (∃ why, host = .error why ∧
      deriveFromHost host draws = ⟨.error (.unavailable why), draws, []⟩) ∨
    (∃ h, host = .ok h ∧ draws = [] ∧
      deriveFromHost host draws = ⟨.error .drawsExhausted, draws, h.events⟩) ∨
    (∃ h d rest, host = .ok h ∧ draws = d :: rest ∧
      deriveFromHost host draws = ⟨.ok (ofDraw d h.descriptors), rest,
        h.events ++ [.identityDerived (ofDraw d h.descriptors) h.descriptors.length]⟩) := by
  cases host with
  | error why => exact .inl ⟨why, rfl, rfl⟩
  | ok h =>
    cases draws with
    | nil =>
      refine .inr (.inl ⟨h, rfl, rfl, ?_⟩)
      simp [deriveFromHost, derive, Draws.upTo, Draws.word]
    | cons d rest => exact .inr (.inr ⟨h, d, rest, rfl, rfl, deriveFromHost_cons h d rest⟩)

theorem deriveFromHost_ok {host : Except Unavailable Host} {draws : Draws} {id : NodeIdentity}
    (h : (deriveFromHost host draws).result = .ok id) :
    ∃ d, draws = d :: (deriveFromHost host draws).draws := by
  obtain ⟨why, -, hd⟩ | ⟨x, -, -, hd⟩ | ⟨x, d, rest, -, rfl, hd⟩ := deriveFromHost_cases host draws
  · rw [hd] at h
    contradiction
  · rw [hd] at h
    contradiction
  · exact ⟨d, by rw [hd]⟩

theorem deriveFromHost_error {host : Except Unavailable Host} {draws : Draws} {e : Failure}
    (h : (deriveFromHost host draws).result = .error e) :
    (deriveFromHost host draws).draws = draws ∧ e ≠ .readingsExhausted := by
  obtain ⟨why, -, hd⟩ | ⟨x, -, -, hd⟩ | ⟨x, d, rest, -, -, hd⟩ := deriveFromHost_cases host draws
  · rw [hd] at h ⊢
    cases h
    exact ⟨rfl, by simp⟩
  · rw [hd] at h ⊢
    cases h
    exact ⟨rfl, by simp⟩
  · rw [hd] at h
    contradiction

end UniqueId.NodeIdentity

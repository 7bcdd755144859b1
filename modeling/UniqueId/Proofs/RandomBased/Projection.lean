import UniqueId.Proofs.Generator.OneIdentity
import UniqueId.Proofs.Uuid.Kinds
import UniqueId.Proofs.Uuid.RoundTrip
import UniqueId.Proofs.Words.Stamps

/-! What a random identifier keeps of the bits that were drawn for it. Six bits are replaced and the
other 122 stay, so drawn identifiers meet just where their draws agree in those. Identifiers that
were not drawn may have another variant; they would get the standard one and change in nothing
else. -/
namespace UniqueId
open Word

namespace RandomBased

theorem toWords_injective : Function.Injective toWords := by
  rintro ⟨v, -⟩ ⟨w, -⟩ rfl
  rfl

theorem toWords_ofWords (w : Words) : (ofWords w).toWords = w.stamp 4 := rfl

theorem ofWords_toWords_ofWords (w : Words) : ofWords (ofWords w).toWords = ofWords w := by
  apply toWords_injective
  rw [toWords_ofWords, toWords_ofWords, Words.stamp_stamp]

theorem ofWords_eq_ofWords_iff (v w : Words) : ofWords v = ofWords w ↔ v.AgreeUnstamped w := by
  rw [← toWords_injective.eq_iff, toWords_ofWords, toWords_ofWords, Words.stamp_eq_stamp_iff,
    Words.unstamped_eq_iff]

theorem toWords_ofWords_eq_iff (w : Words) :
    (ofWords w).toWords = w ↔ w.version = 4 ∧ w.variant = .standard :=
  Words.stamp_eq_self_iff 4 w

/-- An identifier that was not drawn changes in the variant and in nothing else. -/
theorem agree_ofWords_toWords (v : RandomBased) :
    (ofWords v.toWords).high = v.high ∧
      ∀ i < 64, i ∉ [62, 63] → bit (ofWords v.toWords).low i = bit v.low i := by
  constructor
  · change (v.withVersion 4).high = v.high
    rw [(v.withVersion_eq_self_iff 4).2 v.version_eq]
  · exact ((Words.unstamped_eq_iff _ _).1 (Words.unstamped_stamp 4 v.toWords)).low

end RandomBased

namespace Generator.Turn
variable {t : Turn}

theorem call_of_drawn {v : RandomBased} (h : t.outcome.result = .ok (.drawn v)) :
    t.call = .drawRandom := by
  have other {α : Type} {o : Outcome α} {f : α → Answer} (hf : ∀ a, f a ≠ .drawn v) :
      (o.map f).result ≠ .ok (.drawn v) := by
    intro drawn
    rw [Outcome.map] at drawn
    cases ho : o.result with
    | ok a => exact hf a (by simpa [ho, Except.map] using drawn)
    | error e => simp [ho, Except.map] at drawn
  rw [outcome] at h
  cases hc : t.call with
  | drawRandom => rfl
  | _ =>
    rw [hc] at h
    exact absurd h (other (by simp))

/-- A random identifier is made of the two words that its call draws. -/
theorem exists_draws {v : RandomBased} (h : t.outcome.result = .ok (.drawn v)) :
    ∃ a b, t.before.draws = a :: b :: t.outcome.generator.draws ∧ v = .ofWords ⟨a, b⟩ := by
  obtain ⟨a, b, draws, result⟩ | ⟨-, result⟩ := outcome_drawRandom (call_of_drawn h)
  · rw [h] at result
    cases result
    exact ⟨a, b, draws, rfl⟩
  · rw [h] at result
    contradiction

end Generator.Turn

namespace RandomBased
open Generator

/-- Making a random identifier of its own words changes nothing, and the words that it leaves alone
are those of the version number four and the standard variant. Two pairs of words give the same
identifier just if they agree in all bits but the four of the version and the two of the variant; so
in a run of a program two random identifiers are the same just if the draws of their calls agree in
those. Of the other identifiers of this version, which come from texts, only the variant changes. -/
theorem ofWords_projects :
    (∀ w, ofWords (ofWords w).toWords = ofWords w) ∧
    (∀ w, (ofWords w).toWords = w ↔
      (Uuid.ofWords w).kind = .randomBased ∧ (Uuid.ofWords w).variant = .standard) ∧
    (∀ v w, ofWords v = ofWords w ↔ v.AgreeUnstamped w) ∧
    (∀ (g : Generator) (steps : List (Change × Call)),
      (g.turns steps).map Turn.outcome = g.run steps ∧
      ∀ t ∈ g.turns steps, ∀ u ∈ g.turns steps, ∀ v w,
        t.outcome.result = .ok (.drawn v) → u.outcome.result = .ok (.drawn w) →
        ∃ a b c d, t.before.draws = a :: b :: t.outcome.generator.draws ∧
          u.before.draws = c :: d :: u.outcome.generator.draws ∧
          (Uuid.randomBased v = .randomBased w ↔ Words.AgreeUnstamped ⟨a, b⟩ ⟨c, d⟩)) ∧
    ∀ s v, Uuid.parse s = .ok (.randomBased v) → v.variant ≠ .standard →
      ofWords v.toWords ≠ v ∧ (ofWords v.toWords).high = v.high ∧
        ∀ i < 64, i ∉ [62, 63] → bit (ofWords v.toWords).low i = bit v.low i := by
  refine ⟨ofWords_toWords_ofWords, ?fixed, ofWords_eq_ofWords_iff, ?runs, ?foreign⟩
  case fixed =>
    intro w
    rw [toWords_ofWords_eq_iff, Uuid.kind_eq_iff (n := 4) rfl, Uuid.version, Uuid.variant,
      Uuid.words_ofWords]
  case runs =>
    intro g steps
    refine ⟨map_outcome_turns g steps, ?_⟩
    intro t _ u _ v w hv hw
    obtain ⟨a, b, before, rfl⟩ := Turn.exists_draws hv
    obtain ⟨c, d, later, rfl⟩ := Turn.exists_draws hw
    refine ⟨a, b, c, d, before, later, ?_⟩
    rw [Uuid.randomBased.injEq, ofWords_eq_ofWords_iff]
  case foreign =>
    intro s v _ other
    refine ⟨fun same => other ?_, agree_ofWords_toWords v⟩
    exact ((toWords_ofWords_eq_iff v.toWords).1 (congrArg toWords same)).2

/-- Two calls whose draws differ in the six bits only, and a text of another variant. -/
theorem ofWords_projects_six_bits :
    (let g : Generator := { start with draws := [0xf000, 0, 0, 0xc000000000000000] }
     ∃ v w, (g.run [({}, .drawRandom), ({}, .drawRandom)]).map (·.result) =
         [.ok (.drawn v), .ok (.drawn w)] ∧ Uuid.randomBased v = .randomBased w) ∧
    ∃ v : RandomBased, Uuid.parse (Uuid.randomBased v).encode = .ok (.randomBased v) ∧
      v.variant = .microsoft ∧ ofWords v.toWords ≠ v := by
  obtain ⟨-, -, -, runs, foreign⟩ := ofWords_projects
  constructor
  · let g : Generator := { start with draws := [0xf000, 0, 0, 0xc000000000000000] }
    obtain ⟨-, meet⟩ := runs g [({}, .drawRandom), ({}, .drawRandom)]
    let first : Turn := ⟨g.change {}, .drawRandom⟩
    let second : Turn := ⟨first.outcome.generator.change {}, .drawRandom⟩
    obtain ⟨a, b, c, d, hab, hcd, same⟩ := meet first (by simp [turns, first]) second
      (by simp [turns, second, first, Turn.outcome]) (ofWords ⟨0xf000, 0⟩)
      (ofWords ⟨0, 0xc000000000000000⟩) rfl rfl
    cases hab
    cases hcd
    exact ⟨_, _, rfl, same.2 ⟨by decide, by decide⟩⟩
  · let v : RandomBased := ⟨⟨0x4000, 0xc000000000000000⟩, by decide⟩
    exact ⟨v, Uuid.parse_encode _, by decide,
      (foreign _ v (Uuid.parse_encode _) (by decide)).1⟩

end RandomBased
end UniqueId

import UniqueId.Proofs.Uuid.RoundTrip
import UniqueId.Uuid.Interchange

/-! What data formats hold for identifiers. Both forms, the readable and the compact one, are taken
back as the identifier that they were made from. Nothing else is taken: of texts, those that are
read as identifiers; of octets, sixteen, which are then the compact form of the result. -/
namespace UniqueId.Uuid

theorem toToken_readable (u : Uuid) : toToken true u = .text u.encode := rfl

theorem toToken_compact (u : Uuid) :
    toToken false u = .octets (ByteOrder.bigEndian.octets 16 u.words.toNumber.toNat) :=
  congrArg Token.octets (Octets.toList_ofNumber u.words.toNumber)

theorem ofToken_text (s : String) : ofToken (.text s) = (parse s).mapError .invalidText := by
  rw [ofToken]
  cases parse s <;> rfl

/-- Octets are taken as an identifier exactly if they are its octets. -/
theorem ofToken_octets_eq_ok_iff (bs : List UInt8) (u : Uuid) :
    ofToken (.octets bs) = .ok u ↔ u.words.toOctets.toList = bs := by
  constructor
  · intro h
    rw [ofToken] at h
    split at h
    · cases h
      rw [words_ofWords, Words.toOctets_ofOctets]
      rfl
    · contradiction
  · rintro rfl
    have same (o : Octets) : (⟨o.toList.toArray, by simp⟩ : Octets) = o := rfl
    rw [ofToken, dif_pos Vector.length_toList, same, Words.ofOctets_toOctets, ofWords_words]

theorem exists_ofToken_octets_iff (bs : List UInt8) :
    (∃ u, ofToken (.octets bs) = .ok u) ↔ bs.length = 16 := by
  constructor
  · rintro ⟨u, h⟩
    rw [← (ofToken_octets_eq_ok_iff bs u).1 h]
    exact Vector.length_toList
  · intro h
    exact ⟨_, dif_pos h⟩

theorem ofToken_octets_eq_error_iff (bs : List UInt8) :
    ofToken (.octets bs) = .error .octetCount ↔ bs.length ≠ 16 := by
  constructor
  · intro refused sixteen
    obtain ⟨u, h⟩ := (exists_ofToken_octets_iff bs).2 sixteen
    rw [h] at refused
    contradiction
  · intro h
    exact dif_neg h

/-- All that is taken as an identifier: its texts and its octets. -/
theorem ofToken_eq_ok_iff (t : Token) (u : Uuid) :
    ofToken t = .ok u ↔ (∃ s, t = .text s ∧ parse s = .ok u) ∨ t = toToken false u := by
  cases t with
  | text s =>
    have read : ofToken (.text s) = .ok u ↔ parse s = .ok u := by
      rw [ofToken_text]
      cases parse s with
      | ok v =>
        exact ⟨fun h => congrArg _ (Except.ok.inj h), fun h => congrArg _ (Except.ok.inj h)⟩
      | error e => exact iff_of_false nofun nofun
    rw [read]
    constructor
    · intro h
      exact .inl ⟨s, rfl, h⟩
    · rintro (⟨_, ⟨⟩, h⟩ | compact)
      · exact h
      · contradiction
  | octets bs =>
    rw [ofToken_octets_eq_ok_iff]
    constructor
    · rintro rfl
      exact .inr rfl
    · rintro (⟨_, text, _⟩ | compact)
      · contradiction
      · exact (Token.octets.inj compact).symm
  | _ =>
    constructor
    · intro taken
      contradiction
    · rintro (⟨_, text, _⟩ | compact) <;> contradiction

theorem ofToken_toToken (readable : Bool) (u : Uuid) : ofToken (toToken readable u) = .ok u := by
  rw [ofToken_eq_ok_iff]
  cases readable with
  | true => exact .inl ⟨u.encode, rfl, parse_encode u⟩
  | false => exact .inr rfl

/-- What a format was given is what it is asked for later. -/
theorem hint?_toToken (readable : Bool) (u : Uuid) :
    (toToken readable u).hint? = some (hint readable) := by
  cases readable <;> rfl

/-- A format that holds an identifier gives it back, whatever it would offer for a value of the
other kind. -/
theorem decode_holding_toToken (readable : Bool) (u : Uuid) (other : Hint → Token) :
    decode (.holding readable (toToken readable u) other) = .ok u := by
  have offers : (Source.holding readable (toToken readable u) other).offer (hint readable) =
      toToken readable u := if_pos (hint?_toToken readable u)
  rw [decode]
  exact (congrArg ofToken offers).trans (ofToken_toToken readable u)

/-- What a format was given for an identifier is taken back as that identifier, be it the text or
the sixteen octets: the format is asked for the kind of value that it holds, and need not be able to
tell which kind that is. A format that can tell may hold either. A text is taken as it is read, with
the same cause if it is refused; octets are taken exactly if there are sixteen of them, and then
they are those of the result; all else is refused. -/
theorem token_round_trip :
    (∀ (readable : Bool) (u : Uuid), ofToken (toToken readable u) = .ok u) ∧
    (∀ u : Uuid, toToken true u = .text u.encode ∧
      toToken false u = .octets (ByteOrder.bigEndian.octets 16 u.words.toNumber.toNat)) ∧
    (∀ (t : Token) (u : Uuid),
      ofToken t = .ok u ↔ (∃ s, t = .text s ∧ parse s = .ok u) ∨ t = toToken false u) ∧
    (∀ s : String,
      (ofToken (.text s)).mapError DecodeError.message = (parse s).mapError InvalidText.message) ∧
    (∀ bs : List UInt8, (∃ u, ofToken (.octets bs) = .ok u) ↔ bs.length = 16) ∧
    (∀ bs : List UInt8, ofToken (.octets bs) = .error .octetCount ↔ bs.length ≠ 16) ∧
    (∀ (readable : Bool) (u : Uuid), (toToken readable u).hint? = some (hint readable)) ∧
    (∀ (readable : Bool) (u : Uuid) (other : Hint → Token),
      decode (.holding readable (toToken readable u) other) = .ok u) ∧
    ∀ (readable form : Bool) (u : Uuid), decode (.describing readable (toToken form u)) = .ok u := by
  refine ⟨ofToken_toToken, fun u => ⟨toToken_readable u, toToken_compact u⟩, ofToken_eq_ok_iff, ?_,
    exists_ofToken_octets_iff, ofToken_octets_eq_error_iff, hint?_toToken, decode_holding_toToken,
    fun _ => ofToken_toToken⟩
  intro s
  rw [ofToken_text]
  cases parse s <;> rfl

end UniqueId.Uuid

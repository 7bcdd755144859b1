import UniqueId.Proofs.Uuid.Cells

/-! What the writer of the canonical text leaves in its buffer. The pen fills the cells one after
the other without a gap, so the text is what was put, in that order. It is put octet by octet, and
that comes to the same characters as the description cell by cell. -/
namespace UniqueId.Uuid
open UniqueId.Text

namespace Pen

/-- The pen has put the characters into the first cells, one after the other. -/
structure Wrote (p : Pen) (cs : List Char) : Prop where
  position_eq : p.position = cs.length
  placed_eq : p.placed = cs.zipIdx.map fun c => (c.2, c.1)

theorem wrote_start : start.Wrote [] := ⟨rfl, rfl⟩

namespace Wrote
variable {p : Pen} {cs : List Char}

theorem put (h : p.Wrote cs) (c : Char) : (p.put c).Wrote (cs ++ [c]) where
  position_eq := by simp [Pen.put, h.position_eq]
  placed_eq := by simp [Pen.put, h.placed_eq, h.position_eq, List.zipIdx_append]

theorem foldl_put (h : p.Wrote cs) (ds : List Char) : (ds.foldl Pen.put p).Wrote (cs ++ ds) := by
  induction ds generalizing p cs with
  | nil => simpa using h
  | cons d ds ih => simpa using ih (h.put d)

/-- Every cell that was filled was filled once, and none was passed over. -/
theorem map_fst_placed (h : p.Wrote cs) : p.placed.map Prod.fst = List.range cs.length := by
  rw [h.placed_eq, List.map_map, List.range_eq_range']
  exact List.zipIdx_map_snd 0 cs

end Wrote

/-- Setting cells in their order, from the one after `before` on, replaces all of them. -/
theorem foldl_set_zipIdx (cs before cells : List Char) (h : cells.length = cs.length) :
    ((cs.zipIdx before.length).map fun c => (c.2, c.1)).foldl
      (fun cells cell => cells.set cell.1 cell.2) (before ++ cells) = before ++ cs := by
  induction cs generalizing before cells with
  | nil => rw [List.length_eq_zero_iff.1 h]; rfl
  | cons c cs ih =>
    obtain ⟨d, cells, rfl⟩ := List.exists_cons_of_length_eq_add_one h
    have next := ih (before ++ [c]) cells (Nat.succ.inj h)
    simp only [List.length_append, List.length_cons, List.length_nil, List.append_assoc,
      List.cons_append, List.nil_append] at next
    simp only [List.zipIdx_cons, List.map_cons, List.foldl_cons,
      List.set_append_right _ _ (Nat.le_refl _), Nat.sub_self, List.set_cons_zero]
    exact next

theorem Wrote.fill_eq {p : Pen} {cs cells : List Char} (h : p.Wrote cs)
    (hl : cells.length = cs.length) : p.fill cells = cs := by
  rw [fill, h.placed_eq]
  exact foldl_set_zipIdx cs [] cells hl

end Pen

/-- What is written for the octet with number `i`. -/
def octetText (i : Nat) (b : UInt8) : List Char :=
  Hex.octet b ++ if hyphenAfter i then ['-'] else []

theorem Pen.Wrote.putOctet {p : Pen} {cs : List Char} (h : p.Wrote cs) (i : Nat) (b : UInt8) :
    (p.putOctet i b).Wrote (cs ++ octetText i b) := by
  have digits := h.foldl_put (Hex.octet b)
  rw [Pen.putOctet, octetText]
  by_cases hi : hyphenAfter i = true
  · rw [if_pos hi, if_pos hi, ← List.append_assoc]
    exact digits.put '-'
  · rw [if_neg hi, if_neg hi, List.append_nil]
    exact digits

theorem Pen.Wrote.foldl_putOctet {p : Pen} {cs : List Char} (h : p.Wrote cs)
    (bs : List (UInt8 × Nat)) :
    (bs.foldl (fun p b => p.putOctet b.2 b.1) p).Wrote
      (cs ++ bs.flatMap fun b => octetText b.2 b.1) := by
  induction bs generalizing p cs with
  | nil => simpa using h
  | cons b bs ih => simpa using ih (h.putOctet b.2 b.1)

theorem wrote_inscribe (o : Octets) :
    (inscribe o).Wrote (o.toList.zipIdx.flatMap fun b => octetText b.2 b.1) :=
  Pen.wrote_start.foldl_putOctet o.toList.zipIdx

theorem octet_eq {b : UInt8} {m : Nat} (h : b.toNat = m % 256) :
    Hex.octet b = [Hex.digit (BitVec.ofNat 4 (m >>> 4)), Hex.digit (BitVec.ofNat 4 m)] := by
  have high : BitVec.ofNat 4 ((m % 256) >>> 4) = BitVec.ofNat 4 (m >>> 4) := by
    apply BitVec.eq_of_toNat_eq
    simp only [BitVec.toNat_ofNat, Nat.shiftRight_eq_div_pow]
    omega
  have low : BitVec.ofNat 4 (m % 256) = BitVec.ofNat 4 m := by
    apply BitVec.eq_of_toNat_eq
    simp only [BitVec.toNat_ofNat]
    omega
  rw [← high, ← low, ← h]
  rfl

theorem octet_ofNumber (n : BitVec 128) (i : Fin 16) :
    Hex.octet (Octets.ofNumber n)[i] =
      [digitAt n.toNat (2 * (15 - i.val) + 1), digitAt n.toNat (2 * (15 - i.val))] := by
  have value : (Octets.ofNumber n)[i].toNat = (n.toNat >>> (8 * (15 - i.val))) % 256 := by
    simp [Octets.ofNumber]
  rw [octet_eq value, digitAt, digitAt, ← Nat.shiftRight_add,
    show 4 * (2 * (15 - i.val) + 1) = 8 * (15 - i.val) + 4 by omega,
    show 4 * (2 * (15 - i.val)) = 8 * (15 - i.val) by omega]

theorem zipIdx_toList (o : Octets) :
    o.toList.zipIdx = (List.finRange 16).map fun i => (o[i], i.val) := by
  apply List.ext_getElem
  · simp
  · intro i hi hj
    simp

/-- Going through the octets and going through the cells meets the same digits and hyphens. -/
theorem flatMap_octets (digit : Nat → Char) :
    ((List.finRange 16).flatMap fun i =>
      [digit (2 * (15 - i.val) + 1), digit (2 * (15 - i.val))] ++
        if hyphenAfter i.val then ['-'] else []) =
    (List.range 36).map fun i => if i ∈ hyphens then '-' else digit (digitsFrom (i + 1)) := rfl

theorem wrote_inscribe_cells (u : Uuid) :
    (inscribe u.words.toOctets).Wrote ((List.range 36).map (cell u.words.toNumber.toNat)) := by
  have wrote := wrote_inscribe u.words.toOctets
  simp only [zipIdx_toList, List.flatMap_map, octetText, Words.toOctets, octet_ofNumber,
    flatMap_octets] at wrote
  exact wrote

theorem toList_encode (u : Uuid) :
    u.encode.toList = (List.range 36).map (cell u.words.toNumber.toNat) := by
  rw [encode, String.toList_ofList]
  exact (wrote_inscribe_cells u).fill_eq (by rfl)

end UniqueId.Uuid

import UniqueId.Words

/-! The source of randomness: a queue of random words, from which values are drawn in order. A
draw that finds the queue too short takes what is left and has no result. -/
namespace UniqueId

/-- Random words in the order in which they will be drawn. -/
abbrev Draws := List UInt64

namespace Draws

/-- Draws one word. -/
def word : Draws → Option UInt64 × Draws
  | [] => (none, [])
  | d :: rest => (some d, rest)

/-- Draws the two words of an identifier, the high one first. -/
def words : Draws → Option Words × Draws
  | high :: low :: rest => (some ⟨high, low⟩, rest)
  | _ => (none, [])

/-- The number from 0 to `last` that a word stands for. That it is the remainder is a convention of
the queue: of a source of randomness nothing is expected but a number in this range. -/
def pick (last d : UInt64) : UInt64 := d % (last + 1)

theorem toNat_pick {last : UInt64} (h : last.toNat < 0xffffffffffffffff) (d : UInt64) :
    (pick last d).toNat = d.toNat % (last.toNat + 1) := by
  rw [pick, UInt64.toNat_mod, UInt64.toNat_add]
  exact congrArg (d.toNat % ·) (Nat.mod_eq_of_lt (Nat.succ_lt_succ h))

theorem pick_le {last : UInt64} (h : last.toNat < 0xffffffffffffffff) (d : UInt64) :
    (pick last d).toNat ≤ last.toNat := by
  rw [toNat_pick h]
  exact Nat.le_of_lt_succ (Nat.mod_lt _ (Nat.succ_pos _))

/-- Draws a number from 0 to `last`. -/
def upTo (last : UInt64) (ds : Draws) : Option UInt64 × Draws :=
  (ds.word.1.map (pick last), ds.word.2)

end Draws
end UniqueId

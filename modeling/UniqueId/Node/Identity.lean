/-! The identity under which a node mints time-based identifiers: a clock sequence of fifteen bits
and a node number of 48. -/
namespace UniqueId

structure NodeIdentity where
  clockSequence : UInt16
  node : UInt64
  clockSequence_lt : clockSequence.toNat < 0x8000
  node_lt : node.toNat < 0x1000000000000
  deriving DecidableEq, Repr

namespace NodeIdentity

def maxClockSequence : UInt16 := 0x7fff

def maxNode : UInt64 := 0xffffffffffff

/-- The identity with the low bits of the given values. -/
def truncate (clockSequence : UInt16) (node : UInt64) : NodeIdentity where
  clockSequence := clockSequence &&& maxClockSequence
  node := node &&& maxNode
  clockSequence_lt := by
    rw [UInt16.toNat_and]
    exact Nat.lt_succ_of_le Nat.and_le_right
  node_lt := by
    rw [UInt64.toNat_and]
    exact Nat.lt_succ_of_le Nat.and_le_right

@[simp] theorem clockSequence_truncate (c : UInt16) (n : UInt64) :
    (truncate c n).clockSequence = c &&& maxClockSequence := rfl

@[simp] theorem node_truncate (c : UInt16) (n : UInt64) : (truncate c n).node = n &&& maxNode := rfl

theorem toNat_clockSequence_truncate (c : UInt16) (n : UInt64) :
    (truncate c n).clockSequence.toNat = c.toNat % 0x8000 := by
  rw [clockSequence_truncate, UInt16.toNat_and]
  exact Nat.and_two_pow_sub_one_eq_mod c.toNat 15

theorem toNat_node_truncate (c : UInt16) (n : UInt64) :
    (truncate c n).node.toNat = n.toNat % (1 <<< 48) := by
  rw [node_truncate, UInt64.toNat_and]
  exact Nat.and_two_pow_sub_one_eq_mod n.toNat 48

end NodeIdentity
end UniqueId

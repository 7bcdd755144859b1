import UniqueId.Node.Identity
import UniqueId.Text.Hex

/-! What the library reports while it works: a level and named fields, all as text. -/
namespace UniqueId

inductive Level where
  | debug
  | trace
  deriving DecidableEq, Repr

inductive Event where
  /-- A clock went on to the millisecond after `millis` while the wall clock showed `now`. -/
  | clockCarried (now millis : UInt64)
  /-- The host was described, by so many addresses of either kind. -/
  | hostDescribed (host : String) (addresses interfaces : Nat)
  /-- An identity was derived from so many descriptors. -/
  | identityDerived (id : NodeIdentity) (descriptors : Nat)
  deriving DecidableEq, Repr

namespace Event

def level : Event → Level
  | clockCarried _ _ => .trace
  | hostDescribed _ _ _ => .trace
  | identityDerived _ _ => .debug

def message : Event → String
  | clockCarried _ _ => "wall clock behind; carrying into next millisecond"
  | hostDescribed _ _ _ => "collected host descriptors"
  | identityDerived _ _ => "derived node identity"

/-- The named values beside the message. -/
def fields : Event → List (String × String)
  | clockCarried now millis => [("now", Nat.repr now.toNat), ("millis", Nat.repr millis.toNat)]
  | hostDescribed host addresses interfaces =>
    [("host_name", host), ("addrs", Nat.repr addresses),
      ("hardware_addresses", Nat.repr interfaces)]
  | identityDerived id descriptors =>
    [("node_id", String.ofList (Text.Hex.digits 12 id.node.toNat)),
      ("clock_sequence", Nat.repr id.clockSequence.toNat),
      ("descriptors", Nat.repr descriptors)]

end Event
end UniqueId

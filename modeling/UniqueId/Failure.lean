import UniqueId.Node.Host

/-! Why a call has no result. -/
namespace UniqueId

inductive Failure where
  | unavailable (why : Unavailable)
  /-- The caller asked for an identifier and nothing else, so the program ends. -/
  | aborted (why : Unavailable)
  | drawsExhausted
  | readingsExhausted
  deriving DecidableEq, Repr

namespace Failure

/-- The text that a program ends with. -/
def abortMessage (why : Unavailable) : String :=
  "rfc4122: could not derive node identity: " ++ why.message

end Failure
end UniqueId

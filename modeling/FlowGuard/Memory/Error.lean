import FlowGuard.Address

/-!
Why a request to the target's memory fails.
-/

namespace FlowGuard

inductive MemoryError where
  | unmapped (address : Address)
  | unreadable (address : Address)
  /-- The range of `length` bytes leaves the address space. -/
  | overflow (address : Address) (length : Nat)
  | rightsQuery (address : Address)
  deriving DecidableEq, Repr

namespace MemoryError

def message : MemoryError → String
  | unmapped a => "address " ++ hex a ++ " is not mapped"
  | unreadable a => "address " ++ hex a ++ " is not readable"
  | overflow a n =>
    "read of " ++ toString n ++ " bytes at " ++ hex a ++ " wraps the address space"
  | rightsQuery a => "page rights query failed at " ++ hex a

end MemoryError

end FlowGuard

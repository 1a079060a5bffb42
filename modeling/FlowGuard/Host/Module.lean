import FlowGuard.Address

/-!
A loaded module: where it starts and how many bytes it covers.
-/

namespace FlowGuard

structure LoadedModule where
  base : Address
  size : UInt64
  deriving DecidableEq, Repr

namespace LoadedModule

/-- The position behind the last byte, at most the last address. -/
def endAddress (m : LoadedModule) : Address :=
  Address.addSat m.base m.size

def contains (m : LoadedModule) (a : Address) : Bool :=
  decide (m.base ≤ a) && decide (a < m.endAddress)

end LoadedModule

end FlowGuard

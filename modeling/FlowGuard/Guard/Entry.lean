import FlowGuard.Address

/-!
A stored type hash: the eight bytes right below the function it belongs to.
-/

namespace FlowGuard

def hashSize : Nat := 8

/-- The place of a stored hash. -/
structure Entry where
  address : Address
  deriving DecidableEq, Repr

namespace Entry

/-- The hash of the function at `base + rva`. -/
def ofRva (base : Address) (rva : UInt32) : Entry :=
  ⟨base + rva.toUInt64 - 8⟩

def function (e : Entry) : Address :=
  e.address + 8

end Entry

/-- A hash without its lowest bit, which does not take part in comparisons. -/
def maskHash (hash : UInt64) : UInt64 :=
  hash &&& ~~~1

end FlowGuard

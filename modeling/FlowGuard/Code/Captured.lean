import FlowGuard.Address
import Std.Data.ExtTreeMap

/-!
Captured code: byte regions copied out of the target, by start address.
-/

namespace FlowGuard

open Std (ExtTreeMap)

structure Region where
  start : Address
  bytes : Array UInt8
  deriving DecidableEq, Repr

namespace Region

def endAddress (r : Region) : Address :=
  r.start + UInt64.ofNat r.bytes.size

/-- The `count` bytes at an address, if the region holds them all. -/
def slice? (r : Region) (a : Address) (count : Nat) : Option (List UInt8) :=
  let offset := a.toNat - r.start.toNat
  if r.start ≤ a ∧ offset + count ≤ r.bytes.size then
    some (r.bytes.extract offset (offset + count)).toList
  else none

end Region

/-- Regions by start address. -/
structure Captured where
  byStart : ExtTreeMap Address (Array UInt8) := ∅
  deriving DecidableEq

namespace Captured

/-- Adds a region; one with the same start is replaced. -/
def insert (c : Captured) (start : Address) (bytes : Array UInt8) : Captured :=
  { byStart := c.byStart.insert start bytes }

def regions (c : Captured) : List Region :=
  c.byStart.toList.map fun (start, bytes) => ⟨start, bytes⟩

def size (c : Captured) : Nat :=
  c.byStart.size

def byteCount (c : Captured) : Nat :=
  c.regions.foldl (fun count r => count + r.bytes.size) 0

/-- The region with the greatest start that is not behind the address. -/
def atOrBefore? (c : Captured) (a : Address) : Option Region :=
  c.regions.reverse.find? fun r => decide (r.start ≤ a)

def containing? (c : Captured) (a : Address) : Option Region :=
  (c.atOrBefore? a).filter fun r => decide (a < r.endAddress)

/-- The `count` bytes at an address, if one region holds them all. -/
def read? (c : Captured) (a : Address) (count : Nat) : Option (List UInt8) :=
  c.atOrBefore? a >>= fun r => r.slice? a count

end Captured

end FlowGuard

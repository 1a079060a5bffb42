import FlowGuard.Code.Captured
import FlowGuard.Guard.Entry
import FlowGuard.LittleEndian
import FlowGuard.Run.Event
import Std.Data.ExtTreeMap

/-!
The hash index: entries grouped by their stored hash without its lowest bit. A group also keeps the
comment made for it, once there is one.
-/

namespace FlowGuard

open Std (ExtTreeMap)

/-- The entries that store one hash, in table order. -/
structure HashGroup where
  entries : List Entry := []
  comment : Option String := none
  deriving DecidableEq, Repr

/-- Groups by masked hash. -/
structure HashIndex where
  groups : ExtTreeMap UInt64 HashGroup := ∅
  deriving DecidableEq

namespace HashIndex

def size (x : HashIndex) : Nat :=
  x.groups.size

/-- The group of a hash, whatever its lowest bit. -/
def get? (x : HashIndex) (hash : UInt64) : Option HashGroup :=
  x.groups[maskHash hash]?

/-- Adds an entry at the end of the group of its hash. -/
def add (x : HashIndex) (hash : UInt64) (e : Entry) : HashIndex :=
  let group := (x.get? hash).getD {}
  { groups := x.groups.insert (maskHash hash) { group with entries := group.entries ++ [e] } }

def setComment (x : HashIndex) (hash : UInt64) (group : HashGroup) (text : String) : HashIndex :=
  { groups := x.groups.insert (maskHash hash) { group with comment := some text } }

/-- The hash stored at an entry, if the captured code holds all of it. -/
def storedHash? (c : Captured) (e : Entry) : Option UInt64 :=
  (c.read? e.address hashSize).map fun bytes => UInt64.ofNat (LittleEndian.decode bytes)

/-- Adds entries one after another, counting those whose hash was not captured. -/
def addAll (c : Captured) (x : HashIndex) (missed : Nat) : List Entry → Traced (HashIndex × Nat)
  | [] => pure (x, missed)
  | e :: rest =>
    match storedHash? c e with
    | some hash => addAll c (x.add hash e) missed rest
    | none => do
      Traced.note (.hashMissed e.address)
      addAll c x (missed + 1) rest

/-- The index of the entries, and how many of them are missing from it. -/
def build (c : Captured) (entries : List Entry) : Traced (HashIndex × Nat) := do
  let (x, missed) ← addAll c {} 0 entries
  Traced.note (.indexBuilt x.size)
  return (x, missed)

end HashIndex

end FlowGuard

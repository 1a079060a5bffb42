import FlowGuard.Guard.Entry
import FlowGuard.Header.GuardBlock
import FlowGuard.Host.Debugger
import FlowGuard.Run.Error

/-!
The guard function table: slots of a 32-bit function address followed by metadata whose first byte
holds flags. Every slot is read before the first hash is marked, so a table that cannot be read to its
end leaves no mark.
-/

namespace FlowGuard

/-- The entries found in a table and what became of their marks. -/
structure DecodedTable where
  /-- In table order. -/
  entries : List Entry := []
  marked : Nat := 0
  warnings : Nat := 0
  deriving DecidableEq, Repr

namespace Table

/-- The flag of a slot whose function has a stored hash. -/
def hashFlag : UInt8 := 0x08

/-- The metadata size of a table with hashes. -/
def stride (b : GuardBlock) : Except RunError UInt32 :=
  if !b.isEnabled then .error (.notEnabled b.flags)
  else if b.metadataSize = 0 then .error (.zeroStride b.flags)
  else .ok b.metadataSize

def slotAt (r : FieldReader) (a : Address) : Except RunError (UInt32 × UInt8) :=
  match r.uint32 a with
  | .error e => .error (.tableRead a e)
  | .ok rva =>
    match r.uint8 (a + 4) with
    | .error e => .error (.tableRead (a + 4) e)
    | .ok flags => .ok (rva, flags)

def entryOf? (base : Address) (slot : UInt32 × UInt8) : Option Entry :=
  if slot.2 &&& hashFlag != 0 then some (Entry.ofRva base slot.1) else none

/-- Reads slots from `a` on; `found` holds the entries of the slots in front, last one first. -/
def readSlots (r : FieldReader) (base : Address) (size : UInt64) :
    Nat → Address → List Entry → Except RunError (List Entry)
  | 0, _, found => .ok found.reverse
  | count + 1, a, found =>
    match slotAt r a with
    | .error e => .error e
    | .ok slot =>
      readSlots r base size count (a + size) ((entryOf? base slot).toList ++ found)

def entries (r : FieldReader) (base : Address) (b : GuardBlock) : Except RunError (List Entry) :=
  match stride b with
  | .error e => .error e
  | .ok s => readSlots r base (4 + s.toUInt64) b.count.toNat b.table []

end Table

namespace Debugger

variable {σ : Type} (t : Debugger σ)

/-- Marks the stored hashes one after another, counting those accepted and those refused. -/
def markAll (s : σ) (table : DecodedTable) : List Entry → Traced (σ × DecodedTable)
  | [] => pure (s, table)
  | e :: rest => do
    Traced.request (.mark e.address hashSize)
    match t.mark s e.address hashSize with
    | (.ok _, s) => markAll s { table with marked := table.marked + 1 } rest
    | (.error r, s) =>
      Traced.note (.markRefused e.address r)
      markAll s { table with warnings := table.warnings + 1 } rest

def decode (s : σ) (base : Address) (b : GuardBlock) : Traced (Except RunError DecodedTable × σ) :=
  match Table.entries (t.fields s) base b with
  | .error e => pure (.error e, s)
  | .ok found => do
    Traced.note (.tableWalked b.count found.length)
    let (s, table) ← t.markAll s { entries := found } found
    return (.ok table, s)

end Debugger

def Table.decode (h : Host) (base : Address) (b : GuardBlock) : Traced (Except RunError DecodedTable × Host) :=
  Debugger.ofHost.decode h base b

end FlowGuard

import FlowGuard.Header.Error
import FlowGuard.Memory.Cursor
import FlowGuard.Run.Event

/-!
From the base of a mapped module to the guard block of its load configuration: DOS header, NT
headers, data directory ten, load configuration. A position inside a header may not leave the address
space; the fields of the block are read one behind the other.
-/

namespace FlowGuard

/-- The control-flow-guard fields of a load configuration. -/
structure GuardBlock where
  checkPointer : Address
  dispatchPointer : Address
  /-- Where the function table starts. -/
  table : Address
  /-- The number of slots in the function table. -/
  count : UInt64
  flags : UInt32
  deriving DecidableEq, Repr

namespace Header

/-- Offset of the position of the NT headers in the DOS header. -/
def ntOffsetField : UInt64 := 0x3C

def directoryEntrySize : Nat := 8

/-- The data directory that leads to the load configuration. -/
def loadConfigIndex : UInt32 := 10

def fieldAt (base : Address) (offset : Nat) : Except HeaderError Address :=
  match Address.add? base (UInt64.ofNat offset) with
  | some a => .ok a
  | none => .error (.addressOverflow base offset)

def ofMemory {α : Type} (x : Except MemoryError α) : Except HeaderError α :=
  x.mapError .unreadable

/-- The NT headers of the module at `base`; their distance is signed. -/
def ntHeaders (m : Memory) (base : Address) : Except MemoryError Address :=
  (m.readInt32 (base + ntOffsetField)).map fun d => base + d.toInt64.toUInt64

def directory (m : Memory) (nt : Address) (w : Width) (index : UInt32) :
    Except HeaderError (UInt32 × UInt32) := do
  let countAt ← fieldAt nt w.countOffset
  let count ← ofMemory (m.readUInt32 countAt)
  if count ≤ index then throw (.directoryOutOfRange count)
  let entry ← fieldAt nt (w.directoriesOffset + index.toNat * directoryEntrySize)
  let (rva, c) ← ofMemory (Cursor.uint32 ⟨m, entry⟩)
  let (size, _) ← ofMemory c.uint32
  return (rva, size)

def readBlock (m : Memory) (w : Width) (a : Address) : Except MemoryError GuardBlock := do
  let (checkPointer, c) ← Cursor.pointer ⟨m, a⟩ w
  let (dispatchPointer, c) ← c.pointer w
  let (table, c) ← c.pointer w
  let (count, c) ← c.pointer w
  let (flags, _) ← c.uint32
  return { checkPointer, dispatchPointer, table, count, flags }

/-- The directory that leads to the load configuration, if it can hold one. -/
def loadConfigDirectory (m : Memory) (nt : Address) (w : Width) :
    Except HeaderError (UInt32 × UInt32) := do
  let (rva, size) ← directory m nt w loadConfigIndex
  if rva = 0 then throw .directoryMissing
  if size < 4 then throw (.directoryTooSmall size)
  return (rva, size)

/-- The guard block of the load configuration at `a`, which has to declare that it holds one. -/
def guardBlockOf (m : Memory) (w : Width) (a : Address) : Except HeaderError GuardBlock := do
  let declared ← ofMemory (m.readUInt32 a)
  let required := w.guardOffset + w.guardSize
  if declared.toNat < required then throw (.guardTruncated declared required)
  let start ← fieldAt a w.guardOffset
  ofMemory (readBlock m w start)

def locate (m : Memory) (base : Address) (w : Width) :
    ExceptT HeaderError Traced GuardBlock := do
  let nt ← liftExcept (ofMemory (ntHeaders m base))
  note (.headersFound nt)
  let (rva, size) ← liftExcept (loadConfigDirectory m nt w)
  let loadConfig ← liftExcept (fieldAt base rva.toNat)
  note (.loadConfigFound loadConfig size)
  let block ← liftExcept (guardBlockOf m w loadConfig)
  note (.guardBlock block.table block.count block.flags)
  return block
where
  liftExcept {α : Type} (x : Except HeaderError α) : ExceptT HeaderError Traced α :=
    ExceptT.mk (pure x)
  note (n : Note) : ExceptT HeaderError Traced Unit :=
    ExceptT.lift (Traced.note n)

end Header

namespace GuardBlock

/-- The flag of a module whose functions carry type hashes. -/
def enabledFlag : UInt32 := 0x00800000

def isEnabled (b : GuardBlock) : Bool :=
  b.flags &&& enabledFlag != 0

/-- Bytes of metadata behind each address of the table. -/
def metadataSize (b : GuardBlock) : UInt32 :=
  b.flags >>> 28

end GuardBlock

end FlowGuard

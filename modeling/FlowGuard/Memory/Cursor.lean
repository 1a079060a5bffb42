import FlowGuard.Memory.Basic
import FlowGuard.Width

/-!
Reading fields one after another. A read that succeeds moves the cursor behind the field, one that
fails leaves it; positions wrap around the end of the address space.
-/

namespace FlowGuard

structure Cursor where
  memory : Memory
  position : Address

namespace Cursor

def skip (c : Cursor) (count : UInt64) : Cursor :=
  { c with position := c.position + count }

def peek (c : Cursor) : Except MemoryError UInt8 :=
  c.memory.readUInt8 c.position

def uint8 (c : Cursor) : Except MemoryError (UInt8 × Cursor) :=
  (c.memory.readUInt8 c.position).map fun v => (v, c.skip 1)

def uint32 (c : Cursor) : Except MemoryError (UInt32 × Cursor) :=
  (c.memory.readUInt32 c.position).map fun v => (v, c.skip 4)

def uint64 (c : Cursor) : Except MemoryError (UInt64 × Cursor) :=
  (c.memory.readUInt64 c.position).map fun v => (v, c.skip 8)

/-- A pointer; four bytes are extended with zeros. -/
def pointer (c : Cursor) : Width → Except MemoryError (Address × Cursor)
  | .bits32 => c.uint32.map fun (v, c) => (v.toUInt64, c)
  | .bits64 => c.uint64

end Cursor

end FlowGuard

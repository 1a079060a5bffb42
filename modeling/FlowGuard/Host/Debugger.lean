import FlowGuard.Host.Basic

/-!
What the decoding of a table needs of its host: reads of single fields, and a place to mark data. Any type of state
can be such a host; a `Host` is one.
-/

namespace FlowGuard

/-- What a host answers to reads of single fields. -/
structure FieldReader where
  uint8 : Address → Except MemoryError UInt8
  uint32 : Address → Except MemoryError UInt32

namespace Memory

def fields (m : Memory) : FieldReader where
  uint8 := m.readUInt8
  uint32 := m.readUInt32

instance : Coe Memory FieldReader := ⟨fields⟩

@[simp] theorem uint8_fields (m : Memory) : m.fields.uint8 = m.readUInt8 := rfl

@[simp] theorem uint32_fields (m : Memory) : m.fields.uint32 = m.readUInt32 := rfl

end Memory

/-- A host of any kind: what it answers to reads, and what becomes of it when it is asked to mark data. -/
structure Debugger (σ : Type) where
  uint8 : σ → Address → Except MemoryError UInt8
  uint32 : σ → Address → Except MemoryError UInt32
  mark : σ → Address → Nat → Except Refusal Unit × σ

namespace Debugger

variable {σ : Type}

def fields (t : Debugger σ) (s : σ) : FieldReader where
  uint8 := t.uint8 s
  uint32 := t.uint32 s

/-- A `Host` as debugger. A refused mark leaves it as it is. -/
def ofHost : Debugger Host where
  uint8 h := h.memory.readUInt8
  uint32 h := h.memory.readUInt32
  mark h a size :=
    match h.markData a size with
    | .ok h' => (.ok (), h')
    | .error r => (.error r, h)

@[simp] theorem fields_ofHost (h : Host) : ofHost.fields h = h.memory.fields := rfl

end Debugger

end FlowGuard

import FlowGuard.Address

/-!
The pointer width of the target. Every offset that differs between 32-bit and 64-bit images comes
from here.
-/

namespace FlowGuard

inductive Width where
  | bits32
  | bits64
  deriving DecidableEq, Repr

namespace Width

def pointerSize : Width → Nat
  | bits32 => 4
  | bits64 => 8

/-- Bytes of the optional header with all sixteen data directories. -/
def optionalHeaderSize : Width → Nat
  | bits32 => 224
  | bits64 => 240

def guardOffset : Width → Nat
  | bits32 => 72
  | bits64 => 112

/-- Bytes of the guard block: four pointers and the 32-bit flags. -/
def guardSize (w : Width) : Nat :=
  4 * w.pointerSize + 4

/-- Bytes of the signature and the file header in front of the optional header. -/
def ntPreamble : Nat := 24

def countOffset : Width → Nat
  | bits32 => ntPreamble + 92
  | bits64 => ntPreamble + 108

def directoriesOffset : Width → Nat
  | bits32 => ntPreamble + 96
  | bits64 => ntPreamble + 112

/-- The bytes in front of a hash that is loaded for comparison, where such a load is known. -/
def signature? : Width → Option (List UInt8)
  | bits32 => none
  | bits64 => some [0x49, 0xBA]

/-- The fixed-width spelling of a pointer; 32-bit pointers keep the low half. -/
def pointerText : Width → Address → String
  | bits32, a => upperHex 8 (a.toNat % UInt32.size)
  | bits64, a => upperHex 16 a.toNat

def name : Width → String
  | bits32 => "32-bit"
  | bits64 => "64-bit"

end Width

end FlowGuard

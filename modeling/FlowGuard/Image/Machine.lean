import FlowGuard.Width

/-!
The processor an image file is made for.
-/

namespace FlowGuard

inductive Machine where
  | i386
  | x64
  | arm
  | arm64
  | unknown
  deriving DecidableEq, Repr

namespace Machine

def ofCode (code : Nat) : Machine :=
  if code = 0x14C then i386
  else if code = 0x8664 then x64
  else if code = 0x1C4 then arm
  else if code = 0xAA64 ∨ code = 0xA641 then arm64
  else unknown

def name : Machine → String
  | i386 => "I386"
  | x64 => "X86_64"
  | arm => "Arm"
  | arm64 => "Aarch64"
  | unknown => "Unknown"

/-- The pointer width of the processors that are expected. -/
def width? : Machine → Option Width
  | i386 => some .bits32
  | x64 => some .bits64
  | _ => none

end Machine

end FlowGuard

/-!
Addresses of the target's 64-bit address space. `+` and `-` wrap around its end; a sum that must
not wrap is `add?`, and one that stops at the last address is `addSat`. `hex` is the spelling used in
messages, `upperHex` the fixed-width one used for pointers.
-/

namespace FlowGuard

/-- A position in the target's address space. -/
abbrev Address := UInt64

def spaceSize : Nat := 0x10000000000000000

namespace Address

/-- The sum, unless it leaves the address space. -/
def add? (a b : UInt64) : Option UInt64 :=
  if a.toNat + b.toNat < spaceSize then some (a + b) else none

/-- The sum, or the last address if the sum leaves the address space. -/
def addSat (a b : UInt64) : UInt64 :=
  (add? a b).getD (UInt64.ofNat (spaceSize - 1))

theorem toNat_addSat (a b : UInt64) : (addSat a b).toNat = min (a.toNat + b.toNat) (spaceSize - 1) := by
  unfold addSat add?
  split
  case isTrue h =>
    have hsum : (a + b).toNat = a.toNat + b.toNat := Nat.mod_eq_of_lt h
    rw [Option.getD_some, hsum]
    omega
  case isFalse h =>
    have hlast : (UInt64.ofNat (spaceSize - 1)).toNat = spaceSize - 1 := rfl
    rw [Option.getD_none, hlast]
    omega

end Address

/-- Lowercase hexadecimal with the prefix `0x` and no leading zeros. -/
def hexNat (n : Nat) : String :=
  "0x" ++ String.ofList (Nat.toDigits 16 n)

def hex (a : UInt64) : String :=
  hexNat a.toNat

/-- Uppercase hexadecimal, filled with zeros on the left up to `places` digits. -/
def upperHex (places n : Nat) : String :=
  let digits := (Nat.toDigits 16 n).map Char.toUpper
  String.ofList (List.replicate (places - digits.length) '0' ++ digits)

end FlowGuard

import FlowGuard.Memory.Error

/-!
Why no guard block was found behind a module's headers.
-/

namespace FlowGuard

/-- A header walk that did not reach a usable guard block. -/
inductive HeaderError where
  | unreadable (cause : MemoryError)
  /-- The module has too few data directories. -/
  | directoryOutOfRange (count : UInt32)
  | directoryMissing
  | directoryTooSmall (size : UInt32)
  /-- The load configuration ends before its guard block. -/
  | guardTruncated (declared : UInt32) (required : Nat)
  | addressOverflow (base : Address) (offset : Nat)
  deriving DecidableEq, Repr

namespace HeaderError

def message : HeaderError → String
  | unreadable e => "failed to read PE headers: " ++ e.message
  | directoryOutOfRange n => "module declares only " ++ toString n.toNat ++ " data directories"
  | directoryMissing => "load config directory is absent"
  | directoryTooSmall n =>
    "load config directory is too small (" ++ toString n.toNat ++ " bytes)"
  | guardTruncated d r =>
    "load config declares " ++ toString d.toNat ++ " bytes, guard fields need " ++ toString r
  | addressOverflow b o =>
    "header offset " ++ hexNat o ++ " from " ++ hex b ++ " leaves the address space"

end HeaderError

end FlowGuard

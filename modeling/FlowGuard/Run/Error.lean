import FlowGuard.Header.Error

/-!
Why a marking run stops without a result. Trouble that does not stop a run (refused marks, pages that
cannot be queried or read, entries outside the captured code) is counted as a warning instead.
-/

namespace FlowGuard

inductive RunError where
  /-- The selection lies in no module. -/
  | noModule
  | noGuardTable (cause : HeaderError)
  | notEnabled (flags : UInt32)
  /-- The flags give the table slots no metadata. -/
  | zeroStride (flags : UInt32)
  /-- A table slot could not be read at `address`. -/
  | tableRead (address : Address) (cause : MemoryError)
  /-- The step of a module walk has to be a power of two. -/
  | invalidPageSize (size : UInt64)
  /-- The command was given arguments. -/
  | arguments (count : Nat)
  deriving DecidableEq, Repr

namespace RunError

def message : RunError → String
  | noModule => "No module in the CPU view"
  | noGuardTable _ => "No CFG function table found"
  | notEnabled _ => "XFG isn't enabled for the target module"
  | zeroStride _ => "mdSize is zero"
  | tableRead a _ => "DbgMemRead failed at " ++ hex a
  | invalidPageSize n => "invalid page size " ++ hex n
  | arguments _ => "Command does not accept arguments"

/-- The wording followed by that of each underlying cause. -/
def messages : RunError → List String
  | e@(noGuardTable (.unreadable m)) =>
    [e.message, (HeaderError.unreadable m).message, m.message]
  | e@(noGuardTable h) => [e.message, h.message]
  | e@(tableRead _ m) => [e.message, m.message]
  | e => [e.message]

end RunError

end FlowGuard

import FlowGuard.Image.Bytes
import FlowGuard.Image.Error
import FlowGuard.Width

/-!
Files made of load commands. The commands are looked at one after another, and a command that is cut off
ends them without a complaint; segments have to hold their sections, and the file its symbols.
-/

namespace FlowGuard.MachO

structure Layout where
  order : Bytes.Order
  width : Width
  deriving DecidableEq, Repr

namespace Layout

def pick (l : Layout) (narrow wide : Nat) : Nat :=
  match l.width with
  | .bits32 => narrow
  | .bits64 => wide

def headerSize (l : Layout) : Nat := l.pick 28 32

def segmentCommand (l : Layout) : Nat := l.pick 0x1 0x19

def segmentSize (l : Layout) : Nat := l.pick 56 72

def sectionSize (l : Layout) : Nat := l.pick 68 80

def symbolSize (l : Layout) : Nat := l.pick 12 16

end Layout

def symbolsCommand : Nat := 0x2

def symbolsSize : Nat := 24

/-- Checks a segment: its sections stand behind it. -/
def checkSegment (l : Layout) (command : List UInt8) : Except MachOError Unit := do
  demand (l.segmentSize ≤ command.length) MachOError.commandSize
  let count := l.order.field command (l.pick 48 64) 4
  demand (count * l.sectionSize ≤ command.length - l.segmentSize) MachOError.sectionCount

def checkSymbols (file : Array UInt8) (l : Layout) (command : List UInt8) : Except MachOError Unit := do
  demand (symbolsSize ≤ command.length) MachOError.commandSize
  let offset := l.order.field command 8 4
  let count := l.order.field command 12 4
  demand (Bytes.holds file offset (count * l.symbolSize)) MachOError.symbols

/-- Checks so many commands, or as many as are complete. -/
def checkCommands (file : Array UInt8) (l : Layout) : Nat → List UInt8 → Except MachOError Unit
  | 0, _ => .ok ()
  | count + 1, bytes =>
    let size := l.order.field bytes 4 4
    if bytes.length < 8 ∨ size < 8 ∨ bytes.length < size then .ok ()
    else do
      let command := bytes.take size
      let kind := l.order.field bytes 0 4
      if kind = l.segmentCommand then checkSegment l command
      else if kind = symbolsCommand then checkSymbols file l command
      checkCommands file l count (bytes.drop size)

/-- Checks a file. Commands that the file does not hold are not looked at. -/
def check (file : Array UInt8) (l : Layout) : Except MachOError Unit := do
  let header ← require (Bytes.slice? file 0 l.headerSize) MachOError.header
  match Bytes.read? file l.headerSize (l.order.field header 20 4) with
  | none => return
  | some commands => checkCommands file l (min (l.order.field header 16 4) commands.length) commands

end FlowGuard.MachO

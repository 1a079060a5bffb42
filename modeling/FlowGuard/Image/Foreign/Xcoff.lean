import FlowGuard.Image.Bytes
import FlowGuard.Image.Error
import FlowGuard.Width

/-!
Extended object files, whose numbers have the most significant byte first. The header is followed by an
auxiliary header and the section table; the symbols and their strings stand elsewhere.
-/

namespace FlowGuard.Xcoff

def pick (w : Width) (narrow wide : Nat) : Nat :=
  match w with
  | .bits32 => narrow
  | .bits64 => wide

def headerSize (w : Width) : Nat := pick w 20 24

def auxiliarySize (w : Width) : Nat := pick w 72 120

def sectionSize (w : Width) : Nat := pick w 40 72

def symbolSize : Nat := 18

/-- The flag of a file that can be executed. -/
def executable : Nat := 0x2

def check (file : Array UInt8) (w : Width) : Except XcoffError Unit := do
  let header ← require (Bytes.slice? file 0 (headerSize w)) XcoffError.header
  let field := Bytes.Order.big.field header
  let auxiliary := field 16 2
  if field 18 2 &&& executable ≠ 0 ∧ auxiliary = auxiliarySize w then
    demand (Bytes.holds file (headerSize w) auxiliary) XcoffError.auxiliaryHeader
  let count := field 2 2
  demand (Bytes.holds file (headerSize w + auxiliary) (count * sectionSize w)) XcoffError.sectionTable
  let symbols := field 8 (pick w 4 8)
  if symbols ≠ 0 then
    let size := field (pick w 12 20) 4 * symbolSize
    demand (Bytes.holds file symbols size) XcoffError.symbols
    demand (Bytes.holds file (symbols + size) 4) XcoffError.strings

end FlowGuard.Xcoff

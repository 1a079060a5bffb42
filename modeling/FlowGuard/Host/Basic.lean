import FlowGuard.Host.Annotations
import FlowGuard.Host.Module
import FlowGuard.Memory.Basic
import FlowGuard.Settings.Store

/-!
A debugged target as a value: its memory, modules, symbols and settings, the selection of the
disassembly view, and the annotations made so far.
-/

namespace FlowGuard

open Std (ExtTreeMap ExtTreeSet)

structure Host where
  memory : Memory := {}
  /-- In the order of loading; of overlapping modules the first counts. -/
  modules : List LoadedModule := []
  /-- The address selected in the disassembly view. -/
  selection : Option Address := none
  /-- Symbol names as the image spells them. -/
  symbols : ExtTreeMap Address String := ∅
  settings : Settings := {}
  /-- Addresses at which data marks are refused. -/
  rejectedMarks : ExtTreeSet Address := ∅
  annotations : Annotations := {}
  refreshCount : Nat := 0
  detached : Bool := false

namespace Host

def addModule (h : Host) (m : LoadedModule) : Host :=
  { h with modules := h.modules ++ [m] }

def select (h : Host) (a : Address) : Host :=
  { h with selection := some a }

def deselect (h : Host) : Host :=
  { h with selection := none }

def addSymbol (h : Host) (a : Address) (name : String) : Host :=
  { h with symbols := h.symbols.insert a name }

def symbolAt? (h : Host) (a : Address) : Option String :=
  h.symbols[a]?

/-- Makes data marks at exactly this address fail. -/
def rejectMark (h : Host) (a : Address) : Host :=
  { h with rejectedMarks := h.rejectedMarks.insert a }

def setDebugging (h : Host) (on : Bool) : Host :=
  { h with detached := !on }

def isDebugging (h : Host) : Bool :=
  !h.detached

def moduleAt? (h : Host) (a : Address) : Option LoadedModule :=
  h.modules.find? (·.contains a)

def selectedModule? (h : Host) : Option LoadedModule :=
  h.selection >>= h.moduleAt?

def clearAnnotations (h : Host) : Host :=
  { h with annotations := {} }

def refresh (h : Host) : Host :=
  { h with refreshCount := h.refreshCount + 1 }

def addXref (h : Host) (source target : Address) : Host :=
  { h with annotations := h.annotations.addXref source target }

def setComment (h : Host) (a : Address) (text : String) : Host :=
  { h with annotations := h.annotations.setComment a text }

def refusal? (h : Host) (a : Address) : Option Refusal :=
  if h.rejectedMarks.contains a then some (.rejected a)
  else if (h.moduleAt? a).isNone then some (.outsideModules a)
  else none

/-- Shows `size` bytes at an address as one value, unless that is refused. -/
def markData (h : Host) (a : Address) (size : Nat) : Except Refusal Host :=
  match h.refusal? a with
  | some r => .error r
  | none => .ok { h with annotations := h.annotations.setMark a size }

def setSetting (h : Host) (name key : String) (value : UInt64) : Host :=
  { h with settings := h.settings.set name key value }

end Host

end FlowGuard

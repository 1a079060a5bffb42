import FlowGuard.Host.Annotations
import FlowGuard.Image.Error
import FlowGuard.Image.Machine
import FlowGuard.Memory.Page

/-!
The trail of a computation: the notes it logs and the requests it makes to the host, in order.
-/

namespace FlowGuard

inductive Level where
  | debug
  | info
  | warn
  | error
  deriving DecidableEq, Repr

namespace Level

/-- The least severe level has the lowest rank. -/
def rank : Level → Nat
  | debug => 0
  | info => 1
  | warn => 2
  | error => 3

def name : Level → String
  | debug => "DEBUG"
  | info => "INFO"
  | warn => "WARN"
  | error => "ERROR"

end Level

inductive Note where
  | headersFound (address : Address)
  | loadConfigFound (address : Address) (size : UInt32)
  | guardBlock (table : Address) (count : UInt64) (flags : UInt32)
  | tableWalked (count : UInt64) (entries : Nat)
  | markRefused (address : Address) (cause : Refusal)
  | pageSizeReplaced (given used : UInt64)
  | rightsFailed (page : Address) (cause : MemoryError)
  | regionCaptured (start : Address) (size : UInt64)
  | regionLost (start : Address) (size : UInt64) (cause : MemoryError)
  | hashMissed (entry : Address)
  | indexBuilt (groups : Nat)
  | correlated (regions groups sites : Nat)
  | correlationSkipped (width : Width)
  | summary (text : String)
  | runClosed (base : Address) (width : Width)
  | failed (message : String)
  | xrefsToggled (on : Bool)
  | commentsToggled (on : Bool)
  | settingsAbsent (path : String)
  | imageOpened (path : String) (size : Nat)
  | unexpectedMachine (machine : Machine)
  | sectionLost (name : String) (cause : MemoryError)
  | sectionMapped (name : String) (address : Address) (size : Nat) (rights : Rights)
  | exportsUnusable (cause : ExportError)
  | imageLoaded (base : Address) (size : UInt64) (width : Width) (symbols : Nat)
  deriving DecidableEq, Repr

namespace Note

def level : Note → Level
  | headersFound .. | loadConfigFound .. | guardBlock .. | tableWalked .. | regionCaptured ..
  | indexBuilt .. | correlated .. | correlationSkipped .. | settingsAbsent .. | imageOpened ..
  | sectionMapped .. | exportsUnusable .. | imageLoaded .. => .debug
  | summary .. | runClosed .. | xrefsToggled .. | commentsToggled .. => .info
  | markRefused .. | pageSizeReplaced .. | rightsFailed .. | regionLost .. | hashMissed ..
  | unexpectedMachine .. | sectionLost .. => .warn
  | failed .. => .error

/-- A named value behind the text of a note. -/
def field (name value : String) : String :=
  " " ++ name ++ "=" ++ value

def truth (b : Bool) : String :=
  if b then "true" else "false"

def text : Note → String
  | headersFound a => "found NT headers" ++ field "nt_headers" (hex a)
  | loadConfigFound a n =>
    "load config directory" ++ field "load_config" (hex a) ++ field "size" (toString n.toNat)
  | guardBlock t n f =>
    "guard CF fields" ++ field "table" (hex t) ++ field "count" (toString n.toNat)
      ++ field "flags" (hexNat f.toNat)
  | tableWalked n k =>
    "walked guard function table" ++ field "count" (toString n.toNat) ++ field "xfg" (toString k)
  | markRefused a e => "Warning: Failed to mark " ++ hex a ++ " XFG entry: " ++ e.message
  | pageSizeReplaced n d => "invalid page size " ++ hex n ++ ", using " ++ hex d
  | rightsFailed p e =>
    "Warning: Failed to get page access rights for " ++ hex p ++ ": " ++ e.message
  | regionCaptured a n =>
    "captured executable region" ++ field "start" (hex a) ++ field "size" (toString n.toNat)
  | regionLost a n e =>
    "Warning: Failed to read " ++ hex n ++ " bytes at " ++ hex a ++ ": " ++ e.message
  | hashMissed a => "Warning: Failed to find memory region for XFG entry " ++ hex a
  | indexBuilt n => "built XFG hash index" ++ field "groups" (toString n)
  | correlated r g s =>
    "correlation finished" ++ field "regions" (toString r) ++ field "groups" (toString g)
      ++ field "sites" (toString s)
  | correlationSkipped w =>
    "no hash load signature for " ++ w.name ++ " targets, skipping correlation"
  | summary t => t
  | runClosed a w => "xfg_mark\x7b" ++ "base=" ++ hex a ++ field "width" w.name ++ "\x7d: close"
  | failed t => t
  | xrefsToggled b => "toggled xrefs" ++ field "enabled" (truth b)
  | commentsToggled b => "toggled comments" ++ field "enabled" (truth b)
  | settingsAbsent p => "settings file absent, using defaults" ++ field "path" p
  | imageOpened p n => "opening image" ++ field "path" p ++ field "size" (toString n)
  | unexpectedMachine m => "unexpected architecture, using header width" ++ field "arch" m.name
  | sectionLost n e => "failed to map section data: " ++ e.message ++ field "section" n
  | sectionMapped n a k r =>
    "mapped section" ++ field "section" n ++ field "address" (hex a) ++ field "size" (toString k)
      ++ field "rights" r.text
  | exportsUnusable e => "no usable export table: " ++ e.message
  | imageLoaded b n w k =>
    "image loaded" ++ field "base" (hex b) ++ field "size" (toString n.toNat)
      ++ field "width" w.name ++ field "symbols" (toString k)

def line (n : Note) : String :=
  n.level.name ++ " " ++ n.text

/-- The log itself reports that a run is over. All other notes are events of the run. -/
def isEvent : Note → Bool
  | runClosed .. => false
  | _ => true

end Note

inductive Request where
  | mark (address : Address) (size : Nat)
  | xref (source target : Address)
  | comment (address : Address) (text : String)
  | refresh
  deriving DecidableEq, Repr

inductive Event where
  | note (n : Note)
  | request (r : Request)
  deriving DecidableEq, Repr

namespace Event

def note? : Event → Option Note
  | note n => some n
  | request _ => none

def request? : Event → Option Request
  | note _ => none
  | request r => some r

end Event

/-- A value together with the trail of its computation. -/
structure Traced (α : Type) where
  value : α
  trail : List Event := []

namespace Traced

variable {α β : Type}

instance : Monad Traced where
  pure a := { value := a }
  bind x f :=
    let y := f x.value
    { value := y.value, trail := x.trail ++ y.trail }

def note (n : Note) : Traced Unit :=
  { value := (), trail := [.note n] }

def request (r : Request) : Traced Unit :=
  { value := (), trail := [.request r] }

def notes (x : Traced α) : List Note :=
  x.trail.filterMap Event.note?

def requests (x : Traced α) : List Request :=
  x.trail.filterMap Event.request?

/-- The notes without what the log adds to them. -/
def events (x : Traced α) : List Note :=
  x.notes.filter Note.isEvent

/-- The lines of the events at a level or a more severe one. -/
def lines (x : Traced α) (least : Level) : List String :=
  (x.events.filter fun n => decide (least.rank ≤ n.level.rank)).map Note.line

@[simp] theorem value_pure (a : α) : (pure a : Traced α).value = a := rfl

@[simp] theorem trail_pure (a : α) : (pure a : Traced α).trail = [] := rfl

@[simp] theorem value_bind (x : Traced α) (f : α → Traced β) : (x >>= f).value = (f x.value).value := rfl

@[simp] theorem trail_bind (x : Traced α) (f : α → Traced β) :
    (x >>= f).trail = x.trail ++ (f x.value).trail := rfl

end Traced

end FlowGuard

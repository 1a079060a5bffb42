import FlowGuard.Plugin.Command

/-!
The menu: the marking command, the two switches and an about box. A switch that is flipped is kept in the
settings of the host.
-/

namespace FlowGuard

inductive MenuEntry where
  | mark
  | toggleXrefs
  | toggleComments
  | about
  deriving DecidableEq, Repr

namespace MenuEntry

def all : List MenuEntry :=
  [mark, toggleXrefs, toggleComments, about]

/-- The name under which an entry is written and read. -/
def name : MenuEntry → String
  | mark => "MarkXfg"
  | toggleXrefs => "ToggleXrefs"
  | toggleComments => "ToggleComments"
  | about => "About"

def label : MenuEntry → String
  | mark => "Mark &XFG"
  | toggleXrefs => "Add xrefs"
  | toggleComments => "Add comments"
  | about => "&About"

def separatorAfter : MenuEntry → Bool
  | mark | toggleComments => true
  | toggleXrefs | about => false

def hotkey? : MenuEntry → Option String
  | mark => some "Ctrl+Shift+X"
  | _ => none

/-- The state of a switch; actions have none. -/
def checked? (c : Config) : MenuEntry → Option Bool
  | toggleXrefs => some c.xrefs
  | toggleComments => some c.comments
  | _ => none

end MenuEntry

namespace Plugin

inductive MenuOutcome where
  | marked (result : RunResult)
  /-- There is no target to mark. -/
  | skipped
  | toggled (entry : MenuEntry) (on : Bool)
  | about (text : String)
  deriving DecidableEq, Repr

def aboutText : String :=
  name ++ " v" ++ version
    ++ "\n\nRecovers XFG type hashes from the module in the CPU view, marks them as data, and links "
    ++ "hash-checking call sites with their possible targets."

structure Clicked where
  outcome : Except RunError MenuOutcome
  host : Host
  config : Config

def click (k : Marker) (h : Host) (config : Config) : MenuEntry → Traced Clicked
  | .mark =>
    if h.isDebugging then do
      let (outcome, h) ← command k h config []
      return { outcome := outcome.map .marked, host := h, config }
    else pure { outcome := .ok .skipped, host := h, config }
  | .toggleXrefs => do
    let config := config.flipXrefs
    Traced.note (.xrefsToggled config.xrefs)
    return {
      outcome := .ok (.toggled .toggleXrefs config.xrefs)
      host := { h with settings := config.saveXrefs h.settings }
      config }
  | .toggleComments => do
    let config := config.flipComments
    Traced.note (.commentsToggled config.comments)
    return {
      outcome := .ok (.toggled .toggleComments config.comments)
      host := { h with settings := config.saveComments h.settings }
      config }
  | .about => pure { outcome := .ok (.about aboutText), host := h, config }

end Plugin

end FlowGuard

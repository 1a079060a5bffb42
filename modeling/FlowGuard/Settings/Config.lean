import FlowGuard.Settings.Store

/-!
The two switches of a marking run and where they are kept in the settings. A switch that is not kept is
on.
-/

namespace FlowGuard

/-- What a run writes beside the data marks. -/
structure Config where
  /-- Cross-references between usage sites and targets. -/
  xrefs : Bool := true
  /-- Comments at usage sites that list the targets. -/
  comments : Bool := true
  deriving DecidableEq, Repr

namespace Config

def sectionName : String := "XFG Marker"
def xrefsKey : String := "AddXrefs"
def commentsKey : String := "AddComments"

/-- The value of a switch: any number but zero turns it on. -/
def flag (s : Settings) (key : String) : Bool :=
  match s.get? sectionName key with
  | some v => v != 0
  | none => true

def load (s : Settings) : Config :=
  { xrefs := flag s xrefsKey, comments := flag s commentsKey }

def wantsCorrelation (c : Config) : Bool :=
  c.xrefs || c.comments

/-- The number under which a switch is kept. -/
def flagValue (on : Bool) : UInt64 :=
  if on then 1 else 0

def flipXrefs (c : Config) : Config :=
  { c with xrefs := !c.xrefs }

def flipComments (c : Config) : Config :=
  { c with comments := !c.comments }

def saveXrefs (c : Config) (s : Settings) : Settings :=
  s.set sectionName xrefsKey (flagValue c.xrefs)

def saveComments (c : Config) (s : Settings) : Settings :=
  s.set sectionName commentsKey (flagValue c.comments)

end Config

end FlowGuard

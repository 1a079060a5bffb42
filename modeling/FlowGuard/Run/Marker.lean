import FlowGuard.Code.Snapshot
import FlowGuard.Guard.Table
import FlowGuard.Run.Correlation
import FlowGuard.Run.Result

/-!
A marking run: find the guard block of a module, decode its table and mark the hashes, and, if asked to,
correlate the hashes with the code that loads them. A run that stops has changed nothing.
-/

namespace FlowGuard

structure ScanOptions where
  pageSize : UInt64 := Snapshot.defaultStep
  valid : Snapshot.validStep pageSize = true := by decide

namespace ScanOptions

/-- Options with a given step, which has to be a power of two. -/
def withPageSize (size : UInt64) : Except RunError ScanOptions :=
  if h : Snapshot.validStep size = true then .ok ⟨size, h⟩ else .error (.invalidPageSize size)

end ScanOptions

structure Marker where
  width : Width
  options : ScanOptions := {}

namespace Marker

def correlate (k : Marker) (h : Host) (target : LoadedModule) (config : Config) (entries : List Entry)
    (r : RunResult) : Traced (RunResult × Host) :=
  match k.width.signature? with
  | none => do
    Traced.note (.correlationSkipped k.width)
    return (r, h)
  | some signature => do
    let snapshot ← Snapshot.take h.memory target k.options.pageSize
    let (index, missed) ← HashIndex.build snapshot.captured entries
    let c ← Correlation.run h snapshot.captured index signature config k.width
    Traced.note (.correlated snapshot.captured.size index.size c.result.sites)
    return ({ r with
      xrefs := c.result.xrefs
      comments := c.result.comments
      warnings := r.warnings + snapshot.warnings + missed }, c.host)

/-- What follows the marks: correlation, a redraw and the summary. Without entries there is nothing to
draw. -/
def finish (k : Marker) (h : Host) (target : LoadedModule) (config : Config) (t : DecodedTable) :
    Traced (RunResult × Host) := do
  let r : RunResult := { found := t.entries.length, marked := t.marked, warnings := t.warnings }
  if t.entries = [] then
    Traced.note (.summary r.summary)
    return (r, h)
  let (r, h) ← if config.wantsCorrelation then k.correlate h target config t.entries r else pure (r, h)
  Traced.request .refresh
  Traced.note (.summary r.summary)
  return (r, h.refresh)

def markModule (k : Marker) (h : Host) (target : LoadedModule) (config : Config) :
    Traced (Except RunError RunResult × Host) := do
  match ← (Header.locate h.memory target.base k.width).run with
  | .error e => return (.error (.noGuardTable e), h)
  | .ok block =>
    match ← Table.decode h target.base block with
    | (.error e, h) => return (.error e, h)
    | (.ok t, h) =>
      let (r, h) ← k.finish h target config t
      return (.ok r, h)

/-- Marks a given module. The log closes the run when its work is done or has stopped. -/
def runModule (k : Marker) (h : Host) (target : LoadedModule) (config : Config) :
    Traced (Except RunError RunResult × Host) := do
  let done ← k.markModule h target config
  Traced.note (.runClosed target.base k.width)
  return done

def run (k : Marker) (h : Host) (config : Config) : Traced (Except RunError RunResult × Host) :=
  match h.selectedModule? with
  | none => pure (.error .noModule, h)
  | some target => k.runModule h target config

end Marker

end FlowGuard

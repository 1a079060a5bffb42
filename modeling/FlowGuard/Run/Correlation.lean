import FlowGuard.Code.HashLoad
import FlowGuard.Run.HashIndex
import FlowGuard.Run.Naming
import FlowGuard.Settings.Config

/-!
Correlation: every hash load whose hash is in the index is a usage site. A site is linked with the
functions of its group in both directions and gets a comment that lists them. The comment of a group is
made at its first site and kept.
-/

namespace FlowGuard

structure CorrelationResult where
  /-- One for each pair of a site and a function. -/
  xrefs : Nat := 0
  comments : Nat := 0
  sites : Nat := 0
  deriving DecidableEq, Repr

namespace Correlation

structure State where
  host : Host
  index : HashIndex
  result : CorrelationResult := {}

/-- A place that loads an indexed hash. -/
structure Site where
  address : Address
  hash : UInt64
  deriving DecidableEq, Repr

/-- Links a site with functions, each in both directions. -/
def linkAll (h : Host) (site : Address) : List Entry → Traced Host
  | [] => pure h
  | e :: rest => do
    Traced.request (.xref site e.function)
    Traced.request (.xref e.function site)
    linkAll ((h.addXref site e.function).addXref e.function site) site rest

def link (config : Config) (s : State) (site : Site) (group : HashGroup) : Traced State :=
  if config.xrefs then do
    let host ← linkAll s.host site.address group.entries
    return { s with
      host
      result := { s.result with xrefs := s.result.xrefs + group.entries.length } }
  else pure s

/-- Writes the comment of a site, making it if its group has none yet. -/
def comment (config : Config) (w : Width) (s : State) (site : Site) (group : HashGroup) :
    Traced State :=
  if config.comments then do
    let text := group.comment.getD (Naming.group s.host w group.entries)
    Traced.request (.comment site.address text)
    return { s with
      host := s.host.setComment site.address text
      index := s.index.setComment site.hash group text
      result := { s.result with comments := s.result.comments + 1 } }
  else pure s

def annotate (config : Config) (w : Width) (s : State) (site : Site) (group : HashGroup) : Traced State := do
  let s := { s with result := { s.result with sites := s.result.sites + 1 } }
  let s ← link config s site group
  comment config w s site group

/-- Goes on through the code at `start`, hit by hit, and annotates those whose hash is in the index. Such a hash is not
searched for further signatures. -/
def scanCode (signature : List UInt8) (config : Config) (w : Width) (start : Address) (code : List UInt8)
    (scan : HashLoad.Scan) (s : State) : Traced State :=
  match hnext : scan.next signature code with
  | (none, _) => pure s
  | (some hit, called) =>
    have := HashLoad.Scan.position_of_next hnext
    match s.index.get? hit.hash with
    | none => scanCode signature config w start code called s
    | some group => do
      let s ← annotate config w s { address := start + UInt64.ofNat hit.offset, hash := hit.hash } group
      scanCode signature config w start code called.skipHash s
termination_by code.length - scan.position
decreasing_by
  · omega
  · have hskip := called.position_le_skipHash
    omega

def scanAll (signature : List UInt8) (config : Config) (w : Width) (s : State) : List Region → Traced State
  | [] => pure s
  | r :: rest => do
    let s ← scanCode signature config w r.start r.bytes.toList {} s
    scanAll signature config w s rest

def run (h : Host) (c : Captured) (x : HashIndex) (signature : List UInt8) (config : Config)
    (w : Width) : Traced State :=
  scanAll signature config w { host := h, index := x } c.regions

end Correlation

end FlowGuard

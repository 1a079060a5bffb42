import FlowGuard.Code.Captured
import FlowGuard.Code.Dialogue
import FlowGuard.Host.Module

/-!
A snapshot of a module's executable code. The module is walked in steps of a page. One loop goes over the pages of a
run as long as they are executable, another one goes from run to run, and both move the same cursor, which stops at
the last address. Each run is copied as one region. A page whose rights cannot be queried ends a run, as does one that
is not executable, and a run that cannot be read is left out.
-/

namespace FlowGuard

/-- Regions captured from a module and the number of failures on the way. -/
structure Snapshot where
  captured : Captured := {}
  warnings : Nat := 0
  deriving DecidableEq

namespace Snapshot

def defaultStep : UInt64 := 0x1000

/-- Steps have to be powers of two. -/
def validStep (size : UInt64) : Bool :=
  (List.range 64).any fun k => size.toNat == 1 <<< k

theorem validStep_defaultStep : validStep defaultStep = true := by decide

end Snapshot

structure Step where
  size : UInt64
  valid : Snapshot.validStep size = true

namespace Step

theorem pos (step : Step) : 0 < step.size.toNat := by
  obtain ⟨k, -, hk⟩ := List.any_eq_true.mp step.valid
  rw [beq_iff_eq.mp hk, Nat.shiftLeft_eq, Nat.one_mul]
  exact Nat.two_pow_pos k

end Step

namespace Address

theorem le_addSat (a b : UInt64) : a ≤ addSat a b := by
  have hlt := a.toNat_lt_size
  have hspace : spaceSize = UInt64.size := rfl
  rw [UInt64.le_iff_toNat_le, toNat_addSat]
  omega

/-- A cursor in front of the end of a walk comes closer to it. -/
theorem sub_addSat_lt {start page stop : Address} (step : Step) (hle : start ≤ page) (hlt : start < stop) :
    stop.toNat - (addSat page step.size).toNat < stop.toNat - start.toNat := by
  have hpos := step.pos
  have hstop := stop.toNat_lt_size
  have hspace : spaceSize = UInt64.size := rfl
  rw [UInt64.lt_iff_toNat_lt] at hlt
  rw [UInt64.le_iff_toNat_le] at hle
  rw [toNat_addSat]
  omega

end Address

namespace Survey

/-- The end of a run that begins at `start`: the page behind it, its size, and the snapshot taken so far. -/
structure RunEnd (start : Address) where
  page : Address
  size : UInt64
  snapshot : Snapshot
  start_le : start ≤ page

/-- Goes over executable pages. Those from `start` up to `page` form a run of `size` bytes. -/
def walkRun (step : Step) (stop start : Address) (s : Snapshot) (size : UInt64) (page : Address)
    (hle : start ≤ page) : Dialogue (RunEnd start) :=
  if page < stop then
    .rights page fun
      | .ok text =>
        if text.toList.head? = some 'E' then
          walkRun step stop start s (size + step.size) (Address.addSat page step.size)
            (UInt64.le_trans hle (Address.le_addSat page step.size))
        else .done ⟨page, size, s, hle⟩
      | .error e => .note (.rightsFailed page e) (.done ⟨page, size, { s with warnings := s.warnings + 1 }, hle⟩)
  else .done ⟨page, size, s, hle⟩
termination_by stop.toNat - page.toNat
decreasing_by exact Address.sub_addSat_lt step (UInt64.le_refl page) ‹_›

/-- Asks for the bytes of a run; an empty run is no run. -/
def capture (s : Snapshot) (start : Address) (size : UInt64) : Dialogue Snapshot :=
  if size = 0 then .done s
  else
    .read start size.toNat fun
      | .ok bytes =>
        .note (.regionCaptured start size)
          (.done { s with captured := s.captured.insert start bytes.toArray })
      | .error e => .note (.regionLost start size e) (.done { s with warnings := s.warnings + 1 })

/-- Goes from run to run, stepping over the page that ended each one. -/
def walk (step : Step) (stop : Address) (s : Snapshot) (page : Address) : Dialogue Snapshot :=
  if page < stop then do
    let run ← walkRun step stop page s 0 page (UInt64.le_refl page)
    let s ← capture run.snapshot page run.size
    walk step stop s (Address.addSat run.page step.size)
  else .done s
termination_by stop.toNat - page.toNat
decreasing_by exact Address.sub_addSat_lt step run.start_le ‹_›

/-- Captures the executable code of a module; a step that is not a power of two is replaced by the default. -/
def take (target : LoadedModule) (size : UInt64) : Dialogue Snapshot :=
  if h : Snapshot.validStep size = true then walk ⟨size, h⟩ target.endAddress {} target.base
  else
    .note (.pageSizeReplaced size Snapshot.defaultStep)
      (walk ⟨Snapshot.defaultStep, Snapshot.validStep_defaultStep⟩ target.endAddress {} target.base)

end Survey

namespace Snapshot

def take (m : Memory) (target : LoadedModule) (step : UInt64) : Traced Snapshot :=
  (Survey.take target step).run (.ofMemory m)

/-- The same with buffers for the regions; without a value if a run is too long for a buffer. -/
def takeBuffered (m : Memory) (target : LoadedModule) (step : UInt64) : Traced (Option Snapshot) :=
  (Survey.take target step).runBuffered (.ofMemory m)

end Snapshot

end FlowGuard

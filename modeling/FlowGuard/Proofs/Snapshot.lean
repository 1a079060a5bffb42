import FlowGuard.Proofs.Memory.Bytes
import FlowGuard.Proofs.Survey

/-!
The snapshot of a module in a memory, which is its survey with the answers of that memory. The walk visits the
steps `base + k * step` below the end of the module; its regions are exactly the maximal runs of executable
steps whose bytes can be read at once, and its warnings are the steps whose rights cannot be queried and the
runs that cannot be read.
-/

namespace FlowGuard

namespace Snapshot

/-- The step lies in the module, and the text of its rights can be had and begins with the letter of
executable pages. -/
def IsExecutable (m : Memory) (target : LoadedModule) (step : UInt64) (k : Nat) : Prop :=
  IsStep target step k ∧
    ∃ rights, m.rightsAt (stepAddress target step k) = .ok rights ∧
      rights.text.toList.head? = some 'E'

/-- A maximal run of executable steps from `start` on whose bytes can be read at once. A run over the whole address
space has no 64-bit size and is never read. -/
def IsCaptured (m : Memory) (target : LoadedModule) (step : UInt64) (start : Address)
    (bytes : List UInt8) : Prop :=
  ∃ first count, MaximalRun (IsExecutable m target step) first count ∧ count * step.toNat < spaceSize ∧
    start = stepAddress target step first ∧ m.read start (count * step.toNat) = .ok bytes

end Snapshot

namespace Answers

open Snapshot

variable (m : Memory) (target : LoadedModule) (step : UInt64)

theorem isExecutable_ofMemory : (ofMemory m).IsExecutable target step = Snapshot.IsExecutable m target step := by
  funext k
  unfold IsExecutable Snapshot.IsExecutable
  cases hr : m.rightsAt (stepAddress target step k) <;> simp [ofMemory, hr]

theorem executes_ofMemory (k : Nat) :
    (ofMemory m).executes target step k = (decide (k < stepCount target.base target.endAddress step) &&
      ((m.rightsAt (stepAddress target step k)).toOption.map Rights.execute).getD false) := by
  unfold executes
  cases hr : m.rightsAt (stepAddress target step k) with
  | error e => simp [ofMemory, hr, Except.toOption]
  | ok rights =>
    have hleads : (rights.text.toList.head? == some 'E') = rights.execute := by
      rw [Bool.eq_iff_iff, beq_iff_eq]
      exact leads_iff_execute rights
    simp [ofMemory, hr, Except.toOption, hleads]

theorem refused_ofMemory (k : Nat) :
    (ofMemory m).refused target step k = (m.rightsAt (stepAddress target step k)).toOption.isNone := by
  unfold refused
  cases hr : m.rightsAt (stepAddress target step k) <;>
    simp [ofMemory, hr, Except.isOk, Except.toBool, Except.toOption]

theorem readRun_ofMemory (run : Nat × Nat) :
    (ofMemory m).readRun target step run = m.read (stepAddress target step run.1) (run.2 * step.toNat) :=
  rfl

end Answers

namespace Snapshot

open Answers (ofMemory)

section

variable (m : Memory) (target : LoadedModule) (step : UInt64) (hstep : validStep step = true)
include hstep

theorem mem_runs_iff (run : Nat × Nat) :
    run ∈ (ofMemory m).runs target step ↔
      MaximalRun (IsExecutable m target step) run.1 run.2 ∧ run.2 * step.toNat < spaceSize := by
  rw [← Answers.isExecutable_ofMemory]
  exact (ofMemory m).mem_runs target step (pos_of_validStep hstep) run

/-- The regions of a snapshot are those of its runs, in order. -/
theorem regions_take :
    (take m target step).value.captured.regions =
      ((ofMemory m).runs target step).filterMap ((ofMemory m).region? target step) :=
  Survey.regions_take (ofMemory m) target step hstep

theorem warnings_take :
    (take m target step).value.warnings =
      (List.range (stepCount target.base target.endAddress step)).countP ((ofMemory m).refused target step)
        + ((ofMemory m).runs target step).countP ((ofMemory m).lost target step) := by
  rw [take, Survey.value_take (ofMemory m) target step hstep, Answers.extend, Nat.zero_add]

/-- The regions of a snapshot are exactly the captured runs. -/
theorem mem_regions_take (r : Region) :
    r ∈ (take m target step).value.captured.regions ↔ IsCaptured m target step r.start r.bytes.toList := by
  rw [regions_take m target step hstep, List.mem_filterMap]
  simp only [Answers.region?_eq_some_iff, mem_runs_iff m target step hstep]
  constructor
  · rintro ⟨run, ⟨hrun, hsize⟩, hs, hr⟩
    exact ⟨run.1, run.2, hrun, hsize, hs, by rw [hs]; exact hr⟩
  · rintro ⟨first, count, hrun, hsize, hs, hr⟩
    rw [hs] at hr
    exact ⟨(first, count), ⟨hrun, hsize⟩, hs, hr⟩

end

/-- A captured run is a region of the snapshot. -/
theorem IsCaptured.mem_regions {m : Memory} {target : LoadedModule} {step : UInt64} {start : Address}
    {bytes : List UInt8} (hstep : validStep step = true) (h : IsCaptured m target step start bytes) :
    ⟨start, bytes.toArray⟩ ∈ (take m target step).value.captured.regions :=
  (mem_regions_take m target step hstep ⟨start, bytes.toArray⟩).mpr h

/-- Between two captured runs lies at least one byte that belongs to neither. -/
theorem IsCaptured.separated {m : Memory} {target : LoadedModule} {step : UInt64} {start start' : Address}
    {bytes bytes' : List UInt8} (hstep : 0 < step.toNat) (h : IsCaptured m target step start bytes)
    (h' : IsCaptured m target step start' bytes') (hlt : start.toNat < start'.toNat) :
    start.toNat + bytes.length < start'.toNat := by
  obtain ⟨first, count, hrun, -, rfl, hr⟩ := h
  obtain ⟨first', count', hrun', -, rfl, -⟩ := h'
  rw [((m.read_eq_ok_iff _ _ _).mp hr).1]
  exact maximalRun_apart target step hstep (fun _ hk => hk.1) hrun hrun' hlt

/-- A captured run ends inside the address space. -/
theorem IsCaptured.inSpace {m : Memory} {target : LoadedModule} {step : UInt64} {start : Address}
    {bytes : List UInt8} (h : IsCaptured m target step start bytes) :
    start.toNat + bytes.length ≤ spaceSize := by
  obtain ⟨first, count, -, -, -, hr⟩ := h
  obtain ⟨hlen, hspace, -⟩ := (m.read_eq_ok_iff _ _ _).mp hr
  have hlt := start.toNat_lt
  unfold spaceSize at hspace ⊢
  omega

/-- The regions of a snapshot are separated, so that look-ups in it find what it holds. -/
theorem separated_take (m : Memory) (target : LoadedModule) (step : UInt64) (hstep : validStep step = true) :
    (take m target step).value.captured.Separated := by
  intro r hr r' hr' hlt
  rw [mem_regions_take m target step hstep] at hr hr'
  have h := hr.separated (pos_of_validStep hstep) hr' hlt
  rw [Array.length_toList] at h
  omega

end Snapshot

end FlowGuard

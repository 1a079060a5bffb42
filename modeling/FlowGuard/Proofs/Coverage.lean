import FlowGuard.Proofs.Memory.Update
import FlowGuard.Proofs.Snapshot

/-!
What a survey covers. The walk asks each step of the module for its rights once and reads each maximal run of
executable steps once and at once, with any host. A walk whose reads need buffers comes to its end, with the same
snapshot, exactly when no run is longer than a buffer can be.
-/

namespace FlowGuard

namespace Survey

open Snapshot

section

variable (h : Answers) (target : LoadedModule) (step : UInt64)

/-- What a survey in steps of one size asked, and what it took, are those of the steps of the module. -/
structure Exact (asked : List Address) (reads : List (Address × Nat)) (taken : Snapshot)
    (runs : List (Nat × Nat)) : Prop where
  /-- No page is asked for twice. -/
  asked_ascending : asked.Pairwise (· < ·)
  mem_asked : ∀ a, a ∈ asked ↔
    ∃ k, a.toNat = target.base.toNat + k * step.toNat ∧ a < target.endAddress
  /-- Each maximal run of executable steps is listed once, and it is read once. -/
  runs_nodup : runs.Nodup
  mem_runs : ∀ first count, (first, count) ∈ runs ↔ MaximalRun (h.IsExecutable target step) first count
  reads_eq : reads = runs.map (range target step)
  /-- The runs that can be read are the regions, one by one, and no two start at one address. -/
  regions_eq : taken.captured.regions = runs.filterMap (h.region? target step)
  regions_ascending : taken.captured.regions.Pairwise Region.Before
  warnings_eq : taken.warnings =
    asked.countP (fun a => !(h.rights a).isOk) + runs.countP fun run => !(h.readRun target step run).isOk

variable {h target step}

/-- Runs of steps are no longer than the module, rounded up to whole steps. -/
theorem size_le_of_maximalRun (hpos : 0 < step.toNat) {first count : Nat}
    (hrun : MaximalRun (h.IsExecutable target step) first count) :
    count * step.toNat ≤ (target.size.toNat + (step.toNat - 1)) / step.toNat * step.toNat := by
  have hnonempty := hrun.nonempty
  have hlast := (hrun.holds (first + count - 1) (by omega) (by omega)).1
  rw [isStep_iff target step hpos] at hlast
  have hend : target.endAddress.toNat - target.base.toNat ≤ target.size.toNat := by
    rw [LoadedModule.endAddress, Address.toNat_addSat]
    omega
  have hcount : stepCount target.base target.endAddress step ≤
      (target.size.toNat + (step.toNat - 1)) / step.toNat :=
    Nat.div_le_div_right (Nat.add_le_add_right hend _)
  exact Nat.mul_le_mul_right _ (by omega)

theorem exact_take (hstep : validStep step = true)
    (hbound : (target.size.toNat + (step.toNat - 1)) / step.toNat * step.toNat < spaceSize) :
    Exact h target step ((take target step).asked h) ((take target step).reads h) ((take target step).run h).value
      (h.runs target step) where
  asked_ascending := pairwise_asked_take h target step hstep
  mem_asked := mem_asked_take h target step hstep
  runs_nodup := (nodup_runsFrom _ 0 0 _ (Nat.le_refl 0)).filter _
  mem_runs first count := by
    rw [h.mem_runs target step (pos_of_validStep hstep)]
    exact and_iff_left_of_imp fun hrun =>
      Nat.lt_of_le_of_lt (size_le_of_maximalRun (pos_of_validStep hstep) hrun) hbound
  reads_eq := (yields_take h target step hstep).reads_eq
  regions_eq := regions_take h target step hstep
  regions_ascending := Captured.pairwise_regions _
  warnings_eq := by
    rw [value_take h target step hstep, asked_take h target step hstep, List.countP_map]
    exact congrArg (· + _) (Nat.zero_add _)

/-- Only a run of half the address space is longer than every buffer. -/
theorem any_range_iff (runs : List (Nat × Nat)) :
    ((runs.map (range target step)).any fun read => decide (Dialogue.bufferLimit < read.2)) = true ↔
      ∃ run ∈ runs, 2 ^ 63 ≤ run.2 * step.toNat := by
  have hlimit : Dialogue.bufferLimit + 1 = 2 ^ 63 := by decide
  rw [List.any_map, List.any_eq_true]
  refine exists_congr fun run => and_congr_right fun _ => ?_
  rw [Function.comp_apply, decide_eq_true_iff, range, ← hlimit, Nat.succ_le_iff]

end

end Survey

end FlowGuard
